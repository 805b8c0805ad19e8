import SwiftAudit.Proofs.Lists
import SwiftAudit.Proofs.Position.Encoding
import SwiftAudit.Proofs.Position.LineTable
import SwiftAudit.Source.Basic

namespace SwiftAudit

namespace Text.Utf8

-- The bytes of a text have a line feed only where the text has one.
theorem lineFeed_notMem_encode (text : List Char) (h : '\n' ∉ text) : lineFeed ∉ encode text := by
  intro hm
  obtain ⟨c, hc, hbyte⟩ := List.mem_flatMap.mp hm
  have hne : c ≠ '\n' := by
    rintro rfl
    exact h hc
  exact lineFeed_notMem_utf8EncodeChar c hne hbyte

end Text.Utf8

namespace Text

theorem lines_of_notMem {line : List Char} (h : '\n' ∉ line) : lines line = [line] :=
  List.splitOn_eq_singleton h

theorem lines_append {line : List Char} (h : '\n' ∉ line) (rest : List Char) :
    lines (line ++ '\n' :: rest) = line :: lines rest :=
  List.splitOn_append_cons_self_of_not_mem h rest

-- A property of all texts that the last line has, and that goes from the lines below a line to
-- the lines with it.
@[elab_as_elim]
theorem lineInduction {motive : List Char → Prop} (last : ∀ line, '\n' ∉ line → motive line)
    (more : ∀ line rest, '\n' ∉ line → motive rest → motive (line ++ '\n' :: rest))
    (text : List Char) : motive text :=
  markInduction '\n' last more text

theorem Utf8.encode_line_append (line rest : List Char) :
    encode (line ++ '\n' :: rest) = encode line ++ lineFeed :: encode rest := by
  rw [encode_append, encode_cons, encode_lineFeed, List.singleton_append]

end Text

namespace LineTable

theorem lineStartsAfter_eq_nil (offset : Nat) (bytes : List UInt8) (h : lineFeed ∉ bytes) :
    lineStartsAfter offset bytes = [] := by
  apply List.eq_nil_of_length_eq_zero
  rw [length_lineStartsAfter]
  exact List.count_eq_zero_of_not_mem h

-- A position in a first line without line feeds, which whole lines may follow.
theorem position_firstLine (line after : List UInt8) (hline : lineFeed ∉ line)
    (hafter : after = [] ∨ after.head? = some lineFeed) (offset : Nat)
    (hoffset : offset ≤ line.length ∨ after = []) :
    (ofBytes (line ++ after)).position ↑offset = ⟨1, min offset line.length + 1⟩ := by
  have hpassed : (lineStartsAfter 0 (line ++ after)).takeWhile
      (· ≤ (ofBytes (line ++ after)).clamp ↑offset) = [] := by
    rw [lineStartsAfter_append, lineStartsAfter_eq_nil 0 line hline, List.nil_append]
    cases after with
    | nil => rfl
    | cons byte rest =>
        have hoffset : offset ≤ line.length := by
          rcases hoffset with h | h
          · exact h
          · cases h
        have hclamp : ¬0 + line.length + 1 ≤ (ofBytes (line ++ byte :: rest)).clamp ↑offset := by
          simp only [clamp, Int.toNat_natCast]
          omega
        have hbyte : byte = lineFeed := by
          rcases hafter with h | h
          · cases h
          · exact Option.some.inj h
        rw [lineStartsAfter, if_pos hbyte, List.takeWhile_cons_of_neg (by simpa using hclamp)]
  have hclamp : (ofBytes (line ++ after)).clamp ↑offset = min offset line.length := by
    simp only [clamp, ofBytes, Int.toNat_natCast, List.length_append]
    rcases hoffset with h | rfl
    · omega
    · simp
  simp only [position]
  rw [show (ofBytes (line ++ after)).laterStarts = lineStartsAfter 0 (line ++ after) from rfl,
    hpassed, hclamp]
  rfl

-- An offset in the last line, or behind it.
theorem position_lastLine {line : List Char} (h : '\n' ∉ line) (offset : Nat) :
    (ofBytes (Text.Utf8.encode line)).position ↑offset =
      ⟨1, min offset (Text.Utf8.encode line).length + 1⟩ := by
  have hfree := Text.Utf8.lineFeed_notMem_encode line h
  have hposition := position_firstLine (Text.Utf8.encode line) [] hfree (.inl rfl) offset (.inr rfl)
  rwa [List.append_nil] at hposition

-- An offset in a line that others follow, at its line feed at the latest.
theorem position_onLine {line : List Char} (h : '\n' ∉ line) (rest : List Char) {offset : Nat}
    (hoffset : offset ≤ (Text.Utf8.encode line).length) :
    (ofBytes (Text.Utf8.encode (line ++ '\n' :: rest))).position ↑offset = ⟨1, offset + 1⟩ := by
  have hfree := Text.Utf8.lineFeed_notMem_encode line h
  rw [Text.Utf8.encode_line_append, position_firstLine _ _ hfree (.inr rfl) offset (.inl hoffset),
    Nat.min_eq_left hoffset]

-- An offset behind the line feed of a line is in one of the lines below.
theorem position_belowLine {line : List Char} (h : '\n' ∉ line) (rest : List Char) {offset : Nat}
    (hoffset : (Text.Utf8.encode line).length < offset) :
    (ofBytes (Text.Utf8.encode (line ++ '\n' :: rest))).position ↑offset =
      ((ofBytes (Text.Utf8.encode rest)).position
        ↑(offset - ((Text.Utf8.encode line).length + 1))).down 1 := by
  have hfree := Text.Utf8.lineFeed_notMem_encode line h
  have hwhole : EndsLine (Text.Utf8.encode line ++ [lineFeed]) := .inr (by simp)
  have hlength : (Text.Utf8.encode line ++ [lineFeed]).length =
      (Text.Utf8.encode line).length + 1 := List.length_append
  have hcount : (Text.Utf8.encode line ++ [lineFeed]).count lineFeed = 1 := by
    rw [List.count_append, List.count_eq_zero_of_not_mem hfree]
    rfl
  have hbelow := position_append (Text.Utf8.encode line ++ [lineFeed]) (Text.Utf8.encode rest)
    hwhole (offset - ((Text.Utf8.encode line).length + 1))
  have hsplit : offset - ((Text.Utf8.encode line).length + 1) +
      ((Text.Utf8.encode line).length + 1) = offset := by omega
  rwa [hlength, hsplit, hcount, List.append_assoc, List.singleton_append,
    ← Text.Utf8.encode_line_append] at hbelow

end LineTable

-- Some line of the text has the number of the position, and its bytes reach up to the column,
-- or end just before it.
structure Position.InLines (lines : List (List Char)) (position : Position) : Prop where
  first : 1 ≤ position.line
  line : ∃ line, lines[position.line - 1]? = some line ∧
    1 ≤ position.column ∧ position.column ≤ (Text.Utf8.encode line).length + 1

theorem Position.InLines.cons {lines : List (List Char)} {position : Position}
    (h : position.InLines lines) (line : List Char) :
    (position.down 1).InLines (line :: lines) := by
  obtain ⟨found, hfound, hcolumn⟩ := h.line
  have hindex : (position.down 1).line - 1 = position.line - 1 + 1 := by
    have hfirst := h.first
    simp only [Position.down]
    omega
  refine ⟨?_, found, ?_, hcolumn⟩
  · simp only [Position.down]
    omega
  · rw [hindex, List.getElem?_cons_succ, hfound]

-- Every offset, also one behind the end, lies in a line of the text.
theorem LineTable.position_inLines (text : List Char) (offset : Nat) :
    ((ofBytes (Text.Utf8.encode text)).position ↑offset).InLines (Text.lines text) := by
  induction text using Text.lineInduction generalizing offset with
  | last line hline =>
      rw [Text.lines_of_notMem hline, position_lastLine hline]
      refine ⟨Nat.le_refl 1, line, rfl, ?_, ?_⟩
      · exact Nat.le_add_left 1 _
      · exact Nat.add_le_add_right (Nat.min_le_right _ _) 1
  | more line rest hline ih =>
      rw [Text.lines_append hline]
      by_cases hoffset : offset ≤ (Text.Utf8.encode line).length
      · rw [position_onLine hline rest hoffset]
        refine ⟨Nat.le_refl 1, line, rfl, ?_, ?_⟩
        · exact Nat.le_add_left 1 _
        · exact Nat.add_le_add_right hoffset 1
      · rw [position_belowLine hline rest (Nat.lt_of_not_le hoffset)]
        exact (ih _).cons line

end SwiftAudit
