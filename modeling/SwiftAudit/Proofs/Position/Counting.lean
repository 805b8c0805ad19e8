import Mathlib.Algebra.GroupWithZero.Nat
import SwiftAudit.Proofs.Position.Lines

namespace SwiftAudit

-- A line starts at the first byte, or just after a line feed. The line of an offset is the one
-- that starts last, so that no line feed stands between its start and the offset.
structure IsLineStart (bytes : List UInt8) (offset start : Nat) : Prop where
  le : start ≤ offset
  opens : start = 0 ∨ bytes[start - 1]? = some lineFeed
  unbroken : lineFeed ∉ (bytes.take offset).drop start

namespace IsLineStart

variable {bytes : List UInt8} {offset start : Nat}

theorem lineFeed_mem_drop {i : Nat} (hstart : start ≤ i) (hoffset : i < offset)
    (hbyte : bytes[i]? = some lineFeed) : lineFeed ∈ (bytes.take offset).drop start := by
  apply List.mem_of_getElem? (i := i - start)
  have hi : start + (i - start) = i := by omega
  rw [List.getElem?_drop, hi, List.getElem?_take_of_lt hoffset, hbyte]

-- Of two starts the later one would break the line of the earlier one.
theorem not_lt {other : Nat} (h : IsLineStart bytes offset start)
    (hother : IsLineStart bytes offset other) : ¬start < other := by
  intro hlt
  have hbyte := hother.opens.resolve_left (by omega)
  have hle := hother.le
  exact h.unbroken (lineFeed_mem_drop (by omega) (by omega) hbyte)

theorem unique {other : Nat} (h : IsLineStart bytes offset start)
    (hother : IsLineStart bytes offset other) : start = other := by
  have hle := h.not_lt hother
  have hge := hother.not_lt h
  omega

-- Up to the next line feed the line goes on.
theorem of_le {later : Nat} (h : IsLineStart bytes offset start) (hle : offset ≤ later)
    (hfree : lineFeed ∉ (bytes.take later).drop offset) : IsLineStart bytes later start := by
  have hstart := h.le
  refine ⟨by omega, h.opens, ?_⟩
  intro hm
  obtain ⟨i, hbyte⟩ := List.getElem?_of_mem hm
  rw [List.getElem?_drop] at hbyte
  by_cases hi : start + i < offset
  · rw [List.getElem?_take_of_lt (by omega)] at hbyte
    exact h.unbroken (lineFeed_mem_drop (by omega) hi hbyte)
  · apply hfree
    apply List.mem_of_getElem? (i := start + i - offset)
    have hindex : offset + (start + i - offset) = start + i := by omega
    rw [List.getElem?_drop, hindex, hbyte]

end IsLineStart

-- The line feeds before an offset: those before an earlier one, and those between the two.
theorem count_lineFeed_take (bytes : List UInt8) {first last : Nat} (h : first ≤ last) :
    (bytes.take last).count lineFeed =
      (bytes.take first).count lineFeed + ((bytes.take last).drop first).count lineFeed := by
  have hsplit := List.take_append_drop first (bytes.take last)
  rw [List.take_take, Nat.min_eq_left h] at hsplit
  rw [← List.count_append, hsplit]

-- One position is read before another one.
def Position.Before (a b : Position) : Prop :=
  a.line < b.line ∨ a.line = b.line ∧ a.column < b.column

namespace LineTable

variable (bytes : List UInt8)

theorem clamp_ofBytes (offset : Int) :
    (ofBytes bytes).clamp offset = (max 0 (min offset bytes.length)).toNat := by
  simp only [clamp, ofBytes]
  omega

theorem clamp_of_le {offset : Nat} (h : offset ≤ bytes.length) :
    (ofBytes bytes).clamp offset = offset :=
  Nat.min_eq_left h

-- The lines that are passed before an offset are those that start in the bytes before it.
theorem passed_eq {offset : Nat} (h : offset ≤ bytes.length) :
    (lineStartsAfter 0 bytes).takeWhile (· ≤ offset) = lineStartsAfter 0 (bytes.take offset) := by
  have hlength : (bytes.take offset).length = offset := List.length_take_of_le h
  have hsplit := lineStartsAfter_append 0 (bytes.take offset) (bytes.drop offset)
  rw [List.take_append_drop, hlength, Nat.zero_add] at hsplit
  have hbefore : ∀ start ∈ lineStartsAfter 0 (bytes.take offset),
      decide (start ≤ offset) = true := by
    intro start hm
    have hbound := mem_lineStartsAfter_bounds 0 start _ hm
    exact decide_eq_true (by omega)
  have hafter : (lineStartsAfter offset (bytes.drop offset)).takeWhile (· ≤ offset) = [] := by
    cases hrest : lineStartsAfter offset (bytes.drop offset) with
    | nil => rfl
    | cons start rest =>
        have hm : start ∈ lineStartsAfter offset (bytes.drop offset) := by
          rw [hrest]
          exact List.mem_cons_self
        have hbound := mem_lineStartsAfter_bounds offset start _ hm
        exact List.takeWhile_cons_of_neg (by simp only [decide_eq_true_eq]; omega)
  rw [hsplit, List.takeWhile_append_of_pos hbefore, hafter, List.append_nil]

theorem isLineStart_last {offset : Nat} (h : offset ≤ bytes.length) :
    IsLineStart bytes offset ((lineStartsAfter 0 (bytes.take offset)).getLastD 0) := by
  by_cases hfeed : lineFeed ∈ bytes.take offset
  · -- the bytes before the offset, cut after their last line feed
    obtain ⟨after, before, hreverse, hafter⟩ :=
      List.eq_append_cons_of_mem (List.mem_reverse.mpr hfeed)
    have hbytes : bytes.take offset = before.reverse ++ [lineFeed] ++ after.reverse := by
      rw [← List.reverse_reverse (bytes.take offset), hreverse]
      simp
    have hfree : lineFeed ∉ after.reverse := mt List.mem_reverse.mp hafter
    have hlength : before.length + 1 + after.length = offset := by
      have htake : (bytes.take offset).length = offset := List.length_take_of_le h
      rw [hbytes] at htake
      simp only [List.length_append, List.length_reverse, List.length_singleton] at htake
      exact htake
    have hlast : (lineStartsAfter 0 (bytes.take offset)).getLastD 0 = before.length + 1 := by
      rw [hbytes, lineStartsAfter_append, lineStartsAfter_eq_nil _ _ hfree, List.append_nil,
        lastStart_of_endsLine _ (.inr (by simp))]
      simp
    rw [hlast]
    refine ⟨by omega, .inr ?_, ?_⟩
    · have hbyte : (bytes.take offset)[before.length]? = some lineFeed := by
        rw [hbytes]
        simp
      rwa [List.getElem?_take_of_lt (by omega)] at hbyte
    · rw [hbytes, List.drop_left' (by simp)]
      exact hfree
  · rw [lineStartsAfter_eq_nil 0 _ hfeed]
    exact ⟨Nat.zero_le _, .inl rfl, hfeed⟩

-- Both numbers of a position by what stands in the bytes before it.
theorem position_eq_counted (offset : Int) :
    ∃ start, IsLineStart bytes ((ofBytes bytes).clamp offset) start ∧
      (ofBytes bytes).position offset =
        ⟨(bytes.take ((ofBytes bytes).clamp offset)).count lineFeed + 1,
          (ofBytes bytes).clamp offset - start + 1⟩ := by
  have hle : (ofBytes bytes).clamp offset ≤ bytes.length := Nat.min_le_right _ _
  refine ⟨_, isLineStart_last bytes hle, ?_⟩
  rw [← length_lineStartsAfter 0, ← passed_eq bytes hle]
  rfl

-- Behind the end there are no more line feeds, so that the offset itself may count.
theorem line_position (offset : Nat) :
    ((ofBytes bytes).position offset).line = (bytes.take offset).count lineFeed + 1 := by
  obtain ⟨start, -, hposition⟩ := position_eq_counted bytes offset
  have hclamp : (ofBytes bytes).clamp offset = min offset bytes.length := rfl
  rw [hposition, hclamp, ← List.take_eq_take_min]

-- Between two offsets there is a line feed, or both are on a line.
theorem position_before {a b : Nat} (hab : a < b) (hb : b ≤ bytes.length) :
    ((ofBytes bytes).position a).Before ((ofBytes bytes).position b) := by
  have hclampA := clamp_of_le bytes (Nat.le_of_lt (Nat.lt_of_lt_of_le hab hb))
  have hclampB := clamp_of_le bytes hb
  obtain ⟨startA, hstartA, hA⟩ := position_eq_counted bytes a
  obtain ⟨startB, hstartB, hB⟩ := position_eq_counted bytes b
  rw [hclampA] at hstartA hA
  rw [hclampB] at hstartB hB
  rw [hA, hB]
  have hcount := count_lineFeed_take bytes (Nat.le_of_lt hab)
  by_cases hfree : lineFeed ∈ (bytes.take b).drop a
  · have hpos := List.count_pos_iff.mpr hfree
    exact .inl (by dsimp only; omega)
  · have hzero := List.count_eq_zero_of_not_mem hfree
    have hstart := (hstartA.of_le (by omega) hfree).unique hstartB
    have hle := hstartA.le
    exact .inr ⟨by dsimp only; omega, by dsimp only; omega⟩

theorem position_clamp (table : LineTable) (offset : Int) :
    table.position (table.clamp offset) = table.position offset := by
  have hclamp : table.clamp (table.clamp offset) = table.clamp offset :=
    Nat.min_eq_left (Nat.min_le_right _ _)
  rw [position, hclamp, position]

-- Positions are read in the order of their offsets.
theorem position_before_iff (a b : Int) :
    ((ofBytes bytes).position a).Before ((ofBytes bytes).position b) ↔
      (ofBytes bytes).clamp a < (ofBytes bytes).clamp b := by
  have ha : (ofBytes bytes).clamp a ≤ bytes.length := Nat.min_le_right _ _
  have hb : (ofBytes bytes).clamp b ≤ bytes.length := Nat.min_le_right _ _
  rw [← position_clamp _ a, ← position_clamp _ b]
  constructor
  · intro hbefore
    rcases Nat.lt_trichotomy ((ofBytes bytes).clamp a) ((ofBytes bytes).clamp b) with
      hlt | heq | hgt
    · exact hlt
    · rw [heq] at hbefore
      unfold Position.Before at hbefore
      omega
    · have hafter := position_before bytes hgt ha
      unfold Position.Before at hbefore hafter
      omega
  · exact fun hlt => position_before bytes hlt hb

end LineTable

-- The bytes of some lines, each with its line feed.
def lineBytes (lines : List (List Char)) : Nat :=
  (lines.map fun line => (Text.Utf8.encode line).length + 1).sum

theorem lineBytes_cons (line : List Char) (lines : List (List Char)) :
    lineBytes (line :: lines) = (Text.Utf8.encode line).length + 1 + lineBytes lines := by
  rw [lineBytes, List.map_cons, List.sum_cons, lineBytes]

-- From a position in a text its offset is found by adding up the lines before it.
theorem LineTable.offset_eq_lineBytes (text : List Char) (offset : Nat) :
    let position := (ofBytes (Text.Utf8.encode text)).position offset
    min offset (Text.Utf8.encode text).length =
      lineBytes ((Text.lines text).take (position.line - 1)) + (position.column - 1) := by
  intro position
  subst position
  induction text using Text.lineInduction generalizing offset with
  | last line hline =>
      rw [position_lastLine hline]
      simp [lineBytes]
  | more line rest hline ih =>
      have hsize : (Text.Utf8.encode (line ++ '\n' :: rest)).length =
          (Text.Utf8.encode line).length + 1 + (Text.Utf8.encode rest).length := by
        rw [Text.Utf8.encode_line_append, List.length_append, List.length_cons]
        omega
      rw [hsize]
      by_cases hoffset : offset ≤ (Text.Utf8.encode line).length
      · rw [position_onLine hline rest hoffset]
        simp only [Nat.sub_self, List.take_zero, lineBytes, List.map_nil, List.sum_nil]
        omega
      · have hrest := ih (offset - ((Text.Utf8.encode line).length + 1))
        have hfirst := (position_inLines rest
          (offset - ((Text.Utf8.encode line).length + 1))).first
        rw [position_belowLine hline rest (Nat.lt_of_not_le hoffset), Text.lines_append hline]
        generalize (ofBytes (Text.Utf8.encode rest)).position
          ↑(offset - ((Text.Utf8.encode line).length + 1)) = below at hrest hfirst ⊢
        have hline : (below.down 1).line - 1 = below.line - 1 + 1 := by
          simp only [Position.down]
          omega
        rw [hline, List.take_succ_cons, lineBytes_cons]
        simp only [Position.down]
        omega

-- The line of a node's first byte and the row of the node are one number.
theorem Source.line_eq_row (source : Source) (label : Label) :
    (source.lineTable.position label.start).line = source.row label + 1 := by
  rw [source.lineTable_eq, LineTable.line_position, row]

-- The byte that an offset means. One outside the bytes counts as their nearer end.
def LineTable.inside (bytes : List UInt8) (offset : Int) : Nat :=
  (max 0 (min offset bytes.length)).toNat

-- A position counts: the lines by the line feeds before the offset, and the columns from the
-- start of the line. Different offsets inside the bytes have different positions, in the same
-- order; the line is the row of a node that starts there; and in a text the lines before the
-- position and its column give the offset back.
theorem LineTable.position_isInverse (bytes : List UInt8) (offset : Int) :
    ((ofBytes bytes).position offset).line =
        (bytes.take (inside bytes offset)).count lineFeed + 1 ∧
      (∃ start, IsLineStart bytes (inside bytes offset) start ∧
        ((ofBytes bytes).position offset).column = inside bytes offset - start + 1) ∧
      (∀ other, ((ofBytes bytes).position offset).Before ((ofBytes bytes).position other) ↔
        inside bytes offset < inside bytes other) ∧
      ∀ source : Source, source.bytes = bytes →
        (∀ label : Label, label.start = inside bytes offset →
          ((ofBytes bytes).position offset).line = source.row label + 1) ∧
          inside bytes offset =
            lineBytes (source.lines.take (((ofBytes bytes).position offset).line - 1)) +
              (((ofBytes bytes).position offset).column - 1) := by
  have hinside (offset : Int) : (ofBytes bytes).clamp offset = inside bytes offset :=
    clamp_ofBytes bytes offset
  obtain ⟨start, hstart, hposition⟩ := position_eq_counted bytes offset
  rw [hinside] at hstart hposition
  refine ⟨congrArg Position.line hposition, ⟨start, hstart, congrArg Position.column hposition⟩,
    ?_, ?_⟩
  · intro other
    rw [← hinside, ← hinside]
    exact position_before_iff bytes offset other
  · rintro source rfl
    have hoffset : (ofBytes source.bytes).position (inside source.bytes offset) =
        (ofBytes source.bytes).position offset := by
      rw [← hinside]
      exact position_clamp _ offset
    constructor
    · intro label hlabel
      rw [← source.line_eq_row, source.lineTable_eq, hlabel, hoffset]
    · have hsum := offset_eq_lineBytes source.text.toList (inside source.bytes offset)
      rw [← source.bytes_eq, hoffset] at hsum
      have hle : inside source.bytes offset ≤ source.bytes.length := by
        rw [← hinside]
        exact Nat.min_le_right _ _
      rwa [Nat.min_eq_left hle] at hsum

-- The second letter below a line of one character that takes two bytes.
theorem LineTable.position_isInverse_accent :
    let source := Source.ofText "f.swift" "é\nab" .unparsed
    source.lineTable.position 4 = ⟨2, 2⟩ ∧ source.bytes.length = 5 ∧
      4 = lineBytes (source.lines.take 1) + 1 := by
  intro source
  obtain ⟨-, -, -, hsource⟩ := position_isInverse source.bytes 4
  obtain ⟨-, hoffset⟩ := hsource source rfl
  exact ⟨by decide +kernel, by decide +kernel, hoffset⟩

end SwiftAudit
