import SwiftAudit.Proofs.Text.Trim
import SwiftAudit.Text.Line

namespace SwiftAudit.Text

-- The lines of a text as it is cut for display. A carriage return and the line feed behind it
-- are one break, and no line follows a break at the end.
def displayLines : List Char → List (List Char)
  | [] => []
  | '\r' :: '\n' :: rest => [] :: displayLines rest
  | c :: rest =>
    if isLineBreak c then [] :: displayLines rest
    else match displayLines rest with
      | [] => [[c]]
      | line :: lines => (c :: line) :: lines

theorem displayLines_eq_nil_iff {text : List Char} : displayLines text = [] ↔ text = [] := by
  fun_cases displayLines text <;> simp_all

-- The first line ends where the first break stands, and it does not matter whether a second
-- character belongs to that break.
theorem headD_displayLines (text : List Char) :
    (displayLines text).headD [] = text.takeWhile (!isLineBreak ·) := by
  fun_induction displayLines text with
  | case1 => rfl
  | case2 rest ih => rfl
  | case3 c rest hpair hbreak ih => simp [hbreak]
  | case4 c rest hpair hbreak hlines ih =>
      rw [displayLines_eq_nil_iff] at hlines
      simp [hlines, hbreak]
  | case5 c rest hpair hbreak line lines hlines ih =>
      rw [hlines, List.headD_cons] at ih
      rw [List.headD_cons, ih, List.takeWhile_cons_of_pos (by simpa using hbreak)]

example : displayLines "a\r\n\nb\r".toList = ["a".toList, [], "b".toList] := by decide +kernel

-- The line that a snippet is cut from: the first one of the trimmed text, and an empty one only
-- where trimming leaves nothing. It is not there if lines are left but there is no first one.
def firstLine? (text : List Char) : Option (List Char) :=
  if (trim text).isEmpty then some [] else (displayLines (trim text)).head?

theorem firstLine?_eq (text : List Char) :
    firstLine? text = some ((trim text).takeWhile (!isLineBreak ·)) := by
  rw [firstLine?, ← headD_displayLines]
  by_cases hempty : trim text = []
  · rw [hempty]
    rfl
  · obtain ⟨line, lines, hlines⟩ :=
      List.exists_cons_of_ne_nil (mt displayLines_eq_nil_iff.mp hempty)
    rw [if_neg (mt List.isEmpty_iff.mp hempty), hlines]
    rfl

theorem snippet_of_firstLine? {text line : List Char} (h : firstLine? text = some line) :
    snippet text =
      if line.length ≤ snippetLimit then line else line.take snippetLimit ++ "...".toList := by
  rw [firstLine?_eq] at h
  cases h
  rw [snippet]
  split
  · rename_i hlong
    rw [if_neg (Nat.not_le.mpr hlong)]
    rfl
  · rename_i hshort
    rw [if_pos (Nat.not_lt.mp hshort)]

theorem isBlank_of_isLineBreak {c : Char} (h : isLineBreak c) : isBlank c := by
  simp only [isLineBreak, isBlank, Bool.or_eq_true, Bool.and_eq_true, decide_eq_true_eq,
    beq_iff_eq] at h ⊢
  omega

-- A trimmed text starts with the first character that is not blank.
theorem head?_trim (text : List Char) : (trim text).head? = text.find? (!isBlank ·) := by
  cases hfind : text.find? (!isBlank ·) with
  | none =>
      have hblank : isBlankText text := by simpa [isBlankText_iff] using hfind
      rw [← isEmpty_trim, List.isEmpty_iff] at hblank
      rw [hblank]
      rfl
  | some c =>
      obtain ⟨hc, before, after, htext, hbefore⟩ := List.find?_eq_some_iff_append.mp hfind
      have hprefix : [c] <+: trim text := by
        refine (prefix_trim_iff [c] (List.cons_ne_nil c []) (by simpa using hc)).mpr
          ⟨before, after, by simpa using htext, isBlankText_iff.mpr (by simpa using hbefore)⟩
      obtain ⟨rest, hrest⟩ := hprefix
      rw [← hrest]
      rfl

-- Breaks are blank, so that none stands at the front of a trimmed text.
theorem head?_firstLine {text line : List Char} (h : firstLine? text = some line) :
    line.head? = text.find? (!isBlank ·) := by
  rw [firstLine?_eq] at h
  cases h
  rw [List.head?_takeWhile, head?_trim]
  cases hfind : text.find? (!isBlank ·) with
  | none => rfl
  | some c =>
      have hc : ¬isBlank c := by simpa using List.find?_some hfind
      have hbreak : ¬isLineBreak c := mt isBlank_of_isLineBreak hc
      rw [Option.filter_some, if_pos (by simpa using hbreak)]

theorem any_isLineBreak_firstLine {text line : List Char} (h : firstLine? text = some line) :
    line.any isLineBreak = false := by
  rw [firstLine?_eq] at h
  cases h
  rw [List.any_eq_false]
  intro c hc
  simpa using List.mem_takeWhile_imp hc

-- A long line is cut, but not at its front.
theorem head?_snippet {text line : List Char} (h : firstLine? text = some line) :
    (snippet text).head? = line.head? := by
  rw [snippet_of_firstLine? h]
  split
  · rfl
  · rename_i hlong
    cases line with
    | nil => exact absurd (Nat.zero_le _) hlong
    | cons c rest => rfl

-- A snippet is the first line of the trimmed text, which is always there, or the front of that
-- line with an ellipsis. It is one short line itself, it starts with the first character of the
-- text that is not blank, and it is empty only if there is none.
theorem snippet_isSafeLine (text : List Char) :
    (∃ line, firstLine? text = some line ∧
      snippet text = if line.length ≤ 40 then line else line.take 40 ++ "...".toList) ∧
    (snippet text).length ≤ 43 ∧
    (snippet text).any isLineBreak = false ∧
    (snippet text = [] ↔ isBlankText text) ∧
    (snippet text).head? = text.find? (!isBlank ·) := by
  obtain ⟨line, hline⟩ : ∃ line, firstLine? text = some line := ⟨_, firstLine?_eq text⟩
  have hsnippet : snippet text =
      if line.length ≤ 40 then line else line.take 40 ++ "...".toList :=
    snippet_of_firstLine? hline
  have hhead : (snippet text).head? = text.find? (!isBlank ·) := by
    rw [head?_snippet hline, head?_firstLine hline]
  have hbreaks := any_isLineBreak_firstLine hline
  refine ⟨⟨line, hline, hsnippet⟩, ?_, ?_, ?_, hhead⟩
  · rw [hsnippet]
    split
    · omega
    · rw [List.length_append, List.length_take, String.length_toList]
      exact Nat.add_le_add_right (Nat.min_le_left _ _) 3
  · rw [hsnippet]
    split
    · exact hbreaks
    · rw [List.any_append, Bool.or_eq_false_iff]
      refine ⟨?_, by decide⟩
      rw [List.any_eq_false] at hbreaks ⊢
      exact fun c hc => hbreaks c (List.mem_of_mem_take hc)
  · rw [← List.head?_eq_none_iff, hhead, List.find?_eq_none, isBlankText_iff]
    simp

end SwiftAudit.Text
