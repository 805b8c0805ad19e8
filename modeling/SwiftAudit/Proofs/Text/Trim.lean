import Mathlib.Data.List.DropRight
import Mathlib.Data.List.TakeWhile
import SwiftAudit.Proofs.Lists
import SwiftAudit.Text.Blank

namespace SwiftAudit.Text

theorem isBlankText_iff {text : List Char} : isBlankText text ↔ ∀ c ∈ text, isBlank c :=
  List.all_eq_true

theorem trim_eq (text : List Char) : trim text = (text.dropWhile isBlank).rdropWhile isBlank := rfl

-- Trimming takes blanks off both ends.
theorem exists_append_trim (text : List Char) :
    ∃ lead trail, text = lead ++ trim text ++ trail ∧ isBlankText lead ∧ isBlankText trail := by
  refine ⟨text.takeWhile isBlank, (text.dropWhile isBlank).rtakeWhile isBlank, ?_, ?_, ?_⟩
  · rw [trim_eq, List.append_assoc, List.rdropWhile_append_rtakeWhile,
      List.takeWhile_append_dropWhile]
  · exact isBlankText_iff.mpr fun c hc => List.mem_takeWhile_imp hc
  · exact isBlankText_iff.mpr fun c hc => List.mem_rtakeWhile_imp hc

-- Nothing is left of a text exactly if all of it is blank.
theorem isEmpty_trim (text : List Char) : (trim text).isEmpty = isBlankText text := by
  rw [Bool.eq_iff_iff, List.isEmpty_iff, trim_eq, List.rdropWhile_eq_nil_iff,
    ← List.dropWhile_eq_nil_iff, List.dropWhile_idempotent, List.dropWhile_eq_nil_iff,
    isBlankText_iff]

theorem trimLeft_eq_cons_iff {text rest : List Char} {c : Char} (hc : ¬isBlank c) :
    trimLeft text = c :: rest ↔ ∃ gap, text = gap ++ c :: rest ∧ isBlankText gap := by
  have hhead : ∀ a ∈ (c :: rest).head?, ¬isBlank a := by
    rintro a ha
    cases ha
    exact hc
  simp only [trimLeft, trimLeftWhere, dropWhile_eq_iff, isBlankText_iff, and_iff_left hhead]

section Mark

variable (mark : List Char)

theorem dropWhile_append_mark (hne : mark ≠ []) (hmark : ∀ c ∈ mark, ¬isBlank c)
    (before after : List Char) :
    (before ++ (mark ++ after)).dropWhile isBlank = before.dropWhile isBlank ++ (mark ++ after) := by
  induction before with
  | nil =>
      obtain ⟨c, rest, rfl⟩ := List.exists_cons_of_ne_nil hne
      exact List.dropWhile_cons_of_neg (hmark c List.mem_cons_self)
  | cons c before ih =>
      by_cases hc : isBlank c
      · rw [List.cons_append, List.dropWhile_cons_of_pos hc, ih, List.dropWhile_cons_of_pos hc]
      · rw [List.cons_append, List.dropWhile_cons_of_neg hc, List.dropWhile_cons_of_neg hc,
          List.cons_append]

theorem rdropWhile_append_mark (hne : mark ≠ []) (hmark : ∀ c ∈ mark, ¬isBlank c)
    (before after : List Char) :
    (before ++ mark ++ after).rdropWhile isBlank = before ++ mark ++ after.rdropWhile isBlank := by
  induction after using List.reverseRecOn with
  | nil =>
      rw [List.rdropWhile_nil, List.append_nil, List.rdropWhile_eq_self_iff]
      intro _
      rw [List.getLast_append_of_ne_nil _ hne]
      exact hmark _ (List.getLast_mem hne)
  | append_singleton after c ih =>
      rw [← List.append_assoc, List.rdropWhile_concat, List.rdropWhile_concat, ih]
      split
      · rfl
      · rw [List.append_assoc _ after]

-- A mark without blanks that stands in a text stays when the text is trimmed.
theorem trim_append_mark (hne : mark ≠ []) (hmark : ∀ c ∈ mark, ¬isBlank c)
    (before after : List Char) :
    trim (before ++ mark ++ after) =
      before.dropWhile isBlank ++ mark ++ after.rdropWhile isBlank := by
  rw [trim_eq, List.append_assoc, dropWhile_append_mark mark hne hmark, ← List.append_assoc,
    rdropWhile_append_mark mark hne hmark]

theorem prefix_trimLeft_iff (hne : mark ≠ []) (hmark : ∀ c ∈ mark, ¬isBlank c)
    {text : List Char} :
    mark <+: trimLeft text ↔ ∃ before after, text = before ++ mark ++ after ∧ isBlankText before := by
  constructor
  · rintro ⟨rest, hrest⟩
    refine ⟨text.takeWhile isBlank, rest, ?_, ?_⟩
    · rw [List.append_assoc, hrest]
      exact List.takeWhile_append_dropWhile.symm
    · exact isBlankText_iff.mpr fun c hc => List.mem_takeWhile_imp hc
  · rintro ⟨before, after, rfl, hblank⟩
    rw [trimLeft, trimLeftWhere, List.append_assoc, dropWhile_append_mark mark hne hmark,
      List.dropWhile_eq_nil_iff.mpr (isBlankText_iff.mp hblank), List.nil_append]
    exact List.prefix_append _ _

theorem prefix_trim_iff (hne : mark ≠ []) (hmark : ∀ c ∈ mark, ¬isBlank c) {text : List Char} :
    mark <+: trim text ↔ ∃ before after, text = before ++ mark ++ after ∧ isBlankText before := by
  constructor
  · rintro ⟨rest, hrest⟩
    obtain ⟨lead, trail, htext, hlead, -⟩ := exists_append_trim text
    refine ⟨lead, rest ++ trail, ?_, hlead⟩
    rw [← hrest] at htext
    rw [htext, List.append_assoc, List.append_assoc, List.append_assoc]
  · rintro ⟨before, after, rfl, hblank⟩
    rw [trim_append_mark mark hne hmark, List.dropWhile_eq_nil_iff.mpr (isBlankText_iff.mp hblank),
      List.nil_append]
    exact List.prefix_append _ _

theorem suffix_trim_iff (hne : mark ≠ []) (hmark : ∀ c ∈ mark, ¬isBlank c) {text : List Char} :
    mark <:+ trim text ↔ ∃ before after, text = before ++ mark ++ after ∧ isBlankText after := by
  constructor
  · rintro ⟨rest, hrest⟩
    obtain ⟨lead, trail, htext, -, htrail⟩ := exists_append_trim text
    refine ⟨lead ++ rest, trail, ?_, htrail⟩
    rw [← hrest] at htext
    rw [htext, List.append_assoc lead rest]
  · rintro ⟨before, after, rfl, hblank⟩
    rw [trim_append_mark mark hne hmark, List.rdropWhile_eq_nil_iff.mpr (isBlankText_iff.mp hblank),
      List.append_nil]
    exact List.suffix_append _ _

end Mark

end SwiftAudit.Text
