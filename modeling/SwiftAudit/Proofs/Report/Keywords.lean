import Mathlib.Data.List.Infix
import Mathlib.Data.Sum.Basic
import SwiftAudit.Proofs.Text.Code
import SwiftAudit.Report

namespace SwiftAudit

namespace CodeText

theorem infix_map_inl_iff (word text : List Char) :
    word.map (Sum.inl (β := Surrogate)) <:+: text.map .inl ↔ word <:+: text := by
  constructor
  · intro h
    obtain ⟨found, hfound, heq⟩ := List.infix_map_iff.mp h
    rwa [List.map_injective_iff.mpr Sum.inl_injective heq]
  · exact fun h => h.map _

-- A surrogate parts the characters before it from those behind it.
theorem infix_around_iff (word before : List Char) (half : Surrogate)
    (after : List (Char ⊕ Surrogate)) :
    word.map .inl <:+: before.map .inl ++ .inr half :: after ↔
      word <:+: before ∨ word.map .inl <:+: after := by
  have hnone {front : List (Char ⊕ Surrogate)} (hword : ∀ point ∈ front, point.isLeft)
      (h : front <+: .inr half :: after) : front = [] := by
    obtain rfl | ⟨rest, rfl, -⟩ := List.prefix_cons_iff.mp h
    · rfl
    · exact absurd (hword _ List.mem_cons_self) nofun
  have hleft : ∀ point ∈ word.map (Sum.inl (β := Surrogate)), point.isLeft := by simp
  rw [← infix_map_inl_iff]
  constructor
  · intro h
    obtain h | h | ⟨front, back, hword, hfront, hback⟩ := List.infix_append_iff.mp h
    · exact .inl h
    · obtain h | h := List.infix_cons_iff.mp h
      · rw [hnone hleft h]
        exact .inl List.nil_infix
      · exact .inr h
    · rw [hword] at hleft ⊢
      rw [hnone (fun point hm => hleft point (List.mem_append_right _ hm)) hback, List.append_nil]
      exact .inl hfront.isInfix
  · rintro (h | h)
    · exact h.trans (List.prefix_append _ _).isInfix
    · exact h.trans ((List.suffix_cons _ _).trans (List.suffix_append _ _)).isInfix

theorem infix_points_iff (word : List Char) (text : CodeText) :
    word.map .inl <:+: text.points ↔ ∃ piece ∈ text.pieces, word <:+: piece.toList := by
  induction text with
  | plain s => simp [points, pieces, infix_map_inl_iff]
  | broken before half after ih => simp [points, pieces, infix_around_iff, ih]

end CodeText

namespace Category

theorem occursIn_iff (part text : List Char) : occursIn part text ↔ part <:+: text := by
  induction text with
  | nil => simp [occursIn]
  | cons c rest ih =>
      rw [occursIn, Bool.or_eq_true, List.isPrefixOf_iff_prefix, ih, List.infix_cons_iff]

theorem hasPart_iff (text : CodeText) (part : String) :
    hasPart text part ↔ part.toList.map .inl <:+: text.points := by
  simp [hasPart, occursIn_iff, CodeText.infix_points_iff]

-- The first keywords of which one occurs in a description decide on its category.
theorem infer_eq (description : CodeText) :
    infer description =
      ((keywords.find? fun entry => entry.1.any fun word =>
        word.toList.map .inl <:+: description.points).map (·.2)).getD other := by
  have hwords (words : List String) : words.any (hasPart description) =
      words.any fun word => word.toList.map .inl <:+: description.points := by
    congr 1
    funext word
    rw [Bool.eq_iff_iff, hasPart_iff, decide_eq_true_eq]
  simp only [infer, hwords]
  split <;> simp [*]

end Category

end SwiftAudit
