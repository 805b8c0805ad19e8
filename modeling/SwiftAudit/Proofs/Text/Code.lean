import Mathlib.Data.List.Basic
import SwiftAudit.CodeText

-- Texts that may hold a surrogate without its other half.
namespace SwiftAudit.CodeText

theorem isPlain_iff {text : CodeText} : text.isPlain ↔ ∃ s, text = .plain s := by
  cases text <;> simp [isPlain, string?]

@[simp] theorem isPlain_plain (s : String) : (plain s).isPlain := rfl

theorem isPlain_append (a b : CodeText) : (a ++ b).isPlain = (a.isPlain && b.isPlain) := by
  cases a with
  | plain s => cases b <;> rfl
  | broken before half after => rfl

theorem join_cons (text : CodeText) (rest : List CodeText) :
    join (text :: rest) = text ++ join rest := rfl

theorem isPlain_join (texts : List CodeText) : (join texts).isPlain = texts.all isPlain := by
  induction texts with
  | nil => rfl
  | cons text rest ih =>
      rw [join_cons, isPlain_append, ih, List.all_cons]

theorem empty_append (text : CodeText) : (plain "") ++ text = text := by
  cases text with
  | plain s => exact congrArg plain (String.empty_append)
  | broken before half after => exact congrArg (broken · half after) (String.empty_append)

theorem shown_append (a b : CodeText) : (a ++ b).shown = a.shown ++ b.shown := by
  induction a with
  | plain s =>
      cases b with
      | plain t => rfl
      | broken before half after =>
          change s ++ before ++ _ ++ _ = s ++ (before ++ _ ++ _)
          simp only [String.append_assoc]
  | broken before half after ih =>
      change before ++ _ ++ (after ++ b).shown = before ++ _ ++ after.shown ++ b.shown
      rw [ih]
      simp only [String.append_assoc]

section Points

theorem ofPointsAfter_map_inl (before chars : List Char) (rest : List (Char ⊕ Surrogate)) :
    ofPointsAfter before (chars.map .inl ++ rest) =
      ofPointsAfter (chars.reverse ++ before) rest := by
  induction chars generalizing before with
  | nil => rfl
  | cons c chars ih => simp [ofPointsAfter, ih]

theorem ofPoints_points (text : CodeText) : ofPoints text.points = text := by
  unfold ofPoints
  induction text with
  | plain s =>
      rw [points, ← List.append_nil (s.toList.map _), ofPointsAfter_map_inl]
      simp [ofPointsAfter]
  | broken before half after ih =>
      rw [points, ofPointsAfter_map_inl, ofPointsAfter, ih]
      simp

end Points

section Order

-- A character is no half of a surrogate pair.
theorem not_surrogate (c : Char) : ¬(0xD800 ≤ c.toNat ∧ c.toNat ≤ 0xDFFF) := by
  have hvalid : c.toNat < 0xD800 ∨ 0xDFFF < c.toNat ∧ c.toNat < 0x110000 := c.valid
  omega

theorem code_inj (a b : Char ⊕ Surrogate)
    (h : Sum.elim Char.toNat Surrogate.code a = Sum.elim Char.toNat Surrogate.code b) : a = b := by
  cases a with
  | inl c =>
      cases b with
      | inl d => exact congrArg Sum.inl (Char.toNat_inj.mp h)
      | inr half =>
          have hcode : c.toNat = half.code := h
          exact absurd (hcode ▸ half.inRange) (not_surrogate c)
  | inr half =>
      cases b with
      | inl c =>
          have hcode : half.code = c.toNat := h
          exact absurd (hcode ▸ half.inRange) (not_surrogate c)
      | inr other =>
          have hcode : half.code = other.code := h
          cases half
          cases other
          cases hcode
          rfl

theorem codes_inj {a b : CodeText} (h : a.codes = b.codes) : a = b := by
  have hpoints : a.points = b.points := (List.map_inj_right code_inj).mp h
  rw [← ofPoints_points a, hpoints, ofPoints_points]

instance : Std.IsLinearOrder CodeText where
  le_refl a := List.le_refl a.codes
  le_trans _ _ _ := List.le_trans
  le_antisymm _ _ hab hba := codes_inj (List.le_antisymm hab hba)
  le_total a b := List.le_total a.codes b.codes

instance : Std.LawfulOrderLT CodeText where
  lt_iff _ _ := ⟨fun h => ⟨List.le_of_lt h, List.not_le.mpr h⟩, fun h => List.not_le.mp h.2⟩

end Order

end SwiftAudit.CodeText
