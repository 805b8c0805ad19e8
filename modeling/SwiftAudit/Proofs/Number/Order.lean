import Mathlib.Algebra.Order.Field.Rat
import SwiftAudit.Number.Double

namespace SwiftAudit.Double

theorem le_finite_iff {d e : Double} {p q : Rat} (hd : d.toRat? = some p)
    (he : e.toRat? = some q) : d.le e ↔ p ≤ q := by
  cases d <;> cases e <;> simp_all [le, toRat?]

@[simp] theorem not_le_nan (d : Double) : d.le nan = false := by
  rcases d with _ | ⟨_ | _⟩ | _ <;> rfl

@[simp] theorem le_infinity_iff (d : Double) : d.le (infinity false) ↔ d ≠ nan := by
  rcases d with _ | ⟨_ | _⟩ | _ <;> simp [le]

@[simp] theorem le_negInfinity_iff (d : Double) : d.le (infinity true) ↔ d = infinity true := by
  rcases d with _ | ⟨_ | _⟩ | _ <;> simp [le]

theorem le_trans {d e f : Double} (hde : d.le e) (hef : e.le f) : d.le f := by
  cases f with
  | nan => simp at hef
  | infinity negative =>
      cases negative with
      | false =>
          rw [le_infinity_iff]
          rintro rfl
          cases hde
      | true =>
          rw [le_negInfinity_iff] at hef
          rwa [hef] at hde
  | finite negative mantissa exponent =>
      rcases e with _ | ⟨_ | _⟩ | ⟨n, m, x⟩
      · cases hef
      · cases hef
      · rw [le_negInfinity_iff] at hde
        rw [hde]
        rfl
      · rcases d with _ | ⟨_ | _⟩ | _
        · cases hde
        · cases hde
        · rfl
        · rw [le_finite_iff rfl rfl] at hde hef ⊢
          exact hde.trans hef

end SwiftAudit.Double
