import Mathlib.Data.Rat.Cast.Order
import SwiftAudit.Proofs.Number.Rounding

-- Which integers become doubles, and that they become integers.
namespace SwiftAudit.Double

theorem overflow_eq : overflow = 2 ^ 1024 - 2 ^ 970 := by decide +kernel

-- The exponent takes what the logarithm exceeds the mantissa by.
theorem binade_of_le_log2 {num : Nat} (h : precision ≤ num.log2) :
    binade num 1 = (num.log2 : Int) - precision + 1 := by
  have hpos : num ≠ 0 := by
    rintro rfl
    revert h
    decide
  have hguess : max minExponent ((num.log2 : Int) - (Nat.log2 1 : Nat) - precision) =
      ((num.log2 - precision : Nat) : Int) := by
    rw [show Nat.log2 1 = 0 by decide]
    simp only [minExponent]
    omega
  have hquotient : Nat.pow 2 precision ≤ num / Nat.pow 2 (num.log2 - precision) := by
    rw [Nat.le_div_iff_mul_le (power_pos _), ← power_add, Nat.add_sub_cancel' h]
    exact Nat.log2_self_le hpos
  unfold binade
  dsimp only
  rw [hguess, scaled_of_nonneg num (Int.natCast_nonneg _)]
  dsimp only
  rw [Int.toNat_natCast, if_neg (Nat.not_lt.mpr hquotient)]
  omega

theorem le_log2_of_overflow_le {num : Nat} (h : overflow ≤ num) : 1023 ≤ num.log2 := by
  have hpos : num ≠ 0 := by
    rintro rfl
    revert h
    decide +kernel
  rw [Nat.le_log2 hpos]
  exact Nat.le_trans (by decide +kernel) h

theorem nearest_of_lt_binade (negative : Bool) {num den : Nat}
    (h : maxExponent < binade num den) : nearest negative num den = .infinity negative := by
  by_cases hfull : rounded num den = Nat.pow 2 precision
  · rw [nearest_of_full negative hfull, if_pos (by omega)]
  · rw [nearest_of_not_full negative hfull, if_pos h]

theorem rounded_of_overflow_le {num : Nat} (h : overflow ≤ num)
    (hmax : binade num 1 = maxExponent) : rounded num 1 = Nat.pow 2 precision := by
  have hquotient := quotient_binade_lt num 1
  have hround := roundDiv_le_succ num (Nat.pow 2 maxExponent.toNat)
  rw [rounded, hmax, scaled_of_nonneg num (by decide)]
  rw [hmax, scaled_of_nonneg num (by decide)] at hquotient
  have hup : Nat.pow 2 precision - 1 < roundDiv num (Nat.pow 2 maxExponent.toNat) := by
    refine lt_roundDiv (power_pos _) (by decide) ?_
    rw [power_maxExponent, Nat.mul_left_comm]
    exact Nat.mul_le_mul_left 2 h
  dsimp only at hquotient ⊢
  omega

theorem nearest_of_overflow_le (negative : Bool) {num : Nat} (h : overflow ≤ num) :
    nearest negative num 1 = .infinity negative := by
  have hlog := le_log2_of_overflow_le h
  have hprecision : precision ≤ num.log2 := by
    simp only [precision]
    omega
  have hbinade := binade_of_le_log2 hprecision
  by_cases hmax : binade num 1 = maxExponent
  · rw [nearest_of_full negative (rounded_of_overflow_le h hmax), hmax, if_pos (Int.lt_succ _)]
  · apply nearest_of_lt_binade
    simp only [maxExponent, precision] at hbinade hmax ⊢
    omega

-- An integer has no double from half a unit above the largest one on.
theorem ofInt?_eq_none_iff (n : Int) : ofInt? n = none ↔ 2 ^ 1024 - 2 ^ 970 ≤ n.natAbs := by
  rw [← overflow_eq]
  constructor
  · intro hnone
    refine Nat.le_of_not_lt fun hlt => ?_
    have hsome := isSome_ofInt?_of_lt hlt
    rw [hnone] at hsome
    cases hsome
  · intro h
    unfold ofInt?
    rw [nearest_of_overflow_le _ h]

theorem roundDiv_one (n : Nat) : roundDiv n 1 = n := by
  unfold roundDiv
  simp [Nat.mod_one]

-- What an integer is rounded to is an integer again.
theorem exists_roundedValue_eq (num : Nat) : ∃ k : Nat, roundedValue num 1 = k := by
  unfold roundedValue rounded
  generalize binade num 1 = exponent
  by_cases h : 0 ≤ exponent
  · rw [pow2, if_pos h, ← Nat.cast_mul]
    exact ⟨_, rfl⟩
  · refine ⟨num, ?_⟩
    have hscale : ((Nat.pow 2 (-exponent).toNat : Nat) : Rat) ≠ 0 :=
      Nat.cast_ne_zero.mpr (power_pos _).ne'
    rw [scaled, if_neg h, pow2, if_neg h, roundDiv_one, Nat.cast_mul, Rat.mkRat_eq_div,
      Int.cast_one, mul_one_div, mul_div_assoc, div_self hscale, mul_one]

-- The double nearest to an integer is an integer.
theorem isSome_toInt?_nearest {negative : Bool} {num : Nat}
    (h : ∀ sign, nearest negative num 1 ≠ .infinity sign) :
    (nearest negative num 1).toInt?.isSome := by
  obtain ⟨k, hk⟩ := exists_roundedValue_eq num
  rw [toInt?, toRat?_nearest h, hk]
  cases negative <;> simp

theorem isSome_toInt?_of_ofInt? {n : Int} {d : Double} (h : ofInt? n = some d) :
    d.toInt?.isSome := by
  unfold ofInt? at h
  split at h
  · cases h
  · rename_i hfinite
    rw [← Option.some.inj h]
    exact isSome_toInt?_nearest hfinite

end SwiftAudit.Double
