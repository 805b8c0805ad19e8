import Mathlib.Algebra.Order.Field.Basic
import Mathlib.Data.Rat.Cast.Order
import Mathlib.Tactic.FieldSimp
import Mathlib.Tactic.Linarith
import Mathlib.Tactic.NormNum
import SwiftAudit.Proofs.Number.Range

-- How far a quotient is from the double that stands for it.
namespace SwiftAudit.Double

theorem pow2_eq_zpow (exponent : Int) : pow2 exponent = (2 : Rat) ^ exponent := by
  unfold pow2
  split
  · rename_i h
    lift exponent to Nat using h
    rw [Int.toNat_natCast, zpow_natCast]
    exact Nat.cast_pow 2 exponent
  · rename_i h
    obtain ⟨k, rfl⟩ : ∃ k : Nat, exponent = -(k : Int) := ⟨(-exponent).toNat, by omega⟩
    rw [neg_neg, Int.toNat_natCast, Rat.mkRat_eq_div, zpow_neg, zpow_natCast, Int.cast_one,
      one_div]
    exact congrArg _ (Nat.cast_pow 2 k)

-- Nothing is rounded by more than a half.
theorem abs_roundDiv_sub_le (n : Nat) {d : Nat} (hd : 0 < d) :
    |(roundDiv n d : Rat) - n / d| ≤ 1 / 2 := by
  have hparts := Nat.div_add_mod n d
  have hrest := Nat.mod_lt n hd
  have hsucc : (n / d + 1) * d = d * (n / d) + d := by rw [Nat.add_mul, Nat.one_mul, Nat.mul_comm]
  have hbounds : 2 * (roundDiv n d * d) ≤ 2 * n + d ∧ 2 * n ≤ 2 * (roundDiv n d * d) + d := by
    unfold roundDiv
    dsimp only
    split
    · rename_i hup
      simp only [gt_iff_lt, Bool.or_eq_true, decide_eq_true_eq, Bool.and_eq_true] at hup
      omega
    · rename_i hdown
      simp only [gt_iff_lt, Bool.or_eq_true, decide_eq_true_eq, Bool.and_eq_true, not_or] at hdown
      rw [Nat.mul_comm (n / d) d]
      omega
  have hd' : (0 : Rat) < d := Nat.cast_pos.mpr hd
  have hle : 2 * ((roundDiv n d : Rat) * d) ≤ 2 * n + d := by exact_mod_cast hbounds.1
  have hge : 2 * (n : Rat) ≤ 2 * (roundDiv n d * d) + d := by exact_mod_cast hbounds.2
  have hsub : (roundDiv n d : Rat) - n / d = (roundDiv n d * d - n) / d := by field_simp
  rw [hsub, abs_div, abs_of_pos hd', div_le_iff₀ hd', abs_le]
  constructor <;> linarith

theorem scaled_snd_pos (num : Nat) {den : Nat} (hden : 0 < den) (exponent : Int) :
    0 < (scaled num den exponent).2 := by
  unfold scaled
  split
  · exact Nat.mul_pos hden (power_pos _)
  · exact hden

theorem scaled_mul_pow2 (num : Nat) {den : Nat} (hden : 0 < den) (exponent : Int) :
    ((scaled num den exponent).1 : Rat) / (scaled num den exponent).2 * pow2 exponent =
      num / den := by
  have hpower (k : Nat) : ((Nat.pow 2 k : Nat) : Rat) ≠ 0 := Nat.cast_ne_zero.mpr (power_pos k).ne'
  have hden' : (den : Rat) ≠ 0 := Nat.cast_ne_zero.mpr hden.ne'
  unfold scaled pow2
  split
  · have hscale := hpower exponent.toNat
    dsimp only
    rw [Nat.cast_mul]
    field_simp
  · have hscale := hpower (-exponent).toNat
    dsimp only
    rw [Nat.cast_mul, Rat.mkRat_eq_div, Int.cast_one]
    field_simp

-- The value that a quotient is rounded to.
def roundedValue (num den : Nat) : Rat := rounded num den * pow2 (binade num den)

theorem abs_roundedValue_sub_le (num : Nat) {den : Nat} (hden : 0 < den) :
    |roundedValue num den - num / den| ≤ 1 / 2 * pow2 (binade num den) := by
  have hround := abs_roundDiv_sub_le (scaled num den (binade num den)).1
    (scaled_snd_pos num hden (binade num den))
  rw [roundedValue, ← scaled_mul_pow2 num hden (binade num den), ← sub_mul, abs_mul,
    abs_of_nonneg (pow2_nonneg _)]
  exact mul_le_mul_of_nonneg_right hround (pow2_nonneg _)

-- A finite double for a quotient has the rounded value, also where the mantissa overflows.
theorem toRat?_nearest {negative : Bool} {num den : Nat}
    (h : ∀ sign, nearest negative num den ≠ .infinity sign) :
    (nearest negative num den).toRat? =
      some (if negative then -roundedValue num den else roundedValue num den) := by
  by_cases hfull : rounded num den = Nat.pow 2 precision
  · rw [nearest_of_full negative hfull] at h ⊢
    split at h
    · exact absurd rfl (h negative)
    · rename_i hmax
      have hvalue : ((Nat.pow 2 (precision - 1) : Nat) : Rat) * pow2 (binade num den + 1) =
          roundedValue num den := by
        have hdouble : Nat.pow 2 precision = Nat.pow 2 (precision - 1) * 2 := by decide
        rw [roundedValue, hfull, hdouble, pow2_eq_zpow, pow2_eq_zpow, zpow_add_one₀ two_ne_zero,
          Nat.cast_mul, Nat.cast_two, mul_assoc, mul_comm (2 : Rat)]
      rw [if_neg hmax, toRat?, hvalue]
  · rw [nearest_of_not_full negative hfull] at h ⊢
    split at h
    · exact absurd rfl (h negative)
    · rename_i hmax
      rw [if_neg hmax, toRat?, roundedValue]

theorem nearest_ne_infinity {negative : Bool} {num den : Nat} (h : binade num den < maxExponent)
    (sign : Bool) : nearest negative num den ≠ .infinity sign := by
  intro hinfinite
  by_cases hfull : rounded num den = Nat.pow 2 precision
  · rw [nearest_of_full negative hfull, if_neg (by omega)] at hinfinite
    cases hinfinite
  · rw [nearest_of_not_full negative hfull, if_neg (by omega)] at hinfinite
    cases hinfinite

-- Quotients up to one are rounded to multiples of 2 ^ -52 or smaller units.
theorem binade_le_of_le {num den : Nat} (h : num ≤ den) : binade num den ≤ 1 - precision := by
  have hlog : num.log2 ≤ den.log2 := by
    by_cases hz : num = 0
    · rw [hz, Nat.log2_zero]
      exact Nat.zero_le _
    · have hpos : den ≠ 0 := by omega
      exact (Nat.le_log2 hpos).mpr ((Nat.log2_self_le hz).trans h)
  unfold binade
  dsimp only
  split <;> simp only [minExponent, precision] <;> omega

theorem roundedValue_le_one {num den : Nat} (hden : 0 < den) (h : num ≤ den) :
    roundedValue num den ≤ 1 := by
  have hbinade := binade_le_of_le h
  have hneg : ¬0 ≤ binade num den := by
    simp only [precision] at hbinade
    omega
  have hround : rounded num den ≤ Nat.pow 2 (-binade num den).toNat := by
    rw [rounded, scaled, if_neg hneg]
    apply roundDiv_le hden
    have hmul := Nat.mul_le_mul_right (Nat.pow 2 (-binade num den).toNat) h
    rw [Nat.add_mul, Nat.one_mul, Nat.mul_assoc, Nat.mul_comm _ den]
    omega
  have hscale : (0 : Rat) < (Nat.pow 2 (-binade num den).toNat : Nat) :=
    Nat.cast_pos.mpr (power_pos _)
  rw [roundedValue, pow2, if_neg hneg, Rat.mkRat_eq_div, Int.cast_one, mul_one_div,
    div_le_one hscale]
  exact Nat.cast_le.mpr hround

-- A quotient up to one has a double between zero and one that is off by half a unit at most.
theorem exists_nearest_ratio {num den : Nat} (hden : 0 < den) (h : num ≤ den) :
    ∃ r, (nearest false num den).toRat? = some r ∧ 0 ≤ r ∧ r ≤ 1 ∧
      |r - num / den| ≤ 1 / 2 ^ 53 := by
  have hbinade := binade_le_of_le h
  have hsmall : binade num den < maxExponent := by
    simp only [precision, maxExponent] at hbinade ⊢
    omega
  have hunit : pow2 (binade num den) ≤ 1 / 2 ^ 52 := by
    rw [pow2_eq_zpow, one_div, ← zpow_natCast, ← zpow_neg]
    exact zpow_le_zpow_right₀ one_le_two hbinade
  refine ⟨roundedValue num den, by rw [toRat?_nearest (nearest_ne_infinity hsmall)]; rfl,
    mul_nonneg (Nat.cast_nonneg _) (pow2_nonneg _), roundedValue_le_one hden h, ?_⟩
  calc
    |roundedValue num den - num / den| ≤ 1 / 2 * pow2 (binade num den) :=
      abs_roundedValue_sub_le num hden
    _ ≤ 1 / 2 * (1 / 2 ^ 52) := mul_le_mul_of_nonneg_left hunit one_half_pos.le
    _ = 1 / 2 ^ 53 := by norm_num

end SwiftAudit.Double
