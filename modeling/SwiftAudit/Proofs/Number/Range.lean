import Mathlib.Algebra.Order.Field.Rat
import Mathlib.Data.Rat.Cast.Order
import SwiftAudit.Number.Double

-- Doubles that are integers, and integers that have a double.
namespace SwiftAudit.Double

-- The bounds of the format on a finite double.
def Fits : Double → Prop
  | finite _ mantissa exponent =>
    mantissa < Nat.pow 2 precision ∧ minExponent ≤ exponent ∧ exponent ≤ maxExponent
  | _ => True

-- The integer that the largest finite double is.
def largest : Nat := (Nat.pow 2 precision - 1) * Nat.pow 2 maxExponent.toNat

theorem power_pos (k : Nat) : 0 < Nat.pow 2 k := Nat.two_pow_pos k

theorem power_mono {j k : Nat} (h : j ≤ k) : Nat.pow 2 j ≤ Nat.pow 2 k :=
  Nat.pow_le_pow_right Nat.two_pos h

theorem power_add (j k : Nat) : Nat.pow 2 (j + k) = Nat.pow 2 j * Nat.pow 2 k := Nat.pow_add 2 j k

-- Half a unit above the largest double. It rounds to the even neighbour, which is beyond.
def overflow : Nat := (2 * (Nat.pow 2 precision - 1) + 1) * Nat.pow 2 (maxExponent.toNat - 1)

theorem largest_lt_overflow : largest < overflow := by decide +kernel

-- A quotient that is less than half a unit above an integer is not rounded above it.
theorem roundDiv_le {n d k : Nat} (hd : 0 < d) (h : 2 * n < (2 * k + 1) * d) :
    roundDiv n d ≤ k := by
  have hparts := Nat.div_add_mod n d
  have hrest := Nat.mod_lt n hd
  rw [Nat.add_mul, Nat.mul_assoc, Nat.one_mul, Nat.mul_comm k] at h
  have hfloor : n / d ≤ k := by
    rw [← Nat.lt_succ_iff]
    refine Nat.lt_of_mul_lt_mul_left (a := d) ?_
    rw [Nat.mul_succ]
    omega
  unfold roundDiv
  dsimp only
  split
  · rename_i hup
    rcases Nat.lt_or_eq_of_le hfloor with hlt | heq
    · exact hlt
    · rw [heq] at hparts
      simp only [gt_iff_lt, Bool.or_eq_true, decide_eq_true_eq, Bool.and_eq_true] at hup
      omega
  · exact hfloor

-- One that is half a unit above an odd integer, or more, is rounded above it.
theorem lt_roundDiv {n d k : Nat} (hd : 0 < d) (hodd : k % 2 = 1)
    (h : (2 * k + 1) * d ≤ 2 * n) : k < roundDiv n d := by
  have hparts := Nat.div_add_mod n d
  have hrest := Nat.mod_lt n hd
  rw [Nat.add_mul, Nat.mul_assoc, Nat.one_mul, Nat.mul_comm k] at h
  have hfloor : k ≤ n / d := by
    rw [← Nat.lt_succ_iff]
    refine Nat.lt_of_mul_lt_mul_left (a := d) ?_
    rw [Nat.mul_succ]
    omega
  unfold roundDiv
  dsimp only
  split
  · exact Nat.lt_succ_of_le hfloor
  · rename_i hdown
    rcases Nat.lt_or_eq_of_le hfloor with hlt | heq
    · exact hlt
    · rw [← heq] at hparts hdown
      simp only [gt_iff_lt, Bool.or_eq_true, decide_eq_true_eq, Bool.and_eq_true, hodd,
        and_true] at hdown
      omega

theorem log2_le_of_lt_overflow {num : Nat} (h : num < overflow) : num.log2 ≤ 1023 := by
  by_cases hz : num = 0
  · subst hz
    decide
  · have hlt : num < 2 ^ 1024 := Nat.lt_trans h (by decide +kernel)
    have hlog := (Nat.log2_lt hz).mpr hlt
    omega

theorem binade_le {num : Nat} (h : num < overflow) : binade num 1 ≤ maxExponent := by
  have hlog := log2_le_of_lt_overflow h
  have hone : Nat.log2 1 = 0 := by decide
  unfold binade
  dsimp only
  rw [hone]
  split <;> simp only [minExponent, maxExponent, precision] <;> omega

theorem scaled_of_nonneg (num : Nat) {exponent : Int} (h : 0 ≤ exponent) :
    scaled num 1 exponent = (num, Nat.pow 2 exponent.toNat) := by
  rw [scaled, if_pos h, Nat.one_mul]

theorem power_maxExponent :
    Nat.pow 2 maxExponent.toNat = 2 * Nat.pow 2 (maxExponent.toNat - 1) := by
  decide +kernel

-- What a quotient is rounded to in the units of its binade.
def rounded (num den : Nat) : Nat :=
  roundDiv (scaled num den (binade num den)).1 (scaled num den (binade num den)).2

-- A mantissa that overflows moves on to the next binade.
theorem nearest_of_full (negative : Bool) {num den : Nat}
    (h : rounded num den = Nat.pow 2 precision) :
    nearest negative num den =
      if binade num den + 1 > maxExponent then .infinity negative
      else .finite negative (Nat.pow 2 (precision - 1)) (binade num den + 1) := by
  rw [rounded] at h
  unfold nearest
  dsimp only
  rw [if_pos h]

theorem nearest_of_not_full (negative : Bool) {num den : Nat}
    (h : rounded num den ≠ Nat.pow 2 precision) :
    nearest negative num den =
      if binade num den > maxExponent then .infinity negative
      else .finite negative (rounded num den) (binade num den) := by
  rw [rounded] at h
  unfold nearest
  dsimp only
  rw [if_neg h]
  rfl

-- At the largest exponent the mantissa of such an integer does not overflow.
theorem rounded_ne_of_lt_overflow {num : Nat} (h : num < overflow)
    (hmax : binade num 1 = maxExponent) : rounded num 1 ≠ Nat.pow 2 precision := by
  have hround : roundDiv num (Nat.pow 2 maxExponent.toNat) ≤ Nat.pow 2 precision - 1 := by
    refine roundDiv_le (power_pos maxExponent.toNat) ?_
    rw [power_maxExponent, Nat.mul_left_comm]
    exact Nat.mul_lt_mul_of_pos_left h Nat.two_pos
  have hlast : Nat.pow 2 precision - 1 < Nat.pow 2 precision := by decide
  rw [rounded, hmax, scaled_of_nonneg num (by decide)]
  dsimp only
  exact Nat.ne_of_lt (Nat.lt_of_le_of_lt hround hlast)

theorem exists_nearest_finite (negative : Bool) {num : Nat} (h : num < overflow) :
    ∃ mantissa exponent, nearest negative num 1 = .finite negative mantissa exponent := by
  have hexp := binade_le h
  by_cases hfull : rounded num 1 = Nat.pow 2 precision
  · have hmax : binade num 1 ≠ maxExponent :=
      fun hmax => rounded_ne_of_lt_overflow h hmax hfull
    rw [nearest_of_full negative hfull, if_neg (by omega)]
    exact ⟨_, _, rfl⟩
  · rw [nearest_of_not_full negative hfull, if_neg (by omega)]
    exact ⟨_, _, rfl⟩

theorem isSome_ofInt?_of_lt {n : Int} (h : n.natAbs < overflow) : (ofInt? n).isSome := by
  unfold ofInt?
  obtain ⟨mantissa, exponent, hn⟩ := exists_nearest_finite _ h
  rw [hn]
  rfl

theorem isSome_ofInt? {n : Int} (h : n.natAbs ≤ largest) : (ofInt? n).isSome :=
  isSome_ofInt?_of_lt (Nat.lt_of_le_of_lt h largest_lt_overflow)

theorem toRat?_of_toInt? {d : Double} {n : Int} (h : d.toInt? = some n) :
    d.toRat? = some (n : Rat) := by
  unfold toInt? at h
  split at h
  · rename_i q hq
    split at h
    · rename_i hden
      cases h
      rw [hq, ← (Rat.den_eq_one_iff q).mp hden]
      rfl
    · cases h
  · cases h

theorem pow2_nonneg (exponent : Int) : 0 ≤ pow2 exponent := by
  unfold pow2
  split
  · exact Nat.cast_nonneg _
  · exact Rat.mkRat_nonneg (by decide) _

-- A double below the binades of integers is an integer only if it is a small one.
theorem natAbs_le_of_eq_mul_pow2 {k mantissa : Nat} {exponent : Int}
    (hmantissa : mantissa < Nat.pow 2 precision) (hexponent : exponent ≤ maxExponent)
    (h : (k : Rat) = (mantissa : Rat) * pow2 exponent) : k ≤ largest := by
  rw [largest]
  have hle : mantissa ≤ Nat.pow 2 precision - 1 := Nat.le_sub_one_of_lt hmantissa
  unfold pow2 at h
  split at h
  · have hk : k = mantissa * Nat.pow 2 exponent.toNat := by exact_mod_cast h
    rw [hk]
    exact Nat.mul_le_mul hle (power_mono (Int.toNat_le_toNat hexponent))
  · have hscale : ((Nat.pow 2 (-exponent).toNat : Nat) : Rat) ≠ 0 :=
      Nat.cast_ne_zero.mpr (power_pos _).ne'
    have hscaled : k * Nat.pow 2 (-exponent).toNat = mantissa := by
      rw [Rat.mkRat_eq_div, Int.cast_one, mul_one_div, eq_div_iff hscale] at h
      exact_mod_cast h
    calc
      k ≤ k * Nat.pow 2 (-exponent).toNat := Nat.le_mul_of_pos_right k (power_pos _)
      _ = mantissa := hscaled
      _ ≤ Nat.pow 2 precision - 1 := hle
      _ ≤ (Nat.pow 2 precision - 1) * Nat.pow 2 maxExponent.toNat :=
        Nat.le_mul_of_pos_right _ (power_pos _)

theorem natAbs_le_of_toInt? {d : Double} {n : Int} (hfits : d.Fits) (h : d.toInt? = some n) :
    n.natAbs ≤ largest := by
  have hvalue := toRat?_of_toInt? h
  cases d with
  | nan => cases hvalue
  | infinity negative => cases hvalue
  | finite negative mantissa exponent =>
      apply natAbs_le_of_eq_mul_pow2 hfits.1 hfits.2.2
      have hscale : 0 ≤ (mantissa : Rat) * pow2 exponent :=
        mul_nonneg (Nat.cast_nonneg mantissa) (pow2_nonneg exponent)
      rw [Nat.cast_natAbs, Int.cast_abs, ← Option.some.inj hvalue]
      cases negative with
      | false => exact abs_of_nonneg hscale
      | true => exact (abs_neg _).trans (abs_of_nonneg hscale)

-- The quotient has at most as many bits as the mantissa once the exponent makes up for the
-- logarithms.
theorem quotient_lt {num den : Nat} {exponent : Int}
    (h : (num.log2 : Int) - den.log2 + 1 ≤ exponent + precision) :
    (scaled num den exponent).1 / (scaled num den exponent).2 < Nat.pow 2 precision := by
  have hnum : num < Nat.pow 2 (num.log2 + 1) := Nat.lt_log2_self
  by_cases hz : den = 0
  · subst hz
    unfold scaled
    split
    · rw [Nat.zero_mul, Nat.div_zero]
      exact power_pos precision
    · rw [Nat.div_zero]
      exact power_pos precision
  have hden : Nat.pow 2 den.log2 ≤ den := Nat.log2_self_le hz
  unfold scaled
  split
  · rename_i hexp
    have hlog : num.log2 + 1 ≤ den.log2 + exponent.toNat + precision := by omega
    refine Nat.div_lt_of_lt_mul (Nat.lt_of_lt_of_le hnum ?_)
    calc
      Nat.pow 2 (num.log2 + 1) ≤ Nat.pow 2 (den.log2 + exponent.toNat + precision) :=
        power_mono hlog
      _ = Nat.pow 2 den.log2 * Nat.pow 2 exponent.toNat * Nat.pow 2 precision := by
        rw [power_add, power_add]
      _ ≤ den * Nat.pow 2 exponent.toNat * Nat.pow 2 precision :=
        Nat.mul_le_mul_right _ (Nat.mul_le_mul_right _ hden)
  · rename_i hexp
    have hlog : num.log2 + 1 + (-exponent).toNat ≤ den.log2 + precision := by omega
    refine Nat.div_lt_of_lt_mul ?_
    calc
      num * Nat.pow 2 (-exponent).toNat
          < Nat.pow 2 (num.log2 + 1) * Nat.pow 2 (-exponent).toNat :=
        Nat.mul_lt_mul_of_pos_right hnum (power_pos _)
      _ = Nat.pow 2 (num.log2 + 1 + (-exponent).toNat) := (power_add _ _).symm
      _ ≤ Nat.pow 2 (den.log2 + precision) := power_mono hlog
      _ = Nat.pow 2 den.log2 * Nat.pow 2 precision := power_add _ _
      _ ≤ den * Nat.pow 2 precision := Nat.mul_le_mul_right _ hden

theorem minExponent_le_binade (num den : Nat) : minExponent ≤ binade num den := by
  unfold binade
  dsimp only
  split <;> omega

theorem quotient_binade_lt (num den : Nat) :
    (scaled num den (binade num den)).1 / (scaled num den (binade num den)).2 <
      Nat.pow 2 precision := by
  unfold binade
  dsimp only
  split
  · assumption
  · apply quotient_lt
    omega

theorem roundDiv_le_succ (n d : Nat) : roundDiv n d ≤ n / d + 1 := by
  unfold roundDiv
  dsimp only
  split <;> omega

-- Whatever is rounded is a double of the format.
theorem fits_nearest (negative : Bool) (num den : Nat) : (nearest negative num den).Fits := by
  have hquotient := quotient_binade_lt num den
  have hround : rounded num den ≤ _ := roundDiv_le_succ _ _
  have hexp := minExponent_le_binade num den
  by_cases hfull : rounded num den = Nat.pow 2 precision
  · rw [nearest_of_full negative hfull]
    split
    · trivial
    · have hhalf : Nat.pow 2 (precision - 1) < Nat.pow 2 precision := by decide
      exact ⟨hhalf, by omega, by omega⟩
  · rw [nearest_of_not_full negative hfull]
    split
    · trivial
    · exact ⟨by omega, hexp, by omega⟩

theorem fits_ofDecimal (negative : Bool) (digits : Nat) (exponent : Int) :
    (ofDecimal negative digits exponent).Fits := by
  have hzero : (finite negative 0 minExponent).Fits := ⟨power_pos precision, by decide, by decide⟩
  unfold ofDecimal
  dsimp only
  split
  · exact hzero
  · split
    · trivial
    · split
      · exact hzero
      · split
        · exact fits_nearest _ _ _
        · exact fits_nearest _ _ _

end SwiftAudit.Double
