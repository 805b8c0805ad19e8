import Mathlib.Algebra.BigOperators.Group.Finset.Basic
import Mathlib.Data.Multiset.UnionInter
import Mathlib.Tactic.Linarith
import Mathlib.Tactic.Positivity
import SwiftAudit.Proofs.Lists
import SwiftAudit.Proofs.Number.Order
import SwiftAudit.Proofs.Number.Rounding
import SwiftAudit.Rule.Similarity
import SwiftAudit.Settings.Basic

namespace SwiftAudit.Rule.Similarity

section Common

variable {a b : List Char}

-- The sum runs over the characters of the first text. The intersection has no others.
theorem common_eq_card (a b : List Char) :
    common a b = ((a : Multiset Char) ∩ (b : Multiset Char)).card := by
  have hcovers : ∀ c ∈ (a : Multiset Char) ∩ (b : Multiset Char), c ∈ a.eraseDups.toFinset := by
    intro c hc
    rw [List.mem_toFinset, List.mem_eraseDups]
    exact (Multiset.mem_inter.mp hc).1
  rw [common, ← List.sum_eq_foldr, ← List.sum_toFinset _ (nodup_eraseDups a),
    ← Multiset.sum_count_eq_card hcovers]
  simp only [Multiset.count_inter, Multiset.coe_count]

theorem common_comm (a b : List Char) : common a b = common b a := by
  rw [common_eq_card, common_eq_card, Multiset.inter_comm]

theorem common_le_left (a b : List Char) : common a b ≤ a.length := by
  rw [common_eq_card, ← Multiset.coe_card a]
  exact Multiset.card_le_card Multiset.inter_le_left

theorem common_le_min (a b : List Char) : common a b ≤ min a.length b.length :=
  le_min (common_le_left a b) (common_comm a b ▸ common_le_left b a)

theorem common_perm {a' b' : List Char} (ha : a'.Perm a) (hb : b'.Perm b) :
    common a' b' = common a b := by
  rw [common_eq_card, common_eq_card, Multiset.coe_eq_coe.mpr ha, Multiset.coe_eq_coe.mpr hb]

-- All characters are shared exactly by texts that differ in their order alone.
theorem common_eq_max_iff : common a b = max a.length b.length ↔ a.Perm b := by
  rw [← Multiset.coe_eq_coe]
  constructor
  · intro hmax
    have hleft : (a : Multiset Char) ∩ b = a :=
      Multiset.eq_of_le_of_card_le Multiset.inter_le_left <| by
        rw [← common_eq_card, hmax]
        exact le_max_left _ _
    have hright : (a : Multiset Char) ∩ b = b :=
      Multiset.eq_of_le_of_card_le Multiset.inter_le_right <| by
        rw [← common_eq_card, hmax]
        exact le_max_right _ _
    exact hleft.symm.trans hright
  · intro heq
    have hlength := congrArg Multiset.card heq
    rw [Multiset.coe_card, Multiset.coe_card] at hlength
    have hself : (a : Multiset Char) ∩ a = a :=
      le_antisymm Multiset.inter_le_left (Multiset.le_inter le_rfl le_rfl)
    rw [common_eq_card, ← heq, hself, Multiset.coe_card, ← hlength, max_self]

end Common

-- A text is more than twice as long as the other.
def IsCut (a b : List Char) : Prop := 2 * min a.length b.length < max a.length b.length

instance (a b : List Char) : Decidable (IsCut a b) := Nat.decLt _ _

-- The exact share of the longer text that is in both. Empty texts share all.
def overlap (a b : List Char) : Rat :=
  if max a.length b.length = 0 then 1 else common a b / (max a.length b.length : Nat)

-- What a similarity stands for.
def share (a b : List Char) : Rat := if IsCut a b then 0 else overlap a b

-- The similarity of texts as it would be with no cut.
def uncut (a b : List Char) : Double :=
  if max a.length b.length = 0 then .nearest false 1 1
  else .nearest false (common a b) (max a.length b.length)

section Share

variable {a b : List Char}

theorem common_le_max (a b : List Char) : common a b ≤ max a.length b.length :=
  (common_le_left a b).trans (le_max_left _ _)

theorem overlap_nonneg (a b : List Char) : 0 ≤ overlap a b := by
  unfold overlap
  split
  · exact zero_le_one
  · exact div_nonneg (Nat.cast_nonneg _) (Nat.cast_nonneg _)

theorem overlap_le_one (a b : List Char) : overlap a b ≤ 1 := by
  unfold overlap
  split
  · exact le_rfl
  · rename_i hlongest
    rw [div_le_one (Nat.cast_pos.mpr (Nat.pos_of_ne_zero hlongest))]
    exact Nat.cast_le.mpr (common_le_max a b)

-- Nothing is shared beyond the shorter text.
theorem IsCut.overlap_lt (h : IsCut a b) : overlap a b < 1 / 2 := by
  have hlongest : 0 < max a.length b.length := Nat.lt_of_le_of_lt (Nat.zero_le _) h
  have htwice : 2 * common a b < max a.length b.length :=
    Nat.lt_of_le_of_lt (Nat.mul_le_mul_left 2 (common_le_min a b)) h
  rw [overlap, if_neg hlongest.ne', div_lt_div_iff₀ (Nat.cast_pos.mpr hlongest) two_pos, one_mul,
    mul_comm]
  exact_mod_cast htwice

theorem le_share_iff {t : Rat} (ht : 1 / 2 ≤ t) : t ≤ share a b ↔ t ≤ overlap a b := by
  unfold share
  split
  · rename_i hcut
    have hoverlap := hcut.overlap_lt
    constructor
    · intro hzero
      linarith
    · intro hreached
      linarith
  · rfl

theorem toRat?_uncut (a b : List Char) :
    ∃ r, (uncut a b).toRat? = some r ∧ 0 ≤ r ∧ r ≤ 1 ∧ |r - overlap a b| ≤ 1 / 2 ^ 53 := by
  unfold uncut overlap
  split
  · refine ⟨1, by decide +kernel, zero_le_one, le_rfl, ?_⟩
    rw [sub_self, abs_zero]
    positivity
  · rename_i hlongest
    exact Double.exists_nearest_ratio (Nat.pos_of_ne_zero hlongest) (common_le_max a b)

theorem IsCut.similarity_eq (h : IsCut a b) : similarity a b = .zero := by
  have hlongest : max a.length b.length ≠ 0 := (Nat.lt_of_le_of_lt (Nat.zero_le _) h).ne'
  rw [similarity, if_neg hlongest]
  exact if_pos h

theorem similarity_of_not_isCut (h : ¬IsCut a b) : similarity a b = uncut a b := by
  rw [similarity, uncut]
  by_cases hlongest : max a.length b.length = 0
  · rw [if_pos hlongest, if_pos hlongest]
  · rw [if_neg hlongest, if_neg hlongest]
    exact if_neg h

theorem toRat?_similarity (a b : List Char) :
    ∃ r, (similarity a b).toRat? = some r ∧ 0 ≤ r ∧ r ≤ 1 ∧ |r - share a b| ≤ 1 / 2 ^ 53 := by
  unfold share
  split
  · rename_i hcut
    refine ⟨0, by rw [hcut.similarity_eq]; decide +kernel, le_rfl, zero_le_one, ?_⟩
    rw [sub_self, abs_zero]
    positivity
  · rename_i hcut
    rw [similarity_of_not_isCut hcut]
    exact toRat?_uncut a b

theorem similarity_comm (a b : List Char) : similarity a b = similarity b a := by
  rw [similarity, similarity, common_comm, max_comm, min_comm]

-- With a threshold above a half by the error of rounding, the cut has no effect on the doubles
-- themselves.
theorem le_similarity_iff {threshold : Double} {t : Rat} (hvalue : threshold.toRat? = some t)
    (ht : 1 / 2 + 1 / 2 ^ 53 ≤ t) : threshold.le (similarity a b) ↔ threshold.le (uncut a b) := by
  by_cases hcut : IsCut a b
  · obtain ⟨r, hr, -, -, herror⟩ := toRat?_uncut a b
    have hzero : (similarity a b).toRat? = some 0 := by rw [hcut.similarity_eq]; decide +kernel
    have hoverlap := hcut.overlap_lt
    have hbelow : r - overlap a b ≤ 1 / 2 ^ 53 := (le_abs_self _).trans herror
    have hpositive : (0 : Rat) < 1 / 2 ^ 53 := by positivity
    rw [Double.le_finite_iff hvalue hzero, Double.le_finite_iff hvalue hr]
    constructor
    · intro hreached
      linarith
    · intro hreached
      linarith
  · rw [similarity_of_not_isCut hcut]

end Share

theorem default_similarityThreshold :
    ∃ t, Settings.default.similarityThreshold.toRat? = some t ∧ 1 / 2 + 1 / 2 ^ 53 ≤ t :=
  ⟨7205759403792794 / 2 ^ 53, by decide +kernel, by decide +kernel⟩

-- The similarity is the shared part of the longer text, whichever order the texts and their
-- characters have. Where it is cut to zero the part is less than a half.
theorem similarity_isShare (a b : List Char) :
    common a b = ((a : Multiset Char) ∩ (b : Multiset Char)).card ∧
      common a b = common b a ∧ similarity a b = similarity b a ∧
      common a b ≤ min a.length b.length ∧
      (∀ a' b', a'.Perm a → b'.Perm b → common a' b' = common a b) ∧
      (common a b = max a.length b.length ↔ a.Perm b) ∧
      (a = [] ∧ b = [] → (similarity a b).toRat? = some 1) ∧
      (IsCut a b → (similarity a b).toRat? = some 0 ∧ overlap a b < 1 / 2) ∧
      (∃ r, (similarity a b).toRat? = some r ∧ 0 ≤ r ∧ r ≤ 1 ∧ |r - share a b| ≤ 1 / 2 ^ 53) ∧
      0 ≤ overlap a b ∧ overlap a b ≤ 1 ∧
      (∀ t, 1 / 2 ≤ t → (t ≤ share a b ↔ t ≤ overlap a b)) ∧
      (∀ (threshold : Double) (t : Rat), threshold.toRat? = some t → 1 / 2 + 1 / 2 ^ 53 ≤ t →
        (threshold.le (similarity a b) ↔ threshold.le (uncut a b))) ∧
      ∃ t, Settings.default.similarityThreshold.toRat? = some t ∧ 1 / 2 + 1 / 2 ^ 53 ≤ t := by
  refine ⟨common_eq_card a b, common_comm a b, similarity_comm a b, common_le_min a b,
    fun a' b' => common_perm, common_eq_max_iff, ?_, ?_, toRat?_similarity a b,
    overlap_nonneg a b, overlap_le_one a b, fun t => le_share_iff,
    fun threshold t => le_similarity_iff, default_similarityThreshold⟩
  · rintro ⟨rfl, rfl⟩
    decide +kernel
  · intro hcut
    exact ⟨by rw [hcut.similarity_eq]; decide +kernel, hcut.overlap_lt⟩

end SwiftAudit.Rule.Similarity
