import Mathlib.Data.List.Perm.Basic

-- Facts on sorted lists that several parts share.
namespace SwiftAudit

-- Keys that are distinct are sorted strictly.
theorem pairwise_lt_mergeSort {κ : Type} [LE κ] [LT κ] [DecidableLE κ] [Std.IsLinearOrder κ]
    [Std.LawfulOrderLT κ] (keys : List κ) (h : keys.Nodup) :
    (keys.mergeSort (· ≤ ·)).Pairwise (· < ·) := by
  have hle : (keys.mergeSort (· ≤ ·)).Pairwise (· ≤ ·) := by
    have hsorted : (keys.mergeSort (· ≤ ·)).Pairwise fun a b => decide (a ≤ b) :=
      List.pairwise_mergeSort (by simpa using fun _ _ _ => Std.le_trans)
        (by simpa using fun _ _ => Std.le_total) keys
    simpa only [decide_eq_true_eq] using hsorted
  have hne : (keys.mergeSort (· ≤ ·)).Nodup := (List.mergeSort_perm keys _).nodup_iff.mpr h
  exact hle.imp₂ (fun _ _ => Std.lt_of_le_of_ne) hne

section Stability

variable {α κ : Type} [DecidableEq κ] {key : α → κ} {le : α → α → Bool}

variable (key) in
-- Sorting leaves items in their order that have the same key.
theorem filter_mergeSort (htrans : ∀ a b c, le a b → le b c → le a c)
    (htotal : ∀ a b, le a b || le b a) (htie : ∀ a b, key a = key b → le a b) (items : List α)
    (k : κ) : (items.mergeSort le).filter (key · = k) = items.filter (key · = k) := by
  have hsorted : (items.filter (key · = k)).Pairwise (le · ·) := by
    apply List.pairwise_of_forall_mem_list
    intro a ha b hb
    have hkey : key a = k := by simpa using (List.mem_filter.mp ha).2
    have hkey' : key b = k := by simpa using (List.mem_filter.mp hb).2
    exact htie a b (hkey.trans hkey'.symm)
  have hsublist := List.sublist_mergeSort htrans htotal hsorted List.filter_sublist
  have hkept := hsublist.filter (key · = k)
  rw [List.filter_filter] at hkept
  simp only [Bool.and_self] at hkept
  have hlength := ((List.mergeSort_perm items le).filter (key · = k)).length_eq
  exact (hkept.eq_of_length hlength.symm).symm

theorem mem_iff_of_filter_key_eq {as bs : List α}
    (h : ∀ k, as.filter (key · = k) = bs.filter (key · = k)) (a : α) : a ∈ as ↔ a ∈ bs := by
  have hmem : a ∈ as.filter (key · = key a) ↔ a ∈ bs.filter (key · = key a) := by rw [h]
  simpa using hmem

theorem filter_eq_of_filter_cons_eq {p : α → Bool} {a : α} {as bs : List α}
    (h : (a :: as).filter p = (a :: bs).filter p) : as.filter p = bs.filter p := by
  by_cases hp : p a
  · rw [List.filter_cons_of_pos hp, List.filter_cons_of_pos hp] at h
    exact (List.cons.inj h).2
  · rwa [List.filter_cons_of_neg hp, List.filter_cons_of_neg hp] at h

-- Two items that stand in front of each other are equal in the order, and so they have one key.
theorem head_eq_of_filter_key_eq (hantisymm : ∀ a b, le a b → le b a → key a = key b) {a b : α}
    {as bs : List α} (ha : ∀ other ∈ as, le a other) (hb : ∀ other ∈ bs, le b other)
    (h : ∀ k, (a :: as).filter (key · = k) = (b :: bs).filter (key · = k)) : a = b := by
  have hab := (mem_iff_of_filter_key_eq h a).mp List.mem_cons_self
  have hba := (mem_iff_of_filter_key_eq h b).mpr List.mem_cons_self
  rcases List.mem_cons.mp hab with rfl | hab
  · rfl
  · rcases List.mem_cons.mp hba with rfl | hba
    · rfl
    · have hkey : key a = key b := hantisymm a b (ha b hba) (hb a hab)
      have hsame := h (key a)
      rw [List.filter_cons_of_pos (by simp), List.filter_cons_of_pos (by simp [hkey])] at hsame
      exact (List.cons.inj hsame).1

-- A sorted list is determined by its items of each key, if items of different keys are never
-- equal in the order.
theorem eq_of_filter_key_eq (hantisymm : ∀ a b, le a b → le b a → key a = key b) {as bs : List α}
    (has : as.Pairwise (le · ·)) (hbs : bs.Pairwise (le · ·))
    (h : ∀ k, as.filter (key · = k) = bs.filter (key · = k)) : as = bs := by
  induction as generalizing bs with
  | nil =>
      refine (List.eq_nil_iff_forall_not_mem.mpr fun b hb => ?_).symm
      exact List.not_mem_nil ((mem_iff_of_filter_key_eq h b).mpr hb)
  | cons a as ih =>
      cases bs with
      | nil => exact absurd ((mem_iff_of_filter_key_eq h a).mp List.mem_cons_self) List.not_mem_nil
      | cons b bs =>
          obtain ⟨ha, has⟩ := List.pairwise_cons.mp has
          obtain ⟨hb, hrest⟩ := List.pairwise_cons.mp hbs
          obtain rfl := head_eq_of_filter_key_eq hantisymm ha hb h
          rw [ih has hrest fun k => filter_eq_of_filter_cons_eq (h k)]

end Stability

end SwiftAudit
