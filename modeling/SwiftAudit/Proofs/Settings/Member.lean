import SwiftAudit.Settings.Merge

namespace SwiftAudit

namespace ScalarSet

-- No two members are equal.
def IsDistinct (set : ScalarSet) : Prop := (set.members.map Scalar.key).Nodup

theorem contains_iff (set : ScalarSet) (key : MemberKey) :
    set.contains key ↔ key ∈ set.members.map Scalar.key := by
  simp [contains, List.mem_map]

theorem contains_insert (set : ScalarSet) (scalar : Scalar) (key : MemberKey) :
    (set.insert scalar).contains key ↔ set.contains key ∨ scalar.key = key := by
  unfold insert
  split
  · rename_i hthere
    constructor
    · exact .inl
    · rintro (h | rfl)
      · exact h
      · exact hthere
  · simp [contains]

theorem contains_foldl_insert (set : ScalarSet) (scalars : List Scalar) (key : MemberKey) :
    (scalars.foldl insert set).contains key ↔
      set.contains key ∨ ∃ scalar ∈ scalars, scalar.key = key := by
  induction scalars generalizing set with
  | nil => simp
  | cons scalar rest ih =>
      rw [List.foldl_cons, ih, contains_insert, or_assoc]
      simp only [List.mem_cons, exists_eq_or_imp]

-- Which of several equal members is kept does not matter for what a set contains.
theorem contains_ofList (scalars : List Scalar) (key : MemberKey) :
    (ofList scalars).contains key ↔ ∃ scalar ∈ scalars, scalar.key = key := by
  rw [ofList, contains_foldl_insert]
  simp [contains]

theorem isDistinct_insert {set : ScalarSet} (h : set.IsDistinct) (scalar : Scalar) :
    (set.insert scalar).IsDistinct := by
  unfold insert
  split
  · exact h
  · rename_i hnew
    rw [contains_iff] at hnew
    rw [IsDistinct, List.map_append]
    refine List.nodup_append.mpr ⟨h, by simp, ?_⟩
    intro key hm other ho he
    cases List.mem_singleton.mp ho
    exact hnew (he ▸ hm)

theorem isDistinct_ofList (scalars : List Scalar) : (ofList scalars).IsDistinct := by
  have hfold (set : ScalarSet) (h : set.IsDistinct) : (scalars.foldl insert set).IsDistinct := by
    induction scalars generalizing set with
    | nil => exact h
    | cons scalar rest ih => exact ih _ (isDistinct_insert h scalar)
  exact hfold ⟨[]⟩ List.nodup_nil

theorem foldl_insert_of_nodup (set : ScalarSet) (scalars : List Scalar)
    (h : ((set.members ++ scalars).map Scalar.key).Nodup) :
    scalars.foldl insert set = ⟨set.members ++ scalars⟩ := by
  induction scalars generalizing set with
  | nil => rw [List.append_nil, List.foldl_nil]
  | cons scalar rest ih =>
      have hnew : ¬set.contains scalar.key := by
        rw [contains_iff]
        intro hm
        rw [List.map_append] at h
        exact (List.nodup_append.mp h).2.2 _ hm _ (by simp) rfl
      have hmembers : set.members ++ scalar :: rest = set.members ++ [scalar] ++ rest := by simp
      rw [hmembers] at h ⊢
      rw [List.foldl_cons, insert, if_neg hnew]
      exact ih ⟨set.members ++ [scalar]⟩ h

-- A list without equal members is the set it is read as.
theorem ofList_of_nodup (scalars : List Scalar) (h : (scalars.map Scalar.key).Nodup) :
    ofList scalars = ⟨scalars⟩ :=
  foldl_insert_of_nodup ⟨[]⟩ scalars h

end ScalarSet

namespace Settings

theorem mapM_ofJson?_toJson (scalars : List Scalar) :
    (scalars.map Scalar.toJson).mapM Scalar.ofJson? = some scalars := by
  induction scalars with
  | nil => rfl
  | cons scalar rest ih =>
      have hread : Scalar.ofJson? scalar.toJson = some scalar := by cases scalar <;> rfl
      rw [List.map_cons, List.mapM_cons, hread, ih]
      rfl

theorem readSet_toJson (key : CodeText) (scalars : List Scalar) :
    readSet key (.list (scalars.map Scalar.toJson)) = .ok (.ofList scalars) := by
  simp only [readSet, mapM_ofJson?_toJson]

end Settings

end SwiftAudit
