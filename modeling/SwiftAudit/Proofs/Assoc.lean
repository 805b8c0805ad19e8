import SwiftAudit.Assoc
import SwiftAudit.Proofs.Lists

namespace SwiftAudit.Assoc

variable {κ α β : Type}

def keys (entries : List (κ × α)) : List κ := entries.map (·.1)

@[simp] theorem keys_nil : keys ([] : List (κ × α)) = [] := rfl

@[simp] theorem keys_cons (key : κ) (value : α) (rest : List (κ × α)) :
    keys ((key, value) :: rest) = key :: keys rest := rfl

variable [BEq κ]

theorem forall_mem_put (p : α → Prop) (key : κ) (value : α) (entries : List (κ × α))
    (hvalue : p value) (h : ∀ entry ∈ entries, p entry.2) :
    ∀ entry ∈ put key value entries, p entry.2 := by
  induction entries with
  | nil => exact List.forall_mem_cons.mpr ⟨hvalue, nofun⟩
  | cons entry rest ih =>
      obtain ⟨k, v⟩ := entry
      obtain ⟨hv, hrest⟩ := List.forall_mem_cons.mp h
      rw [put]
      split
      · exact List.forall_mem_cons.mpr ⟨hvalue, hrest⟩
      · exact List.forall_mem_cons.mpr ⟨hv, ih hrest⟩

theorem forall_mem_merge (p : α → Prop) (base updates : List (κ × α))
    (hbase : ∀ entry ∈ base, p entry.2) (hupdates : ∀ entry ∈ updates, p entry.2) :
    ∀ entry ∈ merge base updates, p entry.2 := by
  induction updates generalizing base with
  | nil => exact hbase
  | cons update rest ih =>
      obtain ⟨hupdate, hrest⟩ := List.forall_mem_cons.mp hupdates
      exact ih _ (forall_mem_put p update.1 update.2 base hupdate hbase) hrest

-- Entries are found and put by their keys alone, so a change of the values can be made before
-- or after.
section Map

variable (f : α → β)

theorem put_map (key : κ) (value : α) (entries : List (κ × α)) :
    put key (f value) (entries.map (Prod.map id f)) =
      (put key value entries).map (Prod.map id f) := by
  induction entries with
  | nil => rfl
  | cons entry rest ih =>
      obtain ⟨k, v⟩ := entry
      rw [List.map_cons, Prod.map_apply, put, put, ih, id_eq]
      split <;> rfl

theorem merge_map (base updates : List (κ × α)) :
    merge (base.map (Prod.map id f)) (updates.map (Prod.map id f)) =
      (merge base updates).map (Prod.map id f) := by
  induction updates generalizing base with
  | nil => rfl
  | cons update rest ih =>
      have hput := put_map f update.1 update.2 base
      have hrest := ih (put update.1 update.2 base)
      rw [← hput] at hrest
      exact hrest

theorem ofList_map (entries : List (κ × α)) :
    ofList (entries.map (Prod.map id f)) = (ofList entries).map (Prod.map id f) :=
  merge_map f [] entries

theorem lookup_map (key : κ) (entries : List (κ × α)) :
    (entries.map (Prod.map id f)).lookup key = (entries.lookup key).map f := by
  induction entries with
  | nil => rfl
  | cons entry rest ih =>
      obtain ⟨k, v⟩ := entry
      rw [List.map_cons, Prod.map_apply, id_eq, List.lookup_cons, List.lookup_cons, ih]
      split <;> rfl

theorem push_map (key : κ) (value : α) (groups : List (κ × List α)) :
    push key (f value) (groups.map (Prod.map id (List.map f))) =
      (push key value groups).map (Prod.map id (List.map f)) := by
  have hgroup : ((groups.map (Prod.map id (List.map f))).lookup key).getD [] ++ [f value] =
      ((groups.lookup key).getD [] ++ [value]).map f := by
    rw [lookup_map]
    cases groups.lookup key <;> simp
  rw [push, hgroup, put_map, push]

end Map

section Keys

variable [LawfulBEq κ]

theorem lookup_cons_of_ne {key other : κ} (h : key ≠ other) (value : α) (rest : List (κ × α)) :
    ((other, value) :: rest).lookup key = rest.lookup key := by
  rw [List.lookup_cons, beq_false_of_ne h]

theorem put_cons_self (key : κ) (old new : α) (rest : List (κ × α)) :
    put key new ((key, old) :: rest) = (key, new) :: rest := by
  rw [put, if_pos (beq_self_eq_true key)]

theorem put_cons_of_ne {key other : κ} (h : other ≠ key) (old new : α) (rest : List (κ × α)) :
    put key new ((other, old) :: rest) = (other, old) :: put key new rest := by
  rw [put, beq_false_of_ne h]
  rfl

theorem lookup_mapValues (f : κ → α → β) (key : κ) (entries : List (κ × α)) :
    (entries.map fun entry => (entry.1, f entry.1 entry.2)).lookup key =
      (entries.lookup key).map (f key) := by
  induction entries with
  | nil => rfl
  | cons entry rest ih =>
      obtain ⟨k, v⟩ := entry
      rw [List.map_cons]
      by_cases hk : key = k
      · subst hk
        rw [List.lookup_cons_self, List.lookup_cons_self, Option.map_some]
      · rw [lookup_cons_of_ne hk, lookup_cons_of_ne hk, ih]

theorem lookup_eq_none_iff (key : κ) (entries : List (κ × α)) :
    entries.lookup key = none ↔ key ∉ keys entries := by
  induction entries with
  | nil => simp
  | cons entry rest ih =>
      obtain ⟨k, v⟩ := entry
      by_cases hk : key = k
      · subst hk
        simp
      · rw [lookup_cons_of_ne hk, ih, keys_cons, List.mem_cons, not_or]
        exact ⟨fun h => ⟨hk, h⟩, fun h => h.2⟩

theorem lookup_put_self (key : κ) (value : α) (entries : List (κ × α)) :
    (put key value entries).lookup key = some value := by
  induction entries with
  | nil => rw [put, List.lookup_cons_self]
  | cons entry rest ih =>
      obtain ⟨k, v⟩ := entry
      by_cases hk : k = key
      · subst hk
        rw [put_cons_self, List.lookup_cons_self]
      · rw [put_cons_of_ne hk, lookup_cons_of_ne (Ne.symm hk), ih]

theorem lookup_put_of_ne {key other : κ} (h : other ≠ key) (value : α)
    (entries : List (κ × α)) : (put key value entries).lookup other = entries.lookup other := by
  induction entries with
  | nil => rw [put, lookup_cons_of_ne h]
  | cons entry rest ih =>
      obtain ⟨k, v⟩ := entry
      by_cases hk : k = key
      · subst hk
        rw [put_cons_self, lookup_cons_of_ne h, lookup_cons_of_ne h]
      · rw [put_cons_of_ne hk]
        by_cases ho : other = k
        · rw [ho, List.lookup_cons_self, List.lookup_cons_self]
        · rw [lookup_cons_of_ne ho, lookup_cons_of_ne ho, ih]

theorem mem_keys_put (key other : κ) (value : α) (entries : List (κ × α)) :
    other ∈ keys (put key value entries) ↔ other = key ∨ other ∈ keys entries := by
  induction entries with
  | nil => simp [put]
  | cons entry rest ih =>
      obtain ⟨k, v⟩ := entry
      by_cases hk : k = key
      · subst hk
        simp [put_cons_self]
      · rw [put_cons_of_ne hk, keys_cons, List.mem_cons, ih, keys_cons, List.mem_cons]
        exact or_left_comm

theorem mem_keys_merge (key : κ) (base updates : List (κ × α)) :
    key ∈ keys (merge base updates) ↔ key ∈ keys base ∨ key ∈ keys updates := by
  induction updates generalizing base with
  | nil => simp [merge]
  | cons update rest ih =>
      obtain ⟨k, v⟩ := update
      have h := ih (put k v base)
      rw [mem_keys_put, or_assoc] at h
      rw [keys_cons, List.mem_cons, or_left_comm]
      exact h

theorem nodup_put (key : κ) (value : α) (entries : List (κ × α)) (h : (keys entries).Nodup) :
    (keys (put key value entries)).Nodup := by
  induction entries with
  | nil => simp [put]
  | cons entry rest ih =>
      obtain ⟨k, v⟩ := entry
      obtain ⟨hnew, hrest⟩ := List.nodup_cons.mp h
      by_cases hk : k = key
      · subst hk
        rw [put_cons_self]
        exact h
      · rw [put_cons_of_ne hk, keys_cons]
        refine List.nodup_cons.mpr ⟨?_, ih hrest⟩
        rw [mem_keys_put]
        rintro (he | hm)
        · exact hk he
        · exact hnew hm

theorem nodup_merge (base updates : List (κ × α)) (h : (keys base).Nodup) :
    (keys (merge base updates)).Nodup := by
  induction updates generalizing base with
  | nil => exact h
  | cons update rest ih => exact ih (put update.1 update.2 base) (nodup_put _ _ base h)

-- An update is found before the base.
theorem lookup_merge (base updates : List (κ × α)) (h : (keys updates).Nodup) (key : κ) :
    (merge base updates).lookup key = (updates.lookup key).or (base.lookup key) := by
  induction updates generalizing base with
  | nil => rfl
  | cons update rest ih =>
      obtain ⟨k, v⟩ := update
      obtain ⟨hnew, hrest⟩ := List.nodup_cons.mp h
      have hmerge := ih (put k v base) hrest
      by_cases hk : key = k
      · subst hk
        rw [(lookup_eq_none_iff key rest).mpr hnew, lookup_put_self] at hmerge
        rw [List.lookup_cons_self]
        exact hmerge
      · rw [lookup_put_of_ne hk] at hmerge
        rw [lookup_cons_of_ne hk]
        exact hmerge

theorem put_put (key : κ) (first second : α) (entries : List (κ × α)) :
    put key second (put key first entries) = put key second entries := by
  induction entries with
  | nil => rw [put, put_cons_self, put]
  | cons entry rest ih =>
      obtain ⟨k, v⟩ := entry
      by_cases hk : k = key
      · subst hk
        rw [put_cons_self, put_cons_self, put_cons_self]
      · rw [put_cons_of_ne hk, put_cons_of_ne hk, put_cons_of_ne hk, ih]

-- A key that is there keeps its place, so it does not matter when its value is put.
theorem put_comm (key other : κ) (value otherValue : α) (entries : List (κ × α))
    (hne : key ≠ other) (hm : key ∈ keys entries) :
    put key value (put other otherValue entries) =
      put other otherValue (put key value entries) := by
  induction entries with
  | nil => cases hm
  | cons entry rest ih =>
      obtain ⟨k, v⟩ := entry
      by_cases hk : k = key
      · subst hk
        rw [put_cons_of_ne hne, put_cons_self, put_cons_self, put_cons_of_ne hne]
      · have hrest : key ∈ keys rest := by
          rcases List.mem_cons.mp hm with h | h
          · exact absurd h.symm hk
          · exact h
        by_cases ho : k = other
        · subst ho
          rw [put_cons_self, put_cons_of_ne hk, put_cons_of_ne hk, put_cons_self]
        · rw [put_cons_of_ne ho, put_cons_of_ne hk, put_cons_of_ne hk, put_cons_of_ne ho,
            ih hrest]

theorem put_merge (key : κ) (value : α) (base updates : List (κ × α))
    (hm : key ∈ keys base) (hnew : key ∉ keys updates) :
    put key value (merge base updates) = merge (put key value base) updates := by
  induction updates generalizing base with
  | nil => rfl
  | cons update rest ih =>
      obtain ⟨k, v⟩ := update
      have hk : key ≠ k := by
        intro h
        exact hnew (List.mem_cons.mpr (.inl h))
      have hrest : key ∉ keys rest := fun h => hnew (List.mem_cons_of_mem _ h)
      have h := ih (put k v base) ((mem_keys_put k key v base).mpr (.inr hm)) hrest
      rw [put_comm key k value v base hk hm] at h
      exact h

theorem merge_put (key : κ) (value : α) (base updates : List (κ × α))
    (h : (keys updates).Nodup) :
    merge base (put key value updates) = put key value (merge base updates) := by
  induction updates generalizing base with
  | nil => rfl
  | cons update rest ih =>
      obtain ⟨k, v⟩ := update
      obtain ⟨hnew, hrest⟩ := List.nodup_cons.mp h
      by_cases hk : k = key
      · subst hk
        have hm : k ∈ keys (put k v base) := (mem_keys_put k k v base).mpr (.inl rfl)
        have hput := put_merge k value (put k v base) rest hm hnew
        rw [put_put] at hput
        rw [put_cons_self]
        exact hput.symm
      · rw [put_cons_of_ne hk]
        exact ih (put k v base) hrest

-- Updates can be merged with each other first.
theorem merge_assoc (base first second : List (κ × α)) (h : (keys first).Nodup) :
    merge (merge base first) second = merge base (merge first second) := by
  induction second generalizing first with
  | nil => rfl
  | cons update rest ih =>
      obtain ⟨k, v⟩ := update
      have hrest := ih (put k v first) (nodup_put k v first h)
      rw [merge_put k v base first h] at hrest
      exact hrest

theorem put_of_lookup (key : κ) (value : α) (entries : List (κ × α))
    (h : entries.lookup key = some value) : put key value entries = entries := by
  induction entries with
  | nil => cases h
  | cons entry rest ih =>
      obtain ⟨k, v⟩ := entry
      by_cases hk : k = key
      · subst hk
        rw [List.lookup_cons_self] at h
        cases h
        exact put_cons_self _ _ _ _
      · rw [lookup_cons_of_ne (Ne.symm hk)] at h
        rw [put_cons_of_ne hk, ih h]

-- Updates that are there already change nothing.
theorem merge_of_lookup (base updates : List (κ × α))
    (h : ∀ update ∈ updates, base.lookup update.1 = some update.2) :
    merge base updates = base := by
  induction updates with
  | nil => rfl
  | cons update rest ih =>
      have hput := put_of_lookup update.1 update.2 base (h update List.mem_cons_self)
      have hrest := ih fun other hm => h other (List.mem_cons_of_mem _ hm)
      exact (congrArg (merge · rest) hput).trans hrest

theorem lookup_of_mem (entries : List (κ × α)) (h : (keys entries).Nodup) (entry : κ × α)
    (hm : entry ∈ entries) : entries.lookup entry.1 = some entry.2 := by
  induction entries with
  | nil => cases hm
  | cons head rest ih =>
      obtain ⟨k, v⟩ := head
      obtain ⟨hnew, hrest⟩ := List.nodup_cons.mp h
      rcases List.mem_cons.mp hm with rfl | hm
      · exact List.lookup_cons_self
      · have hkey : entry.1 ∈ keys rest := List.mem_map_of_mem hm
        have hne : entry.1 ≠ k := by
          rintro rfl
          exact hnew hkey
        rw [lookup_cons_of_ne hne, ih hrest hm]

theorem merge_merge_self (base updates : List (κ × α)) (h : (keys updates).Nodup) :
    merge (merge base updates) updates = merge base updates := by
  apply merge_of_lookup
  intro update hm
  rw [lookup_merge base updates h, lookup_of_mem updates h update hm, Option.some_or]

theorem keys_prefix_put (key : κ) (value : α) (entries : List (κ × α)) :
    keys entries <+: keys (put key value entries) := by
  induction entries with
  | nil => exact List.nil_prefix
  | cons entry rest ih =>
      obtain ⟨k, v⟩ := entry
      by_cases hk : k = key
      · subst hk
        rw [put_cons_self]
        exact List.prefix_refl _
      · rw [put_cons_of_ne hk, keys_cons, keys_cons]
        exact List.cons_prefix_cons.mpr ⟨rfl, ih⟩

-- Keys are never lost, and new ones come behind those that are there.
theorem keys_prefix_merge (base updates : List (κ × α)) :
    keys base <+: keys (merge base updates) := by
  induction updates generalizing base with
  | nil => exact List.prefix_refl _
  | cons update rest ih =>
      exact (keys_prefix_put update.1 update.2 base).trans (ih (put update.1 update.2 base))

theorem merge_cons_of_notMem (key : κ) (value : α) (base updates : List (κ × α))
    (h : key ∉ keys updates) :
    merge ((key, value) :: base) updates = (key, value) :: merge base updates := by
  induction updates generalizing base with
  | nil => rfl
  | cons update rest ih =>
      obtain ⟨k, v⟩ := update
      obtain ⟨hk, hrest⟩ := not_or.mp (mt List.mem_cons.mpr h)
      have hput := put_cons_of_ne hk value v base
      have hmerge := ih (put k v base) hrest
      rw [← hput] at hmerge
      exact hmerge

-- Updates that list the keys of the base first replace the base as a whole.
theorem merge_of_keys_prefix (base updates : List (κ × α)) (hkeys : (keys updates).Nodup)
    (h : keys base <+: keys updates) : merge base updates = updates := by
  induction updates generalizing base with
  | nil =>
      have hbase := List.map_eq_nil_iff.mp (List.prefix_nil.mp h)
      rw [hbase]
      rfl
  | cons update rest ih =>
      obtain ⟨k, v⟩ := update
      obtain ⟨hnew, hrest⟩ := List.nodup_cons.mp hkeys
      have hput : ∃ tail, put k v base = (k, v) :: tail ∧ keys tail <+: keys rest := by
        cases base with
        | nil => exact ⟨[], rfl, List.nil_prefix⟩
        | cons entry tail =>
            obtain ⟨other, old⟩ := entry
            obtain ⟨rfl, htail⟩ := List.cons_prefix_cons.mp h
            exact ⟨tail, put_cons_self _ _ _ _, htail⟩
      obtain ⟨tail, hput, htail⟩ := hput
      have hmerge := merge_cons_of_notMem k v tail rest hnew
      rw [← hput, ih tail hrest htail] at hmerge
      exact hmerge

-- The last of several updates under a key is the one that stays.
theorem lookup_merge_last (base updates : List (κ × α)) (key : κ) :
    (merge base updates).lookup key = (updates.reverse.lookup key).or (base.lookup key) := by
  induction updates generalizing base with
  | nil => simp [merge]
  | cons entry rest ih =>
      obtain ⟨k, v⟩ := entry
      have hmerge : merge base ((k, v) :: rest) = merge (put k v base) rest := rfl
      rw [hmerge, ih, List.reverse_cons, List.lookup_append, Option.or_assoc]
      by_cases hk : key = k
      · subst hk
        rw [lookup_put_self, List.lookup_cons_self, Option.some_or]
      · rw [lookup_put_of_ne hk, lookup_cons_of_ne hk, List.lookup_nil, Option.none_or]

theorem getD_lookup_push (key other : κ) (value : α) (groups : List (κ × List α)) :
    ((push key value groups).lookup other).getD [] =
      (groups.lookup other).getD [] ++ (if key == other then [value] else []) := by
  by_cases hk : other = key
  · subst hk
    rw [push, lookup_put_self, if_pos (beq_self_eq_true other)]
    rfl
  · rw [push, lookup_put_of_ne hk, beq_false_of_ne (Ne.symm hk), if_neg Bool.false_ne_true,
      List.append_nil]

theorem eq_of_key_eq (entries : List (κ × α)) (h : (keys entries).Nodup) {entry other : κ × α}
    (hm : entry ∈ entries) (ho : other ∈ entries) (hkey : entry.1 = other.1) : entry = other := by
  have hvalue := lookup_of_mem entries h entry hm
  rw [hkey, lookup_of_mem entries h other ho] at hvalue
  exact Prod.ext hkey (Option.some.inj hvalue).symm

-- Under distinct keys an entry is known to be among some by its key.
theorem mem_keys_filter_iff (entries : List (κ × α)) (h : (keys entries).Nodup)
    (p : κ × α → Bool) {entry : κ × α} (hm : entry ∈ entries) :
    entry.1 ∈ keys (entries.filter p) ↔ p entry := by
  constructor
  · intro hkey
    obtain ⟨other, ho, hkey⟩ := List.mem_map.mp hkey
    obtain ⟨hmem, hp⟩ := List.mem_filter.mp ho
    rwa [← eq_of_key_eq entries h hmem hm hkey]
  · intro hp
    exact List.mem_map_of_mem (List.mem_filter.mpr ⟨hm, hp⟩)

-- Under distinct keys an entry is alone under its key.
theorem filter_key_of_lookup (entries : List (κ × α)) (h : (keys entries).Nodup) {key : κ}
    {value : α} (hlookup : entries.lookup key = some value) :
    entries.filter (·.1 == key) = [(key, value)] := by
  induction entries with
  | nil => cases hlookup
  | cons entry rest ih =>
      obtain ⟨k, v⟩ := entry
      obtain ⟨hnew, hrest⟩ := List.nodup_cons.mp h
      by_cases hk : key = k
      · subst hk
        rw [List.lookup_cons_self] at hlookup
        cases hlookup
        rw [List.filter_cons, if_pos (beq_self_eq_true key), List.filter_eq_nil_iff.mpr]
        intro other hm heq
        have hkey : other.1 ∈ keys rest := List.mem_map_of_mem hm
        rw [eq_of_beq heq] at hkey
        exact hnew hkey
      · rw [lookup_cons_of_ne hk] at hlookup
        rw [List.filter_cons, if_neg (by simpa using Ne.symm hk), ih hrest hlookup]

theorem keys_put (key : κ) (value : α) (entries : List (κ × α)) :
    keys (put key value entries) = meet (keys entries) key := by
  induction entries with
  | nil => rfl
  | cons entry rest ih =>
      obtain ⟨k, v⟩ := entry
      by_cases hk : k = key
      · subst hk
        simp [put_cons_self, meet]
      · rw [put_cons_of_ne hk, keys_cons, ih, keys_cons, meet, meet]
        simp only [List.mem_cons, Ne.symm hk, false_or]
        split <;> rfl

-- Whatever is put under the keys of some items, the keys stand in the order in which they are
-- first met.
theorem keys_foldl_put {ι : Type} (key : ι → κ) (value : List (κ × α) → ι → α) (items : List ι) :
    keys (items.foldl (fun table item => put (key item) (value table item) table) []) =
      (items.map key).eraseDups := by
  have hmet (base : List (κ × α)) :
      keys (items.foldl (fun table item => put (key item) (value table item) table) base) =
        (items.map key).foldl meet (keys base) := by
    rw [List.foldl_map]
    exact (List.foldl_hom keys fun table item => (keys_put (key item) _ table).symm).symm
  rw [hmet, keys_nil, foldl_meet List.nodup_nil, List.nil_append]

theorem keys_ofList (entries : List (κ × α)) :
    keys (ofList entries) = (keys entries).eraseDups :=
  keys_foldl_put Prod.fst (fun _ entry => entry.2) entries

-- Under distinct keys a table is its keys with what is found under each.
theorem eq_map_keys (entries : List (κ × α)) (h : (keys entries).Nodup) (f : κ → α)
    (hf : ∀ key value, entries.lookup key = some value → f key = value) :
    entries = (keys entries).map fun key => (key, f key) := by
  rw [keys, List.map_map]
  refine (List.map_id entries).symm.trans (List.map_congr_left fun entry hm => ?_)
  have hlookup := lookup_of_mem entries h entry hm
  exact Prod.ext rfl (hf _ _ hlookup).symm

-- What is made of the entries can be made of the keys, each with what is found under it.
theorem filterMap_keys (entries : List (κ × α)) (h : (keys entries).Nodup)
    (g : κ → α → Option β) :
    (keys entries).filterMap (fun key => (entries.lookup key).bind (g key)) =
      entries.filterMap fun entry => g entry.1 entry.2 := by
  rw [keys, List.filterMap_map]
  apply List.filterMap_congr
  intro entry hm
  rw [Function.comp_apply, lookup_of_mem entries h entry hm, Option.bind_some]

section Groups

variable (key : α → κ) (items : List α)

theorem getD_lookup_foldl_push (groups : List (κ × List α)) (k : κ) :
    ((items.foldl (fun groups item => push (key item) item groups) groups).lookup k).getD [] =
      (groups.lookup k).getD [] ++ items.filter (key · == k) := by
  induction items generalizing groups with
  | nil => rw [List.foldl_nil, List.filter_nil, List.append_nil]
  | cons item rest ih =>
      rw [List.foldl_cons, ih, getD_lookup_push, List.append_assoc, List.filter_cons]
      split <;> rfl

-- Items in groups are the items of each key, the keys in the order in which they are first met.
theorem foldl_push :
    items.foldl (fun groups item => push (key item) item groups) [] =
      (items.map key).eraseDups.map fun k => (k, items.filter (key · == k)) := by
  have hkeys : keys (items.foldl (fun groups item => push (key item) item groups) []) =
      (items.map key).eraseDups :=
    keys_foldl_put key (fun groups item => (groups.lookup (key item)).getD [] ++ [item]) items
  have hlookup := getD_lookup_foldl_push key items []
  rw [← hkeys]
  apply eq_map_keys
  · rw [hkeys]
    exact nodup_eraseDups _
  · intro k group hgroup
    have hitems := hlookup k
    rw [hgroup] at hitems
    exact hitems.symm

end Groups

end Keys

end SwiftAudit.Assoc
