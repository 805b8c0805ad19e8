import SwiftAudit.Files
import SwiftAudit.Proofs.Assoc

namespace SwiftAudit.Files

variable (files : Files)

theorem isDirectory_iff (steps : List String) :
    files.isDirectory steps ↔ steps <+: files.base ∨
      ∃ path entry, (path, entry) ∈ files.entries ∧ steps <+: path ∧
        (steps.length < path.length ∨ entry = .directory) := by
  simp only [isDirectory, Bool.or_eq_true, List.isPrefixOf_iff_prefix, List.any_eq_true,
    Bool.and_eq_true, decide_eq_true_eq, Prod.exists]
  refine or_congr_right (exists₂_congr fun path entry => ?_)
  cases entry <;> simp

-- Above a directory stand directories.
theorem isDirectory_of_isPrefix {place steps : List String} (hplace : place <+: steps)
    (h : files.isDirectory steps) : files.isDirectory place := by
  rw [isDirectory_iff] at h ⊢
  rcases h with h | ⟨path, entry, hm, hsteps, hentry⟩
  · exact .inl (hplace.trans h)
  · refine .inr ⟨path, entry, hm, hplace.trans hsteps, ?_⟩
    rcases hentry with hlt | hentry
    · exact .inl (Nat.lt_of_le_of_lt hplace.length_le hlt)
    · exact .inr hentry

theorem find_eq_directory_iff (steps : List String) :
    files.find steps = .directory ↔ files.isDirectory steps := by
  unfold find
  split
  · simp [*]
  · split <;> simp [*]

-- A path that leads somewhere has gone through directories.
theorem isDirectory_dropLast_of_targetFrom {here steps place : List String}
    (hhere : files.isDirectory here.dropLast) (h : files.targetFrom here steps = .found place) :
    files.isDirectory place.dropLast := by
  induction steps generalizing here with
  | nil =>
      cases h
      exact hhere
  | cons step rest ih =>
      rw [targetFrom] at h
      split at h
      · rename_i hfind
        refine ih ?_ h
        split
        · exact files.isDirectory_of_isPrefix (List.dropLast_prefix _) hhere
        · rw [List.dropLast_concat]
          exact (files.find_eq_directory_iff here).mp hfind
      · cases h
      · cases h

theorem target_eq_found_iff (path : Path) (place : List String) :
    files.target path = .found place ↔ path.hasNull = false ∧
      files.targetFrom (if path.root.isEmpty then files.base else []) path.steps =
        .found place := by
  unfold target
  split <;> simp [*]

theorem target_ne_invalid {path : Path} (h : ¬path.hasNull) : files.target path ≠ .invalid := by
  have hfrom (here steps : List String) : files.targetFrom here steps ≠ .invalid := by
    induction steps generalizing here with
    | nil => nofun
    | cons step rest ih =>
        rw [targetFrom]
        split
        · exact ih _
        · nofun
        · nofun
  rw [target, if_neg h]
  exact hfrom _ _

theorem isDirectory_dropLast_of_target {path : Path} {place : List String}
    (h : files.target path = .found place) : files.isDirectory place.dropLast := by
  refine files.isDirectory_dropLast_of_targetFrom ?_ ((files.target_eq_found_iff path place).mp h).2
  rw [isDirectory_iff]
  split
  · exact .inl (List.dropLast_prefix _)
  · exact .inl List.nil_prefix

-- A path leads where it did as long as the directories it goes through are still there.
theorem targetFrom_mono {other : Files} (h : ∀ place, files.isDirectory place →
    other.isDirectory place) {here steps place : List String}
    (htarget : files.targetFrom here steps = .found place) :
    other.targetFrom here steps = .found place := by
  induction steps generalizing here with
  | nil => exact htarget
  | cons step rest ih =>
      rw [targetFrom] at htarget ⊢
      split at htarget
      · rename_i hfind
        have hdirectory := h here ((files.find_eq_directory_iff here).mp hfind)
        rw [(other.find_eq_directory_iff here).mpr hdirectory]
        exact ih htarget
      · cases htarget
      · cases htarget

section Put

variable {steps : List String} (bytes : List UInt8) (tree : Tree)

-- A file that is put into a directory makes no directories and removes none.
theorem isDirectory_put (hparent : files.isDirectory steps.dropLast)
    (hfree : files.isDirectory steps = false) (place : List String) :
    (files.put steps (.file bytes tree)).isDirectory place = files.isDirectory place := by
  rw [Bool.eq_iff_iff]
  constructor
  · intro h
    obtain h | ⟨path, entry, hm, hplace, hentry⟩ := (isDirectory_iff _ place).mp h
    · exact (files.isDirectory_iff place).mpr (.inl h)
    · rcases List.mem_append.mp hm with hm | hm
      · exact (files.isDirectory_iff place).mpr
          (.inr ⟨path, entry, (List.mem_filter.mp hm).1, hplace, hentry⟩)
      · obtain ⟨rfl, rfl⟩ := Prod.mk.inj (List.mem_singleton.mp hm)
        have hlt : place.length < path.length := hentry.resolve_right nofun
        refine files.isDirectory_of_isPrefix ?_ hparent
        refine List.prefix_of_prefix_length_le hplace (List.dropLast_prefix path) ?_
        rw [List.length_dropLast]
        omega
  · intro h
    have hne : place ≠ steps := by
      rintro rfl
      exact absurd h (by simp [hfree])
    obtain hbase | ⟨path, entry, hm, hplace, hentry⟩ := (files.isDirectory_iff place).mp h
    · exact (isDirectory_iff _ place).mpr (.inl hbase)
    · refine (isDirectory_iff _ place).mpr (.inr ?_)
      by_cases hpath : path = steps
      · subst hpath
        have hlt : place.length < path.length :=
          Nat.lt_of_le_of_ne hplace.length_le fun hlen => hne (hplace.eq_of_length hlen)
        exact ⟨path, _, List.mem_append_right _ List.mem_cons_self, hplace, .inl hlt⟩
      · have hkept : (path, entry) ∈ files.entries.filter (·.1 != steps) := by
          simp [hm, hpath]
        exact ⟨path, entry, List.mem_append_left _ hkept, hplace, hentry⟩

theorem lookup_entries_put (entry : Entry) (place : List String) :
    (files.put steps entry).entries.lookup place =
      if place = steps then some entry else files.entries.lookup place := by
  change (files.entries.filter (·.1 != steps) ++ [(steps, entry)]).lookup place = _
  induction files.entries with
  | nil =>
      split
      · rename_i h
        rw [h]
        exact List.lookup_cons_self
      · rename_i h
        exact Assoc.lookup_cons_of_ne h entry []
  | cons first rest ih =>
      obtain ⟨path, old⟩ := first
      by_cases hpath : path = steps
      · subst hpath
        rw [List.filter_cons_of_neg (by simp), ih]
        split
        · rfl
        · rename_i h
          rw [Assoc.lookup_cons_of_ne h]
      · rw [List.filter_cons_of_pos (by simpa using hpath), List.cons_append]
        by_cases hplace : place = path
        · subst hplace
          rw [List.lookup_cons_self, List.lookup_cons_self, if_neg hpath]
        · rw [Assoc.lookup_cons_of_ne hplace, Assoc.lookup_cons_of_ne hplace, ih]

theorem find_put_self (hparent : files.isDirectory steps.dropLast)
    (hfree : files.isDirectory steps = false) :
    (files.put steps (.file bytes tree)).find steps = .file bytes tree := by
  rw [find, files.isDirectory_put bytes tree hparent hfree, hfree, lookup_entries_put, if_pos rfl]
  rfl

theorem find_put_of_ne (hparent : files.isDirectory steps.dropLast)
    (hfree : files.isDirectory steps = false) {place : List String} (hne : place ≠ steps) :
    (files.put steps (.file bytes tree)).find place = files.find place := by
  rw [find, find, files.isDirectory_put bytes tree hparent hfree, lookup_entries_put, if_neg hne]

end Put

-- A file can be written where the path leads through directories to something that is none.
def IsWritable (path : Path) : Prop :=
  ∃ steps, files.target path = .found steps ∧ files.isDirectory steps = false

-- What a file that was written makes of the others: the path leads to it, and at all other places
-- everything is as it was.
structure IsWritten (written : Files) (path : Path) (bytes : List UInt8) : Prop where
  base : written.base = files.base
  lookup : written.lookup path = .file bytes .unparsed
  elsewhere (place : List String) : files.target path ≠ .found place →
    written.find place = files.find place

theorem exists_write_eq_ok (path : Path) (bytes : List UInt8) (h : files.IsWritable path) :
    ∃ written, files.write path bytes = .ok written ∧ files.IsWritten written path bytes := by
  obtain ⟨steps, htarget, hfree⟩ := h
  have hparent := files.isDirectory_dropLast_of_target htarget
  have hnotDirectory : files.find steps ≠ .directory := by
    simp [find_eq_directory_iff, hfree]
  refine ⟨files.put steps (.file bytes .unparsed), ?_, rfl, ?_, ?_⟩
  · rw [write, htarget]
    dsimp only
    split
    · exact absurd ‹_› hnotDirectory
    · rfl
  · obtain ⟨hnull, hfrom⟩ := (files.target_eq_found_iff path steps).mp htarget
    have hsame : (files.put steps (.file bytes .unparsed)).target path = .found steps :=
      (target_eq_found_iff _ path steps).mpr ⟨hnull, files.targetFrom_mono
        (fun place h => (files.isDirectory_put bytes .unparsed hparent hfree place).trans h) hfrom⟩
    rw [Files.lookup, hsame]
    exact files.find_put_self bytes .unparsed hparent hfree
  · intro place hplace
    refine files.find_put_of_ne bytes .unparsed hparent hfree ?_
    rintro rfl
    exact hplace htarget

theorem write_of_hasNull {path : Path} (h : path.hasNull) (bytes : List UInt8) :
    files.write path bytes = .error (.broken .nullInPath) := by
  rw [write, target, if_pos h]

theorem exists_write_eq_refused {path : Path} (hnull : ¬path.hasNull) (h : ¬files.IsWritable path)
    (bytes : List UInt8) : ∃ error, files.write path bytes = .error (.refused error) := by
  unfold write
  split
  · exact absurd ‹_› (files.target_ne_invalid hnull)
  · rename_i steps htarget
    split
    · exact ⟨_, rfl⟩
    · rename_i hfind
      have hfree : files.isDirectory steps = false := by
        rw [← Bool.not_eq_true, ← find_eq_directory_iff]
        exact hfind
      exact absurd ⟨steps, htarget, hfree⟩ h
  · exact ⟨_, rfl⟩
  · exact ⟨_, rfl⟩

end SwiftAudit.Files
