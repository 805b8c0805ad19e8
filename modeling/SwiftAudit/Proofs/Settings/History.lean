import Mathlib.Data.List.Perm.Basic
import SwiftAudit.Proofs.Number.Range
import SwiftAudit.Proofs.Settings.Kind
import SwiftAudit.Proofs.Settings.Member

namespace SwiftAudit

-- A number as a JSON text has it: its doubles are doubles of the format.
def Json.Fits : Json → Prop
  | .float d => d.Fits
  | _ => True

-- The same list in any order, or else the same value.
inductive Json.Reordered : Json → Json → Prop where
  | refl (value : Json) : Reordered value value
  | list {items other : List Json} (h : other.Perm items) : Reordered (.list items) (.list other)

-- A table that is given one object after the other. An object that is refused leaves it as
-- it is.
def Table.take (table entries : List (CodeText × Json)) : List (CodeText × Json) :=
  match merge table entries with
  | .ok changed => changed
  | .error _ => table

namespace Settings

def take (settings : Settings) (entries : List (CodeText × Json)) : Settings :=
  match settings.merge entries with
  | .ok changed => changed
  | .error _ => settings

def takeAll (settings : Settings) (objects : List (List (CodeText × Json))) : Settings :=
  objects.foldl take settings

-- What the defaults have and every object that is merged keeps.
structure IsSound (settings : Settings) : Prop where
  numbers : ∀ s, (Double.ofInt? (settings.number s)).isSome
  sets : ∀ s, (settings.set s).IsDistinct
  keys : (Assoc.keys settings.deprecatedApis).Nodup
  replacements : Assoc.keys replacements <+: Assoc.keys settings.deprecatedApis

theorem isSound_default : default.IsSound where
  numbers s := by cases s <;> decide
  sets s := by cases s <;> exact ScalarSet.isDistinct_ofList _
  keys := by decide
  replacements := List.prefix_refl _

theorem readNumber_int_eq_ok_iff (key : CodeText) (m n : Int) :
    readNumber key (.int m) = .ok n ↔ (Double.ofInt? m).isSome ∧ m = n := by
  unfold readNumber
  dsimp only
  generalize Double.ofInt? m = d
  cases d <;> simp

theorem readNumber_float_eq_ok_iff (key : CodeText) (d : Double) (n : Int) :
    readNumber key (.float d) = .ok n ↔ d.toInt? = some n := by
  unfold readNumber
  dsimp only
  generalize d.toInt? = m
  cases m <;> simp

-- A double that a number setting takes is not above the largest double, so that its integer
-- is taken as well.
theorem isSome_ofInt?_of_readNumber {key : CodeText} {value : Json} {n : Int} (hfits : value.Fits)
    (h : readNumber key value = .ok n) : (Double.ofInt? n).isSome := by
  cases value with
  | int m =>
      obtain ⟨hsome, rfl⟩ := (readNumber_int_eq_ok_iff key m n).mp h
      exact hsome
  | float d =>
      have hn := (readNumber_float_eq_ok_iff key d n).mp h
      exact Double.isSome_ofInt? (Double.natAbs_le_of_toInt? hfits hn)
  | _ => cases h

theorem isDistinct_of_readSet {key : CodeText} {value : Json} {set : ScalarSet}
    (h : readSet key value = .ok set) : set.IsDistinct := by
  unfold readSet at h
  split at h
  · split at h
    · cases h
      exact ScalarSet.isDistinct_ofList _
    · cases h
  · cases h

theorem IsSound.assign {settings changed : Settings} (hsound : settings.IsSound)
    {setting : Setting} {value : Json} (hfits : value.Fits)
    (h : settings.assign setting value = .ok changed) : changed.IsSound := by
  cases setting with
  | number s =>
      obtain ⟨n, hn, hc⟩ := exists_of_bind_eq_ok h
      cases hc
      refine { hsound with numbers := ?_ }
      intro other
      dsimp only
      split
      · exact isSome_ofInt?_of_readNumber hfits hn
      · exact hsound.numbers other
  | flag s =>
      obtain ⟨b, -, hc⟩ := exists_of_bind_eq_ok h
      cases hc
      exact { hsound with }
  | set s =>
      obtain ⟨members, hm, hc⟩ := exists_of_bind_eq_ok h
      cases hc
      refine { hsound with sets := ?_ }
      intro other
      dsimp only
      split
      · exact isDistinct_of_readSet hm
      · exact hsound.sets other
  | similarityThreshold =>
      obtain ⟨ratio, -, hc⟩ := exists_of_bind_eq_ok h
      cases hc
      exact { hsound with }
  | deprecatedApis =>
      obtain ⟨table, -, hc⟩ := exists_of_bind_eq_ok h
      cases hc
      refine { hsound with keys := ?_, replacements := ?_ }
      · exact Assoc.nodup_merge _ _ hsound.keys
      · exact hsound.replacements.trans (Assoc.keys_prefix_merge _ _)

theorem IsSound.merge {settings changed : Settings} (hsound : settings.IsSound)
    {entries : List (CodeText × Json)} (hfits : ∀ entry ∈ entries, entry.2.Fits)
    (h : settings.merge entries = .ok changed) : changed.IsSound := by
  refine foldlM_preserves assignKey IsSound entries ?_ hsound (foldlM_of_merge h)
  intro state next entry hm hstate hnext
  unfold assignKey at hnext
  split at hnext
  · exact hstate.assign (hfits entry hm) hnext
  · cases hnext

theorem IsSound.take {settings : Settings} (hsound : settings.IsSound)
    {entries : List (CodeText × Json)} (hfits : ∀ entry ∈ entries, entry.2.Fits) :
    (settings.take entries).IsSound := by
  unfold Settings.take
  split
  · rename_i changed h
    exact hsound.merge hfits h
  · exact hsound

theorem IsSound.takeAll {settings : Settings} (hsound : settings.IsSound)
    {objects : List (List (CodeText × Json))}
    (hfits : ∀ entries ∈ objects, ∀ entry ∈ entries, entry.2.Fits) :
    (settings.takeAll objects).IsSound := by
  induction objects generalizing settings with
  | nil => exact hsound
  | cons entries rest ih =>
      obtain ⟨hfirst, hrest⟩ := List.forall_mem_cons.mp hfits
      exact ih (hsound.take hfirst) hrest

theorem take_entries (settings : Settings) (entries : List (CodeText × Json)) :
    Table.take settings.entries entries = (settings.take entries).entries := by
  unfold Table.take take
  rw [merge_entries]
  cases settings.merge entries <;> rfl

theorem takeAll_entries (settings : Settings) (objects : List (List (CodeText × Json))) :
    objects.foldl Table.take settings.entries = (settings.takeAll objects).entries := by
  induction objects generalizing settings with
  | nil => rfl
  | cons entries rest ih =>
      rw [List.foldl_cons, take_entries, ih]
      rfl

theorem value_of_merge_of_notMem {settings changed : Settings} {entries : List (CodeText × Json)}
    (h : settings.merge entries = .ok changed) {setting : Setting}
    (hm : setting.key ∉ Assoc.keys entries) : changed.value setting = settings.value setting := by
  refine foldlM_preserves assignKey (fun state => state.value setting = settings.value setting)
    entries ?_ rfl (foldlM_of_merge h)
  intro state next entry he hstate hnext
  unfold assignKey at hnext
  split at hnext
  · rename_i found hfound
    have hne : setting ≠ found := by
      rintro rfl
      rw [Setting.key_of_ofKey? hfound] at hm
      exact hm (List.mem_map_of_mem he)
    rw [(value_of_assign hnext).2 setting hne, hstate]
  · cases hnext

theorem value_take_of_notMem (settings : Settings) {entries : List (CodeText × Json)}
    {setting : Setting} (hm : setting.key ∉ Assoc.keys entries) :
    (settings.take entries).value setting = settings.value setting := by
  unfold take
  split
  · rename_i changed h
    exact value_of_merge_of_notMem h hm
  · rfl

-- An object with all settings and their values, in any order.
structure IsListedBy (settings : Settings) (listed : List (CodeText × Json)) : Prop where
  keys : (Assoc.keys listed).Perm (Setting.all.map Setting.key)
  values : ∀ setting, ∃ value, listed.lookup setting.key = some value ∧
    (settings.value setting).Reordered value

-- The members of a set are read back from a list of them in any order.
theorem readSet_of_perm (key : CodeText) {set : ScalarSet} (hdistinct : set.IsDistinct)
    {items : List Json} (h : items.Perm (set.members.map Scalar.toJson)) :
    ∃ members : ScalarSet, readSet key (.list items) = .ok members ∧
      members.members.map Scalar.toJson = items := by
  have hcomp : Relation.Comp (· = List.map Scalar.toJson ·) (·.Perm ·) items set.members := by
    rwa [List.eq_map_comp_perm]
  obtain ⟨scalars, rfl, hperm⟩ := hcomp
  have hnodup : (scalars.map Scalar.key).Nodup :=
    (hperm.map Scalar.key).nodup_iff.mpr hdistinct
  refine ⟨⟨scalars⟩, ?_, rfl⟩
  rw [readSet_toJson, ScalarSet.ofList_of_nodup scalars hnodup]

theorem held?_of_reordered {settings : Settings} (hsound : settings.IsSound) (setting : Setting)
    {value : Json} (h : (settings.value setting).Reordered value) :
    setting.held? (default.value setting) value = some value := by
  cases setting with
  | number s =>
      cases h with
      | refl =>
          have hread := (readNumber_int_eq_ok_iff (Setting.number s).key (settings.number s)
            (settings.number s)).mpr ⟨hsound.numbers s, rfl⟩
          simp only [Setting.held?, Settings.value, hread]
  | flag s =>
      cases h with
      | refl => rfl
  | set s =>
      obtain ⟨items, rfl, hperm⟩ : ∃ items, value = .list items ∧
          items.Perm ((settings.set s).members.map Scalar.toJson) := by
        cases h with
        | refl => exact ⟨_, rfl, .refl _⟩
        | list hperm => exact ⟨_, rfl, hperm⟩
      obtain ⟨members, hread, hmembers⟩ :=
        readSet_of_perm (Setting.set s).key (hsound.sets s) hperm
      simp [Setting.held?, hread, hmembers]
  | similarityThreshold =>
      cases h with
      | refl => rfl
  | deprecatedApis =>
      cases h with
      | refl =>
          have hmerge := Assoc.merge_of_keys_prefix replacements settings.deprecatedApis
            hsound.keys hsound.replacements
          exact congrArg (fun table => some (Json.object table)) hmerge

-- Settings that are listed are read back over the defaults as they were listed.
theorem exists_merge_of_isListedBy {settings : Settings} (hsound : settings.IsSound)
    {listed : List (CodeText × Json)} (h : settings.IsListedBy listed) :
    ∃ back, default.merge listed = .ok back ∧
      ∀ setting, (settings.value setting).Reordered (back.value setting) := by
  have hkeys : (Assoc.keys listed).Nodup := h.keys.nodup_iff.mpr (by decide)
  have htaken : ∀ entry ∈ listed, IsTaken entry := by
    intro entry hm
    have hkey : entry.1 ∈ Setting.all.map Setting.key :=
      h.keys.mem_iff.mp (List.mem_map_of_mem hm)
    obtain ⟨setting, -, hkey⟩ := List.mem_map.mp hkey
    obtain ⟨value, hlookup, hvalue⟩ := h.values setting
    rw [hkey, Assoc.lookup_of_mem listed hkeys entry hm] at hlookup
    have hheld := held?_of_reordered hsound setting hvalue
    refine ⟨setting, hkey, ?_⟩
    rw [Option.some.inj hlookup, Setting.isSome_held? setting .null (default.value setting), hheld]
    rfl
  obtain ⟨back, hback⟩ := (exists_merge_iff default listed).mpr htaken
  refine ⟨back, hback, ?_⟩
  intro setting
  obtain ⟨value, hlookup, hvalue⟩ := h.values setting
  have hafter := value_of_foldlM hkeys (foldlM_of_merge hback) setting
  rw [hlookup, Setting.after?, held?_of_reordered hsound setting hvalue] at hafter
  rw [← Option.some.inj hafter]
  exact hvalue

-- Settings after any history of objects. Though the values that are held decide how new ones
-- are read, each keeps the kind of its default. No default replacement is lost, a setting that
-- an object does not name stays as it is, and settings that are listed are read back.
theorem takeAll_isReadBack (objects : List (List (CodeText × Json)))
    (hfits : ∀ entries ∈ objects, ∀ entry ∈ entries, entry.2.Fits) :
    let settings := default.takeAll objects
    (objects.foldl Table.take default.entries = settings.entries ∧
      Table.kinds (objects.foldl Table.take default.entries) = Table.kinds default.entries) ∧
    (∀ key ∈ Assoc.keys replacements, key ∈ Assoc.keys settings.deprecatedApis) ∧
    (∀ entries setting, setting.key ∉ Assoc.keys entries →
      (settings.take entries).value setting = settings.value setting) ∧
    ∀ listed, settings.IsListedBy listed → ∃ back, default.merge listed = .ok back ∧
      ∀ setting, (settings.value setting).Reordered (back.value setting) := by
  intro settings
  have hsound : settings.IsSound := isSound_default.takeAll hfits
  have htable : objects.foldl Table.take default.entries = settings.entries :=
    takeAll_entries default objects
  refine ⟨⟨htable, ?_⟩, fun key hm => hsound.replacements.subset hm,
    fun entries setting hm => value_take_of_notMem settings hm,
    fun listed hlisted => exists_merge_of_isListedBy hsound hlisted⟩
  rw [htable]
  exact kinds_entries settings default

-- The second of these objects is refused. The settings are listed last key first, with the
-- members of the sets in reverse.
theorem takeAll_isReadBack_reversed :
    let objects : List (List (CodeText × Json)) :=
      [[("max_blank_lines", Json.float (.ofDecimal false 12 0))],
      [("max_blank_lines", .bool true)],
      [("standard_macros", .list [.int 1, .bool true, .text "file"]),
        ("deprecated_apis", .object [("M_PI", .null), ("UIAlertView", .text "UIAlertController")])]]
    let settings := default.takeAll objects
    let listed := (settings.entries.map fun
      | (key, .list items) => (key, .list items.reverse)
      | entry => entry).reverse
    settings.number .maxBlankLines = 12 ∧
      (settings.set .standardMacros).members = [.int 1, .text "file"] ∧
      ∃ back, default.merge listed = .ok back ∧
        ∀ setting, (settings.value setting).Reordered (back.value setting) := by
  intro objects settings listed
  have hfits : ∀ entries ∈ objects, ∀ entry ∈ entries, entry.2.Fits := by
    simp only [objects, List.forall_mem_cons, List.not_mem_nil, false_implies, implies_true,
      and_true, Json.Fits]
    exact ⟨by decide, by decide, by decide⟩
  have hlisted : settings.IsListedBy listed := by
    constructor
    · decide
    · intro setting
      cases setting with
      | number s => cases s <;> exact ⟨_, rfl, .refl _⟩
      | flag s => cases s <;> exact ⟨_, rfl, .refl _⟩
      | set s => cases s <;> exact ⟨_, rfl, .list (List.reverse_perm _)⟩
      | similarityThreshold => exact ⟨_, rfl, .refl _⟩
      | deprecatedApis => exact ⟨_, rfl, .refl _⟩
  exact ⟨by decide +kernel, by decide +kernel,
    (takeAll_isReadBack objects hfits).2.2.2 listed hlisted⟩

end Settings

end SwiftAudit
