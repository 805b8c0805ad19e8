import SwiftAudit.Proofs.Assoc
import SwiftAudit.Proofs.Except
import SwiftAudit.Settings.Merge

namespace SwiftAudit

namespace Setting

theorem ofKey?_key (setting : Setting) : ofKey? setting.key = some setting := by
  cases setting with
  | number s => cases s <;> decide
  | flag s => cases s <;> decide
  | set s => cases s <;> decide
  | similarityThreshold => decide
  | deprecatedApis => decide

theorem key_of_ofKey? {key : CodeText} {setting : Setting} (h : ofKey? key = some setting) :
    setting.key = key := by
  have hfound := List.find?_some h
  exact eq_of_beq hfound

theorem key_inj {a b : Setting} (h : a.key = b.key) : a = b := by
  have hfound := ofKey?_key a
  rw [h, ofKey?_key] at hfound
  exact (Option.some.inj hfound).symm

-- The entries of a table as a setting holds it.
def tableOf : Json → List (CodeText × Json)
  | .object entries => entries
  | _ => []

-- What a setting holds once a value is read into it, or nothing if the value is not of its
-- kind. Only the table depends on what was held before.
def held? (old value : Json) : Setting → Option Json
  | number s =>
    match Settings.readNumber (number s).key value with
    | .ok n => some (.int n)
    | .error _ => none
  | flag s =>
    match Settings.readFlag (flag s).key value with
    | .ok b => some (.bool b)
    | .error _ => none
  | set s =>
    match Settings.readSet (set s).key value with
    | .ok members => some (.list (members.members.map Scalar.toJson))
    | .error _ => none
  | similarityThreshold =>
    match Settings.readRatio similarityThreshold.key value with
    | .ok ratio => some (.float ratio)
    | .error _ => none
  | deprecatedApis =>
    match Settings.readTable deprecatedApis.key value with
    | .ok table => some (.object (Assoc.merge (tableOf old) table))
    | .error _ => none

-- What a setting holds after an object that may have a value for it.
def after? (setting : Setting) (old : Json) : Option Json → Option Json
  | none => some old
  | some value => setting.held? old value

@[simp] theorem tableOf_object (entries : List (CodeText × Json)) :
    tableOf (.object entries) = entries := rfl

@[simp] theorem held?_table (old : Json) (added : List (CodeText × Json)) :
    deprecatedApis.held? old (.object added) =
      some (.object (Assoc.merge (tableOf old) added)) := rfl

theorem held?_of_ne {setting : Setting} (h : setting ≠ deprecatedApis) (old other value : Json) :
    setting.held? old value = setting.held? other value := by
  cases setting with
  | deprecatedApis => exact absurd rfl h
  | number s => rfl
  | flag s => rfl
  | set s => rfl
  | similarityThreshold => rfl

-- Whether a value is of the right kind does not depend on what was held before.
theorem isSome_held? (setting : Setting) (old other value : Json) :
    (setting.held? old value).isSome = (setting.held? other value).isSome := by
  by_cases h : setting = deprecatedApis
  · subst h
    cases value <;> rfl
  · rw [held?_of_ne h old other]

end Setting

namespace Settings

theorem toJson_inj {a b : Scalar} (h : a.toJson = b.toJson) : a = b := by
  cases a <;> cases b <;> cases h <;> rfl

-- Settings are what they hold.
theorem ext_value {a b : Settings} (h : ∀ setting, a.value setting = b.value setting) : a = b := by
  have hnumber : a.number = b.number := by
    funext s
    exact Json.int.inj (h (.number s))
  have hflag : a.flag = b.flag := by
    funext s
    exact Json.bool.inj (h (.flag s))
  have hset : a.set = b.set := by
    funext s
    have hmembers := Json.list.inj (h (.set s))
    have hlist := (List.map_inj_right fun _ _ => toJson_inj).mp hmembers
    exact congrArg ScalarSet.mk hlist
  have hratio : a.similarityThreshold = b.similarityThreshold :=
    Json.float.inj (h .similarityThreshold)
  have htable : a.deprecatedApis = b.deprecatedApis := Json.object.inj (h .deprecatedApis)
  cases a
  cases b
  simp_all

-- An assignment changes what its setting holds, and nothing else.
theorem value_of_assign {settings changed : Settings} {setting : Setting} {value : Json}
    (h : settings.assign setting value = .ok changed) :
    setting.held? (settings.value setting) value = some (changed.value setting) ∧
      ∀ other, other ≠ setting → changed.value other = settings.value other := by
  cases setting with
  | number s =>
      obtain ⟨n, hn, hc⟩ := exists_of_bind_eq_ok h
      cases hc
      refine ⟨by simp [Setting.held?, hn, Settings.value], ?_⟩
      intro other hother
      cases other with
      | number t =>
          have hne : t ≠ s := by
            rintro rfl
            exact hother rfl
          simp [Settings.value, hne]
      | _ => rfl
  | flag s =>
      obtain ⟨b, hb, hc⟩ := exists_of_bind_eq_ok h
      cases hc
      refine ⟨by simp [Setting.held?, hb, Settings.value], ?_⟩
      intro other hother
      cases other with
      | flag t =>
          have hne : t ≠ s := by
            rintro rfl
            exact hother rfl
          simp [Settings.value, hne]
      | _ => rfl
  | set s =>
      obtain ⟨members, hm, hc⟩ := exists_of_bind_eq_ok h
      cases hc
      refine ⟨by simp [Setting.held?, hm, Settings.value], ?_⟩
      intro other hother
      cases other with
      | set t =>
          have hne : t ≠ s := by
            rintro rfl
            exact hother rfl
          simp [Settings.value, hne]
      | _ => rfl
  | similarityThreshold =>
      obtain ⟨ratio, hr, hc⟩ := exists_of_bind_eq_ok h
      cases hc
      refine ⟨by simp [Setting.held?, hr, Settings.value], ?_⟩
      intro other hother
      cases other with
      | similarityThreshold => exact absurd rfl hother
      | _ => rfl
  | deprecatedApis =>
      obtain ⟨table, ht, hc⟩ := exists_of_bind_eq_ok h
      cases hc
      refine ⟨by simp [Setting.held?, ht, Settings.value, Setting.tableOf], ?_⟩
      intro other hother
      cases other with
      | deprecatedApis => exact absurd rfl hother
      | _ => rfl

theorem exists_assign_iff (settings : Settings) (setting : Setting) (old value : Json) :
    (∃ changed, settings.assign setting value = .ok changed) ↔
      (setting.held? old value).isSome := by
  constructor
  · rintro ⟨changed, h⟩
    rw [Setting.isSome_held? setting old (settings.value setting), (value_of_assign h).1]
    rfl
  · intro h
    cases setting with
    | number s =>
        cases hn : readNumber (Setting.number s).key value with
        | error e => simp [Setting.held?, hn] at h
        | ok n => exact ⟨_, by rw [assign, hn, ok_bind, pure_eq_ok]⟩
    | flag s =>
        cases hb : readFlag (Setting.flag s).key value with
        | error e => simp [Setting.held?, hb] at h
        | ok b => exact ⟨_, by rw [assign, hb, ok_bind, pure_eq_ok]⟩
    | set s =>
        cases hm : readSet (Setting.set s).key value with
        | error e => simp [Setting.held?, hm] at h
        | ok members => exact ⟨_, by rw [assign, hm, ok_bind, pure_eq_ok]⟩
    | similarityThreshold =>
        cases hr : readRatio Setting.similarityThreshold.key value with
        | error e => simp [Setting.held?, hr] at h
        | ok ratio => exact ⟨_, by rw [assign, hr, ok_bind, pure_eq_ok]⟩
    | deprecatedApis =>
        cases ht : readTable Setting.deprecatedApis.key value with
        | error e => simp [Setting.held?, ht] at h
        | ok table => exact ⟨_, by rw [assign, ht, ok_bind, pure_eq_ok]⟩

theorem unknownKeys_eq_nil_iff (entries : List (CodeText × Json)) :
    unknownKeys entries = [] ↔ ∀ entry ∈ entries, ∃ setting : Setting, setting.key = entry.1 := by
  have hknown (entry : CodeText × Json) : (Setting.ofKey? entry.1).isNone = true ↔
      ¬∃ setting : Setting, setting.key = entry.1 := by
    constructor
    · rintro h ⟨setting, hkey⟩
      rw [← hkey, Setting.ofKey?_key] at h
      cases h
    · intro h
      cases hfound : Setting.ofKey? entry.1 with
      | none => rfl
      | some setting => exact absurd ⟨setting, Setting.key_of_ofKey? hfound⟩ h
  simp [unknownKeys, List.filter_eq_nil_iff, hknown]

-- An entry of an object that some setting takes.
def IsTaken (entry : CodeText × Json) : Prop :=
  ∃ setting : Setting, setting.key = entry.1 ∧ (setting.held? .null entry.2).isSome

theorem exists_assignKey_iff (settings : Settings) (entry : CodeText × Json) :
    (∃ changed, settings.assignKey entry = .ok changed) ↔ IsTaken entry := by
  unfold assignKey
  cases hfound : Setting.ofKey? entry.1 with
  | none =>
      constructor
      · rintro ⟨changed, h⟩
        cases h
      · rintro ⟨setting, hkey, -⟩
        rw [← hkey, Setting.ofKey?_key] at hfound
        cases hfound
  | some setting =>
      rw [exists_assign_iff settings setting .null]
      constructor
      · intro h
        exact ⟨setting, Setting.key_of_ofKey? hfound, h⟩
      · rintro ⟨other, hkey, h⟩
        rw [← hkey, Setting.ofKey?_key] at hfound
        cases hfound
        exact h

theorem exists_foldlM_iff (settings : Settings) (entries : List (CodeText × Json)) :
    (∃ changed, entries.foldlM assignKey settings = .ok changed) ↔
      ∀ entry ∈ entries, IsTaken entry := by
  induction entries generalizing settings with
  | nil => exact ⟨fun _ => nofun, fun _ => ⟨settings, rfl⟩⟩
  | cons entry rest ih =>
      rw [List.forall_mem_cons, ← exists_assignKey_iff settings entry, List.foldlM_cons]
      constructor
      · rintro ⟨changed, h⟩
        obtain ⟨next, hnext, hrest⟩ := exists_of_bind_eq_ok h
        exact ⟨⟨next, hnext⟩, (ih next).mp ⟨changed, hrest⟩⟩
      · rintro ⟨⟨next, hnext⟩, hrest⟩
        obtain ⟨changed, h⟩ := (ih next).mpr hrest
        exact ⟨changed, by rw [hnext, ok_bind, h]⟩

theorem foldlM_of_merge {settings changed : Settings} {entries : List (CodeText × Json)}
    (h : settings.merge entries = .ok changed) :
    entries.foldlM assignKey settings = .ok changed := by
  unfold merge at h
  split at h
  · exact h
  · cases h

-- An object is merged if every entry is taken. The settings that it is merged into do not
-- matter.
theorem exists_merge_iff (settings : Settings) (entries : List (CodeText × Json)) :
    (∃ changed, settings.merge entries = .ok changed) ↔ ∀ entry ∈ entries, IsTaken entry := by
  constructor
  · rintro ⟨changed, h⟩
    exact (exists_foldlM_iff settings entries).mp ⟨changed, foldlM_of_merge h⟩
  · intro h
    have hknown : unknownKeys entries = [] := by
      rw [unknownKeys_eq_nil_iff]
      intro entry hm
      obtain ⟨setting, hkey, -⟩ := h entry hm
      exact ⟨setting, hkey⟩
    rw [merge, hknown]
    exact (exists_foldlM_iff settings entries).mpr h

-- Each setting holds what its own entry makes of what it held before.
theorem value_of_foldlM {settings changed : Settings} {entries : List (CodeText × Json)}
    (hkeys : (Assoc.keys entries).Nodup) (h : entries.foldlM assignKey settings = .ok changed)
    (setting : Setting) :
    setting.after? (settings.value setting) (entries.lookup setting.key) =
      some (changed.value setting) := by
  induction entries generalizing settings with
  | nil =>
      cases h
      rfl
  | cons entry rest ih =>
      obtain ⟨key, value⟩ := entry
      rw [Assoc.keys_cons] at hkeys
      obtain ⟨hnew, hrest⟩ := List.nodup_cons.mp hkeys
      rw [List.foldlM_cons] at h
      obtain ⟨next, hnext, h⟩ := exists_of_bind_eq_ok h
      have hafter := ih hrest h
      obtain ⟨found, hkey, -⟩ := (exists_assignKey_iff settings (key, value)).mp ⟨next, hnext⟩
      dsimp only at hkey
      rw [assignKey, ← hkey, Setting.ofKey?_key] at hnext
      obtain ⟨hheld, hothers⟩ := value_of_assign hnext
      by_cases hs : setting = found
      · subst hs
        rw [← hkey] at hnew
        rw [(Assoc.lookup_eq_none_iff setting.key rest).mpr hnew] at hafter
        rw [← hkey, List.lookup_cons_self, Setting.after?, hheld]
        exact hafter
      · have hne : setting.key ≠ key := by
          intro he
          exact hs (Setting.key_inj (he.trans hkey.symm))
        rw [Assoc.lookup_cons_of_ne hne, ← hothers setting hs]
        exact hafter

-- A merge in one formula: what each setting holds before and after it.
theorem merge_eq_ok_iff (settings changed : Settings) (entries : List (CodeText × Json))
    (hkeys : (Assoc.keys entries).Nodup) :
    settings.merge entries = .ok changed ↔
      (∀ key ∈ Assoc.keys entries, ∃ setting : Setting, setting.key = key) ∧
        ∀ setting : Setting,
          setting.after? (settings.value setting) (entries.lookup setting.key) =
            some (changed.value setting) := by
  constructor
  · intro h
    refine ⟨?_, value_of_foldlM hkeys (foldlM_of_merge h)⟩
    intro key hm
    obtain ⟨entry, he, rfl⟩ := List.mem_map.mp hm
    obtain ⟨setting, hkey, -⟩ := (exists_merge_iff settings entries).mp ⟨changed, h⟩ entry he
    exact ⟨setting, hkey⟩
  · rintro ⟨hknown, hafter⟩
    have htaken : ∀ entry ∈ entries, IsTaken entry := by
      intro entry hm
      obtain ⟨setting, hkey⟩ := hknown entry.1 (List.mem_map_of_mem hm)
      have hheld := hafter setting
      rw [hkey, Assoc.lookup_of_mem entries hkeys entry hm, Setting.after?] at hheld
      refine ⟨setting, hkey, ?_⟩
      rw [Setting.isSome_held? setting .null (settings.value setting), hheld]
      rfl
    obtain ⟨other, hother⟩ := (exists_merge_iff settings entries).mpr htaken
    have hsame : other = changed := by
      apply ext_value
      intro setting
      have hvalue := value_of_foldlM hkeys (foldlM_of_merge hother) setting
      exact Option.some.inj (hvalue.symm.trans (hafter setting))
    rw [hother, hsame]

end Settings

end SwiftAudit
