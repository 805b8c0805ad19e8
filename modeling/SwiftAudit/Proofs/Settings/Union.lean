import SwiftAudit.Proofs.Settings.Merge

namespace SwiftAudit.Settings

-- The value of a key in the union of two objects, for a key of the second one. The tables of
-- replacements of both are united.
def unite (key : CodeText) (old : Option Json) (new : Json) : Json :=
  match old, new with
  | some (.object table), .object added =>
    if key = Setting.deprecatedApis.key then .object (Assoc.merge table added) else new
  | _, _ => new

-- Two objects as one, in which the second one has its way.
def union (first second : List (CodeText × Json)) : List (CodeText × Json) :=
  Assoc.merge first (second.map fun entry =>
    (entry.1, unite entry.1 (first.lookup entry.1) entry.2))

-- Entries as a JSON object has them, with distinct keys, also in the table of replacements.
structure IsObject (entries : List (CodeText × Json)) : Prop where
  keys : (Assoc.keys entries).Nodup
  table : ∀ table, entries.lookup Setting.deprecatedApis.key = some (.object table) →
    (Assoc.keys table).Nodup

section Union

variable (first second : List (CodeText × Json))

theorem keys_united : Assoc.keys (second.map fun entry =>
    (entry.1, unite entry.1 (first.lookup entry.1) entry.2)) = Assoc.keys second := by
  simp [Assoc.keys, Function.comp_def]

theorem mem_keys_union (key : CodeText) :
    key ∈ Assoc.keys (union first second) ↔ key ∈ Assoc.keys first ∨ key ∈ Assoc.keys second := by
  rw [union, Assoc.mem_keys_merge, keys_united]

theorem nodup_union (h : (Assoc.keys first).Nodup) : (Assoc.keys (union first second)).Nodup :=
  Assoc.nodup_merge first _ h

theorem lookup_union (h : (Assoc.keys second).Nodup) (key : CodeText) :
    (union first second).lookup key =
      ((second.lookup key).map (unite key (first.lookup key))).or (first.lookup key) := by
  have hkeys : (Assoc.keys (second.map fun entry =>
      (entry.1, unite entry.1 (first.lookup entry.1) entry.2))).Nodup := by
    rw [keys_united]
    exact h
  rw [union, Assoc.lookup_merge _ _ hkeys,
    Assoc.lookup_mapValues fun key value => unite key (first.lookup key) value]

end Union

theorem unite_of_ne {key : CodeText} (h : key ≠ Setting.deprecatedApis.key) (old : Option Json)
    (new : Json) : unite key old new = new := by
  unfold unite
  split
  · rw [if_neg h]
  · rfl

-- To read a value after another one is to read the union of both.
theorem held?_unite {setting : Setting} {first : List (CodeText × Json)} (hfirst : IsObject first)
    {old mid : Json} (hmid : setting.after? old (first.lookup setting.key) = some mid)
    (new : Json) :
    setting.held? mid new =
      setting.held? old (unite setting.key (first.lookup setting.key) new) := by
  by_cases hs : setting = .deprecatedApis
  · subst hs
    cases hvalue : first.lookup Setting.deprecatedApis.key with
    | none =>
        rw [hvalue] at hmid
        cases hmid
        rfl
    | some value =>
        rw [hvalue] at hmid
        cases value with
        | object table =>
            have hassoc (added : List (CodeText × Json)) :=
              Assoc.merge_assoc (Setting.tableOf old) table added (hfirst.table table hvalue)
            cases hmid
            cases new with
            | object added =>
                rw [unite, if_pos rfl, Setting.held?_table, Setting.held?_table,
                  Setting.tableOf_object, hassoc]
            | _ => rfl
        | _ => cases hmid
  · have hkey : setting.key ≠ Setting.deprecatedApis.key := by
      intro h
      exact hs (Setting.key_inj h)
    rw [unite_of_ne hkey, Setting.held?_of_ne hs mid old]

theorem after?_union {setting : Setting} {first second : List (CodeText × Json)}
    (hfirst : IsObject first) (hsecond : IsObject second) {old mid : Json}
    (hmid : setting.after? old (first.lookup setting.key) = some mid) :
    setting.after? mid (second.lookup setting.key) =
      setting.after? old ((union first second).lookup setting.key) := by
  rw [lookup_union first second hsecond.keys]
  cases second.lookup setting.key with
  | none => exact hmid.symm
  | some new => exact held?_unite hfirst hmid new

-- Two merges in a row are the merge of the union.
theorem merge_merge_iff {settings mid : Settings} {first second : List (CodeText × Json)}
    (hfirst : IsObject first) (hsecond : IsObject second)
    (hmid : settings.merge first = .ok mid) (changed : Settings) :
    mid.merge second = .ok changed ↔ settings.merge (union first second) = .ok changed := by
  obtain ⟨hknown, hafter⟩ := (merge_eq_ok_iff settings mid first hfirst.keys).mp hmid
  rw [merge_eq_ok_iff mid changed second hsecond.keys,
    merge_eq_ok_iff settings changed _ (nodup_union first second hfirst.keys)]
  have hkeys : (∀ key ∈ Assoc.keys second, ∃ setting : Setting, setting.key = key) ↔
      ∀ key ∈ Assoc.keys (union first second), ∃ setting : Setting, setting.key = key := by
    constructor
    · intro h key hm
      rcases (mem_keys_union first second key).mp hm with hm | hm
      · exact hknown key hm
      · exact h key hm
    · intro h key hm
      exact h key ((mem_keys_union first second key).mpr (.inr hm))
  have hvalues (setting : Setting) := after?_union hfirst hsecond (hafter setting)
  simp only [hkeys, hvalues]

theorem held?_self {setting : Setting} {entries : List (CodeText × Json)} (h : IsObject entries)
    {old held value : Json} (hvalue : entries.lookup setting.key = some value)
    (hheld : setting.held? old value = some held) : setting.held? held value = some held := by
  by_cases hs : setting = .deprecatedApis
  · subst hs
    cases value with
    | object table =>
        have hself := Assoc.merge_merge_self (Setting.tableOf old) table (h.table table hvalue)
        cases hheld
        rw [Setting.held?_table, Setting.tableOf_object, hself]
    | _ => cases hheld
  · rw [Setting.held?_of_ne hs held old, hheld]

-- An object that was merged changes nothing when it is merged again.
theorem merge_again {settings changed : Settings} {entries : List (CodeText × Json)}
    (h : IsObject entries) (hmerge : settings.merge entries = .ok changed) :
    changed.merge entries = .ok changed := by
  obtain ⟨hknown, hafter⟩ := (merge_eq_ok_iff settings changed entries h.keys).mp hmerge
  refine (merge_eq_ok_iff changed changed entries h.keys).mpr ⟨hknown, ?_⟩
  intro setting
  have hheld := hafter setting
  cases hvalue : entries.lookup setting.key with
  | none => rfl
  | some value =>
      rw [hvalue] at hheld
      exact held?_self h hvalue hheld

theorem merge_swap {settings changed : Settings} {first second : List (CodeText × Json)}
    (hfirst : IsObject first) (hsecond : IsObject second)
    (hdisjoint : ∀ key ∈ Assoc.keys first, key ∉ Assoc.keys second)
    (h : (settings.merge first >>= (·.merge second)) = .ok changed) :
    (settings.merge second >>= (·.merge first)) = .ok changed := by
  obtain ⟨mid, hmid, hchanged⟩ := exists_of_bind_eq_ok h
  have hone (start : Settings) : ∃ other, start.merge first = .ok other :=
    (exists_merge_iff start first).mpr ((exists_merge_iff settings first).mp ⟨mid, hmid⟩)
  have htwo (start : Settings) : ∃ other, start.merge second = .ok other :=
    (exists_merge_iff start second).mpr ((exists_merge_iff mid second).mp ⟨changed, hchanged⟩)
  obtain ⟨mid', hmid'⟩ := htwo settings
  obtain ⟨changed', hchanged'⟩ := hone mid'
  have hsame : changed' = changed := by
    apply ext_value
    intro setting
    have h₁ := ((merge_eq_ok_iff _ _ first hfirst.keys).mp hmid).2 setting
    have h₂ := ((merge_eq_ok_iff _ _ second hsecond.keys).mp hchanged).2 setting
    have h₃ := ((merge_eq_ok_iff _ _ second hsecond.keys).mp hmid').2 setting
    have h₄ := ((merge_eq_ok_iff _ _ first hfirst.keys).mp hchanged').2 setting
    by_cases hkey : setting.key ∈ Assoc.keys first
    · have hnone := (Assoc.lookup_eq_none_iff setting.key second).mpr (hdisjoint _ hkey)
      rw [hnone] at h₂ h₃
      rw [← Option.some.inj h₃, h₁, Option.some.inj h₂] at h₄
      exact (Option.some.inj h₄).symm
    · have hnone := (Assoc.lookup_eq_none_iff setting.key first).mpr hkey
      rw [hnone] at h₁ h₄
      rw [← Option.some.inj h₁, h₃, Option.some.inj h₄] at h₂
      exact Option.some.inj h₂
  rw [hmid', ok_bind, hchanged', hsame]

-- Merging composes. What follows of it: an object can be merged once more without effect, and
-- objects without common keys can be merged in either order.
theorem merge_composes (settings : Settings) (first second : List (CodeText × Json))
    (hfirst : IsObject first) (hsecond : IsObject second) :
    (∀ mid, settings.merge first = .ok mid → ∀ changed,
      mid.merge second = .ok changed ↔ settings.merge (union first second) = .ok changed) ∧
    (∀ changed, settings.merge first = .ok changed → changed.merge first = .ok changed) ∧
    ((∀ key ∈ Assoc.keys first, key ∉ Assoc.keys second) → ∀ changed,
      (settings.merge first >>= (·.merge second)) = .ok changed ↔
        (settings.merge second >>= (·.merge first)) = .ok changed) := by
  refine ⟨fun mid hmid => merge_merge_iff hfirst hsecond hmid,
    fun changed hmerge => merge_again hfirst hmerge, ?_⟩
  intro hdisjoint changed
  have hdisjoint' : ∀ key ∈ Assoc.keys second, key ∉ Assoc.keys first :=
    fun key hm hn => hdisjoint key hn hm
  exact ⟨merge_swap hfirst hsecond hdisjoint, merge_swap hsecond hfirst hdisjoint'⟩

-- A replacement that one object adds and the next one withdraws, with a limit beside it.
theorem merge_composes_default :
    let added : List (CodeText × Json) :=
      [("deprecated_apis", .object [("UIAlertView", .text "UIAlertController")])]
    let withdrawn : List (CodeText × Json) :=
      [("deprecated_apis", Json.object [("UIAlertView", .null)])]
    let limit : List (CodeText × Json) := [("max_blank_lines", Json.int 1)]
    (∃ mid changed, default.merge added = .ok mid ∧ mid.merge withdrawn = .ok changed ∧
      default.merge (union added withdrawn) = .ok changed ∧ mid.merge added = .ok mid) ∧
    ∃ changed, (default.merge added >>= (·.merge limit)) = .ok changed ∧
      (default.merge limit >>= (·.merge added)) = .ok changed := by
  intro added withdrawn limit
  have hadded : IsObject added := by
    refine ⟨by decide, ?_⟩
    intro table h
    cases h
    decide
  have hwithdrawn : IsObject withdrawn := by
    refine ⟨by decide, ?_⟩
    intro table h
    cases h
    decide
  have hlimit : IsObject limit := ⟨by decide, nofun⟩
  obtain ⟨hunion, hagain, -⟩ := merge_composes default added withdrawn hadded hwithdrawn
  obtain ⟨-, -, hswap⟩ := merge_composes default added limit hadded hlimit
  exact ⟨⟨_, _, rfl, rfl, (hunion _ rfl _).mp rfl, hagain _ rfl⟩,
    ⟨_, rfl, (hswap (by decide) _).mp rfl⟩⟩

end SwiftAudit.Settings
