import SwiftAudit.Proofs.Number.Integer
import SwiftAudit.Proofs.Settings.Equality
import SwiftAudit.Proofs.Settings.History
import SwiftAudit.Proofs.Sorting
import SwiftAudit.Proofs.Text.Code

namespace SwiftAudit

-- The doubles that stand for no integer.
inductive Double.HasNoInteger : Double → Prop where
  | nan : HasNoInteger .nan
  | infinity (negative : Bool) : HasNoInteger (.infinity negative)
  | fraction {d : Double} {q : Rat} (hvalue : d.toRat? = some q) (h : ∀ n : Int, q ≠ n) :
    HasNoInteger d

theorem Double.toInt?_eq_none_iff (d : Double) : d.toInt? = none ↔ d.HasNoInteger := by
  constructor
  · intro h
    cases d with
    | nan => exact .nan
    | infinity negative => exact .infinity negative
    | finite negative mantissa exponent =>
        obtain ⟨q, hq, -⟩ := key_finite negative mantissa exponent
        refine .fraction hq ?_
        rintro n rfl
        rw [(toInt?_eq_some_iff _ n).mpr hq] at h
        cases h
  · intro h
    cases h with
    | nan => rfl
    | infinity => rfl
    | fraction hvalue h =>
        refine Option.eq_none_iff_forall_ne_some.mpr fun n hn => ?_
        rw [toInt?_eq_some_iff, hvalue] at hn
        exact h n (Option.some.inj hn)

-- The exact value of a number in a JSON text.
def Json.rat? : Json → Option Rat
  | .int n => some n
  | .float d => d.toRat?
  | _ => none

namespace Setting

-- The settings that are numbers: the integers and the ratio.
def IsNumeric : Setting → Prop
  | number _ => True
  | similarityThreshold => True
  | _ => False

-- The values that a setting does not take, and how it fails on each.
inductive Refuses : Setting → Json → Halt → Prop where
  | notList {s : SetSetting} {value : Json} (h : value.kind ≠ .list) :
    Refuses (set s) value (.settings (.listExpected (set s).key))
  | container {s : SetSetting} {items : List Json} {item : Json} (hm : item ∈ items)
    (h : item.kind = .list ∨ item.kind = .object) :
    Refuses (set s) (.list items) (.broken .containerInSet)
  | notObject {value : Json} (h : value.kind ≠ .object) :
    Refuses deprecatedApis value (.settings (.objectExpected deprecatedApis.key))
  | notFlag {s : FlagSetting} {value : Json} (h : value.kind ≠ .bool) :
    Refuses (flag s) value (.settings (.flagExpected (flag s).key))
  | notNumber {setting : Setting} {value : Json} (hs : setting.IsNumeric)
    (hint : value.kind ≠ .int) (hfloat : value.kind ≠ .float) :
    Refuses setting value (.settings (.numberExpected setting.key))
  | noInteger {s : NumberSetting} {d : Double} (h : d.HasNoInteger) :
    Refuses (number s) (.float d) (.settings (.integerExpected (number s).key))
  | tooLarge {setting : Setting} {n : Int} (hs : setting.IsNumeric)
    (h : 2 ^ 1024 - 2 ^ 970 ≤ n.natAbs) :
    Refuses setting (.int n) (.broken .integerTooLarge)

end Setting

namespace Settings

open Setting (Refuses)

theorem readNumber_eq_error_iff (s : NumberSetting) (value : Json) (halt : Halt) :
    readNumber (Setting.number s).key value = .error halt ↔
      Refuses (.number s) value halt := by
  constructor
  · intro h
    cases value with
    | int n =>
        unfold readNumber at h
        dsimp only at h
        split at h
        · cases h
        · rename_i hnone
          cases h
          exact .tooLarge trivial ((Double.ofInt?_eq_none_iff n).mp hnone)
    | float d =>
        unfold readNumber at h
        dsimp only at h
        split at h
        · cases h
        · rename_i hnone
          cases h
          exact .noInteger ((Double.toInt?_eq_none_iff d).mp hnone)
    | _ => cases h; exact .notNumber trivial nofun nofun
  · intro h
    cases h with
    | notNumber hs hint hfloat =>
        cases value with
        | int n => exact absurd rfl hint
        | float d => exact absurd rfl hfloat
        | _ => rfl
    | noInteger h =>
        have hnone := (Double.toInt?_eq_none_iff _).mpr h
        unfold readNumber
        dsimp only
        rw [hnone]
    | tooLarge hs h =>
        have hnone := (Double.ofInt?_eq_none_iff _).mpr h
        unfold readNumber
        dsimp only
        rw [hnone]

theorem readRatio_eq_error_iff (value : Json) (halt : Halt) :
    readRatio Setting.similarityThreshold.key value = .error halt ↔
      Refuses .similarityThreshold value halt := by
  constructor
  · intro h
    cases value with
    | int n =>
        unfold readRatio at h
        dsimp only at h
        split at h
        · cases h
        · rename_i hnone
          cases h
          exact .tooLarge trivial ((Double.ofInt?_eq_none_iff n).mp hnone)
    | float d => cases h
    | _ => cases h; exact .notNumber trivial nofun nofun
  · intro h
    cases h with
    | notNumber hs hint hfloat =>
        cases value with
        | int n => exact absurd rfl hint
        | float d => exact absurd rfl hfloat
        | _ => rfl
    | tooLarge hs h =>
        have hnone := (Double.ofInt?_eq_none_iff _).mpr h
        unfold readRatio
        dsimp only
        rw [hnone]

theorem readFlag_eq_error_iff (s : FlagSetting) (value : Json) (halt : Halt) :
    readFlag (Setting.flag s).key value = .error halt ↔ Refuses (.flag s) value halt := by
  constructor
  · intro h
    cases value with
    | bool b => cases h
    | _ => cases h; exact .notFlag nofun
  · intro h
    cases h with
    | notFlag h =>
        cases value with
        | bool b => exact absurd rfl h
        | _ => rfl
    | notNumber hs => cases hs
    | tooLarge hs => cases hs

theorem ofJson?_eq_none_iff (item : Json) :
    Scalar.ofJson? item = none ↔ item.kind = .list ∨ item.kind = .object := by
  cases item <;> simp [Scalar.ofJson?, Json.kind]

theorem mapM_ofJson?_eq_none_iff (items : List Json) :
    items.mapM Scalar.ofJson? = none ↔
      ∃ item ∈ items, item.kind = .list ∨ item.kind = .object := by
  simp only [← ofJson?_eq_none_iff]
  induction items with
  | nil => simp
  | cons item rest ih =>
      rw [List.mapM_cons]
      simp only [List.mem_cons, exists_eq_or_imp, ← ih]
      cases Scalar.ofJson? item <;> cases rest.mapM Scalar.ofJson? <;> simp

theorem readSet_eq_error_iff (s : SetSetting) (value : Json) (halt : Halt) :
    readSet (Setting.set s).key value = .error halt ↔ Refuses (.set s) value halt := by
  constructor
  · intro h
    cases value with
    | list items =>
        unfold readSet at h
        dsimp only at h
        split at h
        · cases h
        · rename_i hnone
          cases h
          obtain ⟨item, hm, hitem⟩ := (mapM_ofJson?_eq_none_iff items).mp hnone
          exact .container hm hitem
    | _ => cases h; exact .notList nofun
  · intro h
    cases h with
    | notList h =>
        cases value with
        | list items => exact absurd rfl h
        | _ => rfl
    | container hm h => rw [readSet, (mapM_ofJson?_eq_none_iff _).mpr ⟨_, hm, h⟩]
    | notNumber hs => cases hs
    | tooLarge hs => cases hs

theorem readTable_eq_error_iff (value : Json) (halt : Halt) :
    readTable Setting.deprecatedApis.key value = .error halt ↔
      Refuses .deprecatedApis value halt := by
  constructor
  · intro h
    cases value with
    | object entries => cases h
    | _ => cases h; exact .notObject nofun
  · intro h
    cases h with
    | notObject h =>
        cases value with
        | object entries => exact absurd rfl h
        | _ => rfl
    | notNumber hs => cases hs
    | tooLarge hs => cases hs

-- Whether and how an assignment fails depends on the setting and the value alone.
theorem assign_eq_error_iff (settings : Settings) (setting : Setting) (value : Json)
    (halt : Halt) : settings.assign setting value = .error halt ↔ setting.Refuses value halt := by
  cases setting with
  | number s => rw [assign, bind_eq_error_iff, readNumber_eq_error_iff]; simp
  | flag s => rw [assign, bind_eq_error_iff, readFlag_eq_error_iff]; simp
  | set s => rw [assign, bind_eq_error_iff, readSet_eq_error_iff]; simp
  | similarityThreshold => rw [assign, bind_eq_error_iff, readRatio_eq_error_iff]; simp
  | deprecatedApis => rw [assign, bind_eq_error_iff, readTable_eq_error_iff]; simp

-- A key that no setting has.
def IsUnknown (key : CodeText) : Prop := ∀ setting : Setting, setting.key ≠ key

-- An entry of an object whose value is not one for the setting that it names.
def IsRefused (entry : CodeText × Json) (halt : Halt) : Prop :=
  ∃ setting : Setting, setting.key = entry.1 ∧ setting.Refuses entry.2 halt

theorem ofKey?_eq_none_iff (key : CodeText) : Setting.ofKey? key = none ↔ IsUnknown key := by
  constructor
  · rintro h setting rfl
    rw [Setting.ofKey?_key] at h
    cases h
  · intro h
    refine Option.eq_none_iff_forall_ne_some.mpr fun setting hfound => ?_
    exact h setting (Setting.key_of_ofKey? hfound)

theorem assignKey_eq_error_iff (settings : Settings) {entry : CodeText × Json}
    (hknown : ¬IsUnknown entry.1) (halt : Halt) :
    settings.assignKey entry = .error halt ↔ IsRefused entry halt := by
  unfold assignKey
  cases hfound : Setting.ofKey? entry.1 with
  | none => exact absurd ((ofKey?_eq_none_iff entry.1).mp hfound) hknown
  | some setting =>
      dsimp only
      rw [assign_eq_error_iff]
      have hkey := Setting.key_of_ofKey? hfound
      constructor
      · intro h
        exact ⟨setting, hkey, h⟩
      · rintro ⟨other, hother, h⟩
        rwa [← Setting.key_inj (hother.trans hkey.symm)]

theorem mem_unknownKeys_iff (entries : List (CodeText × Json)) (key : CodeText) :
    key ∈ unknownKeys entries ↔ key ∈ Assoc.keys entries ∧ IsUnknown key := by
  simp only [unknownKeys, Option.isNone_iff_eq_none, ofKey?_eq_none_iff, Assoc.keys, List.mem_map,
    List.mem_filter]
  constructor
  · rintro ⟨entry, ⟨hm, hunknown⟩, rfl⟩
    exact ⟨⟨entry, hm, rfl⟩, by simpa [ofKey?_eq_none_iff] using hunknown⟩
  · rintro ⟨⟨entry, hm, rfl⟩, hunknown⟩
    exact ⟨entry, ⟨hm, by simpa [ofKey?_eq_none_iff] using hunknown⟩, rfl⟩

-- Where every key is known, the first entry that is refused decides.
theorem merge_eq_error_iff (settings : Settings) {entries : List (CodeText × Json)}
    (hknown : ∀ entry ∈ entries, ¬IsUnknown entry.1) (halt : Halt) :
    settings.merge entries = .error halt ↔
      ∃ before entry after, entries = before ++ entry :: after ∧
        (∀ other ∈ before, ∀ reason, ¬IsRefused other reason) ∧ IsRefused entry halt := by
  have hnone : unknownKeys entries = [] := by
    refine List.eq_nil_iff_forall_not_mem.mpr fun key hm => ?_
    obtain ⟨hkey, hunknown⟩ := (mem_unknownKeys_iff entries key).mp hm
    obtain ⟨entry, he, rfl⟩ := List.mem_map.mp hkey
    exact hknown entry he hunknown
  rw [merge, hnone]
  exact foldlM_eq_error_iff assignKey IsRefused entries
    (fun settings entry hm => assignKey_eq_error_iff settings (hknown entry hm)) settings halt

theorem merge_of_isUnknown (settings : Settings) {entries : List (CodeText × Json)} {key : CodeText}
    (hm : key ∈ Assoc.keys entries) (h : IsUnknown key) :
    settings.merge entries =
      .error (.settings (.unknownKeys ((unknownKeys entries).mergeSort (· ≤ ·)))) := by
  have hunknown := (mem_unknownKeys_iff entries key).mpr ⟨hm, h⟩
  unfold merge
  cases hkeys : unknownKeys entries with
  | nil =>
      rw [hkeys] at hunknown
      cases hunknown
  | cons first rest => rfl

theorem nodup_unknownKeys {entries : List (CodeText × Json)} (h : (Assoc.keys entries).Nodup) :
    (unknownKeys entries).Nodup :=
  h.sublist (List.filter_sublist.map _)

theorem rat?_of_readNumber {key : CodeText} {value : Json} {n : Int}
    (h : readNumber key value = .ok n) : value.rat? = some (n : Rat) := by
  cases value with
  | int m =>
      obtain ⟨-, rfl⟩ := (readNumber_int_eq_ok_iff key m n).mp h
      rfl
  | float d => exact Double.toRat?_of_toInt? ((readNumber_float_eq_ok_iff key d n).mp h)
  | _ => cases h

-- An integer setting holds the number that it is given.
theorem rat?_of_merge {settings changed : Settings} {entries : List (CodeText × Json)}
    (hkeys : (Assoc.keys entries).Nodup) (h : settings.merge entries = .ok changed)
    {s : NumberSetting} {value : Json} (hm : ((Setting.number s).key, value) ∈ entries) :
    value.rat? = some (changed.number s : Rat) := by
  have hvalue := value_of_foldlM hkeys (foldlM_of_merge h) (.number s)
  rw [Assoc.lookup_of_mem entries hkeys _ hm, Setting.after?, Setting.held?] at hvalue
  cases hread : readNumber (Setting.number s).key value with
  | error e =>
      rw [hread] at hvalue
      cases hvalue
  | ok n =>
      rw [hread] at hvalue
      cases hvalue
      exact rat?_of_readNumber hread

-- A reader that looks at a number only as a double. What it tests is rounded, what it keeps is
-- not.
def readThroughDouble (key : CodeText) (value : Json) : Except Halt Int := do
  let rounded ← readRatio key value
  match rounded.toInt?, value with
  | none, _ => .error (.settings (.integerExpected key))
  | some _, .int n => return n
  | some n, _ => return n

theorem readThroughDouble_eq (key : CodeText) (value : Json) :
    readThroughDouble key value = readNumber key value := by
  cases value with
  | int n =>
      unfold readThroughDouble readRatio readNumber
      dsimp only
      cases hd : Double.ofInt? n with
      | none => rfl
      | some d =>
          obtain ⟨m, hm⟩ := Option.isSome_iff_exists.mp (Double.isSome_toInt?_of_ofInt? hd)
          rw [ok_bind, hm]
          rfl
  | float d =>
      unfold readThroughDouble readRatio readNumber
      dsimp only
      rw [ok_bind]
      cases d.toInt? <;> rfl
  | _ => rfl

-- How an object is merged into settings, whatever they are. Unknown keys are told before all
-- else. Otherwise the first entry that is refused decides, and if none is, the integers are
-- held as they were given. Neither the untyped table nor the test by a double changes that.
theorem merge_fails_exactly (settings : Settings) (entries : List (CodeText × Json))
    (hkeys : (Assoc.keys entries).Nodup) :
    ((∃ key ∈ Assoc.keys entries, IsUnknown key) →
      ∃ unknown : List CodeText, unknown.Pairwise (· < ·) ∧
        (∀ key, key ∈ unknown ↔ key ∈ Assoc.keys entries ∧ IsUnknown key) ∧
        settings.merge entries = .error (.settings (.unknownKeys unknown))) ∧
    ((∀ key ∈ Assoc.keys entries, ¬IsUnknown key) →
      (∀ halt, settings.merge entries = .error halt ↔
        ∃ before entry after, entries = before ++ entry :: after ∧
          (∀ other ∈ before, ∀ reason, ¬IsRefused other reason) ∧ IsRefused entry halt) ∧
      ((∀ entry ∈ entries, ∀ reason, ¬IsRefused entry reason) →
        ∃ changed, settings.merge entries = .ok changed ∧
          ∀ s value, ((Setting.number s).key, value) ∈ entries →
            value.rat? = some (changed.number s : Rat))) ∧
    Table.merge settings.entries entries = (settings.merge entries).map Settings.entries ∧
    ∀ key value, readNumber key value = readThroughDouble key value := by
  refine ⟨?_, ?_, merge_entries settings entries,
    fun key value => (readThroughDouble_eq key value).symm⟩
  · rintro ⟨key, hm, hunknown⟩
    refine ⟨_, pairwise_lt_mergeSort _ (nodup_unknownKeys hkeys), ?_,
      merge_of_isUnknown settings hm hunknown⟩
    intro other
    rw [List.mem_mergeSort, mem_unknownKeys_iff]
  · intro hknown
    have hfails := merge_eq_error_iff settings fun entry hm =>
      hknown entry.1 (List.mem_map_of_mem hm)
    refine ⟨hfails, fun hnone => ?_⟩
    obtain ⟨changed, hchanged⟩ := (exists_ok_iff (settings.merge entries)).mpr fun halt h => by
      obtain ⟨before, entry, after, rfl, -, hrefused⟩ := (hfails halt).mp h
      exact hnone entry (by simp) halt hrefused
    exact ⟨changed, hchanged, fun s value hm => rat?_of_merge hkeys hchanged hm⟩

theorem not_isRefused_of_assignKey {settings changed : Settings} {entry : CodeText × Json}
    (h : settings.assignKey entry = .ok changed) (reason : Halt) : ¬IsRefused entry reason := by
  rintro ⟨setting, hkey, hrefuses⟩
  rw [assignKey, ← hkey, Setting.ofKey?_key] at h
  rw [← assign_eq_error_iff settings] at hrefuses
  dsimp only at h
  rw [hrefuses] at h
  cases h

-- Two keys that are unknown, one of them behind a bad value; a set that is given a list, before
-- a truth value for a number; and an integer that has no double of its own.
theorem merge_fails_exactly_default :
    let unknown : List (CodeText × Json) :=
      [("zeta", Json.null), ("max_blank_lines", .bool true), ("alpha", .null)]
    let refused : List (CodeText × Json) := [("max_blank_lines", Json.float (.ofDecimal false 3 0)),
      ("short_name_whitelist", .list [.text "n", .list []]), ("complexity_threshold", .bool true)]
    let taken : List (CodeText × Json) := [("complexity_threshold", Json.int 9007199254740993),
      ("max_blank_lines", .float (.ofDecimal false 3 0))]
    (∃ keys : List CodeText, keys.Pairwise (· < ·) ∧ .plain "alpha" ∈ keys ∧ .plain "zeta" ∈ keys ∧
      default.merge unknown = .error (.settings (.unknownKeys keys))) ∧
    default.merge refused = .error (.broken .containerInSet) ∧
    ∃ changed, default.merge taken = .ok changed ∧
      changed.number .complexityThreshold = 9007199254740993 ∧
      changed.number .maxBlankLines = 3 := by
  intro unknown refused taken
  have hknown (keys : List CodeText) (h : keys.all fun key => (Setting.ofKey? key).isSome) :
      ∀ key ∈ keys, ¬IsUnknown key := by
    intro key hm hunknown
    have hfound := List.all_eq_true.mp h key hm
    rw [(ofKey?_eq_none_iff key).mpr hunknown] at hfound
    cases hfound
  have htaken (entry : CodeText × Json) (h : (default.assignKey entry).isOk) (reason : Halt) :
      ¬IsRefused entry reason := by
    cases hassign : default.assignKey entry with
    | ok changed => exact not_isRefused_of_assignKey hassign reason
    | error e =>
        rw [hassign] at h
        cases h
  have halpha : IsUnknown "alpha" := (ofKey?_eq_none_iff "alpha").mp (by decide)
  have hzeta : IsUnknown "zeta" := (ofKey?_eq_none_iff "zeta").mp (by decide)
  obtain ⟨hunknown, -⟩ := merge_fails_exactly default unknown (by decide)
  obtain ⟨-, hrefused, -⟩ := merge_fails_exactly default refused (by decide)
  obtain ⟨-, hexact, -⟩ := merge_fails_exactly default taken (by decide)
  refine ⟨?_, ?_, ?_⟩
  · obtain ⟨keys, hsorted, hmem, hmerge⟩ := hunknown ⟨"zeta", by decide, hzeta⟩
    exact ⟨keys, hsorted, (hmem "alpha").mpr ⟨by decide, halpha⟩,
      (hmem "zeta").mpr ⟨by decide, hzeta⟩, hmerge⟩
  · refine ((hrefused (hknown _ (by decide))).1 _).mpr ⟨[_], _, [_], rfl, ?_, ?_⟩
    · intro other hm
      rw [List.mem_singleton.mp hm]
      exact htaken _ (by decide +kernel)
    · have hitem : Json.list [] ∈ [.text "n", .list []] := by simp
      exact ⟨.set .shortNameWhitelist, rfl, .container hitem (.inl rfl)⟩
  · have hnone : ∀ entry ∈ taken, ∀ reason, ¬IsRefused entry reason := by
      simp only [taken, List.forall_mem_cons]
      exact ⟨htaken _ (by decide +kernel), htaken _ (by decide +kernel), nofun⟩
    obtain ⟨changed, hmerge, hvalue⟩ := (hexact (hknown _ (by decide))).2 hnone
    have hfirst := hvalue .complexityThreshold (.int 9007199254740993)
      (by simp [taken, Setting.key])
    have hsecond := hvalue .maxBlankLines (.float (.ofDecimal false 3 0))
      (by simp [taken, Setting.key])
    have hthree : (Json.float (.ofDecimal false 3 0)).rat? = some 3 := by decide +kernel
    rw [hthree] at hsecond
    refine ⟨changed, hmerge, ?_, ?_⟩
    · exact (Rat.intCast_inj.mp (Option.some.inj hfirst)).symm
    · exact (Rat.intCast_inj.mp (Option.some.inj hsecond)).symm

end Settings

end SwiftAudit
