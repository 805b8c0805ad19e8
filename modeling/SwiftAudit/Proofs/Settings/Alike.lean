import Mathlib.Data.List.Forall2
import SwiftAudit.Proofs.Settings.Equality
import SwiftAudit.Proofs.Settings.Merge

namespace SwiftAudit

-- Two computations that succeed with related values or fail in the same way.
inductive SameOutcome {ε α β : Type} (r : α → β → Prop) : Except ε α → Except ε β → Prop where
  | ok {a : α} {b : β} (h : r a b) : SameOutcome r (.ok a) (.ok b)
  | error (e : ε) : SameOutcome r (.error e) (.error e)

namespace SameOutcome

variable {ε α β σ τ : Type} {r : α → β → Prop} {r' : σ → τ → Prop}

theorem bind {first : Except ε α} {other : Except ε β} {next : α → Except ε σ}
    {next' : β → Except ε τ} (h : SameOutcome r first other)
    (hnext : ∀ a b, r a b → SameOutcome r' (next a) (next' b)) :
    SameOutcome r' (first >>= next) (other >>= next') := by
  cases h with
  | ok h => exact hnext _ _ h
  | error e => exact .error e

theorem bind_same (first : Except ε α) {next : α → Except ε σ} {next' : α → Except ε τ}
    (hnext : ∀ a, SameOutcome r' (next a) (next' a)) :
    SameOutcome r' (first >>= next) (first >>= next') := by
  cases first with
  | ok a => exact hnext a
  | error e => exact .error e

theorem map_eq {first : Except ε α} {other : Except ε β} (h : SameOutcome r first other)
    {f : α → σ} {g : β → σ} (hfg : ∀ a b, r a b → f a = g b) : first.map f = other.map g := by
  cases h with
  | ok h => exact congrArg Except.ok (hfg _ _ h)
  | error e => rfl

theorem foldlM {step : σ → α → Except ε σ} {step' : τ → β → Except ε τ}
    (hstep : ∀ state state' item item', r' state state' → r item item' →
      SameOutcome r' (step state item) (step' state' item'))
    {items : List α} {items' : List β} (h : List.Forall₂ r items items') {state : σ} {state' : τ}
    (hstate : r' state state') :
    SameOutcome r' (items.foldlM step state) (items'.foldlM step' state') := by
  induction h generalizing state state' with
  | nil => exact .ok hstate
  | cons hitem _ ih =>
      rw [List.foldlM_cons, List.foldlM_cons]
      exact (hstep _ _ _ _ hstate hitem).bind fun _ _ => ih

end SameOutcome

-- Whatever is in the first list is in the second. A NaN is not looked for, as it equals nothing.
def Scalar.Covers (first second : List Scalar) : Prop :=
  ∀ a ∈ first, a ≠ .float .nan → ∃ b ∈ second, a.equals b

instance (first second : List Scalar) : Decidable (Scalar.Covers first second) :=
  inferInstanceAs (Decidable (∀ a ∈ first, a ≠ .float .nan → ∃ b ∈ second, a.equals b))

-- Entries of two settings objects that are the same but for the list of a set, which may have
-- its members in another order, repeated, or as equal values of other kinds.
inductive SameEntry : CodeText × Json → CodeText × Json → Prop where
  | refl (entry : CodeText × Json) : SameEntry entry entry
  | set (s : SetSetting) {first second : List Scalar} (h : Scalar.Covers first second)
      (h' : Scalar.Covers second first) :
      SameEntry ((Setting.set s).key, .list (first.map Scalar.toJson))
        ((Setting.set s).key, .list (second.map Scalar.toJson))

-- Sets that are the same to whoever looks for a member.
def ScalarSet.Alike (a b : ScalarSet) : Prop := ∀ key, key ≠ .nan → a.contains key = b.contains key

structure Settings.Alike (a b : Settings) : Prop where
  number : a.number = b.number
  flag : a.flag = b.flag
  set : ∀ s, (a.set s).Alike (b.set s)
  similarityThreshold : a.similarityThreshold = b.similarityThreshold
  deprecatedApis : a.deprecatedApis = b.deprecatedApis

namespace Scalar

theorem key_eq_nan_iff (a : Scalar) : a.key = .nan ↔ a = .float .nan := by
  cases a with
  | float d => cases d <;> simp [key]
  | _ => simp [key]

-- The key of a member of the first list is that of a member of the second.
theorem Covers.exists_key {first second : List Scalar} (h : Covers first second) {key : MemberKey}
    (hkey : key ≠ .nan) (hm : ∃ a ∈ first, a.key = key) : ∃ b ∈ second, b.key = key := by
  obtain ⟨a, ha, rfl⟩ := hm
  have hself : a ≠ .float .nan := by rwa [ne_eq, ← key_eq_nan_iff]
  obtain ⟨b, hb, hequals⟩ := h a ha hself
  exact ⟨b, hb, ((equals_iff a b).mp hequals).1.symm⟩

end Scalar

namespace ScalarSet

theorem alike_ofList {first second : List Scalar} (h : Scalar.Covers first second)
    (h' : Scalar.Covers second first) : (ofList first).Alike (ofList second) := by
  intro key hkey
  rw [Bool.eq_iff_iff, contains_ofList, contains_ofList]
  exact ⟨h.exists_key hkey, h'.exists_key hkey⟩

theorem Alike.hasInt {a b : ScalarSet} (h : a.Alike b) (n : Int) : a.hasInt n = b.hasInt n :=
  h (.number n) nofun

theorem Alike.hasText {a b : ScalarSet} (h : a.Alike b) (s : String) :
    a.hasText s = b.hasText s :=
  h (.text s) nofun

end ScalarSet

theorem SameEntry.key_eq {entry other : CodeText × Json} (h : SameEntry entry other) :
    entry.1 = other.1 := by
  cases h <;> rfl

namespace Settings

-- An assignment keeps settings alike. It does not look at what the sets held before.
theorem Alike.assign {a b : Settings} (h : a.Alike b) (setting : Setting) (value : Json) :
    SameOutcome Alike (a.assign setting value) (b.assign setting value) := by
  cases setting with
  | number s => exact .bind_same _ fun n => .ok { h with number := by rw [h.number] }
  | flag s => exact .bind_same _ fun flag => .ok { h with flag := by rw [h.flag] }
  | set s =>
      refine .bind_same _ fun members => .ok { h with set := ?_ }
      intro other
      dsimp only
      split
      · exact fun _ _ => rfl
      · exact h.set other
  | similarityThreshold => exact .bind_same _ fun ratio => .ok { h with similarityThreshold := rfl }
  | deprecatedApis =>
      exact .bind_same _ fun table => .ok { h with deprecatedApis := by rw [h.deprecatedApis] }

theorem Alike.assignKey {a b : Settings} (h : a.Alike b) {entry other : CodeText × Json}
    (hentry : SameEntry entry other) :
    SameOutcome Alike (a.assignKey entry) (b.assignKey other) := by
  cases hentry with
  | refl =>
      unfold Settings.assignKey
      cases Setting.ofKey? entry.1 with
      | none => exact .error _
      | some setting => exact h.assign setting entry.2
  | set s hcovers hcovers' =>
      simp only [Settings.assignKey, Setting.ofKey?_key, Settings.assign, readSet_toJson]
      refine .ok { h with set := ?_ }
      intro other
      dsimp only
      split
      · exact ScalarSet.alike_ofList hcovers hcovers'
      · exact h.set other

theorem unknownKeys_congr {first second : List (CodeText × Json)}
    (h : List.Forall₂ SameEntry first second) : unknownKeys first = unknownKeys second := by
  induction h with
  | nil => rfl
  | cons hentry _ ih =>
      unfold unknownKeys at ih ⊢
      rw [List.filter_cons, List.filter_cons, hentry.key_eq]
      split
      · rw [List.map_cons, List.map_cons, ih, hentry.key_eq]
      · exact ih

-- Objects that are the same but for the lists of sets are refused in the same way or give
-- settings that are alike.
theorem Alike.merge {a b : Settings} (h : a.Alike b) {first second : List (CodeText × Json)}
    (hentries : List.Forall₂ SameEntry first second) :
    SameOutcome Alike (a.merge first) (b.merge second) := by
  unfold Settings.merge
  rw [unknownKeys_congr hentries]
  cases unknownKeys second with
  | nil => exact .foldlM (fun _ _ _ _ halike hentry => halike.assignKey hentry) hentries h
  | cons key rest => exact .error _

theorem Alike.refl (settings : Settings) : settings.Alike settings :=
  ⟨rfl, rfl, fun _ _ _ => rfl, rfl, rfl⟩

end Settings

end SwiftAudit
