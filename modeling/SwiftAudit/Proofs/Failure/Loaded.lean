import Mathlib.Data.List.TakeDrop
import SwiftAudit.Proofs.Failure.Check
import SwiftAudit.Proofs.Settings.File

-- Integers that are read are short enough to be shown.
namespace SwiftAudit

namespace Json

theorem foldl_digits_lt (digits : List Char) (start : Nat) (h : ∀ c ∈ digits, isDigit c) :
    digits.foldl (fun value c => value * 10 + (c.toNat - '0'.toNat)) start <
      (start + 1) * Nat.pow 10 digits.length := by
  induction digits generalizing start with
  | nil => simp
  | cons c rest ih =>
      have hrest := ih (start * 10 + (c.toNat - '0'.toNat)) fun d hd =>
        h d (List.mem_cons_of_mem _ hd)
      have hdigit : c.toNat - '0'.toNat < 10 := by
        have hc := h c List.mem_cons_self
        simp only [isDigit, Bool.and_eq_true, decide_eq_true_eq] at hc
        have hnine : c.toNat ≤ '9'.toNat := hc.2
        have hvalues : '9'.toNat = 57 ∧ '0'.toNat = 48 := by decide
        omega
      rw [List.foldl_cons]
      exact Nat.lt_of_lt_of_le hrest (Text.addDigit_mul_pow_le hdigit start rest.length)

theorem decimalValue_lt (digits : List Char) (h : ∀ c ∈ digits, isDigit c) :
    decimalValue digits < Nat.pow 10 digits.length := by
  have hlt := foldl_digits_lt digits 0 h
  rw [Nat.zero_add, Nat.one_mul] at hlt
  exact hlt

theorem isDigit_of_takeDigits (input : List Char) : ∀ c ∈ (takeDigits input).1, isDigit c := by
  intro c hc
  rw [takeDigits, List.span_eq_takeWhile_dropWhile] at hc
  exact List.all_eq_true.mp List.all_takeWhile c hc

theorem not_holdsOverlong_decimal (negative : Bool) (digits : List Char)
    (hdigits : ∀ c ∈ digits, isDigit c) (hlength : digits.length ≤ Text.decimalDigitLimit) :
    ¬HoldsOverlong (.int (if negative then -(decimalValue digits : Int)
      else decimalValue digits)) := by
  intro hlong
  have hlt := decimalValue_lt digits hdigits
  have habs : (if negative then -(decimalValue digits : Int)
      else decimalValue digits).natAbs = decimalValue digits := by
    split <;> simp
  cases hlong with
  | int n hle =>
      rw [habs] at hle
      generalize Text.decimalDigitLimit = limit at hle hlength
      have hpow : Nat.pow 10 digits.length ≤ Nat.pow 10 limit :=
        Nat.pow_le_pow_right (by decide) hlength
      omega

-- An integer of too many digits is no token.
theorem numeralsHold_not_holdsOverlong :
    NumeralsHold (¬·.HoldsOverlong) (some Text.decimalDigitLimit) := by
  intro negative input token after h
  unfold takeNumeral at h
  split at h
  rename_i whole afterWhole hsplit
  have hdigits : ∀ c ∈ whole, isDigit c := by
    split at hsplit
    · cases hsplit
      intro c hc
      cases List.mem_singleton.mp hc
      rfl
    · have h := isDigit_of_takeDigits input
      rw [hsplit] at h
      exact h
  dsimp only at h
  split at h
  · cases h
  · split at h
    · split at h
      · cases h
        trivial
      · rename_i hlength
        cases h
        exact not_holdsOverlong_decimal negative whole hdigits (by simpa using hlength)
    · cases h
      intro hlong
      cases hlong

theorem isHereditary_not_holdsOverlong : IsHereditary (¬·.HoldsOverlong) where
  null hlong := by cases hlong
  bool _ hlong := by cases hlong
  nan hlong := by cases hlong
  infinity _ hlong := by cases hlong
  text _ hlong := by cases hlong
  list _ hitems hlong := by
    cases hlong with
    | item _ item hm hitem => exact hitems item hm hitem
  object _ hentries hlong := by
    cases hlong with
    | entry _ entry hm hentry => exact hentries entry hm hentry

theorem not_holdsOverlong_of_read {text : List Char} {value : Json}
    (h : read (some Text.decimalDigitLimit) text = .ok value) : ¬value.HoldsOverlong :=
  holds_of_read isHereditary_not_holdsOverlong numeralsHold_not_holdsOverlong h

end Json

namespace Settings

def ShowsReplacements (settings : Settings) : Prop :=
  ∀ entry ∈ settings.deprecatedApis, ¬entry.2.HoldsOverlong

theorem default_showsReplacements : default.ShowsReplacements := by
  intro entry hm hlong
  have htext : ∀ entry ∈ replacements, ∃ s, entry.2 = .text s := by simp [replacements]
  obtain ⟨s, hs⟩ := htext entry hm
  rw [hs] at hlong
  cases hlong

theorem showsReplacements_of_assign {settings changed : Settings} {setting : Setting}
    {value : Json} (hsettings : settings.ShowsReplacements) (hvalue : ¬value.HoldsOverlong)
    (h : settings.assign setting value = .ok changed) : changed.ShowsReplacements := by
  obtain ⟨hheld, hothers⟩ := value_of_assign h
  by_cases hs : setting = .deprecatedApis
  · subst hs
    cases value with
    | object added =>
        have hadded : ∀ entry ∈ added, ¬entry.2.HoldsOverlong := fun entry hm hlong =>
          hvalue (.entry added entry hm hlong)
        have hmerged : Assoc.merge settings.deprecatedApis added = changed.deprecatedApis :=
          Json.object.inj (Option.some.inj hheld)
        rw [ShowsReplacements, ← hmerged]
        exact Assoc.forall_mem_merge (fun value : Json => ¬value.HoldsOverlong) _ _ hsettings hadded
    | _ => cases h
  · have hsame : changed.deprecatedApis = settings.deprecatedApis :=
      Json.object.inj (hothers .deprecatedApis (Ne.symm hs))
    rw [ShowsReplacements, hsame]
    exact hsettings

theorem showsReplacements_of_merge {settings changed : Settings}
    {entries : List (CodeText × Json)} (hsettings : settings.ShowsReplacements)
    (hentries : ∀ entry ∈ entries, ¬entry.2.HoldsOverlong)
    (h : settings.merge entries = .ok changed) : changed.ShowsReplacements := by
  refine foldlM_preserves assignKey ShowsReplacements entries ?_ hsettings (foldlM_of_merge h)
  intro settings next entry hm hsettings hnext
  unfold assignKey at hnext
  split at hnext
  · exact showsReplacements_of_assign hsettings (hentries entry hm) hnext
  · cases hnext

-- Every replacement of settings that come from a file can be shown.
theorem showsReplacements_of_load {path : Path} {found : Lookup} {settings : Settings}
    (h : (load path found).result = .ok settings) : settings.ShowsReplacements := by
  obtain ⟨text, entries, hread, hmerge⟩ := exists_read_of_load h
  have hshort := Json.not_holdsOverlong_of_read hread
  refine showsReplacements_of_merge default_showsReplacements ?_ hmerge
  intro entry hm hlong
  exact hshort (.entry entries entry hm hlong)

end Settings

-- So under such settings deprecated interfaces are found on every tree.
theorem Check.deprecatedApis_findings_of_load {path : Path} {found : Lookup}
    {settings : Settings} (h : (Settings.load path found).result = .ok settings)
    (source : Source) :
    ∃ findings, (Check.deprecatedApis.findings source settings).result = .ok findings := by
  rw [exists_ok_iff]
  intro halt hfails
  obtain ⟨breakdown, hfails, -⟩ := (findings_eq_error_iff source settings _ halt).mp hfails
  cases hfails with
  | unshowable n hm hshow =>
      obtain ⟨name, replacement, -, -, hlookup, hlong⟩ := hshow
      obtain ⟨before, after, htable, -⟩ := List.lookup_eq_some_iff.mp hlookup
      have hentry : (.plain name, replacement) ∈ settings.deprecatedApis := by
        rw [htable]
        exact List.mem_append_right before List.mem_cons_self
      exact Settings.showsReplacements_of_load h (.plain name, replacement) hentry hlong

end SwiftAudit
