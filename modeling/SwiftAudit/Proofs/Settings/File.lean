import SwiftAudit.Proofs.Json.Reader
import SwiftAudit.Proofs.Settings.History
import SwiftAudit.Settings.File

namespace SwiftAudit

namespace Json

-- A value with its entries, if it is an object.
def EntriesFit (value : Json) : Prop := value.Fits ∧ ∀ entry ∈ Setting.tableOf value, entry.2.Fits

theorem EntriesFit.of_fits {value : Json} (h : value.Fits) (htable : Setting.tableOf value = []) :
    value.EntriesFit := by
  refine ⟨h, ?_⟩
  rw [htable]
  exact List.forall_mem_nil _

theorem isHereditary_entriesFit : IsHereditary EntriesFit where
  null := .of_fits trivial rfl
  bool _ := .of_fits trivial rfl
  nan := .of_fits trivial rfl
  infinity _ := .of_fits trivial rfl
  text _ := .of_fits trivial rfl
  list _ _ := .of_fits trivial rfl
  object _ h := ⟨trivial, fun entry hm => (h entry hm).1⟩

theorem numeralsHold_entriesFit (limit : Option Nat) : NumeralsHold EntriesFit limit := by
  intro negative input token after h
  unfold takeNumeral at h
  split at h
  dsimp only at h
  split at h
  · cases h
  · split at h
    · split at h
      · cases h
        trivial
      · cases h
        exact .of_fits trivial rfl
    · cases h
      exact .of_fits (Double.fits_ofDecimal _ _ _) rfl

-- Every double of an object that is read is a double of the format.
theorem fits_of_read {limit : Option Nat} {text : List Char} {entries : List (CodeText × Json)}
    (h : read limit text = .ok (.object entries)) : ∀ entry ∈ entries, entry.2.Fits :=
  (holds_of_read isHereditary_entriesFit (numeralsHold_entriesFit limit) h).2

end Json

namespace Settings

-- Settings that are loaded are the defaults with an object that was read.
theorem exists_read_of_load {path : Path} {found : Lookup} {settings : Settings}
    (h : (load path found).result = .ok settings) :
    ∃ text entries, Json.read (some Text.decimalDigitLimit) text = .ok (.object entries) ∧
      default.merge entries = .ok settings := by
  cases found with
  | file bytes tree =>
      unfold load readFile at h
      dsimp only at h
      split at h
      · cases h
      · rename_i text htext
        rw [Transcript.result_bind] at h
        obtain ⟨value, hvalue, h⟩ := exists_of_bind_eq_ok h
        unfold readJson at hvalue
        split at hvalue
        · rename_i json hjson
          cases hvalue
          cases value with
          | object entries =>
              simp only [Transcript.result_bind, Transcript.result_note, ok_bind] at h
              exact ⟨text, entries, hjson, h⟩
          | _ => cases h
        · cases hvalue
        · cases hvalue
  | _ => cases h

-- So are they sound, and whoever lists them reads them back.
theorem exists_merge_of_load {path : Path} {found : Lookup} {settings : Settings}
    (h : (load path found).result = .ok settings) {listed : List (CodeText × Json)}
    (hlisted : settings.IsListedBy listed) :
    ∃ back, default.merge listed = .ok back ∧
      ∀ setting, (settings.value setting).Reordered (back.value setting) := by
  obtain ⟨text, entries, hread, hmerge⟩ := exists_read_of_load h
  exact exists_merge_of_isListedBy (isSound_default.merge (Json.fits_of_read hread) hmerge) hlisted

end Settings

end SwiftAudit
