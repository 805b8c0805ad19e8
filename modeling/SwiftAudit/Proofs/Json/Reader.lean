import SwiftAudit.Json.Reader
import SwiftAudit.Proofs.Assoc
import SwiftAudit.Proofs.Except

namespace SwiftAudit.Json

-- A property that all values but numerals have, containers if all in them has it.
structure IsHereditary (p : Json → Prop) : Prop where
  null : p .null
  bool : ∀ b, p (.bool b)
  nan : p (.float .nan)
  infinity : ∀ negative, p (.float (.infinity negative))
  text : ∀ s, p (.text s)
  list : ∀ items, (∀ item ∈ items, p item) → p (.list items)
  object : ∀ entries, (∀ entry ∈ entries, p entry.2) → p (.object entries)

variable {p : Json → Prop}

def Token.Holds (p : Json → Prop) : Token → Prop
  | .scalar value => p value
  | _ => True

-- The numerals of a text have the property.
def NumeralsHold (p : Json → Prop) (limit : Option Nat) : Prop :=
  ∀ negative input token after, takeNumeral limit negative input = some (token, after) →
    token.Holds p

theorem holds_of_takeWord (hp : IsHereditary p) {input after : List Char} {token : Token}
    (h : takeWord input = some (token, after)) : token.Holds p := by
  obtain ⟨⟨word, value⟩, hm, hw⟩ := List.exists_of_findSome?_eq_some h
  obtain ⟨rest, -, heq⟩ := Option.map_eq_some_iff.mp hw
  cases heq
  simp only [List.mem_cons, List.not_mem_nil, or_false, Prod.mk.injEq] at hm
  obtain ⟨-, rfl⟩ | ⟨-, rfl⟩ | ⟨-, rfl⟩ | ⟨-, rfl⟩ | ⟨-, rfl⟩ | ⟨-, rfl⟩ := hm
  · exact hp.null
  · exact hp.bool true
  · exact hp.bool false
  · exact hp.nan
  · exact hp.infinity false
  · exact hp.infinity true

theorem holds_of_takeToken (hp : IsHereditary p) {limit : Option Nat}
    (hnumerals : NumeralsHold p limit) {input after : List Char} {token : Token}
    (h : takeToken limit input = some (token, after)) : token.Holds p := by
  unfold takeToken at h
  split at h
  case h_7 =>
    obtain ⟨found, -, heq⟩ := Option.map_eq_some_iff.mp h
    cases heq
    trivial
  case h_8 =>
    unfold takeScalar at h
    rw [Option.orElse_eq_orElse, Option.orElse_eq_or, Option.or_eq_some_iff] at h
    obtain hword | ⟨-, hnumeral⟩ := h
    · exact holds_of_takeWord hp hword
    · split at hnumeral
      · exact hnumerals _ _ _ _ hnumeral
      · exact hnumerals _ _ _ _ hnumeral
  all_goals
    cases h
    trivial

theorem holds_of_mem_tokensWithin (hp : IsHereditary p) {limit : Option Nat}
    (hnumerals : NumeralsHold p limit) (fuel : Nat) (input : List Char) (token : Token)
    (hm : token ∈ tokensWithin limit fuel input) : token.Holds p := by
  induction fuel generalizing input with
  | zero => cases hm
  | succ fuel ih =>
      unfold tokensWithin at hm
      split at hm
      · cases hm
      · split at hm
        · rename_i found rest hfound
          rcases List.mem_cons.mp hm with rfl | hm
          · exact holds_of_takeToken hp hnumerals hfound
          · exact ih rest hm
        · cases List.mem_singleton.mp hm
          trivial

def Frame.Holds (p : Json → Prop) : Frame → Prop
  | .list items => ∀ item ∈ items, p item
  | .object entries _ => ∀ entry ∈ entries, p entry.2

def AllHold (p : Json → Prop) (around : List Frame) : Prop := ∀ frame ∈ around, frame.Holds p

-- All that has been read so far has the property.
def State.Holds (p : Json → Prop) : State → Prop
  | .valueDue around => AllHold p around
  | .listStart around => AllHold p around
  | .listNext items around => (Frame.list items).Holds p ∧ AllHold p around
  | .objectStart around => AllHold p around
  | .keyDue entries around => (Frame.object entries "").Holds p ∧ AllHold p around
  | .colonDue entries key around => (Frame.object entries key).Holds p ∧ AllHold p around
  | .objectNext entries around => (Frame.object entries "").Holds p ∧ AllHold p around
  | .finished value => p value

theorem holds_complete {value : Json} {around : List Frame} (hvalue : p value)
    (haround : AllHold p around) : (State.complete value around).Holds p := by
  cases around with
  | nil => exact hvalue
  | cons frame outer =>
      obtain ⟨hframe, houter⟩ := List.forall_mem_cons.mp haround
      cases frame with
      | list items => exact ⟨List.forall_mem_cons.mpr ⟨hvalue, hframe⟩, houter⟩
      | object entries key => exact ⟨List.forall_mem_cons.mpr ⟨hvalue, hframe⟩, houter⟩

theorem holds_start (hp : IsHereditary p) {around : List Frame} {token : Token} {next : State}
    (haround : AllHold p around) (htoken : token.Holds p)
    (h : State.start around token = .ok next) : next.Holds p := by
  cases token <;> cases h
  case scalar value => exact holds_complete htoken haround
  case text s => exact holds_complete (hp.text s) haround
  case openList => exact haround
  case openObject => exact haround

theorem holds_closeList (hp : IsHereditary p) {items : List Json} {around : List Frame}
    (hitems : (Frame.list items).Holds p) (haround : AllHold p around) :
    (State.closeList items around).Holds p := by
  refine holds_complete (hp.list _ ?_) haround
  intro item hm
  exact hitems item (List.mem_reverse.mp hm)

theorem holds_closeObject (hp : IsHereditary p) {entries : List (CodeText × Json)}
    {around : List Frame} (hentries : (Frame.object entries "").Holds p)
    (haround : AllHold p around) : (State.closeObject entries around).Holds p := by
  have hreverse : ∀ entry ∈ entries.reverse, p entry.2 :=
    fun entry hm => hentries entry (List.mem_reverse.mp hm)
  exact holds_complete (hp.object _ (Assoc.forall_mem_merge p [] entries.reverse nofun hreverse))
    haround

theorem holds_step (hp : IsHereditary p) {state next : State} {token : Token}
    (hstate : state.Holds p) (htoken : token.Holds p) (h : state.step token = .ok next) :
    next.Holds p := by
  have hnil : (Frame.list []).Holds p := nofun
  have hempty (key : CodeText) : (Frame.object [] key).Holds p := nofun
  unfold State.step at h
  split at h
  case h_1 => exact holds_start hp hstate htoken h
  case h_2 =>
    cases h
    exact holds_closeList hp hnil hstate
  case h_3 => exact holds_start hp (List.forall_mem_cons.mpr ⟨hnil, hstate⟩) htoken h
  case h_4 =>
    cases h
    exact List.forall_mem_cons.mpr hstate
  case h_5 =>
    cases h
    exact holds_closeList hp hstate.1 hstate.2
  case h_6 =>
    cases h
    exact holds_closeObject hp (hempty "") hstate
  case h_7 key =>
    cases h
    exact ⟨hempty key, hstate⟩
  case h_8 =>
    cases h
    exact hstate
  case h_9 =>
    cases h
    exact List.forall_mem_cons.mpr hstate
  case h_10 =>
    cases h
    exact hstate
  case h_11 =>
    cases h
    exact holds_closeObject hp hstate.1 hstate.2
  case h_12 => cases h

-- What all numerals of a text have, its value has.
theorem holds_of_read (hp : IsHereditary p) {limit : Option Nat}
    (hnumerals : NumeralsHold p limit) {text : List Char} {value : Json}
    (h : read limit text = .ok value) : p value := by
  obtain ⟨last, hlast, h⟩ := exists_of_bind_eq_ok h
  have hstart : (State.valueDue []).Holds p := nofun
  have hheld : last.Holds p := by
    refine foldlM_preserves State.step (State.Holds p) _ ?_ hstart hlast
    intro state next token hm hstate hstep
    exact holds_step hp hstate (holds_of_mem_tokensWithin hp hnumerals _ text token hm) hstep
  split at h
  · cases h
    exact hheld
  · cases h

end SwiftAudit.Json
