import SwiftAudit.Json.Display
import SwiftAudit.Text.Numeral

namespace SwiftAudit

namespace Text

theorem splitOnP_all_empty_iff (p : Char → Bool) (text : List Char) :
    (∀ word ∈ text.splitOnP p, word = []) ↔ text.all p := by
  induction text with
  | nil => simp
  | cons c rest ih =>
      rw [List.splitOnP_cons_eq_if_modifyHead]
      cases hc : p c with
      | true => simpa [hc] using ih
      | false =>
          obtain ⟨word, words, hw⟩ := List.exists_cons_of_ne_nil (List.splitOnP_ne_nil p rest)
          simp [hc, hw]

theorem words_eq_nil_iff (text : List Char) : words text = [] ↔ isBlankText text := by
  rw [isBlankText, ← splitOnP_all_empty_iff]
  simp [words, List.filter_eq_nil_iff]

theorem digit?_lt {base : Nat} {c : Char} {value : Nat} (h : digit? base c = some value) :
    value < base := by
  unfold digit? at h
  simpa using (Option.filter_eq_some_iff.mp h).2

-- Each digit takes the value up by one factor of the base, a leading one at most to its end.
theorem addDigit_mul_pow_le {base digit : Nat} (hdigit : digit < base) (start length : Nat) :
    (start * base + digit + 1) * Nat.pow base length ≤
      (start + 1) * Nat.pow base (length + 1) := by
  have hstep : start * base + digit + 1 ≤ (start + 1) * base := by
    rw [Nat.add_mul]; omega
  calc
    (start * base + digit + 1) * Nat.pow base length
      ≤ (start + 1) * base * Nat.pow base length := Nat.mul_le_mul_right _ hstep
    _ = (start + 1) * Nat.pow base (length + 1) := by
      rw [Nat.mul_assoc, Nat.mul_comm base]; rfl

theorem foldlM_digits_lt (base : Nat) (digits : List Char) (start value : Nat)
    (h : digits.foldlM (fun value c => (digit? base c).map (value * base + ·)) start =
      some value) :
    value < (start + 1) * Nat.pow base digits.length := by
  induction digits generalizing start with
  | nil => simp_all
  | cons c rest ih =>
      rw [List.foldlM_cons] at h
      cases hd : digit? base c with
      | none => simp [hd] at h
      | some d =>
          have hrest := ih (start * base + d) (by simpa [hd] using h)
          exact Nat.lt_of_lt_of_le hrest (addDigit_mul_pow_le (digit?_lt hd) start rest.length)

theorem readNatural?_decimal_lt {text : List Char} {n : Nat} (h : readNatural? 10 text = some n) :
    n < Nat.pow 10 decimalDigitLimit := by
  simp only [readNatural?] at h
  split at h
  · cases h
  · rename_i hsize
    have hlt := foldlM_digits_lt 10 _ 0 n h
    have hle : (dropBaseMark 10 text).length ≤ decimalDigitLimit := by
      simp at hsize
      omega
    rw [Nat.zero_add, Nat.one_mul] at hlt
    generalize decimalDigitLimit = limit at hle
    exact Nat.lt_of_lt_of_le hlt (Nat.pow_le_pow_right (by decide) hle)

-- A decimal literal that can be read can also be shown.
theorem literalValue?_decimal_lt {text : List Char} {value : Int}
    (h : literalValue? 10 text = some value) : value.natAbs < Nat.pow 10 decimalDigitLimit := by
  simp only [literalValue?, ite_true, readInteger?] at h
  split at h
  all_goals
    simp only [Option.map_eq_some_iff, Option.bind_eq_bind, Option.bind_eq_some_iff] at h
    obtain ⟨_, ⟨n, hn, he⟩, rfl⟩ := h
    cases he
    simpa only [Int.natAbs_neg, Int.natAbs_natCast] using readNatural?_decimal_lt hn

theorem decimalText?_eq_none_iff (n : Int) :
    decimalText? n = none ↔ Nat.pow 10 decimalDigitLimit ≤ n.natAbs := by
  simp [decimalText?]

end Text

namespace Json

-- Somewhere in a value stands an integer of too many digits to be shown.
inductive HoldsOverlong : Json → Prop where
  | int (n : Int) (h : Nat.pow 10 Text.decimalDigitLimit ≤ n.natAbs) : HoldsOverlong (.int n)
  | item (items : List Json) (item : Json) (hm : item ∈ items) (h : HoldsOverlong item) :
      HoldsOverlong (.list items)
  | entry (entries : List (CodeText × Json)) (entry : CodeText × Json) (hm : entry ∈ entries)
      (h : HoldsOverlong entry.2) : HoldsOverlong (.object entries)

mutual

theorem displayedInside?_eq_none_iff : (value : Json) →
    (value.displayedInside? = none ↔ value.HoldsOverlong)
  | .null => by simp only [displayedInside?]; exact ⟨nofun, nofun⟩
  | .bool b => by simp only [displayedInside?]; exact ⟨nofun, nofun⟩
  | .int n => by
      simp only [displayedInside?, Text.decimalText?_eq_none_iff]
      exact ⟨.int n, fun | .int _ h => h⟩
  | .float d => by simp only [displayedInside?]; exact ⟨nofun, nofun⟩
  | .text s => by simp only [displayedInside?]; exact ⟨nofun, nofun⟩
  | .list items => by
      have h := displayedItems?_eq_none_iff items
      cases hd : displayedItems? items with
      | none =>
          obtain ⟨item, hm, hi⟩ := h.mp hd
          simpa [displayedInside?, hd] using HoldsOverlong.item items item hm hi
      | some shown =>
          simp only [displayedInside?, hd]
          refine ⟨nofun, fun | .item _ item hm hi => ?_⟩
          simp [h.mpr ⟨item, hm, hi⟩] at hd
  | .object entries => by
      have h := displayedEntries?_eq_none_iff entries
      cases hd : displayedEntries? entries with
      | none =>
          obtain ⟨entry, hm, he⟩ := h.mp hd
          simpa [displayedInside?, hd] using HoldsOverlong.entry entries entry hm he
      | some shown =>
          simp only [displayedInside?, hd]
          refine ⟨nofun, fun | .entry _ entry hm he => ?_⟩
          simp [h.mpr ⟨entry, hm, he⟩] at hd

theorem displayedItems?_eq_none_iff : (items : List Json) →
    (displayedItems? items = none ↔ ∃ item ∈ items, item.HoldsOverlong)
  | [] => by simp [displayedItems?]
  | item :: rest => by
      have hi := displayedInside?_eq_none_iff item
      have hr := displayedItems?_eq_none_iff rest
      simp only [List.mem_cons, exists_eq_or_imp, ← hi, ← hr, displayedItems?]
      cases item.displayedInside? <;> cases displayedItems? rest <;> simp

theorem displayedEntries?_eq_none_iff : (entries : List (CodeText × Json)) →
    (displayedEntries? entries = none ↔ ∃ entry ∈ entries, entry.2.HoldsOverlong)
  | [] => by simp [displayedEntries?]
  | (key, value) :: rest => by
      have hv := displayedInside?_eq_none_iff value
      have hr := displayedEntries?_eq_none_iff rest
      simp only [List.mem_cons, exists_eq_or_imp, ← hv, ← hr, displayedEntries?]
      cases value.displayedInside? <;> cases displayedEntries? rest <;> simp

end

theorem displayed?_eq_none_iff (value : Json) : value.displayed? = none ↔ value.HoldsOverlong := by
  cases value with
  | text s => exact ⟨nofun, nofun⟩
  | _ =>
      rw [← displayedInside?_eq_none_iff, displayed?, Option.map_eq_none_iff]
      nofun

end Json

end SwiftAudit
