import SwiftAudit.Source.Location

namespace SwiftAudit

-- The same column, some lines further down.
def Position.down (lines : Nat) (position : Position) : Position :=
  { position with line := position.line + lines }

theorem Position.down_inj (lines : Nat) (a b : Position) : a.down lines = b.down lines ↔ a = b := by
  cases a
  cases b
  simp [Position.down]

theorem lineStartsAfter_append (offset : Nat) (a b : List UInt8) :
    lineStartsAfter offset (a ++ b) =
      lineStartsAfter offset a ++ lineStartsAfter (offset + a.length) b := by
  induction a generalizing offset with
  | nil => rfl
  | cons byte rest ih =>
      have hlength : offset + (byte :: rest).length = offset + 1 + rest.length := by
        simp only [List.length_cons]
        omega
      rw [List.cons_append, lineStartsAfter, lineStartsAfter, ih, hlength]
      split <;> rfl

theorem lineStartsAfter_add (offset k : Nat) (bytes : List UInt8) :
    lineStartsAfter (offset + k) bytes = (lineStartsAfter offset bytes).map (· + k) := by
  induction bytes generalizing offset with
  | nil => rfl
  | cons byte rest ih =>
      have hnext : offset + k + 1 = offset + 1 + k := by omega
      simp only [lineStartsAfter, hnext, ih]
      split <;> simp

theorem length_lineStartsAfter (offset : Nat) (bytes : List UInt8) :
    (lineStartsAfter offset bytes).length = bytes.count lineFeed := by
  induction bytes generalizing offset with
  | nil => rfl
  | cons byte rest ih =>
      rw [lineStartsAfter, List.count_cons]
      by_cases hb : byte = lineFeed <;> simp [hb, ih]

theorem mem_lineStartsAfter_bounds (offset start : Nat) (bytes : List UInt8)
    (hm : start ∈ lineStartsAfter offset bytes) :
    offset < start ∧ start ≤ offset + bytes.length := by
  induction bytes generalizing offset with
  | nil => cases hm
  | cons byte rest ih =>
      have hrest : start ∈ lineStartsAfter (offset + 1) rest →
          offset < start ∧ start ≤ offset + (byte :: rest).length := by
        intro h
        have h := ih (offset + 1) h
        simp only [List.length_cons]
        omega
      rw [lineStartsAfter] at hm
      split at hm
      · rcases List.mem_cons.mp hm with rfl | hm
        · simp only [List.length_cons]
          omega
        · exact hrest hm
      · exact hrest hm

-- Whole lines: nothing, or bytes of which the last is a line feed.
def EndsLine (bytes : List UInt8) : Prop := bytes = [] ∨ bytes.getLast? = some lineFeed

-- After whole lines a line starts where they stop.
theorem lastStart_of_endsLine (bytes : List UInt8) (h : EndsLine bytes) :
    (lineStartsAfter 0 bytes).getLastD 0 = bytes.length := by
  rcases h with rfl | h
  · rfl
  · obtain ⟨before, rfl⟩ := List.getLast?_eq_some_iff.mp h
    rw [lineStartsAfter_append]
    simp [lineStartsAfter]

namespace LineTable

theorem clamp_append (above bytes : List UInt8) (offset : Nat) :
    (ofBytes (above ++ bytes)).clamp ↑(offset + above.length) =
      (ofBytes bytes).clamp ↑offset + above.length := by
  simp only [clamp, ofBytes, List.length_append, Int.toNat_natCast]
  omega

-- The lines passed before an offset below whole lines: all of theirs, and those passed below.
theorem passed_append (above bytes : List UInt8) (offset : Nat) :
    (lineStartsAfter 0 (above ++ bytes)).takeWhile (· ≤ offset + above.length) =
      lineStartsAfter 0 above ++
        ((lineStartsAfter 0 bytes).takeWhile (· ≤ offset)).map (· + above.length) := by
  have hall : ∀ start ∈ lineStartsAfter 0 above,
      (decide (start ≤ offset + above.length)) = true := by
    intro start hm
    have hbound := mem_lineStartsAfter_bounds 0 start above hm
    simp only [decide_eq_true_eq]
    omega
  rw [lineStartsAfter_append, List.takeWhile_append_of_pos hall, lineStartsAfter_add,
    List.takeWhile_map]
  simp [Function.comp_def]

-- Whole lines above some bytes move every position down by their number, and leave the column.
theorem position_append (above bytes : List UInt8) (h : EndsLine above) (offset : Nat) :
    (ofBytes (above ++ bytes)).position ↑(offset + above.length) =
      ((ofBytes bytes).position ↑offset).down (above.count lineFeed) := by
  have hlast := lastStart_of_endsLine above h
  simp only [position, clamp_append]
  generalize (ofBytes bytes).clamp ↑offset = offset
  have hpassed := passed_append above bytes offset
  simp only [ofBytes]
  rw [hpassed, List.length_append, List.length_map, length_lineStartsAfter]
  cases hp : ((lineStartsAfter 0 bytes).takeWhile (· ≤ offset)).getLast? with
  | none =>
      have hnil := List.getLast?_eq_none_iff.mp hp
      simp only [hnil, List.map_nil, List.append_nil, hlast, Position.down, List.getLastD_nil,
        List.length_nil, Position.mk.injEq]
      omega
  | some start =>
      simp only [List.getLastD_eq_getLast?, List.getLast?_append, List.getLast?_map, hp,
        Option.map_some, Option.some_or, Option.getD_some, Position.down, Position.mk.injEq]
      omega

end LineTable

end SwiftAudit
