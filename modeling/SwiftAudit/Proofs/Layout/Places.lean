import Mathlib.Data.List.Infix
import Mathlib.Data.List.Intervals
import SwiftAudit.Source.Basic

namespace SwiftAudit

-- A line of a text, with the lines above it, the nearest one first.
structure LinePlace where
  above : List (List Char)
  line : List Char
  deriving DecidableEq

namespace LinePlace

def number (p : LinePlace) : Nat := p.above.length + 1

-- The line and those above it, as the lines above what follows.
def upTo (p : LinePlace) : List (List Char) := p.line :: p.above

theorem length_upTo (p : LinePlace) : p.upTo.length = p.number := rfl

-- The places of lines that follow other lines, from the top to the bottom.
def after (above : List (List Char)) : List (List Char) → List LinePlace
  | [] => []
  | line :: rest => ⟨above, line⟩ :: after (line :: above) rest

theorem mem_after_iff {above lines : List (List Char)} {p : LinePlace} :
    p ∈ after above lines ↔
      ∃ front rest, lines = front ++ p.line :: rest ∧ p.above = front.reverse ++ above := by
  induction lines generalizing above with
  | nil => simp [after]
  | cons line below ih =>
      rw [after, List.mem_cons, ih]
      constructor
      · rintro (rfl | ⟨front, rest, rfl, habove⟩)
        · exact ⟨[], below, rfl, rfl⟩
        · exact ⟨line :: front, rest, rfl, by simp [habove]⟩
      · rintro ⟨front, rest, hlines, habove⟩
        cases front with
        | nil =>
            obtain ⟨rfl, -⟩ := List.cons.inj hlines
            exact .inl (by cases p; cases habove; rfl)
        | cons head front =>
            obtain ⟨rfl, rfl⟩ := List.cons.inj hlines
            exact .inr ⟨front, rest, rfl, by simpa using habove⟩

theorem map_number_after (above lines : List (List Char)) :
    (after above lines).map number = List.range' (above.length + 1) lines.length := by
  induction lines generalizing above with
  | nil => rfl
  | cons line rest ih =>
      rw [after, List.map_cons, ih, List.length_cons, List.length_cons, List.range'_succ]
      rfl

end LinePlace

namespace Text

-- The lines of a text with their places in it.
def places (lines : List (List Char)) : List LinePlace := LinePlace.after [] lines

theorem mem_places_iff {lines : List (List Char)} {p : LinePlace} :
    p ∈ places lines ↔ p.upTo.reverse <+: lines := by
  rw [places, LinePlace.mem_after_iff, LinePlace.upTo, List.reverse_cons]
  constructor
  · rintro ⟨front, rest, rfl, habove⟩
    rw [habove, List.append_nil, List.reverse_reverse]
    exact ⟨rest, by simp⟩
  · rintro ⟨rest, rfl⟩
    exact ⟨p.above.reverse, rest, by simp, by simp⟩

-- Each line has one place, under the lines that stand before it.
theorem mem_places_of_append {above below : List (List Char)} {line : List Char} :
    ⟨above.reverse, line⟩ ∈ places (above ++ line :: below) := by
  rw [mem_places_iff, LinePlace.upTo, List.reverse_cons, List.reverse_reverse]
  exact ⟨below, by simp⟩

-- What stands above a place has a place itself.
theorem mem_places_of_suffix {lines : List (List Char)} {p q : LinePlace} (hq : q ∈ places lines)
    (h : p.upTo <:+ q.above) : p ∈ places lines := by
  rw [mem_places_iff] at hq ⊢
  refine List.IsPrefix.trans ?_ hq
  rw [List.reverse_prefix]
  exact h.trans (List.suffix_cons _ _)

-- Of two lines of a text, the upper one stands above the lower one with all that is above it.
theorem suffix_of_number_lt {lines : List (List Char)} {p q : LinePlace} (hp : p ∈ places lines)
    (hq : q ∈ places lines) (h : p.number < q.number) : p.upTo <:+ q.above := by
  rw [mem_places_iff] at hp hq
  have habove : q.above.reverse <+: lines := by
    refine List.IsPrefix.trans ?_ hq
    rw [List.reverse_prefix]
    exact List.suffix_cons _ _
  have hlength : p.upTo.reverse.length ≤ q.above.reverse.length := by
    rw [List.length_reverse, List.length_reverse, LinePlace.length_upTo]
    exact Nat.le_of_lt_succ h
  exact List.reverse_prefix.mp (List.prefix_of_prefix_length_le hp habove hlength)

theorem map_number_places (lines : List (List Char)) :
    (places lines).map LinePlace.number = List.range' 1 lines.length :=
  LinePlace.map_number_after [] lines

theorem pairwise_number_places (lines : List (List Char)) :
    (places lines).Pairwise fun p q => p.number < q.number := by
  rw [← List.pairwise_map, map_number_places]
  exact List.pairwise_lt_range'

-- The lines whose numbers are above one number and up to another one.
theorem length_filter_places (lines : List (List Char)) (first : Nat) {last : Nat}
    (hlast : last ≤ lines.length) :
    ((places lines).filter fun p => decide (first < p.number ∧ p.number ≤ last)).length =
      last - first := by
  have hnumbers : (places lines).map LinePlace.number = List.Ico 1 (lines.length + 1) :=
    map_number_places lines
  have hfilter : ((places lines).filter fun p => decide (first < p.number ∧ p.number ≤ last)).map
        LinePlace.number =
      ((List.Ico 1 (lines.length + 1)).filter (· < last + 1)).filter (first + 1 ≤ ·) := by
    rw [← hnumbers, List.filter_filter, List.filter_map]
    congr 2
    funext p
    rw [Function.comp_apply, ← Bool.decide_and]
    exact decide_eq_decide.mpr (and_congr Iff.rfl Nat.lt_succ_iff.symm)
  have hlength := congrArg List.length hfilter
  rw [List.length_map, List.Ico.filter_lt, List.Ico.filter_le, List.Ico.length] at hlength
  omega

theorem eq_of_number_eq {lines : List (List Char)} {p q : LinePlace} (hp : p ∈ places lines)
    (hq : q ∈ places lines) (h : p.number = q.number) : p = q := by
  rw [mem_places_iff] at hp hq
  have hlength : p.upTo.reverse.length = q.upTo.reverse.length := by
    rw [List.length_reverse, List.length_reverse, LinePlace.length_upTo, LinePlace.length_upTo, h]
  have hfirst := List.prefix_of_prefix_length_le hp hq (Nat.le_of_eq hlength)
  have hupTo := List.reverse_inj.mp (hfirst.eq_of_length hlength)
  cases p
  cases q
  obtain ⟨rfl, rfl⟩ := List.cons.inj hupTo
  rfl

end Text

namespace Source

def linePlaces (source : Source) : List LinePlace := Text.places source.lines

end Source

end SwiftAudit
