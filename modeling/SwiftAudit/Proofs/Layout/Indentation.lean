import SwiftAudit.Proofs.Layout.Places
import SwiftAudit.Proofs.Lists
import SwiftAudit.Rule.Indentation

namespace SwiftAudit

namespace Text

-- The lines that hold more than blanks.
def withText (lines : List (List Char)) : List (List Char) := lines.filter (!isBlankText ·)

theorem withText_cons_of_blank {line : List Char} (h : isBlankText line)
    (rest : List (List Char)) : withText (line :: rest) = withText rest :=
  List.filter_cons_of_neg (by simp [h])

theorem withText_cons_of_text {line : List Char} (h : ¬isBlankText line)
    (rest : List (List Char)) : withText (line :: rest) = line :: withText rest :=
  List.filter_cons_of_pos (by simp [h])

end Text

namespace LinePlace

-- The place that a line has when the blank lines above it are taken away.
def closedUp (p : LinePlace) : LinePlace := ⟨Text.withText p.above, p.line⟩

theorem closedUp_after (above lines : List (List Char)) :
    ((after above lines).filter (!Text.isBlankText ·.line)).map closedUp =
      after (Text.withText above) (Text.withText lines) := by
  induction lines generalizing above with
  | nil => rfl
  | cons line rest ih =>
      rw [after]
      by_cases hblank : Text.isBlankText line
      · rw [List.filter_cons_of_neg (by simp [hblank]), ih, Text.withText_cons_of_blank hblank,
          Text.withText_cons_of_blank hblank]
      · rw [List.filter_cons_of_pos (by simp [hblank]), List.map_cons, ih,
          Text.withText_cons_of_text hblank, Text.withText_cons_of_text hblank]
        rfl

end LinePlace

namespace Rule.Indentation

-- The indent of the nearest line above that has text, the nearest line being the first.
def indentAbove (above : List (List Char)) : Nat :=
  ((above.find? (!Text.isBlankText ·)).map indent).getD 0

def isUneven (allowed : ScalarSet) (p : LinePlace) : Bool :=
  !Text.isBlankText p.line && decide (0 < indent p.line) &&
    !allowed.hasInt ((indent p.line : Int) - indentAbove p.above)

def report (p : LinePlace) : Finding := finding p.number (indent p.line)

theorem indentAbove_cons_of_blank {line : List Char} (h : Text.isBlankText line)
    (above : List (List Char)) : indentAbove (line :: above) = indentAbove above := by
  rw [indentAbove, List.find?_cons_of_neg (by simp [h]), indentAbove]

theorem indentAbove_cons_of_text {line : List Char} (h : ¬Text.isBlankText line)
    (above : List (List Char)) : indentAbove (line :: above) = indent line := by
  rw [indentAbove, List.find?_cons_of_pos (by simp [h])]
  rfl

-- What the scan remembers is the indent of the nearest line with text, reported or not.
theorem scan_eq (allowed : ScalarSet) (above lines : List (List Char)) :
    scan allowed (above.length + 1) (indentAbove above) lines =
      ((LinePlace.after above lines).filter (isUneven allowed)).map report := by
  induction lines generalizing above with
  | nil => rfl
  | cons line rest ih =>
      have hnext := ih (line :: above)
      rw [List.length_cons] at hnext
      rw [LinePlace.after, scan]
      by_cases hblank : Text.isBlankText line
      · rw [indentAbove_cons_of_blank hblank] at hnext
        rw [if_pos hblank, hnext, List.filter_cons_of_neg (by simp [isUneven, hblank])]
      · rw [indentAbove_cons_of_text hblank] at hnext
        have hhere : isUneven allowed ⟨above, line⟩ =
            (decide (indent line > 0) && !allowed.hasInt ((indent line : Int) - indentAbove above)) := by
          simp [isUneven, hblank]
        rw [if_neg hblank]
        dsimp only
        rw [hnext, List.filter_cons, hhere]
        split
        · rw [List.map_cons, List.singleton_append]
          rfl
        · rw [List.nil_append]

def reported (allowed : ScalarSet) (source : Source) : List LinePlace :=
  source.linePlaces.filter (isUneven allowed)

theorem findings_eq (source : Source) (settings : Settings) :
    findings source settings =
      (reported (settings.set .allowedIndentDeltas) source).map report :=
  scan_eq (settings.set .allowedIndentDeltas) [] source.lines

theorem indentAbove_withText (above : List (List Char)) :
    indentAbove (Text.withText above) = indentAbove above := by
  simp only [indentAbove, Text.withText, List.find?_filter, Bool.decide_and, Bool.decide_eq_true,
    Bool.and_self]

-- Whether a line is reported does not depend on the blank lines above it.
theorem isUneven_closedUp (allowed : ScalarSet) (p : LinePlace) :
    isUneven allowed p.closedUp = isUneven allowed p := by
  rw [isUneven, LinePlace.closedUp, indentAbove_withText, isUneven]

theorem closedUp_reported (allowed : ScalarSet) (source : Source) :
    (reported allowed source).map LinePlace.closedUp =
      (Text.places (Text.withText source.lines)).filter (isUneven allowed) := by
  have htext : reported allowed source =
      (source.linePlaces.filter (!Text.isBlankText ·.line)).filter (isUneven allowed) := by
    rw [List.filter_filter, reported]
    apply List.filter_congr
    intro p _
    cases hblank : Text.isBlankText p.line <;> simp [isUneven, hblank]
  have hplaces := LinePlace.closedUp_after [] source.lines
  rw [Text.withText, List.filter_nil] at hplaces
  rw [htext, Text.places, ← hplaces, List.filter_map]
  congr 2
  funext p
  exact (isUneven_closedUp allowed p).symm

-- The same finding about the same line, which stands below the same lines with text.
def IsRenumbered (a b : Source) (f g : Finding) : Prop :=
  ∃ p ∈ a.linePlaces, ∃ q ∈ b.linePlaces, q.line = p.line ∧
    Text.withText q.above = Text.withText p.above ∧
    f.line = p.number ∧ g = { f with line := q.number }

theorem isRenumbered_report {a b : Source} {p q : LinePlace} (hp : p ∈ a.linePlaces)
    (hq : q ∈ b.linePlaces) (h : p.closedUp = q.closedUp) :
    IsRenumbered a b (report p) (report q) := by
  obtain ⟨habove, hline⟩ := LinePlace.mk.inj h
  refine ⟨p, hp, q, hq, hline.symm, habove.symm, rfl, ?_⟩
  rw [report, ← hline]
  rfl

theorem exists_report_iff (allowed : ScalarSet) (source : Source) {p : LinePlace}
    (hp : p ∈ source.linePlaces) :
    (∃ f ∈ (reported allowed source).map report, f.line = p.number) ↔ isUneven allowed p := by
  constructor
  · rintro ⟨f, hf, hline⟩
    obtain ⟨q, hq, rfl⟩ := List.mem_map.mp hf
    obtain ⟨hplace, huneven⟩ := List.mem_filter.mp hq
    have hnumber : q.number = p.number := Int.ofNat.inj hline
    rwa [← Text.eq_of_number_eq hplace hp hnumber]
  · intro huneven
    exact ⟨report p, List.mem_map_of_mem (List.mem_filter.mpr ⟨hp, huneven⟩), rfl⟩

-- A line is reported where its spaces differ from those of the nearest line with text above it,
-- or from none, by what is not allowed; blank lines and lines without indent are never reported.
-- Texts that differ in blank lines only have the same findings, up to the numbers of the lines.
theorem findings_eq_uneven (source : Source) (settings : Settings) :
    let allowed := settings.set .allowedIndentDeltas
    findings source settings = (source.linePlaces.filter (isUneven allowed)).map report ∧
      (∀ above line below, source.lines = above ++ line :: below →
        ((∃ f ∈ findings source settings, f.line = (above.length + 1 : Nat)) ↔
          ¬Text.isBlankText line ∧ 0 < indent line ∧
            ¬allowed.hasInt ((indent line : Int) - indentAbove above.reverse))) ∧
      ∀ other : Source, Text.withText other.lines = Text.withText source.lines →
        List.Forall₂ (IsRenumbered source other) (findings source settings)
          (findings other settings) := by
  intro allowed
  have hfindings : findings source settings = (reported allowed source).map report :=
    findings_eq source settings
  refine ⟨hfindings, ?_, ?_⟩
  · intro above line below hlines
    have hplace : ⟨above.reverse, line⟩ ∈ source.linePlaces := by
      rw [Source.linePlaces, hlines]
      exact Text.mem_places_of_append
    have hreported := exists_report_iff allowed source hplace
    rw [LinePlace.number, List.length_reverse] at hreported
    rw [hfindings, hreported]
    simp [isUneven, and_assoc]
  · intro other htext
    rw [hfindings, findings_eq, List.forall₂_map_left_iff, List.forall₂_map_right_iff]
    have hclosed : (reported allowed source).map LinePlace.closedUp =
        (reported allowed other).map LinePlace.closedUp := by
      rw [closedUp_reported, closedUp_reported, htext]
    apply forall₂_of_map_eq hclosed
    intro p hp q hq hpq
    exact isRenumbered_report (List.mem_filter.mp hp).1 (List.mem_filter.mp hq).1 hpq

-- Three spaces where none or four are expected, and a tab that is no indent.
def unevenBlock : Source := .ofText "f.swift" "f \x7b\n   a\n\tb\n\x7d\n" .unparsed

-- The same with blank lines between, one of them with spaces and an ideographic one.
def looseBlock : Source := .ofText "f.swift" "f \x7b\n\n   a\n  \u3000\n\tb\n\x7d\n" .unparsed

theorem findings_eq_uneven_looseBlock :
    Text.withText looseBlock.lines = Text.withText unevenBlock.lines ∧
      (findings unevenBlock Settings.default).map (·.line) = [2] ∧
      (findings looseBlock Settings.default).map (·.line) = [3] ∧
      List.Forall₂ (IsRenumbered unevenBlock looseBlock)
        (findings unevenBlock Settings.default) (findings looseBlock Settings.default) := by
  have htext : Text.withText looseBlock.lines = Text.withText unevenBlock.lines := by
    decide +kernel
  refine ⟨htext, by decide +kernel, by decide +kernel, ?_⟩
  exact (findings_eq_uneven unevenBlock Settings.default).2.2 looseBlock htext

end Rule.Indentation

end SwiftAudit
