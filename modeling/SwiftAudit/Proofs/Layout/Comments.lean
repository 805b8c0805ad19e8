import Mathlib.Data.List.Infix
import SwiftAudit.Proofs.Layout.BlankLines
import SwiftAudit.Proofs.Lists

namespace SwiftAudit

namespace Text

-- How often a mark stands in a text.
def occurrences (mark text : List Char) : Nat := text.tails.countP (mark.isPrefixOf ·)

theorem occurrences_pos_of_append (mark before after : List Char) :
    0 < occurrences mark (before ++ mark ++ after) := by
  rw [occurrences, List.countP_pos_iff]
  refine ⟨mark ++ after, ?_, List.isPrefixOf_iff_prefix.mpr (List.prefix_append _ _)⟩
  rw [List.mem_tails, List.append_assoc]
  exact List.suffix_append _ _

-- A mark that stands in a text once stands at one place.
theorem eq_of_occurrences_eq_one {mark text before after before' after' : List Char}
    (h : occurrences mark text = 1) (htext : text = before ++ mark ++ after)
    (htext' : text = before' ++ mark ++ after') : before = before' ∧ after = after' := by
  rw [occurrences, List.countP_eq_length_filter, List.length_eq_one_iff] at h
  obtain ⟨only, honly⟩ := h
  have hmem (front back : List Char) (hfront : text = front ++ mark ++ back) :
      mark ++ back = only := by
    rw [← List.mem_singleton, ← honly, List.mem_filter, List.mem_tails, hfront, List.append_assoc]
    exact ⟨List.suffix_append _ _, List.isPrefixOf_iff_prefix.mpr (List.prefix_append _ _)⟩
  have hafter : after = after' :=
    List.append_cancel_left ((hmem before after htext).trans (hmem before' after' htext').symm)
  subst hafter
  rw [htext, List.append_assoc, List.append_assoc] at htext'
  exact ⟨List.append_cancel_right htext', rfl⟩

end Text

namespace Rule.BlankLines

def opening : List Char := ['/', '*']

def closing : List Char := ['*', '/']

-- A line with one block comment, which ends on it, and with no other mark of a comment.
structure HasComment (before behind line : List Char) : Prop where
  exists_inside : ∃ inside, line = before ++ opening ++ inside ++ closing ++ behind
  opensOnce : Text.occurrences opening line = 1
  closesOnce : Text.occurrences closing line = 1

-- A line on which a comment ends if it starts there, and starts if it ends there.
def ClosesComments (line : List Char) : Prop :=
  Text.occurrences opening line = 0 ∧ Text.occurrences closing line = 0 ∨
    ∃ before behind, HasComment before behind line

-- A comment first on its line, with text behind it.
def LeadsText (line : List Char) : Prop :=
  ∃ before behind, HasComment before behind line ∧ Text.isBlankText before ∧
    ¬Text.isBlankText behind

-- A comment last on its line.
def EndsLine (line : List Char) : Prop :=
  ∃ before behind, HasComment before behind line ∧ Text.isBlankText behind

theorem not_isBlank_of_mem_marks : ∀ c ∈ opening ++ closing, ¬Text.isBlank c := by
  intro c hc
  simp only [opening, closing, List.cons_append, List.nil_append, List.mem_cons,
    List.not_mem_nil, or_false] at hc
  rcases hc with rfl | rfl | rfl | rfl <;> decide

theorem startsComment_trim_iff {line : List Char} :
    startsComment (Text.trim line) ↔
      ∃ before after, line = before ++ opening ++ after ∧ Text.isBlankText before := by
  rw [startsComment, List.isPrefixOf_iff_prefix]
  exact Text.prefix_trim_iff opening (by decide) fun c hc =>
    not_isBlank_of_mem_marks c (List.mem_append_left _ hc)

theorem endsComment_trim_iff {line : List Char} :
    endsComment (Text.trim line) ↔
      ∃ before after, line = before ++ closing ++ after ∧ Text.isBlankText after := by
  rw [endsComment, List.isSuffixOf_iff_suffix]
  exact Text.suffix_trim_iff closing (by decide) fun c hc =>
    not_isBlank_of_mem_marks c (List.mem_append_right _ hc)

section Marks

variable {before behind line : List Char}

theorem HasComment.startsComment_iff (h : HasComment before behind line) :
    startsComment (Text.trim line) ↔ Text.isBlankText before := by
  obtain ⟨inside, hline⟩ := h.exists_inside
  rw [List.append_assoc (before ++ opening), List.append_assoc (before ++ opening)] at hline
  rw [startsComment_trim_iff]
  constructor
  · rintro ⟨lead, after, hlead, hblank⟩
    rwa [(Text.eq_of_occurrences_eq_one h.opensOnce hline hlead).1]
  · intro hblank
    exact ⟨before, _, hline, hblank⟩

theorem HasComment.endsComment_iff (h : HasComment before behind line) :
    endsComment (Text.trim line) ↔ Text.isBlankText behind := by
  obtain ⟨inside, hline⟩ := h.exists_inside
  rw [endsComment_trim_iff]
  constructor
  · rintro ⟨front, trail, htrail, hblank⟩
    rwa [(Text.eq_of_occurrences_eq_one h.closesOnce hline htrail).2]
  · intro hblank
    exact ⟨_, behind, hline, hblank⟩

-- Of lines without comments that span lines, those that open one for the scan are the ones that
-- go on behind a comment at their start.
theorem ClosesComments.leadsText_iff (h : ClosesComments line) :
    startsComment (Text.trim line) ∧ ¬endsComment (Text.trim line) ↔ LeadsText line := by
  constructor
  · rintro ⟨hstarts, hends⟩
    rcases h with ⟨hnone, -⟩ | ⟨before, behind, hcomment⟩
    · obtain ⟨lead, after, rfl, -⟩ := startsComment_trim_iff.mp hstarts
      exact absurd hnone (Nat.ne_of_gt (Text.occurrences_pos_of_append opening lead after))
    · exact ⟨before, behind, hcomment, hcomment.startsComment_iff.mp hstarts,
        mt hcomment.endsComment_iff.mpr hends⟩
  · rintro ⟨before, behind, hcomment, hbefore, hbehind⟩
    exact ⟨hcomment.startsComment_iff.mpr hbefore, mt hcomment.endsComment_iff.mp hbehind⟩

theorem ClosesComments.endsLine_iff (h : ClosesComments line) :
    endsComment (Text.trim line) ↔ EndsLine line := by
  constructor
  · intro hends
    rcases h with ⟨-, hnone⟩ | ⟨before, behind, hcomment⟩
    · obtain ⟨front, trail, rfl, -⟩ := endsComment_trim_iff.mp hends
      exact absurd hnone (Nat.ne_of_gt (Text.occurrences_pos_of_append closing front trail))
    · exact ⟨before, behind, hcomment, hcomment.endsComment_iff.mp hends⟩
  · rintro ⟨before, behind, hcomment, hbehind⟩
    exact hcomment.endsComment_iff.mpr hbehind

end Marks

-- A comment is open below some lines if one of them starts with one and neither that line nor any
-- under it ends with one.
theorem isOpen_iff {lines : List (List Char)} :
    isOpen lines ↔ ∃ later first earlier, lines = later ++ first :: earlier ∧
      (startsComment (Text.trim first) ∧ ¬endsComment (Text.trim first)) ∧
      ∀ line ∈ later, ¬endsComment (Text.trim line) := by
  induction lines with
  | nil => simp [isOpen]
  | cons line above ih =>
      rw [isOpen_cons, commentAfter, Bool.and_eq_true, Bool.or_eq_true, ih, Bool.not_eq_true',
        ← Bool.not_eq_true]
      constructor
      · rintro ⟨⟨later, first, earlier, rfl, hfirst, hlater⟩ | hstarts, hends⟩
        · exact ⟨line :: later, first, earlier, rfl, hfirst,
            List.forall_mem_cons.mpr ⟨hends, hlater⟩⟩
        · exact ⟨[], line, above, rfl, ⟨hstarts, hends⟩, List.forall_mem_nil _⟩
      · rintro ⟨later, first, earlier, hlines, hfirst, hlater⟩
        cases later with
        | nil =>
            obtain ⟨rfl, rfl⟩ := List.cons.inj hlines
            exact ⟨.inr hfirst.1, hfirst.2⟩
        | cons head later =>
            obtain ⟨rfl, rfl⟩ := List.cons.inj hlines
            obtain ⟨hhead, hlater⟩ := List.forall_mem_cons.mp hlater
            exact ⟨.inl ⟨later, first, earlier, rfl, hfirst, hlater⟩, hhead⟩

-- A blank line that as many blank lines as are allowed, or more, stand directly above.
def isExcessive (limit : Int) (p : LinePlace) : Bool :=
  Text.isBlankText p.line && decide (limit ≤ blanks p.above)

-- Lines are passed over below a line that goes on behind a comment at its start, until one ends
-- with a comment.
def IsPassedOver (p : LinePlace) : Prop :=
  ∃ later leading earlier, p.above = later ++ leading :: earlier ∧ LeadsText leading ∧
    ∀ line ∈ later, ¬EndsLine line

theorem isOpen_iff_isPassedOver {p : LinePlace} (hblank : Text.isBlankText p.line)
    (h : ∀ line ∈ p.above, ClosesComments line) : isOpen p.upTo ↔ IsPassedOver p := by
  rw [LinePlace.upTo, isOpen_cons_of_blank hblank, isOpen_iff, IsPassedOver]
  refine exists_congr fun later => exists_congr fun first => exists_congr fun earlier => ?_
  refine and_congr_right fun habove => ?_
  rw [habove] at h
  have hlater := fun line hm => h line (List.mem_append_left _ hm)
  refine and_congr ?_ ?_
  · exact (h first (List.mem_append_right _ List.mem_cons_self)).leadsText_iff
  · exact forall₂_congr fun line hm => not_congr (hlater line hm).endsLine_iff

theorem isReported_every (limit : Int) (p : LinePlace) :
    isReported limit true p = (isExcessive limit p && !isOpen p.upTo) := by
  rw [isReported, isExcessive, Bool.true_or, Bool.and_true, Bool.and_right_comm]

theorem mem_above_of_mem_linePlaces {source : Source} {p : LinePlace} (hp : p ∈ source.linePlaces) :
    ∀ line ∈ p.above, line ∈ source.lines := by
  intro line hm
  refine (Text.mem_places_iff.mp hp).subset ?_
  rw [List.mem_reverse]
  exact List.mem_cons_of_mem _ hm

-- Where each line in excess is to be reported and no comment spans lines, those are reported that
-- are not passed over. None is missed exactly if none is passed over, as when no line goes on
-- behind a comment that it starts with.
theorem findings_eq_notPassedOver (source : Source) (settings : Settings)
    (hevery : settings.flag .flagEachExcessBlankLine = true)
    (hcomments : ∀ line ∈ source.lines, ClosesComments line) :
    let inExcess := source.linePlaces.filter (isExcessive (settings.number .maxBlankLines))
    findings source settings = (inExcess.filter (!isOpen ·.upTo)).map report ∧
      (∀ p ∈ inExcess, isOpen p.upTo ↔ IsPassedOver p) ∧
      (findings source settings = inExcess.map report ↔ ∀ p ∈ inExcess, ¬IsPassedOver p) ∧
      ((∀ line ∈ source.lines, ¬LeadsText line) →
        findings source settings = inExcess.map report) := by
  intro inExcess
  have hfindings : findings source settings = (inExcess.filter (!isOpen ·.upTo)).map report := by
    rw [findings_eq, hevery, List.filter_filter]
    congr 1
    apply List.filter_congr
    intro p _
    rw [isReported_every, Bool.and_comm]
  have hpassed : ∀ p ∈ inExcess, isOpen p.upTo ↔ IsPassedOver p := by
    intro p hp
    obtain ⟨hplace, hexcess⟩ := List.mem_filter.mp hp
    refine isOpen_iff_isPassedOver (Bool.and_eq_true_iff.mp hexcess).1 ?_
    exact fun line hm => hcomments line (mem_above_of_mem_linePlaces hplace line hm)
  have hall : findings source settings = inExcess.map report ↔ ∀ p ∈ inExcess, ¬IsPassedOver p := by
    rw [hfindings, map_filter_eq_map_iff]
    refine forall₂_congr fun p hp => ?_
    rw [Bool.not_eq_true', ← Bool.not_eq_true, hpassed p hp]
  refine ⟨hfindings, hpassed, hall, fun hleads => hall.mpr ?_⟩
  rintro p hp ⟨later, leading, earlier, habove, hleading, -⟩
  have hm : leading ∈ p.above := by
    rw [habove]
    exact List.mem_append_right _ List.mem_cons_self
  exact hleads leading (mem_above_of_mem_linePlaces (List.mem_filter.mp hp).1 leading hm) hleading

-- Two runs of blank lines, one below a comment with code behind it, and one below a comment that
-- ends its line.
def commentedCode : Source :=
  .ofText "f.swift" "/* a */ let x = 1\n\n\n\n\nlet y = 2 /* b */\n\n\n\n" .unparsed

theorem closesComments_commentedCode : ∀ line ∈ commentedCode.lines, ClosesComments line := by
  have hlines : ∀ line ∈ commentedCode.lines, line = "/* a */ let x = 1".toList ∨
      line = "let y = 2 /* b */".toList ∨
      Text.occurrences opening line = 0 ∧ Text.occurrences closing line = 0 := by
    decide +kernel
  intro line hm
  rcases hlines line hm with rfl | rfl | hnone
  · exact .inr ⟨[], " let x = 1".toList,
      ⟨⟨" a ".toList, by decide +kernel⟩, by decide +kernel, by decide +kernel⟩⟩
  · exact .inr ⟨"let y = 2 ".toList, [],
      ⟨⟨" b ".toList, by decide +kernel⟩, by decide +kernel, by decide +kernel⟩⟩
  · exact .inl hnone

theorem findings_eq_notPassedOver_commentedCode :
    (∀ line ∈ commentedCode.lines, ClosesComments line) ∧
      (findings commentedCode Settings.default).map (·.line) = [9, 10] ∧
      ∃ p ∈ commentedCode.linePlaces, p.number = 5 ∧ IsPassedOver p := by
  obtain ⟨hfindings, hpassed, -⟩ :=
    findings_eq_notPassedOver commentedCode Settings.default rfl closesComments_commentedCode
  obtain ⟨p, hp, hnumber, hexcess, hopen⟩ : ∃ p ∈ commentedCode.linePlaces, p.number = 5 ∧
      isExcessive (Settings.default.number .maxBlankLines) p ∧ isOpen p.upTo := by
    decide +kernel
  refine ⟨closesComments_commentedCode, ?_, p, hp, hnumber, ?_⟩
  · rw [hfindings]
    decide +kernel
  · exact (hpassed p (List.mem_filter.mpr ⟨hp, hexcess⟩)).mp hopen

-- Lines in excess are missed though all comments are closed on their lines.
theorem findings_commentedCode_ne_inExcess :
    (∀ line ∈ commentedCode.lines, ClosesComments line) ∧
      Settings.default.flag .flagEachExcessBlankLine = true ∧
      0 ≤ Settings.default.number .maxBlankLines ∧
      findings commentedCode Settings.default ≠
        (commentedCode.linePlaces.filter
          (isExcessive (Settings.default.number .maxBlankLines))).map report :=
  ⟨closesComments_commentedCode, rfl, by decide, by decide +kernel⟩

end Rule.BlankLines

end SwiftAudit
