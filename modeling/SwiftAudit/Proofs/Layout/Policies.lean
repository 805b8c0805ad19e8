import SwiftAudit.Proofs.Layout.BlankLines
import SwiftAudit.Proofs.Lists

namespace SwiftAudit.Rule.BlankLines

def isCounted (p : LinePlace) : Bool := Text.isBlankText p.line && !isOpen p.upTo

-- A line with text outside comments, below which blank lines are counted anew.
def endsRun (p : LinePlace) : Bool := !Text.isBlankText p.line && !isOpen p.upTo

-- The number of the nearest line above that is not blank, or zero.
def textLineAbove (p : LinePlace) : Nat := (p.above.dropWhile Text.isBlankText).length

-- No line that stands under one line and above another one ends a run.
def Continues (source : Source) (p q : LinePlace) : Prop :=
  ∀ r ∈ source.linePlaces, p.number < r.number → r.number < q.number → ¬endsRun r

instance (source : Source) (p q : LinePlace) : Decidable (Continues source p q) :=
  inferInstanceAs (Decidable (∀ r ∈ source.linePlaces, _))

-- The blank lines that are counted in the run of a line, up to the line itself.
def countedUpTo (source : Source) (q : LinePlace) : List LinePlace :=
  source.linePlaces.filter fun r => isCounted r ∧ r.number ≤ q.number ∧ Continues source r q

theorem isCounted_of_isReported {limit : Int} {every : Bool} {p : LinePlace}
    (h : isReported limit every p) : isCounted p := by
  rw [isReported, Bool.and_eq_true, Bool.and_eq_true] at h
  exact h.1.1

theorem number_eq (p : LinePlace) : p.number = textLineAbove p + blanks p.above + 1 := by
  have hlength := congrArg List.length
    (List.takeWhile_append_dropWhile (p := Text.isBlankText) (l := p.above))
  rw [List.length_append] at hlength
  rw [LinePlace.number, textLineAbove, blanks]
  omega

-- A line that stands above another one, but under the nearest line with text above that one, is
-- blank, and so is all between the two.
theorem blank_of_textLineAbove_lt {p q : LinePlace} (hpq : p.upTo <:+ q.above)
    (h : textLineAbove q < p.number) :
    Text.isBlankText p.line ∧ textLineAbove p = textLineAbove q ∧
      isOpen p.upTo = isOpen q.above := by
  obtain ⟨between, habove⟩ := hpq
  have hsplit := habove.trans
    (List.takeWhile_append_dropWhile (p := Text.isBlankText) (l := q.above)).symm
  rcases List.append_eq_append_iff.mp hsplit with ⟨run, hrun, hupTo⟩ | ⟨rest, -, hrest⟩
  · have hblank : ∀ line ∈ between ++ run, Text.isBlankText line := by
      rw [← hrun]
      exact fun line hm => List.mem_takeWhile_imp hm
    cases run with
    | nil =>
        have hlength := congrArg List.length hupTo
        rw [List.nil_append, LinePlace.length_upTo] at hlength
        rw [textLineAbove] at h
        omega
    | cons line run =>
        obtain ⟨hline, hlines⟩ := List.cons.inj hupTo
        refine ⟨?_, ?_, ?_⟩
        · rw [hline]
          exact hblank line (by simp)
        · have hdrop : p.above.dropWhile Text.isBlankText =
              q.above.dropWhile Text.isBlankText := by
            rw [hlines, List.append_eq, List.dropWhile_append_of_pos, List.dropWhile_idempotent]
            intro other hm
            exact hblank other (by simp [hm])
          rw [textLineAbove, hdrop, textLineAbove]
        · rw [← habove, isOpen_append_of_blank]
          intro other hm
          exact hblank other (List.mem_append_left _ hm)
  · have hlength := congrArg List.length hrest
    rw [List.length_append, LinePlace.length_upTo] at hlength
    rw [textLineAbove] at h
    omega

section Runs

variable {source : Source} {p q : LinePlace}

-- The nearest line with text above a counted line ends a run.
theorem exists_endsRun (hq : q ∈ source.linePlaces) (hcounted : isCounted q)
    (h : 0 < textLineAbove q) :
    ∃ r ∈ source.linePlaces, r.number = textLineAbove q ∧ endsRun r := by
  obtain ⟨line, above, hdrop⟩ := List.exists_cons_of_length_pos h
  have hsuffix : line :: above <:+ q.above := hdrop ▸ List.dropWhile_suffix _
  have htext : ¬Text.isBlankText line := by
    have hhead := List.head?_dropWhile_not Text.isBlankText q.above
    rw [hdrop] at hhead
    simpa using hhead
  have hopen : isOpen q.upTo = isOpen (line :: above) := by
    have hblank : Text.isBlankText q.line := (Bool.and_eq_true_iff.mp hcounted).1
    rw [LinePlace.upTo, isOpen_cons_of_blank hblank,
      ← List.takeWhile_append_dropWhile (p := Text.isBlankText) (l := q.above), hdrop,
      isOpen_append_of_blank]
    exact fun other hm => List.mem_takeWhile_imp hm
  refine ⟨⟨above, line⟩, Text.mem_places_of_suffix hq hsuffix, ?_, ?_⟩
  · rw [textLineAbove, hdrop]
    rfl
  · rw [isCounted, hopen, Bool.and_eq_true] at hcounted
    rw [endsRun, LinePlace.upTo, hcounted.2, Bool.and_true]
    simpa using htext

-- Of two counted lines the nearest lines with text above are the same exactly if no line between
-- them ends a run.
theorem textLineAbove_eq_iff (hp : p ∈ source.linePlaces) (hq : q ∈ source.linePlaces)
    (hcounted : isCounted p) (hcounted' : isCounted q) (hlt : p.number < q.number) :
    textLineAbove p = textLineAbove q ↔ Continues source p q := by
  constructor
  · intro heq r hr hpr hrq hends
    have habove : textLineAbove q < r.number := by
      have hnumber := number_eq p
      omega
    have hblank := (blank_of_textLineAbove_lt (Text.suffix_of_number_lt hr hq hrq) habove).1
    simp [endsRun, hblank] at hends
  · intro hcontinues
    by_cases habove : textLineAbove q < p.number
    · exact (blank_of_textLineAbove_lt (Text.suffix_of_number_lt hp hq hlt) habove).2.1
    · obtain ⟨r, hr, hnumber, hends⟩ := exists_endsRun hq hcounted' (by
        rw [LinePlace.number] at habove
        omega)
      have hne : p.number ≠ r.number := by
        intro heq
        rw [← Text.eq_of_number_eq hp hr heq] at hends
        simp [endsRun, (Bool.and_eq_true_iff.mp hcounted).1] at hends
      have hrq := number_eq q
      exact absurd hends (hcontinues r hr (by omega) (by omega))

theorem textLineAbove_eq_iff_continues (hp : p ∈ source.linePlaces) (hq : q ∈ source.linePlaces)
    (hcounted : isCounted p) (hcounted' : isCounted q) :
    textLineAbove p = textLineAbove q ↔ Continues source p q ∧ Continues source q p := by
  have hnone (p q : LinePlace) (hle : q.number ≤ p.number) : Continues source p q :=
    fun r _ hlt hlt' => absurd hlt' (Nat.not_lt.mpr (Nat.le_of_lt (Nat.lt_of_le_of_lt hle hlt)))
  rcases Nat.lt_trichotomy p.number q.number with hlt | heq | hgt
  · rw [textLineAbove_eq_iff hp hq hcounted hcounted' hlt]
    exact (and_iff_left (hnone q p (Nat.le_of_lt hlt))).symm
  · cases Text.eq_of_number_eq hp hq heq
    exact iff_of_true rfl ⟨hnone p p (Nat.le_refl _), hnone p p (Nat.le_refl _)⟩
  · rw [eq_comm, textLineAbove_eq_iff hq hp hcounted' hcounted hgt]
    exact (and_iff_right (hnone p q (Nat.le_of_lt hgt))).symm

-- The counted lines of a run stand together, below a line with text.
theorem isCountedUpTo_iff (hp : p ∈ source.linePlaces) (hq : q ∈ source.linePlaces)
    (hcounted : isCounted q) :
    isCounted p ∧ p.number ≤ q.number ∧ Continues source p q ↔
      textLineAbove q < p.number ∧ p.number ≤ q.number := by
  have hnumber := number_eq q
  rcases Nat.lt_trichotomy p.number q.number with hlt | heq | hgt
  · constructor
    · rintro ⟨hcounted', hle, hcontinues⟩
      have hsame := (textLineAbove_eq_iff hp hq hcounted' hcounted hlt).mpr hcontinues
      have hnumber' := number_eq p
      exact ⟨by omega, hle⟩
    · rintro ⟨habove, hle⟩
      obtain ⟨hblank, hsame, hopen⟩ :=
        blank_of_textLineAbove_lt (Text.suffix_of_number_lt hp hq hlt) habove
      have hcounted' : isCounted p := by
        rw [isCounted, LinePlace.upTo, Bool.and_eq_true] at hcounted
        rw [isOpen_cons_of_blank hcounted.1] at hcounted
        rw [isCounted, hopen, hblank, hcounted.2]
        rfl
      exact ⟨hcounted', hle, (textLineAbove_eq_iff hp hq hcounted' hcounted hlt).mp hsame⟩
  · cases Text.eq_of_number_eq hp hq heq
    have hnone : Continues source p p := fun r _ hlt hlt' => absurd hlt' (Nat.lt_asymm hlt)
    exact iff_of_true ⟨hcounted, Nat.le_refl _, hnone⟩ ⟨by omega, Nat.le_refl _⟩
  · exact iff_of_false (fun h => absurd h.2.1 (Nat.not_le.mpr hgt))
      (fun h => absurd h.2 (Nat.not_le.mpr hgt))

theorem length_countedUpTo (hq : q ∈ source.linePlaces) (hcounted : isCounted q) :
    (countedUpTo source q).length = blanks q.above + 1 := by
  have hnumber := number_eq q
  have hlength : q.number ≤ source.lines.length := by
    have hfirst := (Text.mem_places_iff.mp hq).length_le
    rwa [List.length_reverse, LinePlace.length_upTo] at hfirst
  have hfilter : countedUpTo source q = source.linePlaces.filter fun r =>
      decide (textLineAbove q < r.number ∧ r.number ≤ q.number) :=
    List.filter_congr fun p hp => decide_eq_decide.mpr (isCountedUpTo_iff hp hq hcounted)
  rw [hfilter, Source.linePlaces, Text.length_filter_places source.lines _ hlength]
  omega

theorem le_blanks_of_isReported {limit : Int} {every : Bool} (h : isReported limit every p) :
    limit ≤ blanks p.above := by
  simp only [isReported, Bool.and_eq_true, decide_eq_true_eq] at h
  exact h.1.2

-- Below more blank lines than are allowed the line above is reported as well.
theorem exists_reported_above {limit : Int} (hlimit : 0 ≤ limit) (hq : q ∈ source.linePlaces)
    (hreported : isReported limit true q) (hne : (blanks q.above : Int) ≠ limit) :
    ∃ p ∈ source.linePlaces, isReported limit true p ∧ textLineAbove p = textLineAbove q ∧
      p.number < q.number := by
  have hle := le_blanks_of_isReported hreported
  have hmore : 0 < blanks q.above := by omega
  obtain ⟨line, above, habove⟩ : ∃ line above, q.above = line :: above := by
    cases h : q.above with
    | nil => simp [h, blanks] at hmore
    | cons line above => exact ⟨line, above, rfl⟩
  have hblank : Text.isBlankText line := by
    by_contra htext
    rw [habove, blanks_cons_of_text htext] at hmore
    exact Nat.lt_irrefl 0 hmore
  have hopen : isOpen (line :: above) = false := by
    simp only [isReported, Bool.and_eq_true, Bool.not_eq_true'] at hreported
    rw [LinePlace.upTo, isOpen_cons_of_blank hreported.1.1.1, habove] at hreported
    exact hreported.1.1.2
  rw [habove, blanks_cons_of_blank hblank] at hle hne
  refine ⟨⟨above, line⟩, ?_, ?_, ?_, ?_⟩
  · exact Text.mem_places_of_suffix hq (habove ▸ List.suffix_refl _)
  · simp only [isReported, LinePlace.upTo, hopen, hblank, Bool.not_false, Bool.true_or,
      Bool.and_true, Bool.true_and, decide_eq_true_eq]
    omega
  · rw [textLineAbove, textLineAbove, habove, List.dropWhile_cons_of_pos hblank]
  · rw [LinePlace.number, LinePlace.number, habove]
    exact Nat.lt_succ_self _

end Runs

-- Of the lines that are reported where each one is, those that are the first in their run.
theorem firsts_textLineAbove {limit : Int} (hlimit : 0 ≤ limit) (source : Source) :
    firsts textLineAbove (source.linePlaces.filter (isReported limit true)) =
      source.linePlaces.filter (isReported limit false) := by
  have hascending : (source.linePlaces.filter (isReported limit true)).Pairwise
      fun p q => p.number < q.number :=
    (Text.pairwise_number_places source.lines).sublist List.filter_sublist
  have honce : source.linePlaces.filter (isReported limit false) =
      (source.linePlaces.filter (isReported limit true)).filter
        fun p => decide ((blanks p.above : Int) = limit) := by
    rw [List.filter_filter]
    apply List.filter_congr
    intro p _
    simp only [isReported, Bool.false_or, Bool.true_or, Bool.and_true]
    exact Bool.and_comm ..
  rw [honce, firsts]
  apply List.filter_congr
  intro q hq
  rw [decide_eq_decide, find?_eq_some_iff_of_ascending textLineAbove hascending hq]
  obtain ⟨hplace, hreported⟩ := List.mem_filter.mp hq
  constructor
  · intro hfirst
    by_contra hne
    obtain ⟨p, hp, hreported', hsame, hlt⟩ :=
      exists_reported_above hlimit hplace hreported hne
    exact absurd hlt (Nat.not_lt.mpr (hfirst p (List.mem_filter.mpr ⟨hp, hreported'⟩) hsame))
  · intro heq p hp hsame
    have hle := le_blanks_of_isReported (List.mem_filter.mp hp).2
    have hnumber := number_eq p
    have hnumber' := number_eq q
    omega

-- Where each line in excess is reported, two of them are in one run exactly if no line between them
-- ends one. Where a run is reported once, it is so by the first of them, which is the line that
-- exceeds what is allowed: the number of lines counted up to it is the limit and one.
theorem findings_eq_firstInRuns (source : Source) (each once : Settings)
    (heach : each.flag .flagEachExcessBlankLine = true)
    (honce : once.flag .flagEachExcessBlankLine = false)
    (hsame : once.number .maxBlankLines = each.number .maxBlankLines)
    (hlimit : 0 ≤ each.number .maxBlankLines) :
    let limit := each.number .maxBlankLines
    let inExcess := source.linePlaces.filter (isReported limit true)
    let first := firsts textLineAbove inExcess
    findings source each = inExcess.map report ∧ findings source once = first.map report ∧
      (findings source once).Sublist (findings source each) ∧
      (∀ p ∈ inExcess, ∀ q ∈ inExcess, textLineAbove p = textLineAbove q ↔
        Continues source p q ∧ Continues source q p) ∧
      (first.map textLineAbove).Nodup ∧
      (∀ run, run ∈ first.map textLineAbove ↔ run ∈ inExcess.map textLineAbove) ∧
      ∀ q ∈ first, ((countedUpTo source q).length : Int) = limit + 1 := by
  intro limit inExcess first
  have hon : findings source each = inExcess.map report := by
    rw [findings_eq, heach]
  have hoff : findings source once = first.map report := by
    rw [findings_eq, honce, hsame, ← firsts_textLineAbove hlimit source]
  have hnodup : inExcess.Nodup := by
    refine ((Text.pairwise_number_places source.lines).sublist List.filter_sublist).imp ?_
    rintro p _ hlt rfl
    exact Nat.lt_irrefl _ hlt
  refine ⟨hon, hoff, ?_, ?_, nodup_map_firsts textLineAbove hnodup,
    mem_map_firsts_iff textLineAbove inExcess, ?_⟩
  · rw [hon, hoff]
    exact List.filter_sublist.map report
  · intro p hp q hq
    obtain ⟨hplace, hreported⟩ := List.mem_filter.mp hp
    obtain ⟨hplace', hreported'⟩ := List.mem_filter.mp hq
    exact textLineAbove_eq_iff_continues hplace hplace' (isCounted_of_isReported hreported)
      (isCounted_of_isReported hreported')
  · intro q hq
    have hfirst : q ∈ source.linePlaces.filter (isReported limit false) :=
      firsts_textLineAbove hlimit source ▸ hq
    obtain ⟨hplace, hreported⟩ := List.mem_filter.mp hfirst
    rw [length_countedUpTo hplace (isCounted_of_isReported hreported)]
    simp only [isReported, Bool.and_eq_true, Bool.false_or, decide_eq_true_eq] at hreported
    omega

-- The defaults, but for one report for each run.
def oncePerRun : Settings :=
  { Settings.default with flag := fun s => s != .flagEachExcessBlankLine && Settings.default.flag s }

-- Two runs with too many blank lines, and between them a comment with a blank line in it.
def twoRuns : Source := .ofText "f.swift" "f()\n\n\n\n\n/*\n\n*/\n\n\n\ng()" .unparsed

theorem findings_eq_firstInRuns_twoRuns :
    (findings twoRuns Settings.default).map (·.line) = [4, 5, 11] ∧
      (findings twoRuns oncePerRun).map (·.line) = [4, 11] ∧
      (findings twoRuns oncePerRun).Sublist (findings twoRuns Settings.default) := by
  obtain ⟨hon, hoff, hsublist, -⟩ :=
    findings_eq_firstInRuns twoRuns Settings.default oncePerRun rfl rfl rfl (by decide)
  refine ⟨?_, ?_, hsublist⟩
  · rw [hon]
    decide +kernel
  · rw [hoff]
    decide +kernel

end SwiftAudit.Rule.BlankLines
