import SwiftAudit.Proofs.Layout.Places
import SwiftAudit.Proofs.Text.Trim
import SwiftAudit.Rule.BlankLines

namespace SwiftAudit.Rule.BlankLines

-- Only lines that start or end with a mark of a block comment open or close one.
def isMarked (line : List Char) : Bool :=
  startsComment (Text.trim line) || endsComment (Text.trim line)

-- Whether a comment is open below some lines, the nearest being the first: the nearest one with
-- a mark decides, by whether it ends with one.
def isOpen (lines : List (List Char)) : Bool :=
  (lines.find? isMarked).any fun line => !endsComment (Text.trim line)

-- How many blank lines stand together at the start.
def blanks (lines : List (List Char)) : Nat := (lines.takeWhile Text.isBlankText).length

theorem isOpen_cons (line : List Char) (above : List (List Char)) :
    isOpen (line :: above) = commentAfter (isOpen above) (Text.trim line) := by
  rw [isOpen, commentAfter, isOpen]
  by_cases hmarked : isMarked line
  · rw [List.find?_cons_of_pos hmarked, Option.any_some]
    cases hend : endsComment (Text.trim line)
    · rw [isMarked, hend, Bool.or_false] at hmarked
      rw [hmarked, Bool.or_true, Bool.true_and]
    · rw [Bool.not_true, Bool.and_false]
  · rw [List.find?_cons_of_neg hmarked]
    rw [isMarked, Bool.or_eq_true, not_or, Bool.not_eq_true, Bool.not_eq_true] at hmarked
    rw [hmarked.1, hmarked.2, Bool.or_false, Bool.not_false, Bool.and_true]

theorem not_isMarked_of_blank {line : List Char} (h : Text.isBlankText line) : ¬isMarked line := by
  have htrim : Text.trim line = [] := by
    rw [← List.isEmpty_iff, Text.isEmpty_trim, h]
  rw [isMarked, htrim]
  decide

-- Blank lines neither open nor close a comment.
theorem isOpen_cons_of_blank {line : List Char} (h : Text.isBlankText line)
    (above : List (List Char)) : isOpen (line :: above) = isOpen above := by
  rw [isOpen, List.find?_cons_of_neg (not_isMarked_of_blank h), isOpen]

theorem isOpen_append_of_blank {lines : List (List Char)} (h : ∀ line ∈ lines, Text.isBlankText line)
    (above : List (List Char)) : isOpen (lines ++ above) = isOpen above := by
  induction lines with
  | nil => rfl
  | cons line rest ih =>
      obtain ⟨hline, hrest⟩ := List.forall_mem_cons.mp h
      rw [List.cons_append, isOpen_cons_of_blank hline, ih hrest]

theorem blanks_cons_of_blank {line : List Char} (h : Text.isBlankText line)
    (above : List (List Char)) : blanks (line :: above) = blanks above + 1 := by
  rw [blanks, List.takeWhile_cons_of_pos h, List.length_cons, blanks]

theorem blanks_cons_of_text {line : List Char} (h : ¬Text.isBlankText line)
    (above : List (List Char)) : blanks (line :: above) = 0 := by
  rw [blanks, List.takeWhile_cons_of_neg h, List.length_nil]

-- What the scan knows below some lines. Inside a comment its count is one of long ago, but the
-- line that closes the comment has text and sets the count back.
structure Knows (progress : Progress) (above : List (List Char)) : Prop where
  inComment_eq : progress.inComment = isOpen above
  run_eq : ¬isOpen above → progress.run = blanks above

theorem Knows.start : Knows ⟨0, false⟩ [] := ⟨rfl, fun _ => rfl⟩

theorem Knows.step {progress : Progress} {above : List (List Char)} (h : Knows progress above)
    (line : List Char) : Knows (step progress line) (line :: above) := by
  have hopen : commentAfter progress.inComment (Text.trim line) = isOpen (line :: above) := by
    rw [h.inComment_eq, isOpen_cons]
  rw [BlankLines.step, hopen, Text.isEmpty_trim]
  by_cases hhere : isOpen (line :: above)
  · rw [if_pos hhere]
    exact ⟨hhere.symm, fun hclosed => absurd hhere hclosed⟩
  · rw [if_neg hhere]
    rw [Bool.not_eq_true] at hhere
    by_cases hblank : Text.isBlankText line
    · rw [if_pos hblank]
      refine ⟨hhere.symm, fun _ => ?_⟩
      rw [isOpen_cons_of_blank hblank] at hhere
      rw [blanks_cons_of_blank hblank, h.run_eq (by simp [hhere])]
    · rw [if_neg hblank]
      exact ⟨hhere.symm, fun _ => (blanks_cons_of_text hblank above).symm⟩

-- A blank line outside comments below as many blank lines as are allowed; where only one line of
-- a run is reported, below no more than these.
def isReported (limit : Int) (every : Bool) (p : LinePlace) : Bool :=
  Text.isBlankText p.line && !isOpen p.upTo && decide (limit ≤ blanks p.above) &&
    (every || decide ((blanks p.above : Int) = limit))

def report (p : LinePlace) : Finding := finding p.number

theorem isExcess_eq (limit : Int) (every : Bool) {after : Progress} {p : LinePlace}
    (h : Knows after p.upTo) : isExcess limit every after = isReported limit every p := by
  rw [isExcess, isReported, h.inComment_eq]
  cases hopen : isOpen p.upTo with
  | true => simp
  | false =>
      rw [h.run_eq (by simp [hopen]), LinePlace.upTo]
      by_cases hblank : Text.isBlankText p.line
      · have hpos : 0 < blanks p.above + 1 := Nat.succ_pos _
        have hlimit : limit < ((blanks p.above + 1 : Nat) : Int) ↔ limit ≤ blanks p.above := by
          omega
        have hfirst : ((blanks p.above + 1 : Nat) : Int) = limit + 1 ↔
            (blanks p.above : Int) = limit := by
          omega
        rw [blanks_cons_of_blank hblank, hblank]
        simp only [gt_iff_lt, hpos, hlimit, hfirst, decide_true, Bool.and_true, Bool.true_and]
      · rw [blanks_cons_of_text hblank]
        simp [hblank]

theorem scan_eq (limit : Int) (every : Bool) {progress : Progress} {above : List (List Char)}
    (h : Knows progress above) (lines : List (List Char)) :
    scan limit every (above.length + 1) progress lines =
      ((LinePlace.after above lines).filter (isReported limit every)).map report := by
  induction lines generalizing above progress with
  | nil => rfl
  | cons line rest ih =>
      have hstep := h.step line
      have hrest := ih hstep
      have hexcess := isExcess_eq limit every (p := ⟨above, line⟩) hstep
      rw [List.length_cons] at hrest
      rw [scan, LinePlace.after, List.filter_cons, hrest, hexcess]
      split
      · rw [List.map_cons, List.singleton_append]
        rfl
      · rw [List.nil_append]

theorem findings_eq (source : Source) (settings : Settings) :
    findings source settings =
      (source.linePlaces.filter (isReported (settings.number .maxBlankLines)
        (settings.flag .flagEachExcessBlankLine))).map report :=
  scan_eq _ _ Knows.start source.lines

end SwiftAudit.Rule.BlankLines
