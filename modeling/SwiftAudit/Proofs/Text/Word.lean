import SwiftAudit.Text.Blank
import SwiftAudit.Text.Word

namespace SwiftAudit.Text

-- The code points of the blanks, by the first and the last one of those that follow each other.
def blankSpans : List (Nat × Nat) :=
  [(0x09, 0x0D), (0x1C, 0x20), (0x85, 0x85), (0xA0, 0xA0), (0x1680, 0x1680), (0x2000, 0x200A),
    (0x2028, 0x2029), (0x202F, 0x202F), (0x205F, 0x205F), (0x3000, 0x3000)]

theorem exists_span_of_isBlank {c : Char} (h : isBlank c) :
    ∃ span ∈ blankSpans, span.1 ≤ c.toNat ∧ c.toNat ≤ span.2 := by
  simp only [isBlank, Bool.or_eq_true, Bool.and_eq_true, decide_eq_true_eq, beq_iff_eq] at h
  simp only [blankSpans, List.mem_cons, exists_eq_or_imp, List.not_mem_nil, false_and,
    exists_false]
  omega

-- No blanks stand even between the letters of a run that leaves some out.
theorem wordRuns_miss_blankSpans :
    wordRuns.all fun run => blankSpans.all fun span => span.2 < run.first || run.last < span.1 := by
  decide +kernel

theorem not_isBlank_of_isWord {c : Char} (h : isWord c) : ¬isBlank c := by
  intro hblank
  obtain ⟨span, hspan, hfirst, hlast⟩ := exists_span_of_isBlank hblank
  obtain ⟨run, hrun, hcontains⟩ := List.any_eq_true.mp h
  have hmisses := List.all_eq_true.mp wordRuns_miss_blankSpans run hrun
  have hmiss := List.all_eq_true.mp hmisses span hspan
  simp only [Run.contains, Bool.and_eq_true, Bool.or_eq_true, decide_eq_true_eq] at hcontains hmiss
  omega

end SwiftAudit.Text
