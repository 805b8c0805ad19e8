import Mathlib.Algebra.BigOperators.Group.List.Lemmas
import Mathlib.Algebra.GroupWithZero.Nat
import SwiftAudit.Proofs.Report.Keywords
import SwiftAudit.Proofs.Report.Sections

namespace SwiftAudit.Report

-- What stands in a summary above its counts.
def opening (report : Report) : List String :=
  ["# Swift Code Analysis Report", "", s!"**File**: {report.file}", s!"**Date**: {report.date}",
    s!"**Issues Found**: {report.findings.length}", "", "## Summary", ""]

-- The counts by severity.
def sizes (report : Report) : List (Severity × Nat) :=
  Severity.all.map fun severity => (severity, (report.ofSeverity severity).length)

-- The counts by category.
def tally (report : Report) : List (String × Nat) :=
  report.categories.map fun category => (category, report.categoryCount category)

variable (report : Report)

theorem summaryLines_eq : report.summaryLines =
    report.opening ++
      (report.sizes.map fun (severity, count) => s!"- **{title severity}**: {count}") ++
      ["", "## Issues by Category", ""] ++
      report.tally.map fun (category, count) => s!"- **{category}**: {count}" := by
  rw [summaryLines, tally, List.map_map]
  rfl

theorem sizes_eq :
    report.sizes = Severity.all.map fun severity =>
      (severity, (report.entriesUnder severity).length) := by
  simp only [sizes, entriesUnder_eq, length_sortedFindings]

theorem sum_sizes : (report.sizes.map (·.2)).sum = report.findings.length := by
  rw [← (report.listed_perm).length_eq, listed_eq, List.length_flatMap, sizes, List.map_map]
  simp only [length_sortedFindings]
  rfl

theorem categories_perm : report.categories.Perm (report.findings.map report.categoryOf).dedup := by
  refine (List.mergeSort_perm _ _).trans ?_
  rw [List.perm_ext_iff_of_nodup (nodup_eraseDups _) (List.nodup_dedup _)]
  intro category
  rw [List.mem_eraseDups, List.mem_dedup]

theorem sum_tally : (report.tally.map (·.2)).sum = report.findings.length := by
  have hcounts := report.categories_perm.map report.categoryCount
  rw [tally, List.map_map]
  refine hcounts.sum_eq.trans ?_
  rw [← List.length_map report.categoryOf]
  exact List.sum_map_count_dedup_eq_length _

theorem pairwise_tally : (report.tally.map (·.1)).Pairwise (· < ·) := by
  have hnames : report.tally.map (·.1) = report.categories := by
    rw [tally, List.map_map]
    exact List.map_id _
  rw [hnames]
  exact pairwise_lt_mergeSort _ (nodup_eraseDups _)

theorem categoryCount_eq (category : String) :
    report.categoryCount category = report.findings.countP (report.categoryOf · == category) := by
  rw [categoryCount, List.count, List.countP_map]
  rfl

theorem mem_tally_iff (category : String) (count : Nat) :
    (category, count) ∈ report.tally ↔
      0 < count ∧ count = report.findings.countP (report.categoryOf · == category) := by
  have hoccurs : category ∈ report.categories ↔ 0 < report.categoryCount category := by
    rw [categories, List.mem_mergeSort, List.mem_eraseDups, categoryCount, List.count_pos_iff]
  rw [← categoryCount_eq, tally, List.mem_map]
  constructor
  · rintro ⟨category, hm, hentry⟩
    cases hentry
    exact ⟨hoccurs.mp hm, rfl⟩
  · rintro ⟨hpos, rfl⟩
    exact ⟨category, hoccurs.mpr hpos, rfl⟩

theorem categoryOf_eq (finding : Finding) : report.categoryOf finding =
    if report.inferred ∨ finding.category = "" then
      ((Category.keywords.find? fun entry => entry.1.any fun word =>
        word.toList.map .inl <:+: finding.description.points).map (·.2)).getD Category.other
    else finding.category := by
  rw [← Category.infer_eq, categoryOf]
  simp only [Bool.or_eq_true, String.isEmpty_iff]

-- A report loses nothing and adds nothing. Its entries are the findings, sorted by severity and
-- line with ties left as they were, under a heading for each severity that occurs. An entry is the
-- line and the description of its finding. The counts in the summary are the sizes of the sections,
-- and those by category stand in the order of the names, one for each that some finding falls
-- under. Either way every finding is counted once. A finding falls under its own category, or where
-- that is not wanted or not there, under the first one with a word in the description.
theorem detailed_listsAll (report : Report) :
    let heading : Severity → String := fun
      | .error => "Errors"
      | .warning => "Warnings"
      | .info => "Info"
    let sectionText : Section → CodeText := fun part =>
      s!"\n### {heading part.severity}\n\n" ++ CodeText.join (part.findings.map fun finding =>
        s!"- **Line {finding.line}**: " ++ finding.description ++ "\n")
    (report.summary = String.intercalate "\n" (report.opening ++
        (report.sizes.map fun (severity, count) => s!"- **{heading severity}**: {count}") ++
        ["", "## Issues by Category", ""] ++
        report.tally.map fun (category, count) => s!"- **{category}**: {count}") ++ "\n" ∧
      report.detailed = report.summary ++ "\n\n## Detailed Issues\n" ++
        CodeText.join (report.sections.map sectionText)) ∧
    (report.listed = report.sections.flatMap (·.findings) ∧
      report.listed.Perm report.findings ∧
      report.listed = report.findings.mergeSort Finding.precedes ∧
      ∀ place, report.listed.filter (·.place = place) =
        report.findings.filter (·.place = place)) ∧
    ((report.sections.map (·.severity)).Sublist Severity.all ∧
      (∀ severity, severity ∈ report.sections.map (·.severity) ↔
        ∃ finding ∈ report.findings, finding.severity = severity) ∧
      ∀ part ∈ report.sections, ∀ finding ∈ part.findings, finding.severity = part.severity) ∧
    ((report.sizes.map (·.2)).sum = report.findings.length ∧
      report.sizes = Severity.all.map fun severity =>
        (severity, (report.entriesUnder severity).length)) ∧
    ((report.tally.map (·.1)).Pairwise (· < ·) ∧
      (∀ category count, (category, count) ∈ report.tally ↔
        0 < count ∧ count = report.findings.countP (report.categoryOf · == category)) ∧
      (report.tally.map (·.2)).sum = report.findings.length) ∧
    ∀ finding, report.categoryOf finding =
      if report.inferred ∨ finding.category = "" then
        ((Category.keywords.find? fun entry => entry.1.any fun word =>
          word.toList.map .inl <:+: finding.description.points).map (·.2)).getD Category.other
      else finding.category := by
  intro heading sectionText
  have hheading : heading = title := by
    funext severity
    cases severity <;> rfl
  have hsection : sectionText = Section.text := by
    funext part
    rw [Section.text, ← hheading]
    rfl
  have hsummary : report.summary = String.intercalate "\n" report.summaryLines ++ "\n" := rfl
  rw [summaryLines_eq, ← hheading] at hsummary
  have hordered : (report.sections.map (·.severity)).Sublist Severity.all := by
    rw [severity_sections]
    exact List.filter_sublist
  rw [hsection]
  exact ⟨⟨hsummary, report.detailed_eq⟩,
    ⟨rfl, report.listed_perm, report.listed_eq_mergeSort, report.filter_listed⟩,
    ⟨hordered, report.mem_severity_sections_iff, report.severity_of_mem_sections⟩,
    ⟨report.sum_sizes, report.sizes_eq⟩,
    ⟨report.pairwise_tally, report.mem_tally_iff, report.sum_tally⟩,
    report.categoryOf_eq⟩

end SwiftAudit.Report
