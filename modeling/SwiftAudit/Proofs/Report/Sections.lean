import SwiftAudit.Proofs.Lists
import SwiftAudit.Proofs.Sorting
import SwiftAudit.Proofs.Text.Code
import SwiftAudit.Report

namespace SwiftAudit

-- The place of a severity in a report.
def Severity.rank : Severity → Nat
  | .error => 0
  | .warning => 1
  | .info => 2

theorem Severity.rank_inj {a b : Severity} (h : a.rank = b.rank) : a = b := by
  cases a <;> cases b <;> first | rfl | cases h

namespace Finding

-- The order of a report: by severity, and then by line.
def precedes (a b : Finding) : Bool :=
  a.severity.rank < b.severity.rank || (a.severity == b.severity && decide (a.line ≤ b.line))

-- What the order of a report goes by.
def place (finding : Finding) : Severity × Int := (finding.severity, finding.line)

theorem precedes_iff {a b : Finding} :
    a.precedes b ↔ a.severity.rank < b.severity.rank ∨
      a.severity.rank = b.severity.rank ∧ a.line ≤ b.line := by
  have hrank : a.severity = b.severity ↔ a.severity.rank = b.severity.rank :=
    ⟨congrArg Severity.rank, Severity.rank_inj⟩
  simp [precedes, hrank]

theorem precedes_trans (a b c : Finding) (hab : a.precedes b) (hbc : b.precedes c) :
    a.precedes c := by
  rw [precedes_iff] at hab hbc ⊢
  omega

theorem precedes_total (a b : Finding) : a.precedes b || b.precedes a := by
  rw [Bool.or_eq_true, precedes_iff, precedes_iff]
  omega

theorem precedes_of_place_eq (a b : Finding) (h : a.place = b.place) : a.precedes b := by
  obtain ⟨hseverity, hline⟩ := Prod.mk.inj h
  rw [precedes_iff, hseverity, hline]
  omega

theorem place_eq_of_precedes (a b : Finding) (hab : a.precedes b) (hba : b.precedes a) :
    a.place = b.place := by
  rw [precedes_iff] at hab hba
  have hseverity : a.severity = b.severity := Severity.rank_inj (by omega)
  have hline : a.line = b.line := by omega
  rw [place, place, hseverity, hline]

theorem line_trans (a b c : Finding) (hab : decide (a.line ≤ b.line))
    (hbc : decide (b.line ≤ c.line)) : decide (a.line ≤ c.line) := by
  rw [decide_eq_true_eq] at hab hbc ⊢
  omega

theorem line_total (a b : Finding) : decide (a.line ≤ b.line) || decide (b.line ≤ a.line) := by
  rw [Bool.or_eq_true, decide_eq_true_eq, decide_eq_true_eq]
  omega

end Finding

namespace Report

structure Section where
  severity : Severity
  findings : List Finding

def Section.text (part : Section) : CodeText :=
  s!"\n### {title part.severity}\n\n" ++ CodeText.join (part.findings.map entry)

-- The sections of a report: the severities that have findings, with these.
def sections (report : Report) : List Section :=
  (Severity.all.map fun severity => ⟨severity, report.sortedFindings severity⟩).filter
    (!·.findings.isEmpty)

-- The entries of a report from its first line to its last.
def listed (report : Report) : List Finding := report.sections.flatMap (·.findings)

-- The entries below the heading of a severity. There are none without the heading.
def entriesUnder (report : Report) (severity : Severity) : List Finding :=
  (report.sections.filter (·.severity == severity)).flatMap (·.findings)

theorem join_filter {α : Type} {p : α → Bool} {f g : α → CodeText} {items : List α}
    (h : ∀ a ∈ items, g a = if p a then f a else "") :
    CodeText.join ((items.filter p).map f) = CodeText.join (items.map g) := by
  induction items with
  | nil => rfl
  | cons a rest ih =>
      obtain ⟨ha, hrest⟩ := List.forall_mem_cons.mp h
      rw [List.map_cons, CodeText.join_cons, ha, ← ih hrest]
      by_cases hp : p a
      · rw [List.filter_cons_of_pos hp, if_pos hp, List.map_cons, CodeText.join_cons]
      · rw [List.filter_cons_of_neg hp, if_neg hp, CodeText.empty_append]

variable (report : Report)

-- A report is its summary and the texts of its sections.
theorem detailed_eq : report.detailed =
    report.summary ++ "\n\n## Detailed Issues\n" ++
      CodeText.join (report.sections.map Section.text) := by
  rw [detailed, sections, join_filter (g := fun part => report.sectionText part.severity)]
  · rw [List.map_map]
    rfl
  · intro part hm
    obtain ⟨severity, -, rfl⟩ := List.mem_map.mp hm
    rw [sectionText]
    cases hfindings : report.sortedFindings severity with
    | nil => rfl
    | cons finding rest => rfl

theorem listed_eq : report.listed = Severity.all.flatMap report.sortedFindings := by
  rw [listed, sections, flatMap_filter_of_nil, List.flatMap_map]
  intro part _ hempty
  simpa using hempty

theorem mem_sortedFindings_iff {severity : Severity} {finding : Finding} :
    finding ∈ report.sortedFindings severity ↔
      finding ∈ report.findings ∧ finding.severity = severity := by
  rw [sortedFindings, List.mem_mergeSort, ofSeverity, List.mem_filter, beq_iff_eq]

theorem length_sortedFindings (severity : Severity) :
    (report.sortedFindings severity).length = (report.ofSeverity severity).length :=
  List.length_mergeSort _

theorem pairwise_sortedFindings (severity : Severity) :
    (report.sortedFindings severity).Pairwise (Finding.precedes · ·) := by
  have hsorted := List.pairwise_mergeSort Finding.line_trans Finding.line_total
    (report.ofSeverity severity)
  refine hsorted.imp_of_mem ?_
  intro a b ha hb hline
  have hseverity := ((mem_sortedFindings_iff report).mp ha).2
  have hseverity' := ((mem_sortedFindings_iff report).mp hb).2
  rw [Finding.precedes_iff, hseverity, hseverity']
  exact .inr ⟨rfl, of_decide_eq_true hline⟩

theorem pairwise_listed : report.listed.Pairwise (Finding.precedes · ·) := by
  rw [listed_eq, List.pairwise_flatMap]
  refine ⟨fun severity _ => report.pairwise_sortedFindings severity, ?_⟩
  have hranks : Severity.all.Pairwise fun a b => a.rank < b.rank := by decide
  refine hranks.imp ?_
  intro s s' hrank a ha b hb
  have hseverity := ((mem_sortedFindings_iff report).mp ha).2
  have hseverity' := ((mem_sortedFindings_iff report).mp hb).2
  rw [Finding.precedes_iff, hseverity, hseverity']
  exact .inl hrank

theorem filter_sortedFindings (severity : Severity) (place : Severity × Int) :
    (report.sortedFindings severity).filter (·.place = place) =
      if severity = place.1 then report.findings.filter (·.place = place) else [] := by
  have hstable := filter_mergeSort Finding.place Finding.line_trans Finding.line_total
    (fun a b h => decide_eq_true (Int.le_of_eq (Prod.mk.inj h).2)) (report.ofSeverity severity)
    place
  rw [sortedFindings, hstable, ofSeverity, List.filter_filter]
  split
  · rename_i hseverity
    apply List.filter_congr
    intro finding _
    by_cases hplace : finding.place = place
    · have hown : finding.severity = severity := by rw [hseverity, ← hplace, Finding.place]
      simp [hplace, hown]
    · simp [hplace]
  · rename_i hseverity
    rw [List.filter_eq_nil_iff]
    intro finding _ hboth
    rw [Bool.and_eq_true, decide_eq_true_eq, beq_iff_eq] at hboth
    obtain ⟨rfl, hown⟩ := hboth
    exact hseverity hown.symm

-- On one line a severity keeps its findings in their order.
theorem filter_listed (place : Severity × Int) :
    report.listed.filter (·.place = place) = report.findings.filter (·.place = place) := by
  rw [listed_eq, List.filter_flatMap]
  simp only [filter_sortedFindings]
  obtain ⟨severity, line⟩ := place
  cases severity <;> simp [Severity.all]

-- The entries are the findings, sorted without any change that the order does not ask for.
theorem listed_eq_mergeSort : report.listed = report.findings.mergeSort Finding.precedes := by
  have hsorted := List.pairwise_mergeSort Finding.precedes_trans Finding.precedes_total
    report.findings
  refine eq_of_filter_key_eq Finding.place_eq_of_precedes report.pairwise_listed hsorted ?_
  intro place
  rw [filter_listed, filter_mergeSort Finding.place Finding.precedes_trans
    Finding.precedes_total Finding.precedes_of_place_eq]

theorem listed_perm : report.listed.Perm report.findings := by
  rw [listed_eq_mergeSort]
  exact List.mergeSort_perm _ _

theorem entriesUnder_eq (severity : Severity) :
    report.entriesUnder severity = report.sortedFindings severity := by
  have hone : Severity.all.filter (· == severity) = [severity] := by cases severity <;> rfl
  rw [entriesUnder, sections, List.filter_comm, flatMap_filter_of_nil, List.filter_map,
    List.flatMap_map]
  · exact (congrArg (·.flatMap report.sortedFindings) hone).trans (List.flatMap_singleton _ _)
  · intro part _ hempty
    simpa using hempty

theorem severity_sections : report.sections.map (·.severity) =
    Severity.all.filter fun severity => !(report.sortedFindings severity).isEmpty := by
  rw [sections, List.filter_map, List.map_map]
  exact List.map_id _

-- A severity has a section if there are findings for it.
theorem mem_severity_sections_iff (severity : Severity) :
    severity ∈ report.sections.map (·.severity) ↔
      ∃ finding ∈ report.findings, finding.severity = severity := by
  have hall : severity ∈ Severity.all := by cases severity <;> decide
  rw [severity_sections, List.mem_filter, and_iff_right hall, Bool.not_eq_true',
    List.isEmpty_eq_false_iff_exists_mem]
  simp only [mem_sortedFindings_iff]

theorem severity_of_mem_sections :
    ∀ part ∈ report.sections, ∀ finding ∈ part.findings, finding.severity = part.severity := by
  intro part hpart finding hfinding
  obtain ⟨severity, -, rfl⟩ := List.mem_map.mp (List.mem_filter.mp hpart).1
  exact ((mem_sortedFindings_iff report).mp hfinding).2

-- A report has a surrogate in it exactly if one of its findings has.
theorem isPlain_detailed_iff :
    report.detailed.isPlain ↔ ∀ finding ∈ report.findings, finding.description.isPlain := by
  have hentry (finding : Finding) : (entry finding).isPlain = finding.description.isPlain := by
    simp [entry, CodeText.isPlain_append]
  have hsection (part : Section) :
      part.text.isPlain = part.findings.all (·.description.isPlain) := by
    simp [Section.text, CodeText.isPlain_append, CodeText.isPlain_join, List.all_map,
      Function.comp_def, hentry]
  have hlisted : report.detailed.isPlain = report.listed.all (·.description.isPlain) := by
    simp [detailed_eq, listed, CodeText.isPlain_append, CodeText.isPlain_join, List.all_map,
      List.all_flatMap, Function.comp_def, hsection]
  rw [hlisted, List.all_eq_true]
  simp only [report.listed_perm.mem_iff]

end Report

end SwiftAudit
