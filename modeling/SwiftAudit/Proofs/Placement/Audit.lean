import SwiftAudit.Proofs.Failure.Audit
import SwiftAudit.Proofs.Placement.Rules
import SwiftAudit.Proofs.Position.Lines
import SwiftAudit.Report

namespace SwiftAudit

-- A finding lies in the lines of a text. Its column is one of the bytes of its line, or the
-- place just behind them.
structure Finding.InLines (lines : List (List Char)) (finding : Finding) : Prop where
  first : 1 ≤ finding.line
  last : finding.line ≤ lines.length
  column : ∃ line, lines[(finding.line - 1).toNat]? = some line ∧
    1 ≤ finding.column ∧ finding.column ≤ (Text.Utf8.encode line).length + 1

namespace Finding

theorem inLines_onNodeWith (source : Source) (n : Node) (category : String)
    (description : CodeText) (severity : Severity) :
    (onNodeWith source n category description severity).InLines source.lines := by
  have hposition : (source.position n).InLines source.lines := by
    rw [Source.position, source.lineTable_eq, source.bytes_eq]
    exact LineTable.position_inLines source.text.toList _
  obtain ⟨line, hline, hfirst, hlast⟩ := hposition.line
  have hone := hposition.first
  have hbound : (source.position n).line - 1 < source.lines.length :=
    (List.getElem?_eq_some_iff.mp hline).1
  have hindex : (((source.position n).line : Int) - 1).toNat = (source.position n).line - 1 := by
    omega
  refine ⟨?_, ?_, line, ?_, ?_, ?_⟩
  · simp only [onNodeWith]
    omega
  · simp only [onNodeWith]
    omega
  · simp only [onNodeWith, hindex, hline]
  · simp only [onNodeWith]
    omega
  · simp only [onNodeWith]
    omega

theorem inLines_onLine (lines : List (List Char)) (number : Nat) (category description : String)
    (hfirst : 1 ≤ number) (hlast : number ≤ lines.length) :
    (onLine number category description).InLines lines := by
  have hindex : ((number : Int) - 1).toNat = number - 1 := by omega
  have hbound : number - 1 < lines.length := by omega
  refine ⟨?_, ?_, lines[number - 1], ?_, ?_, ?_⟩
  · simp only [onLine]
    omega
  · simp only [onLine]
    omega
  · simp only [onLine, hindex, List.getElem?_eq_getElem hbound]
  · exact Int.le_refl 1
  · simp only [onLine]
    omega

theorem MadeOn.inLines {source : Source} {finding : Finding} (h : finding.MadeOn source) :
    finding.InLines source.lines := by
  cases h with
  | node n category description severity hc =>
      exact inLines_onNodeWith source n category description severity
  | line number category description hfirst hlast hc =>
      exact inLines_onLine source.lines number category description hfirst hlast

theorem MadeOn.category_ne {source : Source} {finding : Finding} (h : finding.MadeOn source) :
    finding.category ≠ "" := by
  cases h with
  | node n category description severity hc => exact hc
  | line number category description hfirst hlast hc => exact hc

theorem MadeOn.isPlain {source : Source} {finding : Finding} (h : finding.MadeOn source) :
    finding.description.isPlain := by
  cases h <;> rfl

section Replaced

variable {source : Source} {table : List (CodeText × Json)} {finding : Finding}

theorem Replaced.inLines (h : finding.Replaced source table) : finding.InLines source.lines := by
  cases h
  exact inLines_onNodeWith source _ _ _ _

theorem Replaced.category_ne (h : finding.Replaced source table) : finding.category ≠ "" := by
  cases h
  exact (by decide : Category.deprecatedApis ≠ "")

-- A replacement that is no text shows its texts in quotes, and there with escapes.
theorem Replaced.isPlain (h : finding.Replaced source table)
    (htable : ∀ entry ∈ table, ∀ text, entry.2 = .text text → text.isPlain) :
    finding.description.isPlain := by
  cases h with
  | node n name replacement shown hm hshown =>
      have hplain : shown.isPlain := by
        unfold Json.displayed? at hshown
        split at hshown
        · cases hshown
          exact htable _ hm _ rfl
        · obtain ⟨s, -, rfl⟩ := Option.map_eq_some_iff.mp hshown
          rfl
      simp [onNodeWith, CodeText.isPlain_append, hplain]

end Replaced

end Finding

theorem Check.madeOn {source : Source} {settings : Settings} {check : Check}
    {found : List Finding} (hok : (check.findings source settings).result = .ok found)
    {finding : Finding} (hm : finding ∈ found) :
    finding.MadeOn source ∨ finding.Replaced source settings.deprecatedApis := by
  have hexcept (x : Except Breakdown (List Finding))
      (hx : (Transcript.ofExcept x).result = .ok found) : x = .ok found := by
    cases x with
    | error e => cases hx
    | ok other =>
        cases hx
        rfl
  cases check
  case deprecatedApis => exact .inr (Rule.DeprecatedApi.replaced (hexcept _ hok) hm)
  all_goals left
  case constantAssignments => exact Rule.ConstantAssignment.madeOn (hexcept _ hok) hm
  case magicNumbers => exact Rule.MagicNumber.madeOn (hexcept _ hok) hm
  case refactoring => exact Rule.Refactoring.madeOn (hexcept _ hok) hm
  case codeStyle =>
    cases hok
    have hend : 1 + source.lines.length = source.lines.length + 1 := Nat.add_comm _ _
    rcases List.mem_append.mp hm with hm | hm
    · exact Rule.Indentation.madeOn_of_scan _ _ 1 0 (Nat.le_refl 1) hend hm
    · exact Rule.BlankLines.madeOn_of_scan _ _ _ 1 _ (Nat.le_refl 1) hend hm
  all_goals cases hok
  case parseFaults => exact Rule.ParseFault.madeOn hm
  case unusedVariables => exact Rule.UnusedVariable.madeOn hm
  case unreachableCode => exact Rule.UnreachableCode.madeOn hm
  case complexity => exact Rule.Complexity.madeOn hm
  case forceUnwraps => exact Rule.ForceUnwrap.madeOn hm
  case longFunctions => exact Rule.LongFunction.madeOn hm
  case guardCandidates => exact Rule.GuardCandidate.madeOn hm
  case naming => exact Rule.Naming.madeOn hm
  case emptyCatches => exact Rule.EmptyCatch.madeOn hm
  case retainCycles => exact Rule.RetainCycle.madeOn hm
  case emptyCollections => exact Rule.EmptyCollection.madeOn hm
  case localization => exact Rule.Localization.madeOn hm
  case optionalChains => exact Rule.OptionalChain.madeOn hm
  case operatorPrecedence => exact Rule.OperatorPrecedence.madeOn hm
  case duplicateFunctions => exact Rule.DuplicateFunction.madeOn hm
  case symbolUsage => exact Rule.SymbolUsage.madeOn hm
  case attributeUsage => exact Rule.AttributeUsage.madeOn_of_scan _ _ hm

-- A report that does not infer categories keeps one that is given.
theorem Report.categoryOf_given (report : Report) (finding : Finding)
    (hreport : report.inferred = false) (hc : finding.category ≠ "") :
    report.categoryOf finding = finding.category := by
  simp [Report.categoryOf, hreport, hc]

namespace Audit

theorem madeOn_of_run {source : Source} {settings : Settings} {checks : List Check}
    {found : List Finding} (h : (run source settings checks).result = .ok found)
    (finding : Finding) (hm : finding ∈ found) :
    finding.MadeOn source ∨ finding.Replaced source settings.deprecatedApis := by
  rw [run_result] at h
  obtain ⟨check, -, part, hpart, hm⟩ := mem_of_flatMapM_eq_ok _ checks found h finding hm
  exact Check.madeOn hpart hm

theorem madeOn_of_text {settings : Settings} {names : List String} {path text : String}
    {tree : Tree} {found : List Finding}
    (h : (Audit.text settings names path text tree).result = .ok found) (finding : Finding)
    (hm : finding ∈ found) :
    finding.MadeOn (.ofText (Path.ofText path).text text tree) ∨
      finding.Replaced (.ofText (Path.ofText path).text text tree) settings.deprecatedApis := by
  simp only [Audit.text, Transcript.result_bind, opened_result, ok_bind] at h
  obtain ⟨checks, -, h⟩ := exists_of_bind_eq_ok h
  exact madeOn_of_run h finding hm

-- Only a replacement brings a surrogate into a description.
theorem isPlain_of_file {settings : Settings} {path : Path} {place : Lookup} {name : String}
    {found : List Finding} (h : (file settings path place name).result = .ok found)
    (htable : ∀ entry ∈ settings.deprecatedApis, ∀ text, entry.2 = .text text → text.isPlain)
    (finding : Finding) (hm : finding ∈ found) : finding.description.isPlain := by
  simp only [file, Transcript.result_bind] at h
  obtain ⟨checks, -, h⟩ := exists_of_bind_eq_ok h
  obtain ⟨source, -, h⟩ := exists_of_bind_eq_ok h
  exact (madeOn_of_run h finding hm).elim Finding.MadeOn.isPlain fun hr => hr.isPlain htable

-- Whatever the tree and the settings are, a finding of an audit lies in the lines of the text
-- and has a severity and a category.
theorem text_inLines (settings : Settings) (names : List String) (path text : String)
    (tree : Tree) (found : List Finding)
    (h : (Audit.text settings names path text tree).result = .ok found) :
    ∀ finding ∈ found,
      finding.InLines (Source.ofText path text tree).lines ∧
        finding.severity.word ∈ ["error", "warning", "info"] ∧
        finding.category ≠ "" ∧
        ∀ report : Report, report.inferred = false →
          report.categoryOf finding = finding.category := by
  intro finding hm
  have hmade := madeOn_of_text h finding hm
  have hlines := hmade.elim Finding.MadeOn.inLines Finding.Replaced.inLines
  have hcategory := hmade.elim Finding.MadeOn.category_ne Finding.Replaced.category_ne
  have hseverity : finding.severity.word ∈ ["error", "warning", "info"] := by
    cases finding.severity <;> simp [Severity.word]
  exact ⟨hlines, hseverity, hcategory,
    fun report hreport => report.categoryOf_given finding hreport hcategory⟩

-- A parenthesis that is missing at the end of a text. The line feed before the end is skipped.
def unclosed : Tree :=
  .node ⟨0, "source_file", 0, 3, true, false, true, []⟩
    [.node ⟨1, "simple_identifier", 0, 1, true, false, false, []⟩ [],
      .node ⟨2, "(", 1, 2, false, false, false, []⟩ [],
      .node ⟨3, ")", 2, 2, false, true, true, []⟩ []]

theorem text_inLines_unclosed :
    let finding : Finding := ⟨2, 1, .error, "Syntax", "Invalid syntax: expected ')'"⟩
    (Audit.text Settings.default ["syntax"] "f.swift" "f(\n" unclosed).result = .ok [finding] ∧
      finding.InLines [['f', '('], []] ∧
      Report.categoryOf ⟨[finding], "f.swift", false, ""⟩ finding = "Syntax" := by
  intro finding
  have hok : (Audit.text Settings.default ["syntax"] "f.swift" "f(\n" unclosed).result =
      .ok [finding] := by rfl
  obtain ⟨hlines, -, -, hcategory⟩ := text_inLines Settings.default ["syntax"] "f.swift" "f(\n"
    unclosed [finding] hok finding (List.mem_singleton.mpr rfl)
  exact ⟨hok, hlines, hcategory ⟨[finding], "f.swift", false, ""⟩ rfl⟩

end Audit

end SwiftAudit
