import SwiftAudit.Proofs.Failure.Audit
import SwiftAudit.Proofs.Translation.Attributes
import SwiftAudit.Proofs.Translation.Expressions
import SwiftAudit.Proofs.Translation.Functions
import SwiftAudit.Proofs.Translation.Statements
import SwiftAudit.Proofs.Translation.Walks

namespace SwiftAudit

-- Whole lines above a source move the findings of a check down. How the check fails and what
-- it logs stay as they are. The style rules are left out, as they read the lines above too.
theorem Check.findings_moved {above : List UInt8} {source moved : Source}
    (h : source.MovedBy above moved) (settings : Settings) (check : Check)
    (hc : check ≠ .codeStyle) :
    (check.findings moved settings).log = (check.findings source settings).log ∧
      (check.findings moved settings).result =
        (check.findings source settings).result.map
          (List.map (Finding.movedDown (above.count lineFeed))) := by
  have hpure (found : List Finding) (change : List Finding → List Finding) :
      (pure (change found) : Transcript (List Finding)).log =
          (pure found : Transcript (List Finding)).log ∧
        (pure (change found) : Transcript (List Finding)).result =
          (pure found : Transcript (List Finding)).result.map change := ⟨rfl, rfl⟩
  have hexcept (x : Except Breakdown (List Finding)) (change : List Finding → List Finding) :
      (Transcript.ofExcept (x.map change)).log = (Transcript.ofExcept x).log ∧
        (Transcript.ofExcept (x.map change)).result =
          (Transcript.ofExcept x).result.map change := by
    cases x <;> exact ⟨rfl, rfl⟩
  cases check
  case codeStyle => exact absurd rfl hc
  case constantAssignments =>
    rw [findings, findings, Rule.ConstantAssignment.findings_moved h]
    exact hexcept _ _
  case magicNumbers =>
    rw [findings, findings, Rule.MagicNumber.findings_moved h]
    exact hexcept _ _
  case deprecatedApis =>
    rw [findings, findings, Rule.DeprecatedApi.findings_moved h]
    exact hexcept _ _
  case refactoring =>
    rw [findings, findings, Rule.Refactoring.findings_moved h]
    exact hexcept _ _
  case duplicateFunctions =>
    obtain ⟨hlog, hfound⟩ := Rule.DuplicateFunction.findings_moved h settings
    exact ⟨hlog, congrArg Except.ok hfound⟩
  case parseFaults =>
    rw [findings, findings, Rule.ParseFault.findings_moved h]
    exact hpure _ _
  case unusedVariables =>
    rw [findings, findings, Rule.UnusedVariable.findings_moved h]
    exact hpure _ _
  case unreachableCode =>
    rw [findings, findings, Rule.UnreachableCode.findings_moved h]
    exact hpure _ _
  case complexity =>
    rw [findings, findings, Rule.Complexity.findings_moved h]
    exact hpure _ _
  case forceUnwraps =>
    rw [findings, findings, Rule.ForceUnwrap.findings_moved h]
    exact hpure _ _
  case longFunctions =>
    rw [findings, findings, Rule.LongFunction.findings_moved h]
    exact hpure _ _
  case guardCandidates =>
    rw [findings, findings, Rule.GuardCandidate.findings_moved h]
    exact hpure _ _
  case naming =>
    rw [findings, findings, Rule.Naming.findings_moved h]
    exact hpure _ _
  case emptyCatches =>
    rw [findings, findings, Rule.EmptyCatch.findings_moved h]
    exact hpure _ _
  case retainCycles =>
    rw [findings, findings, Rule.RetainCycle.findings_moved h]
    exact hpure _ _
  case emptyCollections =>
    rw [findings, findings, Rule.EmptyCollection.findings_moved h]
    exact hpure _ _
  case localization =>
    rw [findings, findings, Rule.Localization.findings_moved h]
    exact hpure _ _
  case optionalChains =>
    rw [findings, findings, Rule.OptionalChain.findings_moved h]
    exact hpure _ _
  case operatorPrecedence =>
    rw [findings, findings, Rule.OperatorPrecedence.findings_moved h]
    exact hpure _ _
  case symbolUsage =>
    rw [findings, findings, Rule.SymbolUsage.findings_moved h]
    exact hpure _ _
  case attributeUsage =>
    rw [findings, findings, Rule.AttributeUsage.findings_moved h]
    exact hpure _ _

namespace Audit

-- Names resolve to the checks that bear them.
theorem map_name_of_resolve (names : List String) (checks : List Check)
    (h : (resolve names).result = .ok checks) : checks.map Check.name = names := by
  induction names generalizing checks with
  | nil =>
      cases h
      rfl
  | cons name rest ih =>
      rw [resolve] at h
      cases hname : Check.ofName? name with
      | none =>
          rw [hname] at h
          cases h
      | some check =>
          have hcheck : check.name = name := by
            have hfound := List.find?_some hname
            exact eq_of_beq hfound
          simp only [hname, Transcript.result_bind] at h
          cases hrest : (resolve rest).result with
          | error halt =>
              rw [hrest] at h
              cases h
          | ok others =>
              rw [hrest] at h
              cases h
              rw [List.map_cons, hcheck, ih others hrest]

-- Text put above a source, if it ends with its last line, moves every finding down by the
-- number of its lines, and a line that a description names with it. Nothing else changes,
-- and what fails fails in the same way.
theorem text_below (settings : Settings) (names : List String) (path above text : String)
    (tree : Tree) (habove : above = "" ∨ above.toList.getLast? = some '\n')
    (hnames : Check.codeStyle.name ∉ names) :
    (Audit.text settings names path (above ++ text)
        (tree.shift (Text.Utf8.encode above.toList).length)).result =
      (Audit.text settings names path text tree).result.map
        (List.map (Finding.movedDown (above.toList.count '\n'))) := by
  have hmoved := Source.movedBy_ofText (Path.ofText path).text above text tree habove
  simp only [Audit.text, Transcript.result_bind, opened_result, ok_bind, run_result]
  cases hresolve : (resolve names).result with
  | error halt => rfl
  | ok checks =>
      have hchecks := map_name_of_resolve names checks hresolve
      have h := flatMapM_map_of
        (fun check => (check.findings (.ofText (Path.ofText path).text text tree) settings).result)
        (fun check => (check.findings (.ofText (Path.ofText path).text (above ++ text)
          (tree.shift (Text.Utf8.encode above.toList).length)) settings).result)
        id (Finding.movedDown (above.toList.count '\n')) checks (by
          intro check hm
          have hstyle : check ≠ .codeStyle := by
            rintro rfl
            apply hnames
            rw [← hchecks]
            exact List.mem_map_of_mem hm
          rw [id_eq, (Check.findings_moved hmoved settings check hstyle).2,
            Text.Utf8.count_lineFeed_encode])
      rwa [List.map_id] at h

-- Two equal statements in a function.
def twoCalls : Tree :=
  .node ⟨0, "source_file", 0, 57, true, false, false, []⟩
    [.node ⟨1, "function_declaration", 0, 57, true, false, false, []⟩
      [.node ⟨2, "simple_identifier", 5, 6, true, false, false, [.name]⟩ [],
        .node ⟨3, "function_body", 9, 57, true, false, false, [.body]⟩
          [.node ⟨4, "\x7b", 9, 10, false, false, false, []⟩ [],
            .node ⟨5, "statements", 11, 55, true, false, false, []⟩
              [.node ⟨6, "call_expression", 11, 32, true, false, false, []⟩ [],
                .node ⟨7, "call_expression", 33, 54, true, false, false, []⟩ []],
            .node ⟨8, "\x7d", 56, 57, false, false, false, []⟩ []]]]

theorem text_below_comment :
    (Audit.text Settings.default ["refactoring_opportunities"] "f.swift"
        ("// one\n\n" ++ "func f() \x7b\nprint(\"hello, world\")\nprint(\"hello, world\")\n\x7d")
        (twoCalls.shift 8)).result =
      .ok [⟨5, 1, .warning, "Refactoring Opportunities",
        "Repeated code block in function 'f' (first seen at line 4)"⟩] :=
  (text_below Settings.default ["refactoring_opportunities"] "f.swift" "// one\n\n"
    "func f() \x7b\nprint(\"hello, world\")\nprint(\"hello, world\")\n\x7d" twoCalls
    (by decide) (by decide)).trans (by rfl)

end Audit

end SwiftAudit
