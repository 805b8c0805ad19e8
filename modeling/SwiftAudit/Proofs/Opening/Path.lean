import SwiftAudit.Check

namespace SwiftAudit

-- The same source under another path.
def Source.under (path : String) (source : Source) : Source := { source with path }

namespace Rule

namespace OperatorPrecedence

mutual

theorem ofTree_under (path : String) (source : Source) : ∀ tree : Tree,
    Operation.ofTree (source.under path) tree = Operation.ofTree source tree
  | .node label children => by
      rw [Operation.ofTree, Operation.ofTree, ofChildren_under path source children]
      rfl

theorem ofChildren_under (path : String) (source : Source) : ∀ trees : List Tree,
    Operation.ofChildren (source.under path) trees = Operation.ofChildren source trees
  | [] => rfl
  | tree :: rest => by
      rw [Operation.ofChildren, Operation.ofChildren, ofTree_under path source tree,
        ofChildren_under path source rest]

end

theorem findings_under (path : String) (source : Source) :
    findings (source.under path) = findings source := by
  have hat (n : Node) : findingsAt (source.under path) n = findingsAt source n := by
    rw [findingsAt, findingsAt, ofTree_under]
    rfl
  rw [findings, findings, funext hat]
  rfl

end OperatorPrecedence

namespace DuplicateFunction

theorem pairFindings_under (path : String) (source : Source) (threshold : Double)
    (functions : List FunctionBody) :
    pairFindings (source.under path) threshold functions =
      pairFindings source threshold functions := by
  induction functions with
  | nil => rfl
  | cons first rest ih =>
      rw [pairFindings, pairFindings, ih]
      rfl

-- The path stands in the warnings, and in no finding.
theorem findings_under (path : String) (source : Source) (settings : Settings) :
    (findings (source.under path) settings).2 = (findings source settings).2 := by
  simp only [findings, pairFindings_under]
  rfl

end DuplicateFunction

namespace Refactoring

theorem repetitions_under (path : String) (source : Source) (minLength : Int) (name : String)
    (seen : List Seen) (statements : List Node) :
    repetitions (source.under path) minLength name seen statements =
      repetitions source minLength name seen statements := by
  induction statements generalizing seen with
  | nil => rfl
  | cons statement rest ih =>
      rw [repetitions, repetitions]
      simp only [ih]
      rfl

theorem findings_under (path : String) (source : Source) (settings : Settings) :
    findings (source.under path) settings = findings source settings := by
  have hfunction (function : FunctionBody) :
      functionFindings (source.under path) settings function =
        functionFindings source settings function := by
    rw [functionFindings, functionFindings, repetitions_under]
    rfl
  rw [findings, findings, funext hfunction]
  rfl

end Refactoring

theorem AttributeUsage.scan_under (path : String) (source : Source) (settings : Settings)
    (seen : List Position) (nodes : List Node) :
    scan (source.under path) settings seen nodes = scan source settings seen nodes := by
  induction nodes generalizing seen with
  | nil => rfl
  | cons n rest ih =>
      rw [scan, scan]
      simp only [ih]
      rfl

end Rule

-- What a check finds, or how it fails, does not depend on where the source was found. Most rules
-- do not even name the path; the lemmas above are for those that go through the source by a
-- recursion of their own.
theorem Check.findings_under (path : String) (source : Source) (settings : Settings)
    (check : Check) :
    (check.findings (source.under path) settings).result =
      (check.findings source settings).result := by
  cases check with
  | operatorPrecedence => simp only [findings, Rule.OperatorPrecedence.findings_under]
  | duplicateFunctions => exact congrArg Except.ok (Rule.DuplicateFunction.findings_under ..)
  | refactoring => simp only [findings, Rule.Refactoring.findings_under]
  | attributeUsage =>
      simp only [findings, Rule.AttributeUsage.findings, Rule.AttributeUsage.scan_under]
      rfl
  | _ => rfl

end SwiftAudit
