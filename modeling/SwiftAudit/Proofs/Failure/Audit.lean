import SwiftAudit.Audit
import SwiftAudit.Proofs.Failure.Check
import SwiftAudit.Proofs.Failure.Frames

namespace SwiftAudit

theorem Check.ofName?_name (check : Check) : ofName? check.name = some check := by
  cases check <;> decide

namespace Audit

-- Names of checks, in any order and number, resolve to the checks.
theorem resolve_names (checks : List Check) :
    (resolve (checks.map Check.name)).result = .ok checks := by
  induction checks with
  | nil => rfl
  | cons check rest ih => simp [resolve, Check.ofName?_name, ih]

theorem opened_result (path text : String) (tree : Tree) :
    (opened path text tree).result = .ok (.ofText path text tree) := by
  unfold opened
  split <;> rfl

theorem runCheck_result (source : Source) (settings : Settings) (check : Check) :
    (runCheck source settings check).result = (check.findings source settings).result := by
  have hnotes (found : List Finding) : (forM found fun finding =>
      Transcript.note .debug ("issue: " ++ finding.text)).result = .ok ⟨⟩ := by
    induction found with
    | nil => rfl
    | cons finding rest ih => simp [ih]
  unfold runCheck
  cases h : (check.findings source settings).result <;>
    simp [h, hnotes]

-- What a run gives, apart from what it logs, is what its checks give one after the other.
theorem run_result (source : Source) (settings : Settings) (checks : List Check) :
    (run source settings checks).result =
      checks.flatMapM fun check => (check.findings source settings).result := by
  induction checks with
  | nil => rfl
  | cons check rest ih => simp [run, runCheck_result, ih]

theorem text_result (settings : Settings) (checks : List Check) (path text : String)
    (tree : Tree) :
    (Audit.text settings (checks.map Check.name) path text tree).result =
      checks.flatMapM fun check =>
        (check.findings (.ofText (Path.ofText path).text text tree) settings).result := by
  simp [Audit.text, resolve_names, opened_result, run_result]

-- Of checks in a row the first one that fails decides how the row fails.
def FirstFailure (source : Source) (settings : Settings) (checks : List Check)
    (breakdown : Breakdown) : Prop :=
  ∃ before check after, checks = before ++ check :: after ∧
    (∀ earlier ∈ before, ∀ other, ¬earlier.Fails source settings other) ∧
    check.Fails source settings breakdown

theorem findings_ne_error_iff (source : Source) (settings : Settings) (check : Check) :
    (∀ halt, (check.findings source settings).result ≠ .error halt) ↔
      ∀ breakdown, ¬check.Fails source settings breakdown := by
  simp only [ne_eq, Check.findings_eq_error_iff]
  exact ⟨fun h breakdown hf => h _ ⟨breakdown, hf, rfl⟩,
    fun h _ ⟨breakdown, hf, _⟩ => h breakdown hf⟩

theorem flatMapM_findings_eq_error_iff (source : Source) (settings : Settings)
    (checks : List Check) (halt : Halt) :
    (checks.flatMapM fun check => (check.findings source settings).result) = .error halt ↔
      ∃ breakdown, FirstFailure source settings checks breakdown ∧ halt = .broken breakdown := by
  rw [flatMapM_eq_error_iff]
  simp only [findings_ne_error_iff, Check.findings_eq_error_iff]
  constructor
  · rintro ⟨before, check, after, heq, hb, breakdown, hf, he⟩
    exact ⟨breakdown, ⟨before, check, after, heq, hb, hf⟩, he⟩
  · rintro ⟨breakdown, ⟨before, check, after, heq, hb, hf⟩, he⟩
    exact ⟨before, check, after, heq, hb, breakdown, hf, he⟩

-- An audit by checks of the registry, on any tree and under any settings, ends in findings
-- unless some check fails, and then with the failure of the first of them. The walk that
-- counts paths never leaves a function that it has not entered.
theorem text_eq_error_iff (settings : Settings) (checks : List Check) (path text : String)
    (tree : Tree) :
    let source := Source.ofText (Path.ofText path).text text tree
    let result := (Audit.text settings (checks.map Check.name) path text tree).result
    (∀ halt, result = .error halt ↔
      ∃ breakdown, FirstFailure source settings checks breakdown ∧ halt = .broken breakdown) ∧
    ((∃ found, result = .ok found) ↔
      ∀ check ∈ checks, ∀ breakdown, ¬check.Fails source settings breakdown) ∧
    ∀ threshold,
      source.root.events.foldlM (Rule.Complexity.strictStep source threshold) ⟨[], []⟩ =
        some (source.root.events.foldl (Rule.Complexity.step source threshold) ⟨[], []⟩) := by
  intro source result
  have hresult : result = checks.flatMapM fun check => (check.findings source settings).result :=
    text_result settings checks path text tree
  refine ⟨fun halt => ?_, ?_, Rule.Complexity.strictWalk_root source⟩
  · rw [hresult, flatMapM_findings_eq_error_iff]
  · rw [hresult, exists_flatMapM_eq_ok_iff]
    simp only [exists_ok_iff, findings_ne_error_iff]

-- A class declared without supertypes.
def plainClass : Tree :=
  .node ⟨0, "source_file", 0, 10, true, false, false, []⟩
    [.node ⟨1, "class_declaration", 0, 10, true, false, false, []⟩
      [.node ⟨2, "class", 0, 5, false, false, false, [.declarationKind]⟩ [],
        .node ⟨3, "type_identifier", 6, 7, true, false, false, [.name]⟩ [],
        .node ⟨4, "class_body", 8, 10, true, false, false, [.body]⟩
          [.node ⟨5, "\x7b", 8, 9, false, false, false, []⟩ [],
            .node ⟨6, "\x7d", 9, 10, false, false, false, []⟩ []]]]

theorem text_plainClass_broken :
    (Settings.default.merge [("max_inherited_types", .int (-1))] >>= fun settings =>
      (Audit.text settings ["refactoring_opportunities"] "A.swift" "class A \x7b\x7d"
        plainClass).result) = .error (.broken .noSupertype) := by
  rfl

end Audit

end SwiftAudit
