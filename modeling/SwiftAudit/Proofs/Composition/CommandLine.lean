import Mathlib.Data.List.Basic
import SwiftAudit.Proofs.CommandLine.Arguments
import SwiftAudit.Proofs.CommandLine.Outcome
import SwiftAudit.Proofs.Composition.Audit

namespace SwiftAudit.CommandLine

-- The names of the checks that are run: all of them unless some are asked for.
def Options.requested (options : Options) : List String :=
  if options.checks.isEmpty then Check.all.map Check.name else options.checks

theorem eachCheck_result (settings : Settings) (path : Path) (found : Lookup)
    (names : List String) :
    (eachCheck settings path found names).result =
      names.flatMapM fun name => (Audit.file settings path found name).result := by
  induction names with
  | nil => rfl
  | cons name rest ih => simp [eachCheck, ih]

-- An audit loads the settings and then puts together what each check finds in the file, whether
-- it opens the file once or for each of them.
theorem audit_result (options : Options) (path : Path) (files : Files) :
    (audit options path files).result =
      (loadSettings files options.config).result >>= fun settings =>
        options.requested.flatMapM fun name =>
          (Audit.file settings path (files.lookup path) name).result := by
  unfold audit Options.requested
  rw [Transcript.result_bind]
  cases options.checks with
  | nil => simp only [Audit.wholeFile_eq_files, List.isEmpty_nil, if_true]
  | cons name rest => simp only [eachCheck_result, List.isEmpty_cons, Bool.false_eq_true, if_false]

-- Who asks for all checks in their order asks for nothing.
theorem runOptions_withChecks (options : Options) (date : String) (files : Files)
    (h : options.checks = []) :
    (runOptions (options.withChecks (Check.all.map Check.name)) date files).silenced =
      (runOptions options date files).silenced := by
  have hrequested : (options.withChecks (Check.all.map Check.name)).requested =
      options.requested := by
    rw [Options.requested, Options.requested, h, Options.withChecks, h, List.append_nil]
    rfl
  apply runOptions_silenced (a := options.withChecks (Check.all.map Check.name)) (b := options)
    rfl rfl rfl rfl
  intro path
  rw [audit_result, audit_result, hrequested]
  rfl

-- The entry points agree. An audit by some checks and then by others finds what the two find one
-- after the other, and fails as the first that fails. A file audited by all checks at once is as
-- one audited by each of them, and a run that asks for every check, in front or behind or in any
-- other words, ends as one that asks for none. The first name that is no check's is reported
-- before anything is looked at.
theorem audits_agree :
    (∀ (settings : Settings) (a b : List Check) (path text : String) (tree : Tree),
      (Audit.text settings ((a ++ b).map Check.name) path text tree).result = do
        let first ← (Audit.text settings (a.map Check.name) path text tree).result
        let second ← (Audit.text settings (b.map Check.name) path text tree).result
        return first ++ second) ∧
    (∀ (settings : Settings) (path : Path) (found : Lookup),
      (Audit.wholeFile settings path found).result =
        (Check.all.map Check.name).flatMapM fun name =>
          (Audit.file settings path found name).result) ∧
    (∀ (date : String) (arguments : List String) (files : Files),
      (∀ options, parse arguments = .ok options → options.checks = []) →
        (run date (asking Check.all ++ arguments) files).silenced =
            (run date arguments files).silenced ∧
          ("--" ∉ arguments →
            (run date (arguments ++ asking Check.all) files).silenced =
              (run date arguments files).silenced) ∧
          ∀ asked,
            parse asked = (parse arguments).map (Options.withChecks (Check.all.map Check.name)) →
              (run date asked files).silenced = (run date arguments files).silenced) ∧
    ∀ (settings : Settings) (before : List Check) (name : String) (after : List String)
        (path text : String) (tree : Tree), name ∉ Check.all.map Check.name →
      (Audit.text settings (before.map Check.name ++ name :: after) path text tree).result =
        .error (.reported (.unknownCheck name)) := by
  refine ⟨Audit.text_append, Audit.wholeFile_eq_files, ?_, Audit.text_unknown⟩
  intro date arguments files hnone
  have hasked (asked : List String)
      (hparse : parse asked =
        (parse arguments).map (Options.withChecks (Check.all.map Check.name))) :
      (run date asked files).silenced = (run date arguments files).silenced :=
    run_silenced date files hparse fun options h =>
      runOptions_withChecks options date files (hnone options h)
  refine ⟨hasked _ (parse_asking Check.all arguments), fun hseparator => hasked _ ?_, hasked⟩
  rw [parse_append_asking Check.all arguments hseparator]
  -- where nothing is asked for, it is the same to ask before and after
  cases h : parse arguments with
  | error stop => rfl
  | ok options =>
      rw [map_ok, map_ok, Options.andChecks, Options.withChecks, hnone options h, List.nil_append,
        List.append_nil]

-- A parenthesis that is missing at the end of a file.
def unclosedFile : Files :=
  ⟨[], [(["f.swift"], .file (Text.Utf8.encode "f(\n".toList)
    (.node ⟨0, "source_file", 0, 3, true, false, true, []⟩
      [.node ⟨1, "simple_identifier", 0, 1, true, false, false, []⟩ [],
        .node ⟨2, "(", 1, 2, false, false, false, []⟩ [],
        .node ⟨3, ")", 2, 2, false, true, true, []⟩ []]))]⟩

theorem audits_agree_unclosed :
    (run "" ["f.swift"] unclosedFile).output =
        "f.swift:2:1: error: Invalid syntax: expected ')' [Syntax]\n" ∧
      (run "" (["f.swift"] ++ asking Check.all) unclosedFile).silenced =
        (run "" ["f.swift"] unclosedFile).silenced ∧
      (Audit.text Settings.default ["syntax", "nope", "none"] "f.swift" "f(\n" .unparsed).result =
        .error (.reported (.unknownCheck "nope")) := by
  obtain ⟨-, -, hrun, hunknown⟩ := audits_agree
  have hnone (options : Options) (h : parse ["f.swift"] = .ok options) : options.checks = [] := by
    have hparse : parse ["f.swift"] = .ok { Options.none with source := some "f.swift" } := rfl
    obtain rfl := Except.ok.inj (hparse.symm.trans h)
    rfl
  exact ⟨by decide +kernel, (hrun "" ["f.swift"] unclosedFile hnone).2.1 (by decide),
    hunknown Settings.default [.parseFaults] "nope" ["none"] "f.swift" "f(\n" .unparsed
      (by decide)⟩

end SwiftAudit.CommandLine
