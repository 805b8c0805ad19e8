import Mathlib.Data.List.Basic
import Mathlib.Data.List.Flatten
import SwiftAudit.Proofs.CommandLine.Arguments
import SwiftAudit.Proofs.CommandLine.Outcome

namespace SwiftAudit.CommandLine

theorem runOptions_speakUp (options : Options) (date : String) (files : Files) :
    (runOptions options.speakUp date files).silenced = (runOptions options date files).silenced :=
  runOptions_silenced (a := options.speakUp) (b := options) rfl rfl rfl rfl date files fun _ => rfl

theorem runOptions_hush (options : Options) (date : String) (files : Files) :
    (runOptions options.hush date files).silenced = (runOptions options date files).silenced :=
  runOptions_silenced (a := options.hush) (b := options) rfl rfl rfl rfl date files fun _ => rfl

-- The lines of a log that is shown are those of its messages, and an empty one at the end.
theorem lines_textOfLog (level : LogLevel) (log : List LogEntry) :
    Text.lines (textOfLog level log).toList =
      ((log.filter (·.isAtLeast level)).flatMap fun entry =>
        Text.lines entry.message.shown.toList) ++ [[]] := by
  unfold textOfLog
  induction log.filter (·.isAtLeast level) with
  | nil => rfl
  | cons entry rest ih =>
      have hfirst : (String.join ((entry :: rest).map (·.message.shown ++ "\n"))).toList =
          entry.message.shown.toList ++
            '\n' :: (String.join (rest.map (·.message.shown ++ "\n"))).toList := by
        rw [List.map_cons, String.join_cons, String.toList_append, String.toList_append,
          List.append_assoc]
        rfl
      rw [hfirst, Text.lines, List.splitOn_append_cons_self, ← Text.lines, ← Text.lines, ih,
        List.flatMap_cons, List.append_assoc]

-- A stricter level shows fewer of the messages.
theorem lines_textOfLog_sublist {less more : LogLevel} (h : more.rank ≤ less.rank)
    (log : List LogEntry) :
    (Text.lines (textOfLog less log).toList).Sublist
      (Text.lines (textOfLog more log).toList) := by
  have hfilter : (log.filter (·.isAtLeast less)).Sublist (log.filter (·.isAtLeast more)) := by
    apply List.monotone_filter_right
    intro entry hless
    simp only [LogEntry.isAtLeast, decide_eq_true_eq] at hless ⊢
    exact Nat.le_trans h hless
  rw [lines_textOfLog, lines_textOfLog]
  exact (hfilter.flatMap _).append (.refl _)

theorem textOfLog_unclosed (level : LogLevel) (log : List LogEntry) :
    textOfLog level (log ++ (none : Option LogEntry).toList) = textOfLog level log := by
  rw [Option.toList_none, List.append_nil]

-- What an audit logged is shown to the end of the run, which adds one note at most. Which note that
-- is does not depend on how much is shown.
theorem exists_closing_saveReport (options : Options) (path : Path) (log : List LogEntry)
    (lines : List String) (report : Report) (files : Files) :
    ∃ closing : Option LogEntry, ∀ verbose quiet,
      (saveReport { options with verbose, quiet } path log lines report files).errors =
        textOfLog (Options.level { options with verbose, quiet }) (log ++ closing.toList) := by
  unfold saveReport
  cases options.report with
  | none => exact ⟨none, fun _ _ => (textOfLog_unclosed _ _).symm⟩
  | some asked =>
      dsimp only
      split
      · exact ⟨some _, fun _ _ => rfl⟩
      · exact ⟨some _, fun _ _ => rfl⟩
      · exact ⟨none, fun _ _ => (textOfLog_unclosed _ _).symm⟩

theorem exists_closing_conclude (options : Options) (path : Path) (date : String)
    (log : List LogEntry) (findings : List Finding) (files : Files) :
    ∃ closing : Option LogEntry, ∀ verbose quiet,
      (conclude { options with verbose, quiet } path date log findings files).errors =
        textOfLog (Options.level { options with verbose, quiet }) (log ++ closing.toList) := by
  unfold conclude
  dsimp only
  split
  · exact ⟨none, fun _ _ => (textOfLog_unclosed _ _).symm⟩
  · exact exists_closing_saveReport options path log _ _ files

theorem exists_closing_runAudit (options : Options) (path : Path) (date : String)
    (files : Files) :
    ∃ closing : Option LogEntry, ∀ verbose quiet,
      (runAudit { options with verbose, quiet } path date files).errors =
        textOfLog (Options.level { options with verbose, quiet })
          ((audit options path files).log ++ closing.toList) := by
  have haudit (verbose quiet : Bool) :
      audit { options with verbose, quiet } path files = audit options path files := rfl
  simp only [runAudit, haudit]
  cases (audit options path files).result with
  | ok findings =>
      exact exists_closing_conclude options path date (audit options path files).log findings files
  | error halt =>
      cases halt with
      | broken breakdown => exact ⟨none, fun _ _ => (textOfLog_unclosed _ _).symm⟩
      | reported error => exact ⟨some _, fun _ _ => rfl⟩

-- So all runs that differ in nothing but how much they show keep one log.
theorem exists_log (options : Options) (date : String) (files : Files) :
    ∃ log, ∀ verbose quiet,
      (runOptions { options with verbose, quiet } date files).errors =
        textOfLog (Options.level { options with verbose, quiet }) log := by
  unfold runOptions
  dsimp only
  cases options.listChecks with
  | true => exact ⟨[], fun _ _ => rfl⟩
  | false =>
      cases options.source with
      | none => exact ⟨[], fun _ _ => rfl⟩
      | some source =>
          obtain ⟨closing, hclosing⟩ :=
            exists_closing_runAudit options (Path.ofText source) date files
          exact ⟨_, hclosing⟩

theorem Options.rank_level_hush (options : Options) :
    options.level.rank ≤ options.hush.level.rank := by
  unfold level hush
  cases options.verbose <;> cases options.quiet <;> simp [LogLevel.rank]

def Outcome.errorLines (outcome : Outcome) : List (List Char) := Text.lines outcome.errors.toList

-- What a run that shows less says on the error stream, the other says among more.
theorem errorLines_sublist (options : Options) (date : String) (files : Files)
    {verbose quiet : Bool}
    (hlevel : options.level.rank ≤ (Options.level { options with verbose, quiet }).rank) :
    (runOptions { options with verbose, quiet } date files).errorLines.Sublist
      (runOptions options date files).errorLines := by
  obtain ⟨log, hlog⟩ := exists_log options date files
  have hall := hlog options.verbose options.quiet
  have hfew := hlog verbose quiet
  rw [Outcome.errorLines, Outcome.errorLines, hall, hfew]
  exact lines_textOfLog_sublist hlevel log

-- A run that is told to say more or less ends as it would otherwise: with the same exit code or in
-- the same breakdown, with the same output and the same files. Told to be quiet, it leaves out
-- lines of the error stream and adds none, also where it breaks down.
theorem run_verbosity (date : String) (arguments : List String) (files : Files) :
    (run date ("-v" :: arguments) files).silenced = (run date arguments files).silenced ∧
      (run date ("-q" :: arguments) files).silenced = (run date arguments files).silenced ∧
      (run date ("-q" :: arguments) files).errorLines.Sublist
        (run date arguments files).errorLines := by
  refine ⟨run_silenced date files (parse_verbose arguments) fun options _ =>
    runOptions_speakUp options date files, run_silenced date files (parse_quiet arguments)
      fun options _ => runOptions_hush options date files, ?_⟩
  have hparse := parse_quiet arguments
  cases h : parse arguments with
  | error stop =>
      rw [h, map_error] at hparse
      rw [run, run, h, hparse]
  | ok options =>
      rw [h, map_ok] at hparse
      rw [run_of_parse h, run_of_parse hparse]
      exact errorLines_sublist options date files options.rank_level_hush

-- A function of one statement.
def oneCall : Tree :=
  .node ⟨0, "source_file", 0, 16, true, false, false, []⟩
    [.node ⟨1, "function_declaration", 0, 16, true, false, false, []⟩
      [.node ⟨2, "simple_identifier", 5, 6, true, false, false, [.name]⟩ [],
        .node ⟨3, "function_body", 9, 16, true, false, false, [.body]⟩
          [.node ⟨4, "\x7b", 9, 10, false, false, false, []⟩ [],
            .node ⟨5, "statements", 11, 14, true, false, false, []⟩
              [.node ⟨6, "call_expression", 11, 14, true, false, false, []⟩ []],
            .node ⟨7, "\x7d", 15, 16, false, false, false, []⟩ []]]]

-- Settings under which no function is compared.
def uncompared : Files :=
  ⟨[], [(["f.swift"], .file (Text.Utf8.encode "func f() \x7b g() \x7d".toList) oneCall),
    (["c.json"], .file (Text.Utf8.encode "\x7b\"max_duplicate_bucket\": 0\x7d".toList)
      .unparsed)]⟩

-- The warning about what is left out is a line that quiet runs do without.
theorem run_verbosity_warning :
    let arguments := ["f.swift", "--config", "c.json", "--check", "duplicate_functions"]
    let plain := run "" arguments uncompared
    let quiet := run "" ("-q" :: arguments) uncompared
    plain.errors = "f.swift: 1 functions with 1 statements, comparing only the first 0\n" ∧
      quiet.errors = "" ∧ quiet.errorLines.Sublist plain.errorLines := by
  exact ⟨by decide +kernel, by decide +kernel, (run_verbosity "" _ uncompared).2.2⟩

end SwiftAudit.CommandLine
