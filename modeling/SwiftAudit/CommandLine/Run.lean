import SwiftAudit.Audit
import SwiftAudit.CommandLine.Arguments
import SwiftAudit.Report
import SwiftAudit.Settings.File

namespace SwiftAudit.CommandLine

def usage : String :=
  "usage: swift-audit [-h] [--check NAME] [--list-checks] [--report [PATH]]\n" ++
  "                   [--legacy-categories] [--config FILE] [--verbose] [--quiet]\n" ++
  "                   [source_file]\n"

def help : String :=
  usage ++ "\n" ++
  "Find quality issues in Swift source files\n\n" ++
  "positional arguments:\n" ++
  "  source_file           Path to a Swift source file\n\n" ++
  "options:\n" ++
  "  -h, --help            show this help message and exit\n" ++
  "  --check NAME          Run only this check (repeatable)\n" ++
  "  --list-checks         List the available checks in the order they run\n" ++
  "  --report [PATH]       Write a detailed Markdown report\n" ++
  "  --legacy-categories   Categorize report entries by description keywords\n" ++
  "  --config FILE         JSON file overriding thresholds and tables\n" ++
  "  --verbose, -v         Log every issue as it is found\n" ++
  "  --quiet, -q           Only log errors\n"

-- How a run ended, with an exit code or in a breakdown, what it had written by then, and the files
-- it left.
structure Outcome where
  ending : Except Breakdown Nat
  output : String
  errors : String
  files : Files

def Options.level (options : Options) : LogLevel :=
  if options.verbose then .debug else if options.quiet then .error else .warning

def textOfLog (level : LogLevel) (log : List LogEntry) : String :=
  String.join ((log.filter (·.isAtLeast level)).map (·.message.shown ++ "\n"))

def joinLines (lines : List String) : String := String.join (lines.map (· ++ "\n"))

def loadSettings (files : Files) : Option String → Transcript Settings
  | none => pure Settings.default
  | some config =>
    let path := Path.ofText config
    Settings.load path (files.lookup path)

-- Every requested check opens the file anew.
def eachCheck (settings : Settings) (path : Path) (found : Lookup) :
    List String → Transcript (List Finding)
  | [] => pure []
  | name :: rest => do
    let findings ← Audit.file settings path found name
    return findings ++ (← eachCheck settings path found rest)

def audit (options : Options) (path : Path) (files : Files) : Transcript (List Finding) := do
  let settings ← loadSettings files options.config
  match options.checks with
  | [] => Audit.wholeFile settings path (files.lookup path)
  | names => eachCheck settings path (files.lookup path) names

def findingLine (path : Path) (report : Report) (finding : Finding) : CodeText :=
  s!"{path.text}:" ++ finding.text ++ s!" [{report.categoryOf finding}]"

-- The lines before the first that no encoding can write.
def printable : List CodeText → List String
  | .plain line :: rest => line :: printable rest
  | _ => []

def reportPath (path : Path) (asked : String) : Path :=
  .ofText (if asked.isEmpty then s!"{path.name}-report.md" else asked)

-- Writes the report that is asked for, when the lines have been printed.
def saveReport (options : Options) (path : Path) (log : List LogEntry) (lines : List String)
    (report : Report) (files : Files) : Outcome :=
  let level := options.level
  match options.report with
  | none => ⟨.ok 0, joinLines lines, textOfLog level log, files⟩
  | some asked =>
    let target := reportPath path asked
    match files.save target report.detailed with
    | (written, .ok ()) =>
      let note : LogEntry := ⟨.info, s!"report written to {target.text}"⟩
      ⟨.ok 0, joinLines (lines ++ [s!"Report saved to: {target.text}"]),
        textOfLog level (log ++ [note]), written⟩
    | (left, .error (.refused error)) =>
      let reason := error.message (CodeText.quoted target.text)
      let note : LogEntry := ⟨.error, s!"Error saving report: {reason}"⟩
      ⟨.ok 1, joinLines lines, textOfLog level (log ++ [note]), left⟩
    | (left, .error (.broken breakdown)) =>
      ⟨.error breakdown, joinLines lines, textOfLog level log, left⟩

-- The findings are printed before the report is written, one by one.
def conclude (options : Options) (path : Path) (date : String) (log : List LogEntry)
    (findings : List Finding) (files : Files) : Outcome :=
  let report : Report := ⟨findings, path.text, options.legacyCategories, date⟩
  let lines := printable (findings.map (findingLine path report))
  if lines.length < findings.length then
    ⟨.error .unencodableText, joinLines lines, textOfLog options.level log, files⟩
  else saveReport options path log lines report files

-- A failure that is told to the user leaves nothing else behind.
def runAudit (options : Options) (path : Path) (date : String) (files : Files) : Outcome :=
  let transcript := audit options path files
  let level := options.level
  match transcript.result with
  | .ok findings => conclude options path date transcript.log findings files
  | .error (.broken breakdown) => ⟨.error breakdown, "", textOfLog level transcript.log, files⟩
  | .error (.reported error) =>
    let note : LogEntry := ⟨.error, "Error: " ++ error.message⟩
    ⟨.ok 1, "", textOfLog level (transcript.log ++ [note]), files⟩

def runOptions (options : Options) (date : String) (files : Files) : Outcome :=
  if options.listChecks then ⟨.ok 0, joinLines (Check.all.map (·.name)), "", files⟩
  else match options.source with
    | none => ⟨.ok 1, help, "", files⟩
    | some source => runAudit options (Path.ofText source) date files

-- Runs the program on its arguments, in a directory with the given files.
def run (date : String) (arguments : List String) (files : Files) : Outcome :=
  match parse arguments with
  | .error .help => ⟨.ok 0, help, "", files⟩
  | .error .badUsage => ⟨.ok 2, "", usage, files⟩
  | .ok options => runOptions options date files

end SwiftAudit.CommandLine
