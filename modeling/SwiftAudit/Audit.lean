import SwiftAudit.Check
import SwiftAudit.Files
import SwiftAudit.Settings.Merge

namespace SwiftAudit.Audit

-- The checks of the given names, or the first name that is none.
def resolve : List String → Transcript (List Check)
  | [] => pure []
  | name :: rest =>
    match Check.ofName? name with
    | none => .report (.unknownCheck name)
    | some check => do return check :: (← resolve rest)

-- A text with its tree. Trees with errors are audited as they were recovered.
def opened (path text : String) (tree : Tree) : Transcript Source := do
  if tree.label.hasError then
    Transcript.note .info s!"{path}: parsed with syntax errors, checking the recovered tree"
  return .ofText path text tree

def runCheck (source : Source) (settings : Settings) (check : Check) :
    Transcript (List Finding) := do
  let found ← check.findings source settings
  Transcript.note .debug s!"{source.path}: {check.name} reported {found.length} issue(s)"
  found.forM fun finding => Transcript.note .debug ("issue: " ++ finding.text)
  return found

-- The findings come in the order of the checks, and each check's in the order of the source.
def run (source : Source) (settings : Settings) : List Check → Transcript (List Finding)
  | [] => pure []
  | check :: rest => do
    let found ← runCheck source settings check
    return found ++ (← run source settings rest)

-- Audits a text that is given as it is.
def text (settings : Settings) (names : List String) (path text : String) (tree : Tree) :
    Transcript (List Finding) := do
  let checks ← resolve names
  let source ← opened (Path.ofText path).text text tree
  run source settings checks

-- A file as a source. Its bytes must be UTF-8, and become its text unchanged.
def openFile (path : Path) : Lookup → Transcript Source
  | .file bytes tree =>
    match Text.Utf8.decode bytes with
    | .ok text => opened path.text (String.ofList text) tree
    | .error fault => .report (.undecodable path.text fault)
  | _ => .report (.sourceNotFound path.text)

-- Audits a file by one check. The name is looked up before the file is.
def file (settings : Settings) (path : Path) (found : Lookup) (name : String) :
    Transcript (List Finding) := do
  let checks ← resolve [name]
  let source ← openFile path found
  run source settings checks

-- Audits a file by all checks, which share one source.
def wholeFile (settings : Settings) (path : Path) (found : Lookup) :
    Transcript (List Finding) := do
  let source ← openFile path found
  run source settings Check.all

end SwiftAudit.Audit
