import SwiftAudit.CommandLine.Run
import SwiftAudit.Json.Reader
import SwiftAudit.Tree.Row
import Std.Time.Format

namespace SwiftAudit

-- The tree of a source stands beside it, in a file of rows that a parser wrote.
def treeFile (path : String) : String := path ++ ".tree.json"

def readTree (path : String) : IO Tree := do
  try
    let bytes ← IO.FS.readBinFile (treeFile path)
    match Text.Utf8.decode bytes.toList with
    | .ok text =>
      match Json.read none text with
      | .ok json => return (Tree.ofJson? json).getD Tree.unparsed
      | .error _ => return Tree.unparsed
    | .error _ => return Tree.unparsed
  catch _ => return Tree.unparsed

-- What stands at a path: a file, or a directory, which cannot be read as one.
def readEntry? (path : String) : IO (Option Entry) := do
  try
    let bytes ← IO.FS.readBinFile path
    return some (.file bytes.toList (← readTree path))
  catch error =>
    match error with
    | .inappropriateType _ 21 _ => return some .directory
    | _ => return none

-- Every step on the way to a path that is there, by its place from the root.
def observe (base : List String) (path : Path) : IO (List (List String × Entry)) := do
  let mut here := if path.root.isEmpty then base else []
  let mut passed : List String := []
  let mut entries := []
  for step in path.steps do
    here := if step == ".." then here.dropLast else here ++ [step]
    passed := passed ++ [step]
    if let some entry ← readEntry? (Path.mk path.root passed).text then
      entries := entries ++ [(here, entry)]
  return entries

-- The paths that arguments may name: themselves, what follows an equals sign, and the
-- report of a source.
def namedPaths (arguments : List String) : List Path :=
  arguments.flatMap fun argument =>
    let value := (CommandLine.splitValue argument.toList).2
    let texts := argument :: value.toList
    texts.map Path.ofText ++ texts.map fun text => CommandLine.reportPath (.ofText text) ""

def readFiles (arguments : List String) : IO Files := do
  let base := (Path.ofText ((← IO.getEnv "PWD").getD "/")).steps
  let entries ← (namedPaths arguments).mapM (observe base)
  return ⟨base, entries.flatten⟩

-- Writes the files that a run has put in place.
def writeFiles (before after : Files) : IO Unit := do
  for (steps, entry) in after.entries do
    match entry, before.entries.lookup steps with
    | .file new _, some (.file old _) => if new != old then save steps new
    | .file new _, _ => save steps new
    | .directory, _ => pure ()
where
  save (steps : List String) (bytes : List UInt8) : IO Unit :=
    IO.FS.writeBinFile (Path.mk "/" steps).text ⟨bytes.toArray⟩

def currentDate : IO String := do
  let now ← Std.Time.PlainDateTime.now
  let parts := Date.ofParts? now.year.toInt.toNat now.month.val.toNat now.day.val.toNat
    now.hour.val.toNat now.minute.val.toNat
  return (parts.map (·.text)).getD ""

def runProgram (arguments : List String) : IO UInt32 := do
  let files ← readFiles arguments
  let outcome := CommandLine.run (← currentDate) arguments files
  writeFiles files outcome.files
  (← IO.getStdout).putStr outcome.output
  (← IO.getStderr).putStr outcome.errors
  match outcome.ending with
  | .ok exitCode => return exitCode.toUInt32
  | .error breakdown =>
    (← IO.getStderr).putStr (breakdown.message ++ "\n")
    return 1

end SwiftAudit

def main (arguments : List String) : IO UInt32 := SwiftAudit.runProgram arguments
