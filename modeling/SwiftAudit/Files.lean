import SwiftAudit.Failure
import SwiftAudit.Path
import SwiftAudit.Tree.Basic

namespace SwiftAudit

inductive Entry where
  | directory
  -- The tree is what a parser gives for the bytes, if they are Swift.
  | file (bytes : List UInt8) (tree : Tree)

-- What a path leads to. It is blocked where a file stands and the path goes on, and one with a
-- null character is no path.
inductive Lookup where
  | invalid
  | missing
  | blocked
  | directory
  | file (bytes : List UInt8) (tree : Tree)

-- A directory tree by the steps from its root, and the directory in it where a program runs.
structure Files where
  base : List String
  entries : List (List String × Entry)

-- Where a path ends, if every step before the last leads into a directory.
inductive Target where
  | invalid
  | found (steps : List String)
  | missing
  | blocked
  deriving DecidableEq, Repr

namespace Files

-- A directory need not have an entry of its own if something is in it.
def isDirectory (files : Files) (steps : List String) : Bool :=
  steps.isPrefixOf files.base || files.entries.any fun (path, entry) =>
    steps.isPrefixOf path && (steps.length < path.length || entry matches .directory)

def find (files : Files) (steps : List String) : Lookup :=
  if files.isDirectory steps then .directory
  else match files.entries.lookup steps with
    | some (.file bytes tree) => .file bytes tree
    | _ => .missing

-- Follows steps from a place. A step upwards from the root stays there.
def targetFrom (files : Files) (here : List String) : List String → Target
  | [] => .found here
  | step :: rest =>
    match files.find here with
    | .directory =>
      files.targetFrom (if step == ".." then here.dropLast else here ++ [step]) rest
    | .file _ _ => .blocked
    | _ => .missing

def target (files : Files) (path : Path) : Target :=
  if path.hasNull then .invalid
  else files.targetFrom (if path.root.isEmpty then files.base else []) path.steps

def lookup (files : Files) (path : Path) : Lookup :=
  match files.target path with
  | .invalid => .invalid
  | .found steps => files.find steps
  | .missing => .missing
  | .blocked => .blocked

inductive WriteError where
  | noDirectory
  | notDirectory
  | isDirectory
  deriving DecidableEq, Repr

def WriteError.message (path : String) : WriteError → String
  | noDirectory => "[Errno 2] No such file or directory: " ++ path
  | notDirectory => "[Errno 20] Not a directory: " ++ path
  | isDirectory => "[Errno 21] Is a directory: " ++ path

-- Why a file is not written: for a reason that is told, or with a breakdown.
inductive WriteFailure where
  | refused (error : WriteError)
  | broken (breakdown : Breakdown)
  deriving DecidableEq, Repr

def put (files : Files) (steps : List String) (entry : Entry) : Files :=
  { files with entries := files.entries.filter (·.1 != steps) ++ [(steps, entry)] }

-- Writes a file that nobody has parsed.
def write (files : Files) (path : Path) (bytes : List UInt8) : Except WriteFailure Files :=
  match files.target path with
  | .invalid => .error (.broken .nullInPath)
  | .found steps =>
    match files.find steps with
    | .directory => .error (.refused .isDirectory)
    | _ => .ok (files.put steps (.file bytes Tree.unparsed))
  | .missing => .error (.refused .noDirectory)
  | .blocked => .error (.refused .notDirectory)

-- A text is encoded once its file is open, so that one without an encoding leaves it empty.
def save (files : Files) (path : Path) : CodeText → Files × Except WriteFailure Unit
  | .plain s =>
    match files.write path (Text.Utf8.encode s.toList) with
    | .ok written => (written, .ok ())
    | .error failure => (files, .error failure)
  | .broken .. =>
    match files.write path [] with
    | .ok emptied => (emptied, .error (.broken .unencodableText))
    | .error failure => (files, .error failure)

end Files

end SwiftAudit
