namespace SwiftAudit

-- A file path: the slashes of the root, if any, and the steps from there.
structure Path where
  root : String
  steps : List String
  deriving DecidableEq, Repr

namespace Path

-- One slash at the start is the root, and so are three or more; two are a root of their own.
def rootOf : List Char → String
  | '/' :: '/' :: '/' :: _ => "/"
  | '/' :: '/' :: _ => "//"
  | '/' :: _ => "/"
  | _ => ""

-- Empty steps and those that stay in place are dropped; a step upwards is kept.
def ofText (text : String) : Path :=
  let steps := (text.toList.splitOn '/').map String.ofList
  ⟨rootOf text.toList, steps.filter fun step => step != "" && step != "."⟩

def text (path : Path) : String :=
  if path.root.isEmpty && path.steps.isEmpty then "."
  else path.root ++ String.intercalate "/" path.steps

-- A path with a null character leads nowhere.
def hasNull (path : Path) : Bool := path.steps.any (·.toList.contains '\x00')

-- The last step.
def name (path : Path) : String := path.steps.getLastD ""

end Path

end SwiftAudit
