import SwiftAudit.Json.Basic
import SwiftAudit.Tree.Basic

namespace SwiftAudit

-- A parser hands its tree over as rows in preorder, each with the number of its children.
structure Row where
  kind : String
  start : Nat
  stop : Nat
  named : Bool
  missing : Bool
  hasError : Bool
  arity : Nat
  fields : List Field

namespace Field

def all : List Field :=
  [name, body, captures, condition, result, target, suffix, op, lhs, rhs, declarationKind,
    returnType]

def word : Field → String
  | name => "name"
  | body => "body"
  | captures => "captures"
  | condition => "condition"
  | result => "result"
  | target => "target"
  | suffix => "suffix"
  | op => "op"
  | lhs => "lhs"
  | rhs => "rhs"
  | declarationKind => "declaration_kind"
  | returnType => "return_type"

def ofWord? (word : String) : Option Field := all.find? (·.word == word)

end Field

namespace Row

-- The last flag is set on nodes that are or hold an error.
def ofFlags (kind : String) (start stop flags arity : Nat) (fields : List Field) : Row :=
  ⟨kind, start, stop, flags % 2 = 1, flags / 2 % 2 = 1, flags / 4 % 2 = 1, arity, fields⟩

-- Names of fields that no rule asks for are dropped.
def fieldsOf (text : String) : List Field :=
  (text.toList.splitOn ',').filterMap fun word => Field.ofWord? (String.ofList word)

def ofJson? : Json → Option Row
  | .list (kind :: start :: stop :: flags :: arity :: rest) => do
    let fields ← match rest with
      | [] => some []
      | [names] => names.text?.map fieldsOf
      | _ => none
    return ofFlags (← kind.text?) (← start.nat?) (← stop.nat?) (← flags.nat?) (← arity.nat?)
      fields
  | _ => none

def toLabel (row : Row) (number : Nat) : Label :=
  ⟨number, row.kind, row.start, row.stop, row.named, row.missing, row.hasError, row.fields⟩

end Row

namespace Tree

-- From the last row to the first, a row takes its children from the front of the trees
-- that the rows after it have built.
def gather (row : Row × Nat) (built : Option (List Tree)) : Option (List Tree) := do
  let trees ← built
  if trees.length < row.1.arity then none
  return node (row.1.toLabel row.2) (trees.take row.1.arity) :: trees.drop row.1.arity

-- Nodes are numbered by their rows.
def ofRows? (rows : List Row) : Option Tree :=
  match rows.zipIdx.foldr gather (some []) with
  | some [tree] => some tree
  | _ => none

def ofJson? (json : Json) : Option Tree := do
  ofRows? (← (← json.list?).mapM Row.ofJson?)

end Tree

end SwiftAudit
