import SwiftAudit.Source.Basic
import SwiftAudit.Swift.Kind

namespace SwiftAudit.Swift

-- An identifier that refers to something, instead of naming it.
def isReference (n : Node) : Bool :=
  n.kind == "simple_identifier" && !n.parentKind?.any namingKinds.contains

def lastNamedChild? (n : Node) : Option Node := n.namedChildren.getLast?

-- The node that names the member in `a.b`.
def memberNode? (n : Node) : Option Node := do
  let suffix ← n.child? .suffix <|> n.children.find? (·.kind == "navigation_suffix")
  suffix.child? .suffix <|> lastNamedChild? suffix

def memberName? (source : Source) (n : Node) : Option String :=
  (memberNode? n).map source.textOf

-- The name that a node uses: the member of a navigation, or the identifier that refers.
def usedName? (source : Source) (n : Node) : Option String :=
  if n.kind == "navigation_expression" then (memberName? source n).filter (!·.isEmpty)
  else if isReference n then some (source.textOf n)
  else none

def isBinary (kind : String) : Bool := binaryKinds.contains kind

variable {α : Type}

-- Of labelled children, the operator: the child in that role, or else the first token or
-- custom operator that is not the left operand.
def operator? (label : α → Label) (children : List α) : Option α :=
  children.find? (fun child => (label child).has .op) <|>
    (children.eraseP fun child => (label child).has .lhs).find? fun child =>
      !(label child).named || (label child).kind == "custom_operator"

-- Of labelled children, the operands: those in the two roles, or else all that are named
-- and neither comments nor operators.
def operandsAmong (label : α → Label) (children : List α) : List α :=
  match children.find? (fun child => (label child).has .lhs),
      children.find? (fun child => (label child).has .rhs) with
  | some left, some right => [left, right]
  | _, _ => children.filter fun child =>
      (label child).named && !(label child).isComment && (label child).kind != "custom_operator"

def operatorText (source : Source) (children : List Label) : String :=
  match operator? id children with
  | some label => String.ofList (source.chars label)
  | none => ""

def binaryOperator (source : Source) (n : Node) : String :=
  operatorText source (n.tree.children.map (·.label))

def operands (n : Node) : List Node := operandsAmong (·.label) n.children

end SwiftAudit.Swift
