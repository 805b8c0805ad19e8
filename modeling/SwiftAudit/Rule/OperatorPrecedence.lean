import SwiftAudit.Finding
import SwiftAudit.Swift.Expression

namespace SwiftAudit.Rule.OperatorPrecedence

-- An expression without parentheses as a tree of binary operations.
inductive Operation where
  | operand
  | binary (kind operator : String) (operands : List Operation)

namespace Operation

mutual

def ofTree (source : Source) : Tree → Operation
  | .node label children =>
    if Swift.isBinary label.kind then
      .binary label.kind (Swift.operatorText source (children.map (·.label)))
        ((Swift.operandsAmong (·.1) (ofChildren source children)).map (·.2))
    else .operand

def ofChildren (source : Source) : List Tree → List (Label × Operation)
  | [] => []
  | tree :: rest => (tree.label, ofTree source tree) :: ofChildren source rest

end

def kind? : Operation → Option String
  | operand => none
  | binary kind _ _ => some kind

-- Operands and operators together.
mutual

def elements : Operation → Nat
  | operand => 1
  | binary _ _ operands => 1 + elementsOf operands

def elementsOf : List Operation → Nat
  | [] => 0
  | operation :: rest => operation.elements + elementsOf rest

end

mutual

def operators : Operation → List String
  | operand => []
  | binary _ operator operands => operator :: operatorsOf operands

def operatorsOf : List Operation → List String
  | [] => []
  | operation :: rest => operation.operators ++ operatorsOf rest

end

-- Some operation has an operand of its own kind.
mutual

def nestsKind : Operation → Bool
  | operand => false
  | binary kind _ operands => operands.any (·.kind? == some kind) || nestsKindOf operands

def nestsKindOf : List Operation → Bool
  | [] => false
  | operation :: rest => operation.nestsKind || nestsKindOf rest

end

end Operation

def logicalOperators : List String := ["&&", "||"]

def arithmeticOperators : List String := ["+", "-", "*", "/", "%"]

def mixes (operators : List String) : Bool :=
  operators.any logicalOperators.contains && operators.any arithmeticOperators.contains

-- A binary expression that is not an operand of another one.
def isMaximal (n : Node) : Bool := Swift.isBinary n.kind && !n.parentKind?.any Swift.isBinary

def findingsAt (source : Source) (n : Node) : List Finding :=
  let operation := Operation.ofTree source n.tree
  if operation.elements ≤ 3 then []
  else
    let nested :=
      if operation.nestsKind then
        [.onNode source n Category.operatorPrecedence
          "Consider adding explicit parentheses to clarify operator precedence"]
      else []
    let mixed :=
      if mixes operation.operators then
        [.onNode source n Category.operatorPrecedence
          ("Mixed logical and arithmetic operators - " ++
            "use parentheses to clarify precedence")]
      else []
    nested ++ mixed

def findings (source : Source) : List Finding :=
  (source.nodes.filter isMaximal).flatMap (findingsAt source)

end SwiftAudit.Rule.OperatorPrecedence
