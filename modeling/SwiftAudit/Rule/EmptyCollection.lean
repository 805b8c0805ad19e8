import SwiftAudit.Finding
import SwiftAudit.Swift.Expression

namespace SwiftAudit.Rule.EmptyCollection

-- The property to use for a comparison of a count with zero.
def suggestion? : String → Option String
  | "==" => some "isEmpty"
  | "!=" => some "!isEmpty"
  | ">" => some "!isEmpty"
  | _ => none

def comparesCountWithZero (source : Source) (n : Node) : Bool :=
  match Swift.operands n with
  | [left, right] =>
    left.kind == "navigation_expression" && Swift.memberName? source left == some "count" &&
      right.kind == "integer_literal" && source.textOf right == "0"
  | _ => false

def finding? (source : Source) (n : Node) : Option Finding := do
  if !comparesCountWithZero source n then none
  let suggestion ← suggestion? (Swift.binaryOperator source n)
  return .onNode source n Category.collections
    (s!"Use '{suggestion}' instead of comparing count to zero " ++
      "to check for empty collections")

def isComparison (n : Node) : Bool :=
  n.kind == "equality_expression" || n.kind == "comparison_expression"

def findings (source : Source) : List Finding :=
  (source.nodes.filter isComparison).filterMap (finding? source)

end SwiftAudit.Rule.EmptyCollection
