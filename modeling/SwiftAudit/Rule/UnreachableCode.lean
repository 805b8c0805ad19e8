import SwiftAudit.Finding
import SwiftAudit.Swift.Statement

namespace SwiftAudit.Rule.UnreachableCode

-- A value on a later row than its `return` is a statement of its own.
def detachedResult? (source : Source) (n : Node) : Option Node :=
  (n.child? .result).filter fun result => source.row result.label > source.row n.label

-- The statement after a node in its list. Only named nodes are statements.
def successor? (n : Node) : Option Node :=
  if n.parentKind? == some "statements" && n.label.named then
    (n.laterSiblings.filter fun sibling => sibling.label.named && !sibling.isComment).head?
  else none

def unreachable? (source : Source) (n : Node) : Option Node :=
  if Swift.isReturn source n then
    match detachedResult? source n with
    | some result => some result
    | none => successor? n
  else none

def findings (source : Source) : List Finding :=
  (source.nodes.filterMap (unreachable? source)).map fun n =>
    .onNode source n Category.unreachableCode "Unreachable code detected after return statement"

end SwiftAudit.Rule.UnreachableCode
