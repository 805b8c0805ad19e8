import SwiftAudit.Finding
import SwiftAudit.Swift.Statement

namespace SwiftAudit.Rule.GuardCandidate

-- The first condition of an `if`: by its role, or else its first child that is code.
def firstCondition? (n : Node) : Option Node :=
  n.children.find? (·.label.has .condition) <|> n.namedChildren.find? (!·.isComment)

def bindsOptional (source : Source) (n : Node) : Bool :=
  match firstCondition? n with
  | none => false
  | some first =>
    first.kind == "value_binding_pattern" ||
      ((Text.words (source.chars first.label)).head?.any fun word =>
        word == ['l', 'e', 't'] || word == ['v', 'a', 'r'])

def endsWithReturn (source : Source) (n : Node) : Bool :=
  (Swift.statements n).getLast?.any (Swift.isReturn source)

def isCandidate (source : Source) (n : Node) : Bool :=
  n.kind == "if_statement" && bindsOptional source n && !n.children.any (·.kind == "else") &&
    endsWithReturn source n

def findings (source : Source) : List Finding :=
  (source.nodes.filter (isCandidate source)).map fun n =>
    .onNode source n Category.controlFlow
      "Consider using guard statement for early return instead of nested if-let"

end SwiftAudit.Rule.GuardCandidate
