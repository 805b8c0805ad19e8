import SwiftAudit.Source.Basic

namespace SwiftAudit.Swift

-- The first `statements` child after an opening brace and before a closing one. The entries
-- of a switch have no braces.
def blockAmong (inSwitch : Bool) : (opened : Bool) → List Node → Option Node
  | _, [] => none
  | opened, child :: rest =>
    if child.kind == "\x7b" then blockAmong inSwitch true rest
    else if child.kind == "\x7d" && opened then none
    else if child.kind == "statements" && (opened || inSwitch) then some child
    else blockAmong inSwitch opened rest

-- The statements of the first block of a node; an empty block has none.
def block? (n : Node) : Option Node := blockAmong (n.kind == "switch_entry") false n.children

def statementsIn (block : Node) : List Node := block.namedChildren.filter (!·.isComment)

def statements (n : Node) : List Node :=
  match block? n with
  | some block => statementsIn block
  | none => []

def isReturn (source : Source) (n : Node) : Bool :=
  n.kind == "control_transfer_statement" &&
    match n.children with
    | [] => false
    | first :: _ => source.textOf first == "return"

end SwiftAudit.Swift
