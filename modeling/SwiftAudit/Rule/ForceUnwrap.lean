import SwiftAudit.Finding

namespace SwiftAudit.Rule.ForceUnwrap

-- What is forced by a node, if anything: an optional by `!`, or a type by `as!`.
def description? (source : Source) (n : Node) : Option String :=
  if n.kind == "postfix_expression" && n.children.any (·.kind == "bang") then
    some "Force unwrap operator used which may cause runtime crashes"
  else if n.kind == "as_expression" && n.children.any (fun child =>
      child.kind == "as_operator" && source.textOf child == "as!") then
    some "Force cast operator 'as!' used which may cause runtime crashes"
  else none

def findings (source : Source) : List Finding :=
  source.nodes.filterMap fun n =>
    (description? source n).map (.onNode source n Category.forceUnwraps ·)

end SwiftAudit.Rule.ForceUnwrap
