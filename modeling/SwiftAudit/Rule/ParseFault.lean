import SwiftAudit.Finding

namespace SwiftAudit.Rule.ParseFault

def isFault (label : Label) : Bool := label.missing || label.kind == "ERROR"

-- The outermost faults of a tree. Errors inside a fault are the same defect, and a tree
-- without the error mark holds none.
mutual

def faults (places : List Place) : Tree → List Node
  | .node label children =>
    if isFault label then [⟨.node label children, places⟩]
    else if label.hasError then faultsAmong (.node label children) places children
    else []

def faultsAmong (parent : Tree) (places : List Place) : List Tree → List Node
  | [] => []
  | tree :: later =>
    faults (⟨parent, later⟩ :: places) tree ++ faultsAmong parent places later

end

def faultNodes (tree : Tree) : List Node := if tree.label.hasError then faults [] tree else []

def describe (source : Source) (n : Node) : String :=
  if n.label.missing then s!"Invalid syntax: expected '{n.kind}'"
  else s!"Invalid syntax near '{String.ofList (Text.snippet (source.chars n.label))}'"

def findings (source : Source) : List Finding :=
  (faultNodes source.tree).map fun n =>
    .onNode source n Category.parsing (describe source n) .error

end SwiftAudit.Rule.ParseFault
