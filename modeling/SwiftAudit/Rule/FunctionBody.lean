import SwiftAudit.Source.Basic
import SwiftAudit.Swift.Statement

namespace SwiftAudit.Rule

-- A function with a name and a body.
structure FunctionBody where
  name : String
  node : Node
  body : Node
  statements : List Node

namespace FunctionBody

def ofNode? (source : Source) (n : Node) : Option FunctionBody := do
  if n.kind != "function_declaration" then none
  let body ← n.child? .body
  let name ← n.child? .name
  return ⟨source.textOf name, n, body, Swift.statements body⟩

def allIn (source : Source) : List FunctionBody := source.nodes.filterMap (ofNode? source)

end FunctionBody

end SwiftAudit.Rule
