import SwiftAudit.Finding
import SwiftAudit.Swift.Declaration
import SwiftAudit.Swift.Expression

namespace SwiftAudit.Rule.UnusedVariable

def declared (source : Source) : List (String × Node) :=
  (source.nodes.filter (·.kind == "property_declaration")).flatMap (Swift.bindings source)

def used (source : Source) : List String := source.nodes.filterMap (Swift.usedName? source)

-- Names are looked up in the whole file, whatever their scope.
def findings (source : Source) : List Finding :=
  let used := used source
  ((declared source).filter (!used.contains ·.1)).map fun (name, pattern) =>
    .onNode source pattern Category.unusedVariables s!"Variable '{name}' declared but never used"

end SwiftAudit.Rule.UnusedVariable
