import SwiftAudit.Finding
import SwiftAudit.Swift.Declaration
import SwiftAudit.Text.Case

namespace SwiftAudit.Rule.Naming

def typeFindings (source : Source) (n : Node) : List Finding :=
  let name := source.textOf? (n.child? .name)
  if !Swift.isExtension source n && name.toList.head?.any Text.isLower then
    [.onNode source n Category.naming
      s!"Type name '{name}' should start with an uppercase letter (UpperCamelCase)"]
  else []

def functionFindings (source : Source) (n : Node) : List Finding :=
  match n.child? .name with
  | some nameNode =>
    let name := source.textOf nameNode
    if name.toList.head?.any Text.isUpper then
      [.onNode source nameNode Category.naming
        s!"Function name '{name}' should start with a lowercase letter (lowerCamelCase)"]
    else []
  | none => []

-- A name that is all capitals and grouped by underscores.
def isScreaming (name : String) : Bool :=
  Text.allCapital name.toList && name.toList.contains '_'

def bindingFindings (source : Source) (hidden : Bool) (name : String) (pattern : Node) :
    List Finding :=
  let underscore :=
    if name.toList.head? == some '_' && !hidden then
      [.onNode source pattern Category.naming
        s!"Variable '{name}' starts with underscore but is not marked private"]
    else []
  let screaming :=
    if isScreaming name then
      [.onNode source pattern Category.naming
        (s!"Variable '{name}' uses SCREAMING_SNAKE_CASE which is not Swift convention. " ++
          "Use lowerCamelCase for variables/constants")]
    else []
  underscore ++ screaming

def propertyFindings (source : Source) (n : Node) : List Finding :=
  let hidden := Swift.hasModifier source n ["private", "fileprivate"]
  (Swift.bindings source n).flatMap fun (name, pattern) =>
    bindingFindings source hidden name pattern

def findingsAt (source : Source) (n : Node) : List Finding :=
  if Swift.typeKinds.contains n.kind then typeFindings source n
  else if n.kind == "function_declaration" then functionFindings source n
  else if n.kind == "property_declaration" then propertyFindings source n
  else []

def findings (source : Source) : List Finding := source.nodes.flatMap (findingsAt source)

end SwiftAudit.Rule.Naming
