import SwiftAudit.Assoc
import SwiftAudit.Finding
import SwiftAudit.Settings.Basic
import SwiftAudit.Swift.Declaration
import SwiftAudit.Swift.Expression

namespace SwiftAudit.Rule.SymbolUsage

structure Declaration where
  node : Node
  exported : Bool

-- A function, or a type that is not an extension.
def isNamedDeclaration (source : Source) (n : Node) : Bool :=
  n.kind == "function_declaration" ||
    (Swift.typeKinds.contains n.kind && !Swift.isExtension source n)

-- The names that a node declares.
def declarationsAt (source : Source) (n : Node) : List (String × Declaration) :=
  let exported := Swift.hasModifier source n ["public", "open"]
  if n.kind == "property_declaration" then
    (Swift.bindings source n).map fun (name, pattern) => (name, ⟨pattern, exported⟩)
  else if isNamedDeclaration source n then
    let name := source.textOf? (n.child? .name)
    if name.isEmpty then [] else [(name, ⟨n, exported⟩)]
  else []

-- Names are listed by their first declaration, with what the last one says.
def declarations (source : Source) : List (String × Declaration) :=
  Assoc.ofList (source.nodes.flatMap (declarationsAt source))

-- One entry for each use of a name anywhere in the file.
def references (source : Source) : List String :=
  source.nodes.filterMap (Swift.usedName? source)

def unused (source : Source) (name : String) (declaration : Declaration) : Finding :=
  .onNode source declaration.node Category.symbolUsage
    s!"Symbol '{name}' appears to be unused or only referenced in its declaration"

def short (source : Source) (name : String) (declaration : Declaration) : Finding :=
  .onNode source declaration.node Category.naming
    s!"Symbol name '{name}' is too short and may not be descriptive enough"

def usedOnce (source : Source) (name : String) (declaration : Declaration) : Finding :=
  .onNode source declaration.node Category.symbolUsage
    s!"Symbol '{name}' is only referenced once - possible dead code" .info

def isUnused (threshold : Int) (references : List String) (name : String)
    (declaration : Declaration) : Bool :=
  !declaration.exported && ((references.count name : Nat) : Int) ≤ threshold

def isShort (whitelist : ScalarSet) (name : String) : Bool :=
  name.length ≤ 1 && !whitelist.hasText name

def isUsedOnce (threshold : Int) (exempt : ScalarSet) (references : List String) (name : String)
    (declaration : Declaration) : Bool :=
  !declaration.exported && !isUnused threshold references name declaration &&
    !exempt.hasText name && references.count name == 1

def report (p : String → Declaration → Bool) (finding : String → Declaration → Finding)
    (declarations : List (String × Declaration)) : List Finding :=
  (declarations.filter fun (name, d) => p name d).map fun (name, d) => finding name d

def findings (source : Source) (settings : Settings) : List Finding :=
  let declarations := declarations source
  let references := references source
  let threshold := settings.number .unusedReferenceThreshold
  report (isUnused threshold references) (unused source) declarations ++
    report (fun name _ => isShort (settings.set .shortNameWhitelist) name) (short source)
      declarations ++
    report (isUsedOnce threshold (settings.set .singleReferenceExemptions) references)
      (usedOnce source) declarations

end SwiftAudit.Rule.SymbolUsage
