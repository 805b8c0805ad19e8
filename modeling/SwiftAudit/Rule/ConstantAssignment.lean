import SwiftAudit.Finding
import SwiftAudit.Swift.Declaration

namespace SwiftAudit.Rule.ConstantAssignment

-- The identifier in the place that an assignment writes to; none for members and subscripts.
def bareTarget? (target : Node) : Option Node :=
  if target.kind == "directly_assignable_expression" then
    match target.namedChildren with
    | [only] => some only
    | _ => none
  else some target

-- The name that an assignment gives a new value.
def assignedName? (source : Source) (n : Node) : Option String := do
  let target ← n.child? .target <|> n.namedChildren.head?
  let bare ← bareTarget? target
  if bare.kind == "simple_identifier" then some (source.textOf bare) else none

-- The constants declared so far, and the findings.
structure Progress where
  constants : List String
  findings : List Finding

def finding (source : Source) (n : Node) (name : String) : Finding :=
  .onNode source n Category.immutableAssignments
    s!"Cannot assign to value: '{name}' is a 'let' constant" .error

-- An assignment is held against the constants that are declared before it.
def step (source : Source) (progress : Progress) (n : Node) : Except Breakdown Progress :=
  if n.kind == "property_declaration" then do
    if (← Swift.mutability source n) == "let" then
      let names := (Swift.bindings source n).map (·.1)
      return { progress with constants := progress.constants ++ names }
    return progress
  else if n.kind == "assignment" then
    match assignedName? source n with
    | some name =>
      if progress.constants.contains name then
        .ok { progress with findings := progress.findings ++ [finding source n name] }
      else .ok progress
    | none => .ok progress
  else .ok progress

def findings (source : Source) : Except Breakdown (List Finding) :=
  (source.nodes.foldlM (step source) ⟨[], []⟩).map (·.findings)

end SwiftAudit.Rule.ConstantAssignment
