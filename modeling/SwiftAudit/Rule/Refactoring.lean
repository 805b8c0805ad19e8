import SwiftAudit.Failure
import SwiftAudit.Finding
import SwiftAudit.Rule.FunctionBody
import SwiftAudit.Settings.Basic
import SwiftAudit.Swift.Declaration

namespace SwiftAudit.Rule.Refactoring

def largeFunction (source : Source) (limit : Int) (function : FunctionBody) : List Finding :=
  let count := function.statements.length
  if (count : Int) > limit then
    [.onNode source function.node Category.refactoring
      (s!"Function '{function.name}' is very large ({count} statements) " ++
        "- consider breaking it into smaller functions")]
  else []

-- A text that occurred before, with the line of its first occurrence.
structure Seen where
  text : List Char
  line : Nat
  reported : Bool

def repetition (source : Source) (name : String) (statement : Node) (firstLine : Nat) : Finding :=
  .onNode source statement Category.refactoring
    s!"Repeated code block in function '{name}' (first seen at line {firstLine})"

-- Goes through the statements of a function. The second occurrence of a text is reported,
-- and no other.
def repetitions (source : Source) (minLength : Int) (name : String) (seen : List Seen) :
    List Node → List Finding
  | [] => []
  | statement :: rest =>
    let text := Text.trim (source.chars statement.label)
    if (text.length : Int) ≤ minLength then repetitions source minLength name seen rest
    else match seen.find? (·.text == text) with
      | none =>
        let first : Seen := ⟨text, (source.position statement).line, false⟩
        repetitions source minLength name (first :: seen) rest
      | some before =>
        let again : Seen := { before with reported := true }
        let found :=
          if before.reported then [] else [repetition source name statement before.line]
        found ++ repetitions source minLength name (again :: seen) rest

def functionFindings (source : Source) (settings : Settings) (function : FunctionBody) :
    List Finding :=
  largeFunction source (settings.number .largeFunctionStatements) function ++
    repetitions source (settings.number .repeatedStatementMinLength) function.name []
      function.statements

def largeClass (source : Source) (limit : Int) (n : Node) : List Finding :=
  if Swift.typeWord source n == "class" then
    match n.child? .body with
    | none => []
    | some body =>
      let count := (body.namedChildren.filter (!·.isComment)).length
      if (count : Int) > limit then
        [.onNode source n Category.refactoring
          (s!"Class '{source.textOf? (n.child? .name)}' has {count} members " ++
            "- consider breaking it into smaller components")]
      else []
  else []

-- The finding points to the first supertype. Under a negative limit even a type without
-- supertypes has too many, and nothing is there to point to.
def manySupertypes (source : Source) (limit : Int) (n : Node) :
    Except Breakdown (List Finding) :=
  let supertypes := n.namedChildren.filter (·.kind == "inheritance_specifier")
  if (supertypes.length : Int) > limit then
    match supertypes with
    | [] => .error .noSupertype
    | first :: _ =>
      .ok [.onNode source first Category.refactoring
        (s!"Type inherits from {supertypes.length} types " ++
          "- consider using composition over inheritance")]
  else .ok []

def typeFindings (source : Source) (settings : Settings) (n : Node) :
    Except Breakdown (List Finding) := do
  let inherited ← manySupertypes source (settings.number .maxInheritedTypes) n
  return largeClass source (settings.number .largeTypeMembers) n ++ inherited

-- All findings on functions come before those on types.
def findings (source : Source) (settings : Settings) : Except Breakdown (List Finding) := do
  let onTypes ← (source.nodes.filter fun n => Swift.typeKinds.contains n.kind).flatMapM
    (typeFindings source settings)
  return (FunctionBody.allIn source).flatMap (functionFindings source settings) ++ onTypes

end SwiftAudit.Rule.Refactoring
