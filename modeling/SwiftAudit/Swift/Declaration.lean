import SwiftAudit.Failure
import SwiftAudit.Source.Basic
import SwiftAudit.Swift.Kind

namespace SwiftAudit.Swift

def declarationName (source : Source) (n : Node) : String :=
  if n.kind == "init_declaration" then "init"
  else if n.kind == "deinit_declaration" then "deinit"
  else match n.child? .name with
    | some name => source.textOf name
    | none => "<?>"

-- The node that a finding about a declaration points to.
def nameNode (n : Node) : Node := (n.child? .name).getD n

def typeWords : List String := ["class", "struct", "enum", "actor", "extension", "protocol"]

-- Which kind of type a declaration declares, by the word that the source uses.
def typeWord (source : Source) (n : Node) : String :=
  match n.child? .declarationKind with
  | some word => source.textOf word
  | none =>
    match n.children.find? fun child => !child.label.named && typeWords.contains child.kind with
    | some word => word.kind
    | none => ""

def isExtension (source : Source) (n : Node) : Bool := typeWord source n == "extension"

-- A modifier with arguments counts as the words before and inside the parenthesis.
def wordsOfModifier (text : List Char) : List String :=
  (Text.words (text.map fun c => if c = '(' then ' ' else c)).map String.ofList

-- The nodes whose children are modifiers: the modifier lists, or else the declaration.
def modifierHolders (n : Node) : List Node :=
  match n.children.filter (·.kind == "modifiers") with
  | [] => [n]
  | lists => lists

def modifiers (source : Source) (n : Node) : List String :=
  (modifierHolders n).flatMap fun holder =>
    (holder.namedChildren.filter (·.kind.endsWith "_modifier")).flatMap fun child =>
      wordsOfModifier (source.chars child.label)

def hasModifier (source : Source) (n : Node) (words : List String) : Bool :=
  (modifiers source n).any words.contains

-- The name that a pattern binds, if it is a single identifier.
def boundName? (source : Source) (pattern : Node) : Option String :=
  match pattern.namedChildren.filter (!·.isComment) with
  | [identifier] =>
    if identifier.kind == "simple_identifier" then some (source.textOf identifier) else none
  | _ => none

def binding? (source : Source) (child : Node) : Option (String × Node) :=
  if child.kind == "simple_identifier" then some (source.textOf child, child)
  else if child.kind == "pattern" then (boundName? source child).map (·, child)
  else none

-- The names that a property declaration binds, tuples left out.
def bindings (source : Source) (n : Node) : List (String × Node) :=
  n.namedChildren.filterMap (binding? source)

-- The word `let` or `var` of a property declaration: the last word of its binding keyword.
def mutability (source : Source) (n : Node) : Except Breakdown String :=
  match n.children.find? (·.kind == "value_binding_pattern") with
  | some keyword =>
    match (Text.words (source.chars keyword.label)).getLast? with
    | some word => .ok (String.ofList word)
    | none => .error .blankBinding
  | none =>
    match n.children.find? fun child => child.kind == "let" || child.kind == "var" with
    | some keyword => .ok keyword.kind
    | none => .ok ""

end SwiftAudit.Swift
