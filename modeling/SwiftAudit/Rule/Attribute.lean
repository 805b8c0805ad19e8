import SwiftAudit.Finding
import SwiftAudit.Settings.Basic
import SwiftAudit.Swift.Attribute

namespace SwiftAudit.Rule.Attribute

-- The declaration that an attribute belongs to; a list of modifiers may stand between.
def decorated? (n : Node) : Option Node := do
  let parent ← n.parent?
  if parent.kind == "modifiers" || parent.kind == "type_modifiers" then parent.parent?
  else some parent

def hasReturnType (n : Node) : Bool :=
  (n.child? .returnType).isSome || n.children.any (·.kind == "->")

def isBlankArgument : Option (List Char) → Bool
  | none => true
  | some text => Text.isBlankText text

def finding (source : Source) (n : Node) (severity : Severity) (description : String) :
    Finding :=
  .onNode source n Category.macroUsage description severity

-- A withdrawn interface is announced by its label and explained by a message.
def lacksMessage (labels : List String) : Bool :=
  (labels.contains "deprecated" || labels.contains "obsoleted") && !labels.contains "message"

def available (source : Source) (n : Node) (arguments : Option (List Char)) : List Finding :=
  if isBlankArgument arguments then
    [finding source n .error
      "@available attribute must include platform or version information"]
  else if lacksMessage ((Swift.argumentLabels (arguments.getD [])).map String.ofList) then
    [finding source n .warning
      "@available with deprecated or obsoleted should include a message"]
  else []

def objc (source : Source) (n : Node) (arguments : Option (List Char)) : List Finding :=
  if (arguments.getD []).any fun c => c == '_' || c == '-' then
    [finding source n .warning
      "@objc name contains characters not typical in Objective-C naming conventions"]
  else []

def actorTargets : List String :=
  ["function_declaration", "init_declaration", "class_declaration", "protocol_declaration",
    "property_declaration"]

def actor (source : Source) (n : Node) : List Finding :=
  if (decorated? n).any fun target => !actorTargets.contains target.kind then
    [finding source n .warning "Actor attribute may be used in an unexpected context"]
  else []

def discardableResult (source : Source) (n : Node) : List Finding :=
  if (decorated? n).any fun target =>
      target.kind == "function_declaration" && !hasReturnType target then
    [finding source n .error "@discardableResult used on function with no return value"]
  else []

def custom (source : Source) (standard : ScalarSet) (n : Node) (name : String)
    (arguments : Option (List Char)) : List Finding :=
  if isBlankArgument arguments && !standard.hasText name then
    [finding source n .warning s!"Custom macro '@{name}' might require arguments"]
  else []

-- A few attributes have a rule of their own. All others are custom macros, which as a rule
-- have arguments, unless they are listed as complete without.
def findingsAt (source : Source) (standard : ScalarSet) (n : Node) : List Finding :=
  let (name, arguments) := Swift.splitAttribute (source.chars n.label)
  match String.ofList name with
  | "available" => available source n arguments
  | "objc" => objc source n arguments
  | "MainActor" => actor source n
  | "GlobalActor" => actor source n
  | "discardableResult" => discardableResult source n
  | name => custom source standard n name arguments

end SwiftAudit.Rule.Attribute
