import SwiftAudit.Finding
import SwiftAudit.Settings.Basic
import SwiftAudit.Swift.Attribute

namespace SwiftAudit.Rule.Directive

-- Nodes that are or may be directives and freestanding macros. An error is one if its text
-- starts like one.
def isCandidate (source : Source) (n : Node) : Bool :=
  n.kind == "directive" || n.kind == "diagnostic" || n.kind == "macro_invocation" ||
    (n.kind == "ERROR" && (Text.trimLeft (source.chars n.label)).head? == some '#')

-- The message of a diagnostic without parentheses and quotes.
def message (rest : List Char) : List Char :=
  let inner := Text.trim (Text.trimWhere (fun c => c == '(' || c == ')') rest)
  Text.trim (Text.trimWhere (· == '"') inner)

def hasArguments (n : Node) : Bool :=
  n.children.any fun child => child.kind == "value_arguments" || child.kind == "lambda_literal"

def invocationFault? (standard : ScalarSet) (n : Node) (name : String) :
    Option (Severity × String) :=
  if name == "available" then
    some (.warning, "#available should be used within an if or guard condition")
  else if !hasArguments n && !standard.hasText name then
    some (.warning, s!"Custom macro '#{name}' might require arguments")
  else none

def fault? (standard : ScalarSet) (n : Node) (name : String) (rest : List Char) :
    Option (Severity × String) :=
  if name == "warning" || name == "error" then
    if (message rest).isEmpty then some (.error, s!"#{name} directive requires a message")
    else none
  else if name == "if" || name == "elseif" then
    if rest.isEmpty then some (.error, "Conditional compilation macro requires a condition")
    else none
  else if n.kind == "macro_invocation" then invocationFault? standard n name
  else none

-- What is wrong with a candidate. A directive ends with its line.
def finding? (source : Source) (standard : ScalarSet) (n : Node) : Option Finding := do
  let line := (source.chars n.label).takeWhile (· != '\n')
  let (name, rest) ← Swift.splitDirective? (Text.trim line)
  let (severity, description) ← fault? standard n (String.ofList name) rest
  return .onNode source n Category.macroUsage description severity

end SwiftAudit.Rule.Directive
