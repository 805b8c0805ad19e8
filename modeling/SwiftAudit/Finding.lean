import SwiftAudit.CodeText
import SwiftAudit.Source.Basic

namespace SwiftAudit

inductive Severity where
  | error
  | warning
  | info
  deriving DecidableEq, Repr

namespace Severity

def all : List Severity := [error, warning, info]

def word : Severity → String
  | error => "error"
  | warning => "warning"
  | info => "info"

def ofWord? (word : String) : Option Severity := all.find? (·.word == word)

end Severity

namespace Category

def parsing := "Syntax"
def forceUnwraps := "Force Unwraps"
def unusedVariables := "Unused Variables"
def immutableAssignments := "Immutable Assignments"
def unreachableCode := "Unreachable Code"
def operatorPrecedence := "Operator Precedence"
def codeStyle := "Code Style"
def refactoring := "Refactoring Opportunities"
def macroUsage := "Macro Usage"
def memoryLeaks := "Memory Leaks"
def exceptionHandling := "Exception Handling"
def magicNumbers := "Magic Numbers"
def optionalChaining := "Optional Chaining"
def complexity := "Complexity"
def controlFlow := "Control Flow"
def collections := "Collections"
def naming := "Naming Conventions"
def symbolUsage := "Symbol Usage"
def deprecatedApis := "Deprecated APIs"
def localization := "Localization"
def other := "Other Issues"

end Category

-- One thing found in a source. Findings that are handed in for a report may have any
-- position and category.
structure Finding where
  line : Int
  column : Int
  severity : Severity
  category : String
  description : CodeText
  deriving DecidableEq, Repr

namespace Finding

def text (finding : Finding) : CodeText :=
  s!"{finding.line}:{finding.column}: {finding.severity.word}: " ++ finding.description

-- A finding at the first significant byte of a node.
def onNodeWith (source : Source) (n : Node) (category : String) (description : CodeText)
    (severity : Severity := .warning) : Finding :=
  let position := source.position n
  ⟨position.line, position.column, severity, category, description⟩

def onNode (source : Source) (n : Node) (category description : String)
    (severity : Severity := .warning) : Finding :=
  onNodeWith source n category description severity

-- A finding on a whole line.
def onLine (line : Nat) (category description : String) : Finding :=
  ⟨line, 1, .warning, category, description⟩

end Finding

end SwiftAudit
