import SwiftAudit.Rule.AttributeUsage
import SwiftAudit.Rule.BlankLines
import SwiftAudit.Rule.Complexity
import SwiftAudit.Rule.ConstantAssignment
import SwiftAudit.Rule.DeprecatedApi
import SwiftAudit.Rule.DuplicateFunction
import SwiftAudit.Rule.EmptyCatch
import SwiftAudit.Rule.EmptyCollection
import SwiftAudit.Rule.ForceUnwrap
import SwiftAudit.Rule.GuardCandidate
import SwiftAudit.Rule.Indentation
import SwiftAudit.Rule.Localization
import SwiftAudit.Rule.LongFunction
import SwiftAudit.Rule.MagicNumber
import SwiftAudit.Rule.Naming
import SwiftAudit.Rule.OperatorPrecedence
import SwiftAudit.Rule.OptionalChain
import SwiftAudit.Rule.ParseFault
import SwiftAudit.Rule.Refactoring
import SwiftAudit.Rule.RetainCycle
import SwiftAudit.Rule.SymbolUsage
import SwiftAudit.Rule.UnreachableCode
import SwiftAudit.Rule.UnusedVariable
import SwiftAudit.Transcript

namespace SwiftAudit

inductive Check where
  | parseFaults
  | unusedVariables
  | constantAssignments
  | unreachableCode
  | complexity
  | forceUnwraps
  | longFunctions
  | guardCandidates
  | magicNumbers
  | naming
  | emptyCatches
  | retainCycles
  | emptyCollections
  | deprecatedApis
  | localization
  | optionalChains
  | operatorPrecedence
  | codeStyle
  | duplicateFunctions
  | refactoring
  | symbolUsage
  | attributeUsage
  deriving DecidableEq, Repr

namespace Check

-- All checks in the order in which they run.
def all : List Check :=
  [parseFaults, unusedVariables, constantAssignments, unreachableCode, complexity, forceUnwraps,
    longFunctions, guardCandidates, magicNumbers, naming, emptyCatches, retainCycles,
    emptyCollections, deprecatedApis, localization, optionalChains, operatorPrecedence,
    codeStyle, duplicateFunctions, refactoring, symbolUsage, attributeUsage]

def name : Check → String
  | parseFaults => "syntax"
  | unusedVariables => "unused_variables"
  | constantAssignments => "immutable_assignments"
  | unreachableCode => "unreachable_code"
  | complexity => "cyclomatic_complexity"
  | forceUnwraps => "force_unwraps"
  | longFunctions => "long_functions"
  | guardCandidates => "guard_usage"
  | magicNumbers => "magic_numbers"
  | naming => "naming_conventions"
  | emptyCatches => "empty_catch_blocks"
  | retainCycles => "retain_cycles"
  | emptyCollections => "empty_collection_checks"
  | deprecatedApis => "deprecated_api"
  | localization => "string_literals"
  | optionalChains => "optional_chaining"
  | operatorPrecedence => "operator_precedence"
  | codeStyle => "code_style"
  | duplicateFunctions => "duplicate_functions"
  | refactoring => "refactoring_opportunities"
  | symbolUsage => "symbol_usage"
  | attributeUsage => "attribute_usage"

def ofName? (name : String) : Option Check := all.find? (·.name == name)

-- The findings of a check, with what it logs on the way.
def findings (source : Source) (settings : Settings) : Check → Transcript (List Finding)
  | parseFaults => pure (Rule.ParseFault.findings source)
  | unusedVariables => pure (Rule.UnusedVariable.findings source)
  | constantAssignments => .ofExcept (Rule.ConstantAssignment.findings source)
  | unreachableCode => pure (Rule.UnreachableCode.findings source)
  | complexity => pure (Rule.Complexity.findings source settings)
  | forceUnwraps => pure (Rule.ForceUnwrap.findings source)
  | longFunctions => pure (Rule.LongFunction.findings source settings)
  | guardCandidates => pure (Rule.GuardCandidate.findings source)
  | magicNumbers => .ofExcept (Rule.MagicNumber.findings source settings)
  | naming => pure (Rule.Naming.findings source)
  | emptyCatches => pure (Rule.EmptyCatch.findings source)
  | retainCycles => pure (Rule.RetainCycle.findings source)
  | emptyCollections => pure (Rule.EmptyCollection.findings source)
  | deprecatedApis => .ofExcept (Rule.DeprecatedApi.findings source settings)
  | localization => pure (Rule.Localization.findings source settings)
  | optionalChains => pure (Rule.OptionalChain.findings source settings)
  | operatorPrecedence => pure (Rule.OperatorPrecedence.findings source)
  | codeStyle => pure (Rule.Indentation.findings source settings ++
      Rule.BlankLines.findings source settings)
  | duplicateFunctions =>
    let (log, found) := Rule.DuplicateFunction.findings source settings
    ⟨log, .ok found⟩
  | refactoring => .ofExcept (Rule.Refactoring.findings source settings)
  | symbolUsage => pure (Rule.SymbolUsage.findings source settings)
  | attributeUsage => pure (Rule.AttributeUsage.findings source settings)

end Check

end SwiftAudit
