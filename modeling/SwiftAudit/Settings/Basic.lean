import SwiftAudit.Settings.Scalar

namespace SwiftAudit

inductive NumberSetting where
  | complexityThreshold
  | longFunctionThreshold
  | maxOptionalChainDepth
  | maxDuplicateBucket
  | largeFunctionStatements
  | largeTypeMembers
  | maxInheritedTypes
  | repeatedStatementMinLength
  | unusedReferenceThreshold
  | maxBlankLines
  | localizationMinLength
  deriving DecidableEq, Repr

inductive FlagSetting where
  | dedupeOptionalChains
  | flagEachExcessBlankLine
  deriving DecidableEq, Repr

inductive SetSetting where
  | magicNumberExemptions
  | shortNameWhitelist
  | singleReferenceExemptions
  | allowedIndentDeltas
  | standardAttributes
  | standardMacros
  deriving DecidableEq, Repr

-- Settings by the kind of their value, which never changes. One more is a ratio, and one
-- a table of replacements for deprecated interfaces.
inductive Setting where
  | number (setting : NumberSetting)
  | flag (setting : FlagSetting)
  | set (setting : SetSetting)
  | similarityThreshold
  | deprecatedApis
  deriving DecidableEq, Repr

structure Settings where
  number : NumberSetting → Int
  flag : FlagSetting → Bool
  set : SetSetting → ScalarSet
  similarityThreshold : Double
  deprecatedApis : List (CodeText × Json)

namespace Setting

-- All settings, in the order in which they are listed.
def all : List Setting :=
  [number .complexityThreshold, number .longFunctionThreshold, number .maxOptionalChainDepth,
    flag .dedupeOptionalChains, similarityThreshold, number .maxDuplicateBucket,
    number .largeFunctionStatements, number .largeTypeMembers, number .maxInheritedTypes,
    number .repeatedStatementMinLength, set .magicNumberExemptions,
    number .unusedReferenceThreshold, set .shortNameWhitelist, set .singleReferenceExemptions,
    set .allowedIndentDeltas, number .maxBlankLines, flag .flagEachExcessBlankLine,
    number .localizationMinLength, deprecatedApis, set .standardAttributes, set .standardMacros]

-- The key of a setting in a settings file.
def key : Setting → CodeText
  | number .complexityThreshold => "complexity_threshold"
  | number .longFunctionThreshold => "long_function_threshold"
  | number .maxOptionalChainDepth => "max_optional_chain_depth"
  | number .maxDuplicateBucket => "max_duplicate_bucket"
  | number .largeFunctionStatements => "large_function_statements"
  | number .largeTypeMembers => "large_type_members"
  | number .maxInheritedTypes => "max_inherited_types"
  | number .repeatedStatementMinLength => "repeated_statement_min_length"
  | number .unusedReferenceThreshold => "unused_reference_threshold"
  | number .maxBlankLines => "max_blank_lines"
  | number .localizationMinLength => "localization_min_length"
  | flag .dedupeOptionalChains => "dedupe_optional_chains"
  | flag .flagEachExcessBlankLine => "flag_each_excess_blank_line"
  | set .magicNumberExemptions => "magic_number_exemptions"
  | set .shortNameWhitelist => "short_name_whitelist"
  | set .singleReferenceExemptions => "single_reference_exemptions"
  | set .allowedIndentDeltas => "allowed_indent_deltas"
  | set .standardAttributes => "standard_attributes"
  | set .standardMacros => "standard_macros"
  | similarityThreshold => "duplicate_similarity_threshold"
  | deprecatedApis => "deprecated_apis"

def ofKey? (key : CodeText) : Option Setting := all.find? (·.key == key)

end Setting

namespace Settings

def defaultNumber : NumberSetting → Int
  | .complexityThreshold => 10
  | .longFunctionThreshold => 50
  | .maxOptionalChainDepth => 3
  | .maxDuplicateBucket => 200
  | .largeFunctionStatements => 20
  | .largeTypeMembers => 30
  | .maxInheritedTypes => 3
  | .repeatedStatementMinLength => 20
  | .unusedReferenceThreshold => 1
  | .maxBlankLines => 2
  | .localizationMinLength => 5

def defaultFlag : FlagSetting → Bool
  | .dedupeOptionalChains => true
  | .flagEachExcessBlankLine => true

-- Attributes that are complete without arguments.
def standardAttributes : List String :=
  ["discardableResult", "autoclosure", "escaping", "frozen", "objc", "IBOutlet", "IBAction",
    "IBDesignable", "IBInspectable", "main", "testable", "UIApplicationMain",
    "NSApplicationMain", "lazy", "available", "inline", "usableFromInline", "inlinable"]

-- Freestanding macros that are complete without arguments.
def standardMacros : List String :=
  ["file", "fileID", "filePath", "line", "column", "function", "dsohandle", "sourceLocation",
    "else", "endif"]

def defaultSet : SetSetting → ScalarSet
  | .magicNumberExemptions => .ofList [.int 0, .int 1, .int 2, .int (-1), .int 100]
  | .shortNameWhitelist => .ofTexts ["i", "j", "k", "x", "y", "z"]
  | .singleReferenceExemptions => .ofTexts ["main", "init"]
  | .allowedIndentDeltas => .ofList [.int (-4), .int (-2), .int 0, .int 2, .int 4]
  | .standardAttributes => .ofTexts standardAttributes
  | .standardMacros => .ofTexts standardMacros

-- Deprecated interfaces with what replaces them.
def replacements : List (CodeText × Json) :=
  [("UIWebView", .text "WKWebView"),
    ("NSURLConnection", .text "URLSession"),
    ("stringByAppendingPathComponent", .text "appendingPathComponent"),
    ("performSelector", .text "Swift function calls or closures"),
    ("CGContextSetRGBFillColor", .text "setFillColor(_:)"),
    ("dispatch_async", .text "DispatchQueue.async"),
    ("M_PI", .text "Double.pi"),
    ("stringByAppendingString", .text "append()"),
    ("substringFromIndex", .text "dropFirst()"),
    ("substringToIndex", .text "prefix()"),
    ("stringByReplacingOccurrencesOfString", .text "replacingOccurrences(of:with:)")]

def default : Settings where
  number := defaultNumber
  flag := defaultFlag
  set := defaultSet
  similarityThreshold := .ofDecimal false 8 (-1)
  deprecatedApis := replacements

-- The value of a setting as it stands in a settings file.
def value (settings : Settings) : Setting → Json
  | .number setting => .int (settings.number setting)
  | .flag setting => .bool (settings.flag setting)
  | .set setting => .list ((settings.set setting).members.map Scalar.toJson)
  | .similarityThreshold => .float settings.similarityThreshold
  | .deprecatedApis => .object settings.deprecatedApis

-- Every setting with its value.
def entries (settings : Settings) : List (CodeText × Json) :=
  Setting.all.map fun setting => (setting.key, settings.value setting)

end Settings

end SwiftAudit
