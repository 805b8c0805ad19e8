import SwiftAudit.Assoc
import SwiftAudit.Finding

namespace SwiftAudit

-- A minute of the calendar.
structure Date where
  year : Nat
  month : Nat
  day : Nat
  hour : Nat
  minute : Nat
  deriving DecidableEq, Repr

namespace Date

def isLeap (year : Nat) : Bool := year % 4 == 0 && (year % 100 != 0 || year % 400 == 0)

def daysIn (year month : Nat) : Nat :=
  if month = 2 then (if isLeap year then 29 else 28)
  else if month = 4 || month = 6 || month = 9 || month = 11 then 30
  else 31

def ofParts? (year month day hour minute : Nat) : Option Date :=
  if 1 ≤ year ∧ year ≤ 9999 ∧ 1 ≤ month ∧ month ≤ 12 ∧ 1 ≤ day ∧ day ≤ daysIn year month ∧
      hour < 24 ∧ minute < 60 then
    some ⟨year, month, day, hour, minute⟩
  else none

def twoDigits (n : Nat) : String := if n < 10 then s!"0{n}" else s!"{n}"

def text (date : Date) : String :=
  s!"{date.year}-{twoDigits date.month}-{twoDigits date.day} " ++
    s!"{twoDigits date.hour}:{twoDigits date.minute}"

end Date

namespace Category

def occursIn (part : List Char) : List Char → Bool
  | [] => part.isEmpty
  | c :: rest => part.isPrefixOf (c :: rest) || occursIn part rest

def hasPart (text : CodeText) (part : String) : Bool :=
  text.pieces.any fun piece => occursIn part.toList piece.toList

-- Words of a description with the category that they point to. The first match decides,
-- and case counts.
def keywords : List (List String × String) :=
  [(["syntax", "parsing"], parsing),
    (["unwrap"], forceUnwraps),
    (["unused", "never used"], unusedVariables),
    (["immutable", "let constant"], immutableAssignments),
    (["unreachable"], unreachableCode),
    (["operator", "precedence"], operatorPrecedence),
    (["style", "format", "whitespace"], codeStyle),
    (["refactor", "similar", "duplicate"], refactoring),
    (["macro"], macroUsage),
    (["memory", "leak"], memoryLeaks),
    (["catch"], exceptionHandling),
    (["magic number"], magicNumbers),
    (["chaining"], optionalChaining)]

def infer (description : CodeText) : String :=
  match keywords.find? fun entry => entry.1.any (hasPart description) with
  | some (_, category) => category
  | none => other

end Category

-- A report on the findings in one file. Categories can be inferred from the descriptions.
structure Report where
  findings : List Finding
  file : String
  inferred : Bool
  date : String

namespace Report

def categoryOf (report : Report) (finding : Finding) : String :=
  if report.inferred || finding.category.isEmpty then Category.infer finding.description
  else finding.category

def ofSeverity (report : Report) (severity : Severity) : List Finding :=
  report.findings.filter (·.severity == severity)

def categories (report : Report) : List String :=
  (report.findings.map report.categoryOf).eraseDups.mergeSort (· ≤ ·)

def categoryCount (report : Report) (category : String) : Nat :=
  (report.findings.map report.categoryOf).count category

def categoryLine (report : Report) (category : String) : String :=
  s!"- **{category}**: {report.categoryCount category}"

def summaryLines (report : Report) : List String :=
  ["# Swift Code Analysis Report", "", s!"**File**: {report.file}", s!"**Date**: {report.date}",
    s!"**Issues Found**: {report.findings.length}", "", "## Summary", "",
    s!"- **Errors**: {(report.ofSeverity .error).length}",
    s!"- **Warnings**: {(report.ofSeverity .warning).length}",
    s!"- **Info**: {(report.ofSeverity .info).length}", "", "## Issues by Category", ""] ++
    report.categories.map report.categoryLine

def summary (report : Report) : String :=
  String.intercalate "\n" report.summaryLines ++ "\n"

-- The findings of one severity by line; on one line they keep their order.
def sortedFindings (report : Report) (severity : Severity) : List Finding :=
  (report.ofSeverity severity).mergeSort fun a b => a.line ≤ b.line

def entry (finding : Finding) : CodeText :=
  s!"- **Line {finding.line}**: " ++ finding.description ++ "\n"

def title : Severity → String
  | .error => "Errors"
  | .warning => "Warnings"
  | .info => "Info"

-- A severity without findings has no section.
def sectionText (report : Report) (severity : Severity) : CodeText :=
  match report.sortedFindings severity with
  | [] => ""
  | findings => s!"\n### {title severity}\n\n" ++ CodeText.join (findings.map entry)

def detailed (report : Report) : CodeText :=
  report.summary ++ "\n\n## Detailed Issues\n" ++
    CodeText.join (Severity.all.map report.sectionText)

end Report

end SwiftAudit
