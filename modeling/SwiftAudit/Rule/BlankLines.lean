import SwiftAudit.Finding
import SwiftAudit.Settings.Basic

namespace SwiftAudit.Rule.BlankLines

-- The blank lines since the last line with text, and whether a block comment is open.
structure Progress where
  run : Nat
  inComment : Bool
  deriving DecidableEq, Repr

def startsComment (trimmed : List Char) : Bool := ['/', '*'].isPrefixOf trimmed

def endsComment (trimmed : List Char) : Bool := ['*', '/'].isSuffixOf trimmed

-- A line that starts a comment opens it, and one that ends a comment closes it again.
def commentAfter (inComment : Bool) (trimmed : List Char) : Bool :=
  (inComment || startsComment trimmed) && !endsComment trimmed

-- Lines inside a comment leave the run of blank lines as it is.
def step (progress : Progress) (line : List Char) : Progress :=
  let trimmed := Text.trim line
  if commentAfter progress.inComment trimmed then { progress with inComment := true }
  else if trimmed.isEmpty then ⟨progress.run + 1, false⟩
  else ⟨0, false⟩

-- A blank line outside comments is in excess if its run is longer than allowed; in the
-- other policy only the first such line of a run counts.
def isExcess (limit : Int) (every : Bool) (after : Progress) : Bool :=
  !after.inComment && after.run > 0 && (after.run : Int) > limit &&
    (every || (after.run : Int) = limit + 1)

def finding (number : Nat) : Finding :=
  .onLine number Category.codeStyle "Excessive empty lines"

def scan (limit : Int) (every : Bool) :
    (number : Nat) → Progress → List (List Char) → List Finding
  | _, _, [] => []
  | number, progress, line :: rest =>
    let after := step progress line
    let found := if isExcess limit every after then [finding number] else []
    found ++ scan limit every (number + 1) after rest

def findings (source : Source) (settings : Settings) : List Finding :=
  scan (settings.number .maxBlankLines) (settings.flag .flagEachExcessBlankLine) 1 ⟨0, false⟩
    source.lines

end SwiftAudit.Rule.BlankLines
