import SwiftAudit.Finding
import SwiftAudit.Settings.Basic

namespace SwiftAudit.Rule.Indentation

def indent (line : List Char) : Nat := (line.takeWhile (· == ' ')).length

def finding (number indent : Nat) : Finding :=
  .onLine number Category.codeStyle s!"Inconsistent indentation - line has {indent} spaces"

-- Goes on from line `number`, the last line with text having had `previous` spaces. Blank
-- lines are passed over, and a line without indent is never reported.
def scan (allowed : ScalarSet) : (number previous : Nat) → List (List Char) → List Finding
  | _, _, [] => []
  | number, previous, line :: rest =>
    if Text.isBlankText line then scan allowed (number + 1) previous rest
    else
      let here := indent line
      let found :=
        if here > 0 && !allowed.hasInt ((here : Int) - previous) then [finding number here] else []
      found ++ scan allowed (number + 1) here rest

def findings (source : Source) (settings : Settings) : List Finding :=
  scan (settings.set .allowedIndentDeltas) 1 0 source.lines

end SwiftAudit.Rule.Indentation
