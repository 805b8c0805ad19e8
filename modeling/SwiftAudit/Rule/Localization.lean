import SwiftAudit.Finding
import SwiftAudit.Settings.Basic
import SwiftAudit.Text.Letter

namespace SwiftAudit.Rule.Localization

-- The text between the quotes of a literal.
def content (text : List Char) : List Char :=
  if text.length ≥ 2 && text.head? == some '"' && text.getLast? == some '"' then
    text.tail.dropLast
  else text

-- Text that starts with a letter and has a space is taken for a sentence; a percent sign
-- marks a format.
def isSentence (minLength : Int) (content : List Char) : Bool :=
  !content.contains '%' && minLength ≤ content.length && content.contains ' ' &&
    content.head?.any Text.isLetter

def isFixed (n : Node) : Bool :=
  n.isInside ["property_declaration", "import_declaration", "attribute"]

def finding? (source : Source) (minLength : Int) (n : Node) : Option Finding :=
  let content := content (source.chars n.label)
  if isSentence minLength content then
    some (.onNode source n Category.localization
      s!"Consider localizing this string literal: \"{String.ofList content}\"")
  else none

def findings (source : Source) (settings : Settings) : List Finding :=
  let minLength := settings.number .localizationMinLength
  (source.nodes.filter fun n => n.kind == "line_string_literal" && !isFixed n).filterMap
    (finding? source minLength)

end SwiftAudit.Rule.Localization
