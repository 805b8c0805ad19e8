import SwiftAudit.Text.Blank
import SwiftAudit.Text.Word

namespace SwiftAudit.Swift

def isAttributeNameChar (c : Char) : Bool := Text.isWord c || c == '.'

-- What stands before the last closing parenthesis.
def beforeLastClose? (text : List Char) : Option (List Char) :=
  match text.reverse.dropWhile (· != ')') with
  | [] => none
  | _ :: before => some before.reverse

-- The arguments after a name: blanks may come first, and the last parenthesis ends them.
def argumentsAfter? (text : List Char) : Option (List Char) :=
  match Text.trimLeft text with
  | '(' :: inner => beforeLastClose? inner
  | _ => none

-- The name of an attribute and the text of its arguments. A text of another form is all
-- name, but for the signs at its start.
def splitAttribute (text : List Char) : List Char × Option (List Char) :=
  let unnamed := (Text.trimLeftWhere (· == '@') text, none)
  match text with
  | '@' :: rest =>
    match (Text.trimLeft rest).span isAttributeNameChar with
    | ([], _) => unnamed
    | (name, after) => (name, argumentsAfter? after)
  | _ => unnamed

-- The labels of arguments: for each part between commas the text before its first colon.
def argumentLabels (arguments : List Char) : List (List Char) :=
  ((arguments.splitOn ',').map fun item => Text.trim (item.takeWhile (· != ':'))).filter
    (!·.isEmpty)

-- The name of a directive or macro, and what follows it.
def splitDirective? (text : List Char) : Option (List Char × List Char) :=
  match text with
  | '#' :: rest =>
    match (Text.trimLeft rest).span Text.isWord with
    | ([], _) => none
    | (name, after) => some (name, Text.trim after)
  | _ => none

end SwiftAudit.Swift
