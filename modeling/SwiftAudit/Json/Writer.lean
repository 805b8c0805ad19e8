import SwiftAudit.Json.Basic
import SwiftAudit.Number.Shortest
import SwiftAudit.Text.Numeral

namespace SwiftAudit.Json

-- Characters are written as themselves but for quotes, backslashes and controls, and
-- surrogates as escapes.
def writtenChar (c : Char) : List Char :=
  if c = '"' then ['\\', '"']
  else if c = '\\' then ['\\', '\\']
  else if c = '\n' then ['\\', 'n']
  else if c = '\r' then ['\\', 'r']
  else if c = '\t' then ['\\', 't']
  else if c = '\x08' then ['\\', 'b']
  else if c = '\x0c' then ['\\', 'f']
  else if c < ' ' then '\\' :: 'u' :: Text.hexText 4 c.toNat
  else [c]

def writtenInside : CodeText → List Char
  | .plain s => s.toList.flatMap writtenChar
  | .broken before half after =>
    before.toList.flatMap writtenChar ++ half.escape ++ writtenInside after

def writtenText (text : CodeText) : String :=
  String.ofList ('"' :: writtenInside text ++ ['"'])

def writtenDouble : Double → String
  | .nan => "NaN"
  | .infinity negative => if negative then "-Infinity" else "Infinity"
  | d => d.text

mutual

def written : Json → String
  | .null => "null"
  | .bool b => if b then "true" else "false"
  | .int n => toString n
  | .float d => writtenDouble d
  | .text s => writtenText s
  | .list items => "[" ++ String.intercalate ", " (writtenItems items) ++ "]"
  | .object entries => "\x7b" ++ String.intercalate ", " (writtenEntries entries) ++ "\x7d"

def writtenItems : List Json → List String
  | [] => []
  | item :: rest => item.written :: writtenItems rest

def writtenEntries : List (CodeText × Json) → List String
  | [] => []
  | (key, value) :: rest => (writtenText key ++ ": " ++ value.written) :: writtenEntries rest

end

end SwiftAudit.Json
