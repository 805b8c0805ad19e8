import SwiftAudit.Json.Basic
import SwiftAudit.Number.Shortest

namespace SwiftAudit.Json

-- How a value is shown in a sentence: texts bare, but quoted inside containers. An integer
-- with more digits than are written in decimal has no such form.
mutual

def displayedInside? : Json → Option String
  | .null => some "None"
  | .bool b => some (if b then "True" else "False")
  | .int n => Text.decimalText? n
  | .float d => some d.text
  | .text s => some s.quoted
  | .list items => do
    return "[" ++ String.intercalate ", " (← displayedItems? items) ++ "]"
  | .object entries => do
    return "\x7b" ++ String.intercalate ", " (← displayedEntries? entries) ++ "\x7d"

def displayedItems? : List Json → Option (List String)
  | [] => some []
  | item :: rest => do return (← item.displayedInside?) :: (← displayedItems? rest)

def displayedEntries? : List (CodeText × Json) → Option (List String)
  | [] => some []
  | (key, value) :: rest => do
    let entry := key.quoted ++ ": " ++ (← value.displayedInside?)
    return entry :: (← displayedEntries? rest)

end

def displayed? : Json → Option CodeText
  | .text s => some s
  | value => value.displayedInside?.map .plain

end SwiftAudit.Json
