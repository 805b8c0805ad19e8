import SwiftAudit.Json.Token

namespace SwiftAudit.Json

inductive ReadError where
  | invalid
  | overlongNumeral
  deriving DecidableEq, Repr

-- A container part way through, its contents last first.
inductive Frame where
  | list (items : List Json)
  | object (entries : List (CodeText × Json)) (key : CodeText)

-- What may come next, inside the containers around it, innermost first.
inductive State where
  | valueDue (around : List Frame)
  | listStart (around : List Frame)
  | listNext (items : List Json) (around : List Frame)
  | objectStart (around : List Frame)
  | keyDue (entries : List (CodeText × Json)) (around : List Frame)
  | colonDue (entries : List (CodeText × Json)) (key : CodeText) (around : List Frame)
  | objectNext (entries : List (CodeText × Json)) (around : List Frame)
  | finished (value : Json)

def State.complete (value : Json) : List Frame → State
  | [] => .finished value
  | .list items :: around => .listNext (value :: items) around
  | .object entries key :: around => .objectNext ((key, value) :: entries) around

-- The start of a value: a scalar, or the bracket that opens a container.
def State.start (around : List Frame) : Token → Except ReadError State
  | .scalar value => .ok (complete value around)
  | .text s => .ok (complete (.text s) around)
  | .openList => .ok (.listStart around)
  | .openObject => .ok (.objectStart around)
  | .overlong => .error .overlongNumeral
  | _ => .error .invalid

def State.closeList (items : List Json) (around : List Frame) : State :=
  complete (.list items.reverse) around

-- Of entries under one key the last counts, in the place of the first.
def State.closeObject (entries : List (CodeText × Json)) (around : List Frame) : State :=
  complete (.object (Assoc.ofList entries.reverse)) around

def State.step : State → Token → Except ReadError State
  | .valueDue around, token => start around token
  | .listStart around, .closeList => .ok (closeList [] around)
  | .listStart around, token => start (.list [] :: around) token
  | .listNext items around, .comma => .ok (.valueDue (.list items :: around))
  | .listNext items around, .closeList => .ok (closeList items around)
  | .objectStart around, .closeObject => .ok (closeObject [] around)
  | .objectStart around, .text key => .ok (.colonDue [] key around)
  | .keyDue entries around, .text key => .ok (.colonDue entries key around)
  | .colonDue entries key around, .colon => .ok (.valueDue (.object entries key :: around))
  | .objectNext entries around, .comma => .ok (.keyDue entries around)
  | .objectNext entries around, .closeObject => .ok (closeObject entries around)
  | _, _ => .error .invalid

-- Reads one value, refusing integers of more digits than the limit.
def read (limit : Option Nat) (text : List Char) : Except ReadError Json := do
  match ← (tokens limit text).foldlM State.step (.valueDue []) with
  | .finished value => .ok value
  | _ => .error .invalid

end SwiftAudit.Json
