import SwiftAudit.Failure
import SwiftAudit.Settings.Basic

namespace SwiftAudit.Settings

-- A number setting takes any number whose value is an integer, and keeps the integer exactly.
def readNumber (key : CodeText) : Json → Except Halt Int
  | .int n =>
    match Double.ofInt? n with
    | some _ => .ok n
    | none => .error (.broken .integerTooLarge)
  | .float d =>
    match d.toInt? with
    | some n => .ok n
    | none => .error (.settings (.integerExpected key))
  | _ => .error (.settings (.numberExpected key))

def readRatio (key : CodeText) : Json → Except Halt Double
  | .int n =>
    match Double.ofInt? n with
    | some d => .ok d
    | none => .error (.broken .integerTooLarge)
  | .float d => .ok d
  | _ => .error (.settings (.numberExpected key))

def readFlag (key : CodeText) : Json → Except Halt Bool
  | .bool b => .ok b
  | _ => .error (.settings (.flagExpected key))

def readSet (key : CodeText) : Json → Except Halt ScalarSet
  | .list items =>
    match items.mapM Scalar.ofJson? with
    | some scalars => .ok (.ofList scalars)
    | none => .error (.broken .containerInSet)
  | _ => .error (.settings (.listExpected key))

def readTable (key : CodeText) : Json → Except Halt (List (CodeText × Json))
  | .object entries => .ok entries
  | _ => .error (.settings (.objectExpected key))

-- A new value replaces the old one, but a table of replacements is added to.
def assign (settings : Settings) (setting : Setting) (value : Json) : Except Halt Settings :=
  match setting with
  | .number s => do
    let n ← readNumber setting.key value
    return { settings with number := fun other => if other = s then n else settings.number other }
  | .flag s => do
    let b ← readFlag setting.key value
    return { settings with flag := fun other => if other = s then b else settings.flag other }
  | .set s => do
    let members ← readSet setting.key value
    return { settings with set := fun other => if other = s then members else settings.set other }
  | .similarityThreshold => do
    let ratio ← readRatio setting.key value
    return { settings with similarityThreshold := ratio }
  | .deprecatedApis => do
    let table ← readTable setting.key value
    return { settings with deprecatedApis := Assoc.merge settings.deprecatedApis table }

def assignKey (settings : Settings) (entry : CodeText × Json) : Except Halt Settings :=
  match Setting.ofKey? entry.1 with
  | some setting => settings.assign setting entry.2
  | none => .error (.settings (.unknownKeys [entry.1]))

def unknownKeys (entries : List (CodeText × Json)) : List CodeText :=
  (entries.filter fun entry => (Setting.ofKey? entry.1).isNone).map (·.1)

-- Changes the settings that the entries of an object name. Unknown keys are told first, all
-- of them in order; then the first bad value in the order of the entries decides.
def merge (settings : Settings) (entries : List (CodeText × Json)) : Except Halt Settings :=
  match unknownKeys entries with
  | [] => entries.foldlM assignKey settings
  | keys => .error (.settings (.unknownKeys (keys.mergeSort (· ≤ ·))))

end SwiftAudit.Settings
