import SwiftAudit.Files
import SwiftAudit.Json.Reader
import SwiftAudit.Settings.Merge
import SwiftAudit.Transcript

namespace SwiftAudit.Settings

def readJson (path : Path) (text : List Char) : Transcript Json :=
  match Json.read (some Text.decimalDigitLimit) text with
  | .ok json => pure json
  | .error .invalid => .report (.settings (.invalidJson path.text))
  | .error .overlongNumeral => .breakDown .overlongNumeral

-- The settings of a file that holds one object, over the defaults.
def readFile (path : Path) (bytes : List UInt8) : Transcript Settings :=
  match Text.Utf8.decode bytes with
  | .error _ => .breakDown .undecodableSettings
  | .ok text => do
    match ← readJson path text with
    | .object entries =>
      let keys := (entries.map (·.1)).mergeSort (· ≤ ·)
      let shown := String.intercalate ", " (keys.map CodeText.quoted)
      Transcript.note .debug s!"loaded configuration from {path.text}: [{shown}]"
      ⟨[], Settings.default.merge entries⟩
    | _ => .report (.settings (.notAnObject path.text))

def load (path : Path) : Lookup → Transcript Settings
  | .file bytes _ => readFile path bytes
  | .invalid => .breakDown .nullInPath
  | .directory => .breakDown .settingsIsDirectory
  | .blocked => .breakDown .settingsBelowFile
  | .missing => .report (.settings (.fileNotFound path.text))

end SwiftAudit.Settings
