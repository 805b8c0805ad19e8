import SwiftAudit.CodeText
import SwiftAudit.Text.Utf8

namespace SwiftAudit

-- What can be wrong with settings. A key is quoted as it stands.
inductive SettingsError where
  | fileNotFound (path : String)
  | invalidJson (path : String)
  | notAnObject (path : String)
  | unknownKeys (keys : List CodeText)
  | listExpected (key : CodeText)
  | objectExpected (key : CodeText)
  | flagExpected (key : CodeText)
  | numberExpected (key : CodeText)
  | integerExpected (key : CodeText)
  deriving DecidableEq, Repr

def SettingsError.message : SettingsError → CodeText
  | fileNotFound path => s!"Configuration file not found: {path}"
  | invalidJson path => s!"Invalid JSON in {path}"
  | notAnObject path => s!"{path} must contain a JSON object"
  | unknownKeys keys => "Unknown configuration keys: " ++ CodeText.join (keys.intersperse ", ")
  | listExpected key => "'" ++ key ++ "' must be a list"
  | objectExpected key => "'" ++ key ++ "' must be an object"
  | flagExpected key => "'" ++ key ++ "' must be true or false"
  | numberExpected key => "'" ++ key ++ "' must be a number"
  | integerExpected key => "'" ++ key ++ "' must be an integer"

-- Failures that are told to the user.
inductive AuditError where
  | sourceNotFound (path : String)
  | undecodable (path : String) (fault : Text.Utf8.Fault)
  | unknownCheck (name : String)
  | settings (error : SettingsError)
  deriving DecidableEq, Repr

def AuditError.message : AuditError → CodeText
  | sourceNotFound path => s!"Source file not found: {path}"
  | undecodable path fault => s!"Cannot decode {path} as UTF-8: {fault.message}"
  | unknownCheck name => "Unknown check: " ++ CodeText.quoted name
  | settings error => error.message

-- Failures that no message is prepared for. They end everything.
inductive Breakdown where
  -- A binding without the word that makes it constant or variable.
  | blankBinding
  -- An integer with too many digits to be read or shown in decimal.
  | overlongNumeral
  -- More supertypes than a negative limit allows, where there is none to point to.
  | noSupertype
  -- A list or an object where a set asks for a scalar.
  | containerInSet
  -- An integer beyond the largest double.
  | integerTooLarge
  | undecodableSettings
  | settingsIsDirectory
  | settingsBelowFile
  -- A path with a null character, where something is to be read or written.
  | nullInPath
  -- A text that is printed or written with a surrogate in it.
  | unencodableText
  deriving DecidableEq, Repr

def Breakdown.message : Breakdown → String
  | blankBinding => "A property declaration has a blank binding keyword"
  | overlongNumeral => "An integer has too many digits"
  | noSupertype => "A type without supertypes exceeds the limit on supertypes"
  | containerInSet => "A set in the settings has a list or an object as a member"
  | integerTooLarge => "An integer in the settings is too large"
  | undecodableSettings => "The settings file is not UTF-8"
  | settingsIsDirectory => "The settings file is a directory"
  | settingsBelowFile => "The path of the settings file leads through a file"
  | nullInPath => "A path has a null character"
  | unencodableText => "A text has a surrogate without its other half"

inductive Halt where
  | reported (error : AuditError)
  | broken (breakdown : Breakdown)
  deriving DecidableEq, Repr

def Halt.settings (error : SettingsError) : Halt := .reported (.settings error)

end SwiftAudit
