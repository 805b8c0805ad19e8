import SwiftAudit.Failure
import SwiftAudit.Finding
import SwiftAudit.Json.Display
import SwiftAudit.Settings.Basic
import SwiftAudit.Swift.Expression

namespace SwiftAudit.Rule.DeprecatedApi

-- What a name is to be replaced by. A null entry withdraws a replacement.
def replacement? (table : List (CodeText × Json)) (name : String) : Option Json :=
  if name.isEmpty then none
  else match table.lookup (name : CodeText) with
    | some .null => none
    | found => found

def findingsAt (source : Source) (table : List (CodeText × Json)) (n : Node) :
    Except Breakdown (List Finding) :=
  match Swift.usedName? source n with
  | none => .ok []
  | some name =>
    match replacement? table name with
    | none => .ok []
    | some replacement =>
      match replacement.displayed? with
      | none => .error .overlongNumeral
      | some shown =>
        .ok [.onNodeWith source n Category.deprecatedApis
          (s!"'{name}' is deprecated. Use '" ++ shown ++ "' instead")]

def findings (source : Source) (settings : Settings) : Except Breakdown (List Finding) :=
  source.nodes.flatMapM (findingsAt source settings.deprecatedApis)

end SwiftAudit.Rule.DeprecatedApi
