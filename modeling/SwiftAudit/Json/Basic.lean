import SwiftAudit.Assoc
import SwiftAudit.CodeText
import SwiftAudit.Number.Double

namespace SwiftAudit

-- Numerals with a fraction or an exponent are doubles, all others exact integers. The
-- entries of an object have distinct keys, in the order in which they came first.
inductive Json where
  | null
  | bool (b : Bool)
  | int (n : Int)
  | float (d : Double)
  | text (s : CodeText)
  | list (items : List Json)
  | object (entries : List (CodeText × Json))

namespace Json

def get? (key : String) : Json → Option Json
  | .object entries => entries.lookup (key : CodeText)
  | _ => none

def text? : Json → Option String
  | .text s => s.string?
  | _ => none

def int? : Json → Option Int
  | .int n => some n
  | _ => none

def nat? : Json → Option Nat
  | .int n => if 0 ≤ n then some n.toNat else none
  | _ => none

def bool? : Json → Option Bool
  | .bool b => some b
  | _ => none

def list? : Json → Option (List Json)
  | .list items => some items
  | _ => none

end Json

end SwiftAudit
