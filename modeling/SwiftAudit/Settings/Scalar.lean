import SwiftAudit.Json.Basic

namespace SwiftAudit

-- The JSON values that can be members of a set.
inductive Scalar where
  | null
  | bool (b : Bool)
  | int (n : Int)
  | float (d : Double)
  | text (s : CodeText)
  deriving DecidableEq, Repr

-- What makes two members equal: booleans count as the numbers 0 and 1, and numbers are
-- equal by value. A NaN is the same member as another.
inductive MemberKey where
  | null
  | number (q : Rat)
  | infinity (negative : Bool)
  | nan
  | text (s : CodeText)
  deriving DecidableEq

namespace Scalar

def ofJson? : Json → Option Scalar
  | .null => some .null
  | .bool b => some (.bool b)
  | .int n => some (.int n)
  | .float d => some (.float d)
  | .text s => some (.text s)
  | .list _ => none
  | .object _ => none

def toJson : Scalar → Json
  | null => .null
  | bool b => .bool b
  | int n => .int n
  | float d => .float d
  | text s => .text s

def key : Scalar → MemberKey
  | null => .null
  | bool b => .number (if b then 1 else 0)
  | int n => .number n
  | float d =>
    match d with
    | .nan => .nan
    | .infinity negative => .infinity negative
    | .finite .. => .number (d.toRat?.getD 0)
  | text s => .text s

end Scalar

-- Members in the order in which they were given, no two with one key.
structure ScalarSet where
  members : List Scalar
  deriving DecidableEq, Repr

namespace ScalarSet

def contains (set : ScalarSet) (key : MemberKey) : Bool := set.members.any (·.key = key)

-- Of equal members the first one stays.
def insert (set : ScalarSet) (scalar : Scalar) : ScalarSet :=
  if set.contains scalar.key then set else ⟨set.members ++ [scalar]⟩

def ofList (scalars : List Scalar) : ScalarSet := scalars.foldl insert ⟨[]⟩

def ofTexts (texts : List String) : ScalarSet :=
  ofList (texts.map fun text : String => .text text)

def hasInt (set : ScalarSet) (n : Int) : Bool := set.contains (.number n)

def hasText (set : ScalarSet) (s : String) : Bool := set.contains (.text s)

end ScalarSet

end SwiftAudit
