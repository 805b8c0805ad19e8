import SwiftAudit.Text.Quoted

namespace SwiftAudit

-- Half of a surrogate pair. It has a code point, but is no character.
structure Surrogate where
  code : Nat
  inRange : 0xD800 ≤ code ∧ code ≤ 0xDFFF
  deriving DecidableEq, Repr

def Surrogate.escape (half : Surrogate) : List Char := '\\' :: 'u' :: Text.hexText 4 half.code

-- A text of code points, as escapes can spell it. It is broken where a surrogate stands alone,
-- and then no encoding can write it.
inductive CodeText where
  | plain (s : String)
  | broken (before : String) (half : Surrogate) (after : CodeText)
  deriving DecidableEq, Repr

namespace CodeText

instance : Coe String CodeText := ⟨plain⟩

def string? : CodeText → Option String
  | plain s => some s
  | broken .. => none

def isPlain (text : CodeText) : Bool := text.string?.isSome

protected def append : CodeText → CodeText → CodeText
  | plain s, plain t => plain (s ++ t)
  | plain s, broken before half after => broken (s ++ before) half after
  | broken before half after, text => broken before half (after.append text)

instance : Append CodeText := ⟨CodeText.append⟩

def join (texts : List CodeText) : CodeText := texts.foldr (· ++ ·) ""

-- Puts code points together, behind characters in reverse.
def ofPointsAfter (before : List Char) : List (Char ⊕ Surrogate) → CodeText
  | [] => plain (String.ofList before.reverse)
  | .inl c :: rest => ofPointsAfter (c :: before) rest
  | .inr half :: rest => broken (String.ofList before.reverse) half (ofPointsAfter [] rest)

def ofPoints (points : List (Char ⊕ Surrogate)) : CodeText := ofPointsAfter [] points

def points : CodeText → List (Char ⊕ Surrogate)
  | plain s => s.toList.map .inl
  | broken before half after => before.toList.map .inl ++ .inr half :: after.points

def codes (text : CodeText) : List Nat := text.points.map (Sum.elim Char.toNat Surrogate.code)

-- Texts are ordered by their code points.
instance : LE CodeText := ⟨fun a b => List.le a.codes b.codes⟩

instance : LT CodeText := ⟨fun a b => a.codes < b.codes⟩

instance (a b : CodeText) : Decidable (a ≤ b) :=
  inferInstanceAs (Decidable (List.le a.codes b.codes))

-- The characters between the surrogates.
def pieces : CodeText → List String
  | plain s => [s]
  | broken before _ after => before :: after.pieces

-- The text as the error stream shows it, where an escape stands for a surrogate.
def shown : CodeText → String
  | plain s => s
  | broken before half after => before ++ String.ofList half.escape ++ after.shown

def escapedFor (mark : Char) : CodeText → List Char
  | plain s => s.toList.flatMap (Text.escaped mark)
  | broken before half after =>
    before.toList.flatMap (Text.escaped mark) ++ half.escape ++ after.escapedFor mark

-- A text in quotes.
def quoted (text : CodeText) : String :=
  let mark := Text.quoteMark (text.pieces.flatMap String.toList)
  String.ofList (mark :: text.escapedFor mark ++ [mark])

end CodeText

end SwiftAudit
