import SwiftAudit.Json.Basic

namespace SwiftAudit.Json

-- `overlong` is an integer with more digits than the reader takes, `junk` whatever starts no
-- token. Both end the reading only where the grammar reaches them.
inductive Token where
  | openList
  | closeList
  | openObject
  | closeObject
  | comma
  | colon
  | text (s : CodeText)
  | scalar (value : Json)
  | overlong
  | junk

def isSpace (c : Char) : Bool := c = ' ' || c = '\t' || c = '\n' || c = '\r'

def hexValue? (c : Char) : Option Nat :=
  if '0' ≤ c && c ≤ '9' then some (c.toNat - '0'.toNat)
  else if 'a' ≤ c && c ≤ 'f' then some (c.toNat - 'a'.toNat + 10)
  else if 'A' ≤ c && c ≤ 'F' then some (c.toNat - 'A'.toNat + 10)
  else none

def hexUnit? (a b c d : Char) : Option Nat := do
  return (((← hexValue? a) * 16 + (← hexValue? b)) * 16 + (← hexValue? c)) * 16 + (← hexValue? d)

-- A character of a string literal: itself, or the number of a `\u` escape.
inductive Unit16 where
  | plain (c : Char)
  | code (n : Nat)

def simpleEscape? : Char → Option Char
  | '"' => some '"'
  | '\\' => some '\\'
  | '/' => some '/'
  | 'b' => some '\x08'
  | 'f' => some '\x0c'
  | 'n' => some '\n'
  | 'r' => some '\r'
  | 't' => some '\t'
  | _ => none

-- The inside of a string literal up to its closing quote, and what follows it. Controls
-- must be escaped.
def units? : List Char → Option (List Unit16 × List Char)
  | [] => none
  | '"' :: rest => some ([], rest)
  | '\\' :: 'u' :: a :: b :: c :: d :: rest => do
    let code ← hexUnit? a b c d
    let (units, after) ← units? rest
    return (.code code :: units, after)
  | '\\' :: c :: rest => do
    let plain ← simpleEscape? c
    let (units, after) ← units? rest
    return (.plain plain :: units, after)
  | c :: rest => do
    if c < ' ' then none
    let (units, after) ← units? rest
    return (.plain c :: units, after)

def isHigh (n : Nat) : Bool := 0xD800 ≤ n && n ≤ 0xDBFF

def isLow (n : Nat) : Bool := 0xDC00 ≤ n && n ≤ 0xDFFF

-- Two escapes may form a surrogate pair. A surrogate alone is kept as it is.
def joinUnits : List Unit16 → List (Char ⊕ Surrogate)
  | [] => []
  | .plain c :: rest => .inl c :: joinUnits rest
  | .code high :: .code low :: rest =>
    if isHigh high && isLow low then
      .inl (Char.ofNat (0x10000 + (high - 0xD800) * 0x400 + (low - 0xDC00))) :: joinUnits rest
    else single high :: joinUnits (.code low :: rest)
  | .code n :: rest => single n :: joinUnits rest
where
  single (n : Nat) : Char ⊕ Surrogate :=
    if h : 0xD800 ≤ n ∧ n ≤ 0xDFFF then .inr ⟨n, h⟩ else .inl (Char.ofNat n)

def isDigit (c : Char) : Bool := '0' ≤ c && c ≤ '9'

def decimalValue (digits : List Char) : Nat :=
  digits.foldl (fun value c => value * 10 + (c.toNat - '0'.toNat)) 0

def takeDigits (text : List Char) : List Char × List Char := text.span isDigit

-- A fraction needs a digit after its point.
def takeFraction : List Char → List Char × List Char
  | '.' :: rest =>
    match takeDigits rest with
    | ([], _) => ([], '.' :: rest)
    | found => found
  | rest => ([], rest)

-- An exponent needs a digit after its mark and sign.
def takeExponent (input : List Char) : Option Int × List Char :=
  match input with
  | mark :: rest =>
    if mark = 'e' || mark = 'E' then
      let (negative, unsigned) := match rest with
        | '-' :: r => (true, r)
        | '+' :: r => (false, r)
        | r => (false, r)
      match takeDigits unsigned with
      | ([], _) => (none, input)
      | (digits, after) =>
        let size : Int := decimalValue digits
        (some (if negative then -size else size), after)
    else (none, input)
  | [] => (none, [])

-- A numeral after its sign. An integer part longer than one digit does not start with zero.
def takeNumeral (limit : Option Nat) (negative : Bool) (input : List Char) :
    Option (Token × List Char) :=
  let (whole, afterWhole) := match input with
    | '0' :: rest => (['0'], rest)
    | _ => takeDigits input
  if whole.isEmpty then none
  else
    let (fraction, afterFraction) := takeFraction afterWhole
    let (exponent, after) := takeExponent afterFraction
    if fraction.isEmpty && exponent.isNone then
      if limit.any (whole.length > ·) then some (.overlong, after)
      else
        let n : Int := decimalValue whole
        some (.scalar (.int (if negative then -n else n)), after)
    else
      let power := exponent.getD 0 - fraction.length
      some (.scalar (.float (Double.ofDecimal negative (decimalValue (whole ++ fraction)) power)),
        after)

def dropWord? (word : String) (input : List Char) : Option (List Char) :=
  if word.toList.isPrefixOf input then some (input.drop word.length) else none

def takeWord (input : List Char) : Option (Token × List Char) :=
  [("null", Json.null), ("true", .bool true), ("false", .bool false), ("NaN", .float .nan),
    ("Infinity", .float (.infinity false)), ("-Infinity", .float (.infinity true))].findSome?
    fun (word, value) => (dropWord? word input).map (Token.scalar value, ·)

def takeScalar (limit : Option Nat) (input : List Char) : Option (Token × List Char) :=
  takeWord input <|>
    match input with
    | '-' :: rest => takeNumeral limit true rest
    | _ => takeNumeral limit false input

def takeToken (limit : Option Nat) : List Char → Option (Token × List Char)
  | '[' :: rest => some (.openList, rest)
  | ']' :: rest => some (.closeList, rest)
  | '\x7b' :: rest => some (.openObject, rest)
  | '\x7d' :: rest => some (.closeObject, rest)
  | ',' :: rest => some (.comma, rest)
  | ':' :: rest => some (.colon, rest)
  | '"' :: rest => (units? rest).map fun (units, after) =>
      (.text (.ofPoints (joinUnits units)), after)
  | input => takeScalar limit input

-- Every token takes a character, so the length of the text bounds the tokens.
def tokensWithin (limit : Option Nat) : (fuel : Nat) → List Char → List Token
  | 0, _ => []
  | fuel + 1, input =>
    match input.dropWhile isSpace with
    | [] => []
    | start =>
      match takeToken limit start with
      | some (token, rest) => token :: tokensWithin limit fuel rest
      | none => [.junk]

def tokens (limit : Option Nat) (input : List Char) : List Token :=
  tokensWithin limit (input.length + 1) input

end SwiftAudit.Json
