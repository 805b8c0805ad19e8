import SwiftAudit.Text.Blank
import SwiftAudit.Text.Digit

namespace SwiftAudit.Text

-- The value of a digit: a decimal digit of any script, or an ASCII letter from ten on.
def digit? (base : Nat) (c : Char) : Option Nat :=
  let value : Option Nat :=
    if 'a' ≤ c && c ≤ 'z' then some (c.toNat - 'a'.toNat + 10)
    else if 'A' ≤ c && c ≤ 'Z' then some (c.toNat - 'A'.toNat + 10)
    else digitValue? c
  value.filter (· < base)

-- Most significant digit first.
def digitsValue? (base : Nat) (digits : List Char) : Option Nat :=
  digits.foldlM (fun value c => (digit? base c).map (value * base + ·)) 0

-- Decimal numerals are read and written up to this many digits. In a base that is a power
-- of two reading takes time linear in the digits, and there is no limit.
def decimalDigitLimit : Nat := 4300

-- The letter that announces a base after a leading zero of any script.
def baseMark? : Nat → Option Char
  | 2 => some 'b'
  | 8 => some 'o'
  | 16 => some 'x'
  | _ => none

def dropBaseMark (base : Nat) : List Char → List Char
  | first :: second :: rest =>
    if digitValue? first = some 0 && baseMark? base = some second.toLower then rest
    else first :: second :: rest
  | text => text

def readNatural? (base : Nat) (text : List Char) : Option Nat :=
  let digits := dropBaseMark base text
  if digits.isEmpty || (base = 10 && digits.length > decimalDigitLimit) then none
  else digitsValue? base digits

-- Blanks around a numeral are skipped, the four ASCII separator controls excepted.
def isNumeralBlank (c : Char) : Bool :=
  isBlank c && !(0x1C ≤ c.toNat && c.toNat ≤ 0x1F)

def readInteger? (base : Nat) (text : List Char) : Option Int :=
  match trimWhere isNumeralBlank text with
  | '-' :: digits => (readNatural? base digits).map fun n => -(n : Int)
  | '+' :: digits => (readNatural? base digits).map fun n => (n : Int)
  | digits => (readNatural? base digits).map fun n => (n : Int)

-- The value of an integer literal. Underscores only group digits; in the bases with a
-- two-character mark the mark is dropped before the digits are read.
def literalValue? (base : Nat) (text : List Char) : Option Int :=
  let digits := text.filter (· != '_')
  readInteger? base (if base = 10 then digits else digits.drop 2)

-- Decimal text, unless it has more digits than the limit.
def decimalText? (n : Int) : Option String :=
  if n.natAbs < Nat.pow 10 decimalDigitLimit then some (toString n) else none

-- Lower-case hexadecimal digits, at least `width` of them.
def hexText (width n : Nat) : List Char :=
  let digits := Nat.toDigits 16 n
  List.replicate (width - digits.length) '0' ++ digits

end SwiftAudit.Text
