import SwiftAudit.Number.Double

namespace SwiftAudit.Double

-- A decimal numeral: digits · 10 ^ exponent.
structure Decimal where
  digits : Nat
  exponent : Int
  deriving DecidableEq, Repr

def Decimal.readsBack (decimal : Decimal) (d : Double) : Bool :=
  ofDecimal false decimal.digits decimal.exponent = d

-- 10 ^ exponent as a quotient.
def power10 (exponent : Int) : Nat × Nat :=
  if 0 ≤ exponent then (Nat.pow 10 exponent.toNat, 1)
  else (1, Nat.pow 10 (-exponent).toNat)

-- The power of ten of the leading digit of num / den, which is positive.
def leadingPower (num den : Nat) : Int :=
  let guess : Int := ((Nat.toDigits 10 num).length : Int) - ((Nat.toDigits 10 den).length : Int)
  let (n, d) := power10 guess
  if num * d < n * den then guess - 1 else guess

-- Of the two neighbours of num / den on the grid of multiples of 10 ^ exponent, the one that
-- reads back as the double, or the nearer one if both do, a half going to the even digits.
def onGrid? (d : Double) (num den : Nat) (exponent : Int) : Option Decimal :=
  let (p, q) := power10 exponent
  let n := num * q
  let unit := den * p
  let below : Decimal := ⟨n / unit, exponent⟩
  let above : Decimal := ⟨n / unit + 1, exponent⟩
  match below.readsBack d, above.readsBack d with
  | true, true => some (if roundDiv n unit = below.digits then below else above)
  | true, false => some below
  | false, true => some above
  | false, false => none

-- The fewest digits that read back. Seventeen always do.
def shortest (mantissa : Nat) (exponent : Int) : Decimal :=
  let d := Double.finite false mantissa exponent
  let (num, den) := if 0 ≤ exponent then (mantissa * Nat.pow 2 exponent.toNat, 1)
    else (mantissa, Nat.pow 2 (-exponent).toNat)
  let lead := leadingPower num den
  let grids := (List.range 17).map fun (k : Nat) => lead - (k : Int)
  (grids.findSome? (onGrid? d num den)).getD ⟨mantissa, 0⟩

-- How a double is shown: positional from 10 ^ -4 up to 10 ^ 16, always with a point, and
-- otherwise with an exponent of a sign and at least two digits.
def showDigits (digits : List Char) (power : Int) : List Char :=
  if -4 ≤ power && power < 16 then
    if power < 0 then '0' :: '.' :: List.replicate (-power - 1).toNat '0' ++ digits
    else
      let whole := power.toNat + 1
      let padded := digits ++ List.replicate (whole - digits.length) '0'
      let fraction := padded.drop whole
      padded.take whole ++ '.' :: (if fraction.isEmpty then ['0'] else fraction)
  else
    let sign := if power < 0 then '-' else '+'
    let size := Nat.toDigits 10 power.natAbs
    let padded := List.replicate (2 - size.length) '0' ++ size
    let head := match digits with
      | [] => []
      | [first] => [first]
      | first :: rest => first :: '.' :: rest
    head ++ 'e' :: sign :: padded

def dropTrailingZeros (digits : List Char) : List Char :=
  (digits.reverse.dropWhile (· = '0')).reverse

def text : Double → String
  | .nan => "nan"
  | .infinity negative => if negative then "-inf" else "inf"
  | .finite negative mantissa exponent =>
    let sign := if negative then ['-'] else []
    if mantissa = 0 then String.ofList (sign ++ ['0', '.', '0'])
    else
      let decimal := shortest mantissa exponent
      let digits := Nat.toDigits 10 decimal.digits
      let power := decimal.exponent + digits.length - 1
      String.ofList (sign ++ showDigits (dropTrailingZeros digits) power)

end SwiftAudit.Double
