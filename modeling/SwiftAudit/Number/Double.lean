namespace SwiftAudit

-- The doubles of IEEE 754. A finite one is ±mantissa · 2 ^ exponent with the mantissa below
-- 2 ^ 53; the exponent is the least one, -1074, unless the mantissa has all 53 bits.
inductive Double where
  | nan
  | infinity (negative : Bool)
  | finite (negative : Bool) (mantissa : Nat) (exponent : Int)
  deriving DecidableEq, Repr

namespace Double

def precision : Nat := 53

def minExponent : Int := -1074

def maxExponent : Int := 971

def zero : Double := .finite false 0 minExponent

-- Powers are written by the function, as the sign is read through other instances beside
-- Mathlib. This is num / den / 2 ^ exponent as a quotient of natural numbers.
def scaled (num den : Nat) (exponent : Int) : Nat × Nat :=
  if 0 ≤ exponent then (num, den * Nat.pow 2 exponent.toNat)
  else (num * Nat.pow 2 (-exponent).toNat, den)

-- The exponent of the binade of num / den. The logarithms fix it up to one.
def binade (num den : Nat) : Int :=
  let guess := max minExponent ((num.log2 : Int) - (den.log2 : Int) - precision)
  let (n, d) := scaled num den guess
  if n / d < Nat.pow 2 precision then guess else guess + 1

-- Rounds to the nearest integer, a half to the even one.
def roundDiv (n d : Nat) : Nat :=
  let floor := n / d
  let rest := n % d
  if 2 * rest > d || (2 * rest = d && floor % 2 = 1) then floor + 1 else floor

-- The double nearest to num / den with the given sign; of two, the one with the even
-- mantissa. Quotients beyond the largest double by half a unit are infinite.
def nearest (negative : Bool) (num den : Nat) : Double :=
  let exponent := binade num den
  let (n, d) := scaled num den exponent
  let rounded := roundDiv n d
  let (mantissa, exponent) :=
    if rounded = Nat.pow 2 precision then (Nat.pow 2 (precision - 1), exponent + 1)
    else (rounded, exponent)
  if exponent > maxExponent then .infinity negative else .finite negative mantissa exponent

-- No double for an integer that rounds beyond the largest one.
def ofInt? (n : Int) : Option Double :=
  match nearest (n < 0) n.natAbs 1 with
  | .infinity _ => none
  | d => some d

def pow2 (exponent : Int) : Rat :=
  if 0 ≤ exponent then (Nat.pow 2 exponent.toNat : Nat)
  else mkRat 1 (Nat.pow 2 (-exponent).toNat)

-- The exact value of a finite double.
def toRat? : Double → Option Rat
  | .finite negative mantissa exponent =>
    let magnitude := (mantissa : Rat) * pow2 exponent
    some (if negative then -magnitude else magnitude)
  | _ => none

-- The exact integer that a finite double is, if it is one.
def toInt? (d : Double) : Option Int :=
  match d.toRat? with
  | some q => if q.den = 1 then some q.num else none
  | none => none

-- Order by value; a NaN is not comparable.
def le : Double → Double → Bool
  | .nan, _ => false
  | _, .nan => false
  | .infinity true, _ => true
  | _, .infinity false => true
  | .infinity false, _ => false
  | _, .infinity true => false
  | a, b =>
    match a.toRat?, b.toRat? with
    | some p, some q => p ≤ q
    | _, _ => false

-- ±digits · 10 ^ exponent. Exponents that decide the result alone are not expanded.
def ofDecimal (negative : Bool) (digits : Nat) (exponent : Int) : Double :=
  let magnitude := exponent + (Nat.toDigits 10 digits).length
  if digits = 0 then .finite negative 0 minExponent
  else if magnitude > 400 then .infinity negative
  else if magnitude < -400 then .finite negative 0 minExponent
  else if 0 ≤ exponent then nearest negative (digits * Nat.pow 10 exponent.toNat) 1
  else nearest negative digits (Nat.pow 10 (-exponent).toNat)

def signBit (negative : Bool) : Nat := if negative then Nat.pow 2 63 else 0

-- The interchange format: a sign bit, eleven bits of biased exponent, 52 bits of mantissa.
def toBits : Double → Nat
  | .nan => 0x7FF8 * Nat.pow 2 48
  | .infinity negative => signBit negative + 0x7FF * Nat.pow 2 52
  | .finite negative mantissa exponent =>
    if mantissa < Nat.pow 2 52 then signBit negative + mantissa
    else signBit negative + (exponent + 1075).toNat * Nat.pow 2 52 + (mantissa - Nat.pow 2 52)

end Double

end SwiftAudit
