/-!
# Binary floating point with 64 bits

A finite number is kept as a sign, a significand below `2 ^ 53` and a power of two, in the one form
that the encoding has: the significand is at least `2 ^ 52` or the power is the least one, `-1074`.
Rounding goes to the nearest number, a tie to the even significand.
-/

namespace LanguageClient.Number

/-- A binary floating-point number with 64 bits. -/
inductive Binary64 where
  | finite (negative : Bool) (significand : Nat) (exponent : Int)
  | infinite (negative : Bool)
  | nan
  deriving DecidableEq, Repr, Inhabited

/-- The quotient rounded to the nearest integer, a tie to the even one. -/
def roundedQuotient (numerator denominator : Nat) : Nat :=
  let quotient := numerator / denominator
  let twiceRest := 2 * (numerator % denominator)
  if twiceRest < denominator then quotient
  else if denominator < twiceRest then quotient + 1
  else quotient + quotient % 2

/-- The two sides of a fraction after division by a power of two. -/
def dividedByPower (numerator denominator : Nat) (exponent : Int) : Nat × Nat :=
  if 0 ≤ exponent then (numerator, denominator * Nat.pow 2 exponent.toNat)
  else (numerator * Nat.pow 2 (-exponent).toNat, denominator)

namespace Binary64

def zero (negative : Bool) : Binary64 := .finite negative 0 (-1074)

/-- The power of two that gives a positive fraction a significand of 53 bits, but no power below
the least one. -/
def exponentOf (numerator denominator : Nat) : Int :=
  let guess : Int := (Nat.log2 numerator : Int) - Nat.log2 denominator - 52
  let scaled := dividedByPower numerator denominator guess
  max (-1074) (if scaled.1 < Nat.pow 2 52 * scaled.2 then guess - 1 else guess)

/-- The number nearest to a fraction; beyond the largest finite number it is infinite. -/
def ofRatio (negative : Bool) (numerator denominator : Nat) : Binary64 :=
  if numerator = 0 then zero negative
  else
    let exponent := exponentOf numerator denominator
    let scaled := dividedByPower numerator denominator exponent
    let significand := roundedQuotient scaled.1 scaled.2
    let carried := significand = Nat.pow 2 53
    let exponent := if carried then exponent + 1 else exponent
    if 971 < exponent then .infinite negative
    else .finite negative (if carried then Nat.pow 2 52 else significand) exponent

/-- The number nearest to a rational one. -/
def ofRat (value : Rat) : Binary64 := ofRatio (value < 0) value.num.natAbs value.den

/-- The number nearest to a decimal `digits * 10 ^ power`. -/
def ofDecimal (negative : Bool) (digits : Nat) (power : Int) : Binary64 :=
  let magnitude := power + (Nat.toDigits 10 digits).length
  if digits = 0 || magnitude < -400 then zero negative
  else if 400 < magnitude then .infinite negative
  else if 0 ≤ power then ofRatio negative (digits * Nat.pow 10 power.toNat) 1
  else ofRatio negative digits (Nat.pow 10 (-power).toNat)

/-- The number nearest to an integer, unless that is infinite. -/
def ofInt? (value : Int) : Option Binary64 :=
  match ofRatio (value < 0) value.natAbs 1 with
  | .infinite _ => none
  | number => some number

/-- The exact value of a finite number. -/
def toRat? : Binary64 → Option Rat
  | .finite negative significand exponent =>
    let magnitude : Rat := (significand : Rat) * (2 : Rat) ^ exponent
    some (if negative then -magnitude else magnitude)
  | .infinite _ | .nan => none

/-- The integer between zero and a finite number that is nearest to it. -/
def truncated? : Binary64 → Option Int
  | .finite negative significand exponent =>
    let magnitude : Nat :=
      if 0 ≤ exponent then significand * Nat.pow 2 exponent.toNat
      else significand / Nat.pow 2 (-exponent).toNat
    some (if negative then -magnitude else magnitude)
  | .infinite _ | .nan => none

/-- The integer that a number equals, if there is one. -/
def integral? (number : Binary64) : Option Int :=
  match number, number.truncated? with
  | .finite _ significand exponent, some value =>
    if 0 ≤ exponent || significand % Nat.pow 2 (-exponent).toNat = 0 then some value else none
  | _, _ => none

/-- Whether the number is zero of either sign. -/
def isZero : Binary64 → Bool
  | .finite _ significand _ => significand = 0
  | .infinite _ | .nan => false

/-- Whether the number is greater than zero. -/
def isPositive : Binary64 → Bool
  | .finite negative significand _ => !negative && significand != 0
  | .infinite negative => !negative
  | .nan => false

/-- Whether the number is less than zero. -/
def isNegative : Binary64 → Bool
  | .finite negative significand _ => negative && significand != 0
  | .infinite negative => negative
  | .nan => false

/-- The product with a natural number, rounded to the nearest number. -/
def scale (factor : Nat) : Binary64 → Binary64
  | .finite negative significand exponent =>
    let scaled := dividedByPower (significand * factor) 1 (-exponent)
    ofRatio negative scaled.1 scaled.2
  | .infinite negative => if factor = 0 then .nan else .infinite negative
  | .nan => .nan

end Binary64

end LanguageClient.Number
