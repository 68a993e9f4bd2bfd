import LanguageClient.Number.Binary64

/-!
# The shortest decimal of a binary number

A finite number is written with the fewest significant digits that read back as the same number; of
the decimals with that many digits the nearest is taken. Positional notation is used from `1e-4` up
to, but not including, `1e16`.
-/

namespace LanguageClient.Number

/-- The numbers that round to one positive binary number, as multiples of one unit: the number is
`value` units, and the interval goes from `low` to `high` units. -/
structure RoundingInterval where
  low : Nat
  value : Nat
  high : Nat
  /-- Whether the two ends belong to the interval. -/
  closed : Bool
  /-- The unit is `unitNumerator / unitDenominator`. -/
  unitNumerator : Nat
  unitDenominator : Nat

/-- The interval of a significand and a power of two. Below a power of two the neighbour is
nearer. -/
def RoundingInterval.of (significand : Nat) (exponent : Int) : RoundingInterval where
  low := if significand = Nat.pow 2 52 && -1074 < exponent then 4 * significand - 1
    else 4 * significand - 2
  value := 4 * significand
  high := 4 * significand + 2
  closed := significand % 2 = 0
  unitNumerator := Nat.pow 2 (exponent - 2).toNat
  unitDenominator := Nat.pow 2 (2 - exponent).toNat

/-- Whether a fraction lies in the interval. -/
def RoundingInterval.contains (interval : RoundingInterval) (numerator denominator : Nat) : Bool :=
  let scaled := numerator * interval.unitDenominator
  let low := interval.low * interval.unitNumerator * denominator
  let high := interval.high * interval.unitNumerator * denominator
  if interval.closed then low ≤ scaled && scaled ≤ high else low < scaled && scaled < high

def powerOfTen (exponent : Int) : Nat × Nat := (Nat.pow 10 exponent.toNat, Nat.pow 10 (-exponent).toNat)

/-- How many places follow the point before the first digit that is not zero, for a fraction below
one; at most `limit`. -/
def leadingZeros : Nat → Nat → Nat → Nat
  | 0, _, _ => 0
  | limit + 1, numerator, denominator =>
    if denominator ≤ 10 * numerator then 0
    else leadingZeros limit (10 * numerator) denominator + 1

/-- The number of digits before the point of a positive fraction; below a tenth it is the negated
number of zeros after the point. -/
def pointPosition (numerator denominator : Nat) : Int :=
  if denominator ≤ numerator then (Nat.toDigits 10 (numerator / denominator)).length
  else -(leadingZeros 400 numerator denominator : Int)

/-- The decimal with `count` digits that lies in the interval and is nearest to its value. The
decimals have the form `digits * 10 ^ power`, where the point stands after `point` digits. -/
def nearestDecimal? (interval : RoundingInterval) (point : Int) (count : Nat) :
    Option (Nat × Int) :=
  let power := point - count
  let grid := powerOfTen power
  let numerator := interval.value * interval.unitNumerator * grid.2
  let denominator := interval.unitDenominator * grid.1
  let below := numerator / denominator
  let twiceRest := 2 * (numerator % denominator)
  let fits (digits : Nat) := interval.contains (digits * grid.1) grid.2
  match fits below, fits (below + 1) with
  | true, true =>
    if twiceRest < denominator || (twiceRest = denominator && below % 2 = 0) then
      some (below, power)
    else some (below + 1, power)
  | true, false => some (below, power)
  | false, true => some (below + 1, power)
  | false, false => none

/-- The first decimal of the interval with `count` digits or more; seventeen digits always do. -/
def shortestFrom (interval : RoundingInterval) (point : Int) : Nat → Nat → Nat × Int
  | 0, count => (nearestDecimal? interval point count).getD (0, 0)
  | more + 1, count =>
    (nearestDecimal? interval point count).getD (shortestFrom interval point more (count + 1))

/-- Removes the trailing zeros of a list of digits that is given in reverse. -/
def dropTrailingZeros (digits : List Char) : List Char :=
  (digits.reverse.dropWhile (· = '0')).reverse

/-- The significant digits of a positive number and the number of digits before the point. -/
def shortestDigits (significand : Nat) (exponent : Int) : List Char × Int :=
  let interval := RoundingInterval.of significand exponent
  let point := pointPosition (interval.value * interval.unitNumerator) interval.unitDenominator
  let decimal := shortestFrom interval point 16 1
  let digits := Nat.toDigits 10 decimal.1
  (dropTrailingZeros digits, decimal.2 + digits.length)

/-- The decimal exponent with its sign and at least two digits. -/
def exponentText (exponent : Int) : List Char :=
  let digits := Nat.toDigits 10 exponent.natAbs
  'e' :: (if exponent < 0 then '-' else '+') ::
    (if digits.length < 2 then '0' :: digits else digits)

/-- Digits with the point after `point` of them. A whole number keeps one zero after the point. -/
def placedDigits (digits : List Char) (point : Int) : List Char :=
  if point ≤ 0 then '0' :: '.' :: List.replicate (-point).toNat '0' ++ digits
  else
    let before := digits.take point.toNat
    let after := digits.drop point.toNat
    before ++ List.replicate (point.toNat - digits.length) '0' ++
      '.' :: (if after.isEmpty then ['0'] else after)

/-- The decimal notation of significant digits: positional for exponents from `-4` to `15`. -/
def decimalNotation (digits : List Char) (point : Int) : List Char :=
  if -4 < point && point ≤ 16 then placedDigits digits point
  else
    match digits with
    | [] => []
    | [digit] => digit :: exponentText (point - 1)
    | digit :: rest => digit :: '.' :: rest ++ exponentText (point - 1)

def Binary64.text : Binary64 → String
  | .nan => "nan"
  | .infinite negative => if negative then "-inf" else "inf"
  | .finite negative significand exponent =>
    let magnitude :=
      if significand = 0 then ['0', '.', '0']
      else
        let shortest := shortestDigits significand exponent
        decimalNotation shortest.1 shortest.2
    String.ofList (if negative then '-' :: magnitude else magnitude)

end LanguageClient.Number
