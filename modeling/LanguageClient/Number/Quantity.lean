import LanguageClient.Number.Shortest
import LanguageClient.Json.Display

/-!
# Quantities

A number of seconds as it was given: an integer, a floating-point number, or a truth value that
counts as one or zero. Messages show it in that form, so the form is kept. A clock counts seconds in
floating point, so a wait and the moment at its end are rounded to such numbers.
-/

namespace LanguageClient.Number

/-- A number that remembers in which form it was given. -/
inductive Quantity where
  | bool (value : Bool)
  | int (value : Int)
  | float (value : Binary64)
  deriving DecidableEq, Repr, Inhabited

namespace Quantity

def text : Quantity → String
  | .bool value => (Json.Value.bool value).display
  | .int value => Json.intText value
  | .float value => value.text

def toValue : Quantity → Json.Value
  | .bool value => .bool value
  | .int value => .int value
  | .float value => .float value

def ofValue? : Json.Value → Option Quantity
  | .bool value => some (.bool value)
  | .int value => some (.int value)
  | .float value => some (.float value)
  | .null | .string _ | .array _ | .object _ => none

/-- The product with a natural number. -/
def scale (factor : Nat) : Quantity → Quantity
  | .bool value => .int (if value then factor else 0)
  | .int value => .int (value * factor)
  | .float value => .float (value.scale factor)

/-- Whether the quantity is zero or less. A quantity that is not a number is not. -/
def isAtMostZero : Quantity → Bool
  | .bool value => !value
  | .int value => value ≤ 0
  | .float value => value.isNegative || value.isZero

/-- Whether the quantity is less than zero. A quantity that is not a number is not. -/
def isNegative : Quantity → Bool
  | .bool _ => false
  | .int value => value < 0
  | .float value => value.isNegative

/-- Whether the quantity is greater than zero. -/
def isPositive : Quantity → Bool
  | .bool value => value
  | .int value => 0 < value
  | .float value => value.isPositive

/-- The floating-point number nearest to the quantity; an integer beyond all of them has none. -/
def number? : Quantity → Option Binary64
  | .bool value => some (.ofRatio false (if value then 1 else 0) 1)
  | .int value => Binary64.ofInt? value
  | .float value => some value

end Quantity

/-! ## Time -/

/-- How long a timer waits: a number of seconds, or for ever. -/
inductive Delay where
  | seconds (value : Rat)
  | forever
  deriving DecidableEq, Repr, Inhabited

/-- The wait for a number of seconds. What is not a number does not wait at all. -/
def Binary64.delay : Binary64 → Delay
  | .infinite false => .forever
  | .infinite true => .seconds (-Nat.pow 2 1024)
  | .nan => .seconds 0
  | .finite negative significand exponent =>
    .seconds ((Binary64.finite negative significand exponent).toRat?.getD 0)

/-- The wait that a quantity asks for. An integer that no floating-point number comes near asks for
none that a clock could count. -/
def Quantity.delay? (quantity : Quantity) : Option Delay := quantity.number?.map Binary64.delay

/-- The moment of a clock that is nearest to an exact one. A clock never gets past its largest
number, and a moment before all others is kept as it is. -/
def clockMoment? (moment : Rat) : Option Rat :=
  match Binary64.ofRat moment with
  | .infinite false => none
  | .infinite true | .nan => some moment
  | .finite negative significand exponent =>
    (Binary64.finite negative significand exponent).toRat?

end LanguageClient.Number
