import LanguageClient.Json.Display
import LanguageClient.Number.Literal

/-!
# Fields of a payload

A payload of the server is read leniently: a text field takes any value as its text, a flag takes
any value for true that is not empty, and unknown members are ignored. `none` means that the payload
is refused.
-/

namespace LanguageClient.Protocol

open LanguageClient.Json LanguageClient.Number

/-- Reads one part of a payload. -/
abbrev Reader (α : Type) := Value → Option α

def occursIn (part : List Char) : List Char → Bool
  | [] => part.isEmpty
  | character :: rest => part.isPrefixOf (character :: rest) || occursIn part rest

/-- Whether a value mentions a key: an object as a key, a list as an item and a string as a part.
Other values cannot be asked. -/
def mentions? (key : String) : Reader Bool
  | .object members => some (member? key members).isSome
  | .array items => some (items.contains (.string key))
  | .string text => some (occursIn key.toList text.toList)
  | .null | .bool _ | .int _ | .float _ => none

def required {α : Type} (key : String) (read : Reader α) : Reader α := fun value =>
  (value.get? key).bind read

/-- Reads a member that may be absent or null. A value that mentions the key without having it is
refused. -/
def optional {α : Type} (key : String) (read : Reader α) : Reader (Option α) := fun value =>
  match mentions? key value with
  | none => none
  | some false => some none
  | some true =>
    match value.get? key with
    | none => none
    | some .null => some none
    | some found => (read found).map some

def anything : Reader Value := some

def text : Reader String := fun value => some value.display

def flag : Reader Bool := fun value => some value.truthy

/-- A value as an integer: numbers are cut toward zero and strings are read. -/
def integer : Reader Int
  | .bool value => some (if value then 1 else 0)
  | .int value => some value
  | .float value => value.truncated?
  | .string value => readInt? value
  | .null | .array _ | .object _ => none

def integerFrom (low high : Int) : Reader Int := fun value =>
  (integer value).filter fun number => low ≤ number && number ≤ high

def largestInteger : Int := Nat.pow 2 31 - 1

def signedInteger : Reader Int := integerFrom (-largestInteger - 1) largestInteger

/-- An integer of 31 bits without sign. -/
def unsignedInteger : Reader Nat := fun value =>
  (integerFrom 0 largestInteger value).map Int.toNat

/-- A number that equals one of the integers from `low` to `high`. -/
def choice (low high : Int) : Reader Int := fun value =>
  value.integral?.filter fun number => low ≤ number && number ≤ high

/-- The items of a sequence: of a list its items, of a string its characters and of an object its
keys. -/
def items? : Reader (List Value)
  | .array items => some items
  | .string text => some (text.toList.map fun character => .string (String.ofList [character]))
  | .object members => some (members.map fun entry => .string entry.1)
  | .null | .bool _ | .int _ | .float _ => none

/-- A sequence whose items are all accepted. -/
def sequence {α : Type} (read : Reader α) : Reader (List α) := fun value =>
  (items? value).bind fun items => items.mapM read

/-- Whether a value is a truth value, a number or a string. -/
def isScalar : Value → Bool
  | .bool _ | .int _ | .float _ | .string _ => true
  | .null | .array _ | .object _ => false

end LanguageClient.Protocol
