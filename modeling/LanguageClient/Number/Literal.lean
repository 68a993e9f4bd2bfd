import LanguageClient.Number.Binary64
import LanguageClient.Text.CodePoint

/-!
# Written numbers

How a text is read as an integer or as a floating-point number. Blanks may surround the number, a
single underscore may stand between two digits, and the digits may belong to any script.
-/

namespace LanguageClient.Number

open LanguageClient.Text

/-- The most digits that an integer may be written with. -/
def maximalIntegerDigits : Nat := 4300

/-- Replaces the blanks and the digits beyond ASCII by their ASCII forms. -/
def asciiForm (text : List Char) : List Char :=
  text.map fun character =>
    if character.toNat < 127 then character
    else if isBlank character then ' '
    else
      match digitValue? character with
      | some value => Char.ofNat (48 + value)
      | none => character

/-- The text without the ASCII blanks around it. -/
def trimmed (text : List Char) : List Char :=
  ((text.dropWhile isAsciiBlank).reverse.dropWhile isAsciiBlank).reverse

/-- Removes the underscores that stand between two digits; any other underscore is an error.
`afterDigit` tells whether the last character was a digit. -/
def withoutUnderscores? (afterDigit : Bool) : List Char → Option (List Char)
  | [] => some []
  | '_' :: next :: rest =>
    if afterDigit && (asciiDigit? next).isSome then withoutUnderscores? false (next :: rest)
    else none
  | character :: rest =>
    if character = '_' then none
    else (withoutUnderscores? (asciiDigit? character).isSome rest).map (character :: ·)

/-- The number that a run of decimal digits stands for. -/
def digitsValue (digits : List Char) : Nat :=
  digits.foldl (fun value digit => 10 * value + (digit.toNat - 48)) 0

/-- The leading digits of a text and what follows them. -/
def spanDigits (text : List Char) : List Char × List Char :=
  text.span fun character => (asciiDigit? character).isSome

/-- An optional sign; `true` for a minus. -/
def readSign : List Char → Bool × List Char
  | '-' :: rest => (true, rest)
  | '+' :: rest => (false, rest)
  | text => (false, text)

def signed (negative : Bool) (magnitude : Nat) : Int :=
  if negative then -magnitude else magnitude

/-- Reads an integer: an optional sign and digits. -/
def readInt? (text : String) : Option Int := do
  let plain ← withoutUnderscores? false (trimmed (asciiForm text.toList))
  let (negative, rest) := readSign plain
  let (digits, rest) := spanDigits rest
  if digits.isEmpty || !rest.isEmpty || maximalIntegerDigits < digits.length then none
  else some (signed negative (digitsValue digits))

/-- Reads the exponent of a decimal, if there is a complete one. -/
def readExponent? : List Char → Option (Int × List Char)
  | 'e' :: rest | 'E' :: rest =>
    let (negative, rest) := readSign rest
    let (digits, rest) := spanDigits rest
    if digits.isEmpty then none else some (signed negative (digitsValue digits), rest)
  | _ => none

/-- Reads digits with an optional point and an optional exponent. -/
def readDecimal? (negative : Bool) (text : List Char) : Option (Binary64 × List Char) :=
  let (whole, rest) := spanDigits text
  let (fraction, rest) :=
    match rest with
    | '.' :: after => spanDigits after
    | _ => ([], rest)
  if whole.isEmpty && fraction.isEmpty then none
  else
    let digits := digitsValue (whole ++ fraction)
    match readExponent? rest with
    | some (exponent, rest) =>
      some (Binary64.ofDecimal negative digits (exponent - fraction.length), rest)
    | none => some (Binary64.ofDecimal negative digits (-(fraction.length : Int)), rest)

/-- Reads a floating-point number: a decimal, an infinity or `nan`, the words in either case. -/
def readFloat? (text : String) : Option Binary64 := do
  let plain ← withoutUnderscores? false (trimmed (asciiForm text.toList))
  let (negative, rest) := readSign plain
  let word := String.ofList (rest.map Char.toLower)
  if word = "inf" || word = "infinity" then some (.infinite negative)
  else if word = "nan" then some .nan
  else
    match readDecimal? negative rest with
    | some (number, []) => some number
    | _ => none

end LanguageClient.Number
