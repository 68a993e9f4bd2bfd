/-!
# Code points

A character class of a standard is written as the inclusive ranges of its code points, in increasing
order. Blank characters are such a class, and every script has its own digits.
-/

namespace LanguageClient.Text

/-- Whether a code point lies in one of the given ranges. The ranges increase, so the search stops
at the first one that starts later. -/
def liesInRanges (codePoint : Nat) : List (Nat × Nat) → Bool
  | [] => false
  | (low, high) :: rest =>
    if codePoint < low then false
    else if codePoint ≤ high then true
    else liesInRanges codePoint rest

/-- A set of code points, as inclusive ranges in increasing order. -/
structure CodePointSet where
  ranges : List (Nat × Nat)

def CodePointSet.contains (set : CodePointSet) (character : Char) : Bool :=
  liesInRanges character.toNat set.ranges

/-!
## Blank characters

White space in the sense of the Unicode bidirectional classes and the separator category.
-/

/-- Tabs, line and paragraph breaks, the information separators and every space. -/
def blankCharacters : CodePointSet where
  ranges := [
    (0x9, 0xD), (0x1C, 0x20), (0x85, 0x85), (0xA0, 0xA0), (0x1680, 0x1680), (0x2000, 0x200A),
    (0x2028, 0x2029), (0x202F, 0x202F), (0x205F, 0x205F), (0x3000, 0x3000)]

/-- Whether a character is white space. -/
def isBlank (character : Char) : Bool := blankCharacters.contains character

/-- Whether a character is one of the six blanks of ASCII that may surround a written number. -/
def isAsciiBlank (character : Char) : Bool :=
  character = ' ' || (9 ≤ character.toNat && character.toNat ≤ 13)

/-!
## Decimal digits

Each script writes the digits from zero to nine as ten consecutive code points, so a script is known
by its zero.
-/

/-- The code points of the digit zero in every script. -/
def digitZeros : List Nat := [
  0x30, 0x660, 0x6F0, 0x7C0, 0x966, 0x9E6, 0xA66, 0xAE6, 0xB66, 0xBE6, 0xC66, 0xCE6, 0xD66, 0xDE6,
  0xE50, 0xED0, 0xF20, 0x1040, 0x1090, 0x17E0, 0x1810, 0x1946, 0x19D0, 0x1A80, 0x1A90, 0x1B50,
  0x1BB0, 0x1C40, 0x1C50, 0xA620, 0xA8D0, 0xA900, 0xA9D0, 0xA9F0, 0xAA50, 0xABF0, 0xFF10, 0x104A0,
  0x10D30, 0x11066, 0x110F0, 0x11136, 0x111D0, 0x112F0, 0x11450, 0x114D0, 0x11650, 0x116C0,
  0x11730, 0x118E0, 0x11950, 0x11C50, 0x11D50, 0x11DA0, 0x16A60, 0x16AC0, 0x16B50, 0x1D7CE,
  0x1D7D8, 0x1D7E2, 0x1D7EC, 0x1D7F6, 0x1E140, 0x1E2F0, 0x1E950, 0x1FBF0]

def digitValue? (character : Char) : Option Nat :=
  (digitZeros.find? fun start => start ≤ character.toNat && character.toNat < start + 10).map
    fun start => character.toNat - start

def asciiDigit? (character : Char) : Option Nat :=
  if '0' ≤ character && character ≤ '9' then some (character.toNat - 48) else none

/-- The value of a hexadecimal digit of either case. -/
def hexDigit? (character : Char) : Option Nat :=
  if '0' ≤ character && character ≤ '9' then some (character.toNat - 48)
  else if 'a' ≤ character && character ≤ 'f' then some (character.toNat - 87)
  else if 'A' ≤ character && character ≤ 'F' then some (character.toNat - 55)
  else none

/-- The lower-case hexadecimal digit of a value below sixteen. -/
def hexDigit (value : Nat) : Char :=
  if value < 10 then Char.ofNat (48 + value) else Char.ofNat (87 + value)

/-- The last `width` hexadecimal digits of a number, leading zeros included. -/
def hexDigits : Nat → Nat → List Char
  | 0, _ => []
  | width + 1, number => hexDigits width (number / 16) ++ [hexDigit (number % 16)]

end LanguageClient.Text
