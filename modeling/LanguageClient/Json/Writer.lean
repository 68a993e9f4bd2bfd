import LanguageClient.Json.Display

/-!
# Written JSON

The layout of a frame: a blank after each comma and colon, and only ASCII characters, all others
being written as escapes of their UTF-16 units.
-/

namespace LanguageClient.Json

open LanguageClient.Text LanguageClient.Number

def unitEscape (unit : Nat) : List Char := '\\' :: 'u' :: hexDigits 4 unit

/-- The escapes of a character: one unit, or the two halves of a surrogate pair. -/
def characterEscape (character : Char) : List Char :=
  let codePoint := character.toNat
  if codePoint < 0x10000 then unitEscape codePoint
  else unitEscape (0xD800 + (codePoint - 0x10000) / 0x400) ++
    unitEscape (0xDC00 + (codePoint - 0x10000) % 0x400)

def writtenCharacter (character : Char) : List Char :=
  if character = '"' || character = '\\' then ['\\', character]
  else if character = '\n' then ['\\', 'n']
  else if character = '\r' then ['\\', 'r']
  else if character = '\t' then ['\\', 't']
  else if character = '\x0c' then ['\\', 'f']
  else if character = '\x08' then ['\\', 'b']
  else if 32 ≤ character.toNat && character.toNat < 127 then [character]
  else characterEscape character

def writtenString (text : String) : String :=
  String.ofList ('"' :: text.toList.flatMap writtenCharacter ++ ['"'])

/-- A written floating-point number; the three values without a decimal have names. -/
def writtenFloat : Binary64 → String
  | .nan => "NaN"
  | .infinite negative => if negative then "-Infinity" else "Infinity"
  | .finite negative significand exponent => (Binary64.finite negative significand exponent).text

mutual

def Value.render : Value → String
  | .null => "null"
  | .bool value => if value then "true" else "false"
  | .int value => intText value
  | .float value => writtenFloat value
  | .string value => writtenString value
  | .array items => "[" ++ ", ".intercalate (renderedItems items) ++ "]"
  | .object members => "\x7b" ++ ", ".intercalate (renderedMembers members) ++ "\x7d"

/-- The texts of the items of an array. -/
def renderedItems : List Value → List String
  | [] => []
  | item :: rest => item.render :: renderedItems rest

/-- The texts of the members of an object. -/
def renderedMembers : List (String × Value) → List String
  | [] => []
  | (key, value) :: rest => (writtenString key ++ ": " ++ value.render) :: renderedMembers rest

end

end LanguageClient.Json
