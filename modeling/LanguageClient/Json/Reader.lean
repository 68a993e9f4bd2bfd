import LanguageClient.Json.Value
import LanguageClient.Number.Literal

/-!
# Read JSON

A value is read from a text. `NaN`, `Infinity` and `-Infinity` are numbers, of a repeated key the
last value counts, and control characters may not stand in strings. Each reader returns the value
and what is left of the text. Lists and objects may be nested only so deep.
-/

namespace LanguageClient.Json

open LanguageClient.Text LanguageClient.Number

/-- The text after leading white space: spaces, tabs, line feeds and carriage returns. -/
def skipBlanks : List Char → List Char
  | character :: rest =>
    if character = ' ' || character = '\t' || character = '\n' || character = '\r' then
      skipBlanks rest
    else character :: rest
  | [] => []

/-- Reads four hexadecimal digits. -/
def readUnit? : List Char → Option (Nat × List Char)
  | a :: b :: c :: d :: rest => do
    let a ← hexDigit? a
    let b ← hexDigit? b
    let c ← hexDigit? c
    let d ← hexDigit? d
    some (((a * 16 + b) * 16 + c) * 16 + d, rest)
  | _ => none

/-- Whether a UTF-16 unit is the first half of a pair. -/
def isLeadingUnit (unit : Nat) : Bool := 0xD800 ≤ unit && unit ≤ 0xDBFF

/-- Whether a UTF-16 unit is the second half of a pair. -/
def isTrailingUnit (unit : Nat) : Bool := 0xDC00 ≤ unit && unit ≤ 0xDFFF

/-- The character of a UTF-16 unit; a lone half of a pair has none and is replaced. -/
def unitCharacter (unit : Nat) : Char :=
  if isLeadingUnit unit || isTrailingUnit unit then '\uFFFD' else Char.ofNat unit

def pairCharacter (leading trailing : Nat) : Char :=
  Char.ofNat (0x10000 + (leading - 0xD800) * 0x400 + (trailing - 0xDC00))

/-- Reads what follows a backslash and `u`: one unit, or two that form a pair. -/
def readEscapedUnit? (text : List Char) : Option (Char × List Char) := do
  let (unit, rest) ← readUnit? text
  match rest with
  | '\\' :: 'u' :: more =>
    if isLeadingUnit unit then
      match readUnit? more with
      | some (trailing, after) =>
        if isTrailingUnit trailing then some (pairCharacter unit trailing, after)
        else some (unitCharacter unit, rest)
      | none => some (unitCharacter unit, rest)
    else some (unitCharacter unit, rest)
  | _ => some (unitCharacter unit, rest)

/-- Reads what follows a backslash. -/
def readEscape? : List Char → Option (Char × List Char)
  | '"' :: rest => some ('"', rest)
  | '\\' :: rest => some ('\\', rest)
  | '/' :: rest => some ('/', rest)
  | 'b' :: rest => some ('\x08', rest)
  | 'f' :: rest => some ('\x0c', rest)
  | 'n' :: rest => some ('\n', rest)
  | 'r' :: rest => some ('\r', rest)
  | 't' :: rest => some ('\t', rest)
  | 'u' :: rest => readEscapedUnit? rest
  | _ => none

/-- Reads the characters of a string up to its closing mark. The fuel is more than the length of the
text. -/
def readCharacters? : Nat → List Char → Option (List Char × List Char)
  | 0, _ => none
  | _ + 1, [] => none
  | _ + 1, '"' :: rest => some ([], rest)
  | fuel + 1, '\\' :: rest => do
    let (character, rest) ← readEscape? rest
    let (characters, rest) ← readCharacters? fuel rest
    some (character :: characters, rest)
  | fuel + 1, character :: rest =>
    if character.toNat < 32 then none
    else do
      let (characters, rest) ← readCharacters? fuel rest
      some (character :: characters, rest)

/-- Reads a string after its opening mark. The fuel is more than the length of the text. -/
def readString? (fuel : Nat) (text : List Char) : Option (String × List Char) :=
  (readCharacters? fuel text).map fun (characters, rest) => (String.ofList characters, rest)

/-- Reads the digits before the point: one zero, or digits that do not start with zero. -/
def readWhole? (text : List Char) : Option (List Char × List Char) :=
  match text with
  | '0' :: rest => some (['0'], rest)
  | _ =>
    let (digits, rest) := spanDigits text
    if digits.isEmpty then none else some (digits, rest)

/-- Reads a point and the digits after it, if there are any. -/
def readFraction : List Char → List Char × List Char
  | '.' :: rest =>
    let (digits, after) := spanDigits rest
    if digits.isEmpty then ([], '.' :: rest) else (digits, after)
  | text => ([], text)

/-- Reads an integer or a decimal. A number without fraction and exponent is an integer. -/
def readNumber? (text : List Char) : Option (Value × List Char) := do
  let (negative, rest) :=
    match text with
    | '-' :: rest => (true, rest)
    | _ => (false, text)
  let (whole, rest) ← readWhole? rest
  let (fraction, rest) := readFraction rest
  let (exponent, rest) :=
    match readExponent? rest with
    | some (exponent, rest) => (some exponent, rest)
    | none => (none, rest)
  if fraction.isEmpty && exponent.isNone then
    if maximalIntegerDigits < whole.length then none
    else some (.int (signed negative (digitsValue whole)), rest)
  else
    let power := exponent.getD 0 - fraction.length
    some (.float (Binary64.ofDecimal negative (digitsValue (whole ++ fraction)) power), rest)

def afterWord? (word : String) (text : List Char) : Option (List Char) :=
  if word.toList.isPrefixOf text then some (text.drop word.length) else none

def wordValues : List (String × Value) := [
  ("null", .null), ("true", .bool true), ("false", .bool false), ("NaN", .float .nan),
  ("Infinity", .float (.infinite false)), ("-Infinity", .float (.infinite true))]

def readWord? (text : List Char) : Option (Value × List Char) :=
  wordValues.findSome? fun (word, value) => (afterWord? word text).map (value, ·)

/-- Why a text is not read as a value. -/
inductive ReadFault where
  | malformed
  | nestedTooDeep
  deriving DecidableEq, Repr

/-- What was read; nothing means that the text is malformed. -/
def wellFormed {α : Type} : Option α → Except ReadFault α
  | some found => .ok found
  | none => .error .malformed

mutual

/-- Reads a value at the start of a text. The depth bounds how many lists and objects may stand
inside one another, the fuel twice the length of the text. -/
def readValue : Nat → Nat → List Char → Except ReadFault (Value × List Char)
  | _, 0, _ => .error .malformed
  | depth, fuel + 1, text =>
    match text with
    | '"' :: rest =>
      wellFormed ((readString? fuel rest).map fun (text, rest) => (.string text, rest))
    | '[' :: rest =>
      match depth with
      | 0 => .error .nestedTooDeep
      | depth + 1 =>
        match skipBlanks rest with
        | ']' :: rest => .ok (.array [], rest)
        | rest => (readItems depth fuel rest).map fun (items, rest) => (.array items, rest)
    | '\x7b' :: rest =>
      match depth with
      | 0 => .error .nestedTooDeep
      | depth + 1 =>
        match skipBlanks rest with
        | '\x7d' :: rest => .ok (.object [], rest)
        | rest =>
          (readMembers depth fuel rest).map fun (members, rest) =>
            (.object (collectMembers members), rest)
    | _ =>
      match readWord? text with
      | some found => .ok found
      | none => wellFormed (readNumber? text)

/-- Reads the items of an array up to its closing bracket; there is at least one. -/
def readItems : Nat → Nat → List Char → Except ReadFault (List Value × List Char)
  | _, 0, _ => .error .malformed
  | depth, fuel + 1, text => do
    let (item, rest) ← readValue depth fuel text
    match skipBlanks rest with
    | ']' :: rest => .ok ([item], rest)
    | ',' :: rest =>
      let (items, rest) ← readItems depth fuel (skipBlanks rest)
      .ok (item :: items, rest)
    | _ => .error .malformed

/-- Reads the members of an object up to its closing brace; there is at least one. -/
def readMembers : Nat → Nat → List Char →
    Except ReadFault (List (String × Value) × List Char)
  | _, 0, _ => .error .malformed
  | depth, fuel + 1, text =>
    match text with
    | '"' :: rest => do
      let (key, rest) ← wellFormed (readString? fuel rest)
      match skipBlanks rest with
      | ':' :: rest =>
        let (value, rest) ← readValue depth fuel (skipBlanks rest)
        match skipBlanks rest with
        | '\x7d' :: rest => .ok ([(key, value)], rest)
        | ',' :: rest =>
          let (members, rest) ← readMembers depth fuel (skipBlanks rest)
          .ok ((key, value) :: members, rest)
        | _ => .error .malformed
      | _ => .error .malformed
    | _ => .error .malformed

end

/-- How deeply a text may be nested to be read. -/
def readingDepth : Nat := 986

def Value.ofText (text : String) : Except ReadFault Value := do
  let characters := skipBlanks text.toList
  let (value, rest) ← readValue readingDepth (2 * characters.length + 2) characters
  if (skipBlanks rest).isEmpty then .ok value else .error .malformed

end LanguageClient.Json
