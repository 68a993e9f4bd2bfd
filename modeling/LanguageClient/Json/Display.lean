import LanguageClient.Text.CodePoint
import LanguageClient.Text.Printable
import LanguageClient.Json.Value
import LanguageClient.Number.Shortest

/-!
# Values in messages

How a JSON value is shown inside the text of a message. A string stands as it is; inside a list or
an object it is quoted.
-/

/-!
## Quoted text

A text is shown between quotation marks, with escapes for the marks and for every character that
has no printed form. Single marks are used unless the text holds a single mark and no double one.
-/

namespace LanguageClient.Text

def quotationMark (text : List Char) : Char :=
  if text.contains '\x27' && !text.contains '"' then '"' else '\x27'

def quotedCharacter (mark character : Char) : List Char :=
  if character = mark || character = '\\' then ['\\', character]
  else if character = '\n' then ['\\', 'n']
  else if character = '\r' then ['\\', 'r']
  else if character = '\t' then ['\\', 't']
  else if isPrintable character then [character]
  else if character.toNat ≤ 0xFF then '\\' :: 'x' :: hexDigits 2 character.toNat
  else if character.toNat ≤ 0xFFFF then '\\' :: 'u' :: hexDigits 4 character.toNat
  else '\\' :: 'U' :: hexDigits 8 character.toNat

def quoted (text : List Char) : List Char :=
  quotationMark text :: text.flatMap (quotedCharacter (quotationMark text)) ++ [quotationMark text]

end LanguageClient.Text

/-! ## Values -/

namespace LanguageClient.Json

open LanguageClient.Text

def quote (text : String) : String := String.ofList (quoted text.toList)

/-- The decimal notation of an integer. -/
def intText (value : Int) : String :=
  String.ofList ((if value < 0 then ['-'] else []) ++ Nat.toDigits 10 value.natAbs)

mutual

/-- A value as part of another one: strings are quoted. -/
def Value.nested : Value → String
  | .null => "None"
  | .bool value => if value then "True" else "False"
  | .int value => intText value
  | .float value => value.text
  | .string value => quote value
  | .array items => "[" ++ ", ".intercalate (nestedItems items) ++ "]"
  | .object members => "\x7b" ++ ", ".intercalate (nestedMembers members) ++ "\x7d"

/-- The items of a list, each as part of the list. -/
def nestedItems : List Value → List String
  | [] => []
  | item :: rest => item.nested :: nestedItems rest

/-- The members of an object, each as a key and a value. -/
def nestedMembers : List (String × Value) → List String
  | [] => []
  | (key, value) :: rest => (quote key ++ ": " ++ value.nested) :: nestedMembers rest

end

/-- A value as it is shown in a message. -/
def Value.display : Value → String
  | .string value => value
  | .null => Value.nested .null
  | .bool value => Value.nested (.bool value)
  | .int value => Value.nested (.int value)
  | .float value => Value.nested (.float value)
  | .array items => Value.nested (.array items)
  | .object members => Value.nested (.object members)

end LanguageClient.Json
