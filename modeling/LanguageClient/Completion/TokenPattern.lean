import LanguageClient.Protocol.CompletionItem
import LanguageClient.Text.Word

/-!
# Completion candidates and their tokens

What the host is offered for a completion, and the pattern of the token that it completes.
-/

namespace LanguageClient.Completion

open LanguageClient.Protocol LanguageClient.Text

/-!
## Completion candidates

What the host is offered for one completion item of the server.
-/

/-- One proposal for the host. -/
structure Candidate where
  label : String
  insertText : String
  kind : Option String := none
  sortKey : String := ""
  filterKey : String := ""
  detail : Option String := none
  documentation : Option String := none
  deriving DecidableEq, Repr, Inhabited

/-- The names of the kinds of a completion item, from number `1` on. -/
def kindNames : List String := [
  "text", "method", "function", "constructor", "field", "variable", "class", "interface", "module",
  "property", "unit", "value", "enum", "keyword", "snippet", "color", "file", "reference", "folder",
  "enummember", "constant", "struct", "event", "operator", "typeparameter"]

/-- The name of a kind; unknown kinds have none. -/
def kindName? (kind : Json.Value) : Option String := do
  let number ← kind.integral?
  if number < 1 then none else kindNames[(number - 1).toNat]?

/-- The text that accepting an item inserts: that of its edit, its own, or its label. -/
def insertTextOf (item : CompletionItem) : String :=
  (item.editText <|> item.insertText).getD item.label

/-- The text of a documentation, if there is one. -/
def documentationOf : Option Contents → Except Failure (Option String)
  | none => .ok none
  | some contents => if contents.isGiven then contents.format.map some else .ok none

def Candidate.ofItem (item : CompletionItem) : Except Failure Candidate := do
  let documentation ← documentationOf item.documentation
  return {
    label := item.label
    insertText := insertTextOf item
    kind := kindName? item.kind
    sortKey := item.sortText.getD item.label
    filterKey := item.filterText.getD item.label
    detail := item.detail
    documentation }

def candidatesOfItems : List CompletionItem → Except Failure (List Candidate)
  | [] => .ok []
  | item :: rest => do
    let candidate ← Candidate.ofItem item
    let candidates ← candidatesOfItems rest
    return candidate :: candidates

/-- The candidates of a completion result; no result stays none. -/
def candidatesOf : Option (List CompletionItem) → Except Failure (Option (List Candidate))
  | none => .ok none
  | some items => (candidatesOfItems items).map some

/-!
## Character classes

The class of a set of characters holds these characters, and all word characters if one of them is
a word character. Its written form is a bracket expression in which every character that could mean
something else has a backslash.
-/

/-- A class of characters: some single ones, and perhaps all word characters. -/
structure CharacterClass where
  includesWords : Bool
  others : List Char
  deriving DecidableEq, Repr

/-- Puts a character at its place in an increasing list, unless it is there already. -/
def insertCharacter (character : Char) : List Char → List Char
  | [] => [character]
  | head :: rest =>
    if character < head then character :: head :: rest
    else if character = head then head :: rest
    else head :: insertCharacter character rest

/-- The distinct characters of a list in increasing order. -/
def distinctCharacters (characters : List Char) : List Char :=
  characters.foldr insertCharacter []

namespace CharacterClass

def ofCharacters (characters : List Char) : CharacterClass where
  includesWords := characters.any isWord
  others := distinctCharacters (characters.filter fun character => !isWord character)

def contains (set : CharacterClass) (character : Char) : Bool :=
  (set.includesWords && isWord character) || set.others.contains character

/-- The characters that are written with a backslash. -/
def escapedCharacters : List Char :=
  "()[]\x7b\x7d?*+-|^$\\.&~# \t\n\r\x0b\x0c".toList

def writtenCharacter (character : Char) : List Char :=
  if escapedCharacters.contains character then ['\\', character] else [character]

def written (set : CharacterClass) : List Char :=
  '[' :: (if set.includesWords then ['\\', 'w'] else []) ++
    set.others.flatMap writtenCharacter ++ [']']

end CharacterClass

/-!
## The pattern of the completed token

The token before the cursor is described by the alphabet of the candidates: it starts with a
character that some candidate starts with and goes on with characters that stand further back in
some candidate.
-/

/-- The pattern of a token: its first character, and the characters that may follow. -/
structure TokenPattern where
  first : CharacterClass
  rest : Option CharacterClass
  deriving DecidableEq, Repr

namespace TokenPattern

/-- The pattern of candidates; there is none if no candidate inserts any text. -/
def ofCandidates (candidates : List Candidate) : Option TokenPattern :=
  let texts := candidates.map fun candidate => candidate.insertText.toList
  let firsts := texts.filterMap List.head?
  let others := texts.flatMap List.tail
  if firsts.isEmpty then none
  else some {
    first := .ofCharacters firsts
    rest := if others.isEmpty then none else some (.ofCharacters others) }

def written (pattern : TokenPattern) : String :=
  String.ofList (pattern.first.written ++
    (match pattern.rest with
      | none => []
      | some rest => rest.written ++ ['*']) ++ ['$'])

/-- Whether a character may follow the first one. -/
def continues (pattern : TokenPattern) (character : Char) : Bool :=
  match pattern.rest with
  | none => false
  | some rest => rest.contains character

/-- Whether only the end of the text, or a last line feed before it, is left. -/
def isAtEnd (text : List Char) : Bool := text = [] || text = ['\n']

/-- The length of the longest match at the start of a text. A match goes up to the end of the text
or up to a line feed at its end. -/
def matchLength? (pattern : TokenPattern) : List Char → Option Nat
  | [] => none
  | character :: following =>
    if pattern.first.contains character then
      let run := following.takeWhile pattern.continues
      if isAtEnd (following.drop run.length) then some (run.length + 1) else none
    else none

/-- The first match in a text, as the characters before it and its length. -/
def search? (pattern : TokenPattern) : List Char → Option (Nat × Nat)
  | [] => none
  | character :: following =>
    match pattern.matchLength? (character :: following) with
    | some length => some (0, length)
    | none => (pattern.search? following).map fun (start, length) => (start + 1, length)

end TokenPattern

end LanguageClient.Completion
