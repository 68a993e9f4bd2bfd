import LanguageClient.Failure

/-!
# Snapshots of a document

An offset counts the characters before a place in a text. A position names the same place by its
line and the number of characters before it in that line, both counted from zero. A line ends with a
carriage return, a line feed, or both in this order.
-/

namespace LanguageClient

/-- A place in a text by line and character. -/
structure Position where
  line : Nat
  character : Nat
  deriving DecidableEq, Repr, Inhabited

/-- The first number that is too large for a line or a character. -/
def Position.limit : Nat := Nat.pow 2 31

/-- The position of two numbers, unless one of them is out of range. -/
def Position.of? (line character : Int) : Option Position :=
  if 0 ≤ line && line < Position.limit && 0 ≤ character && character < Position.limit then
    some ⟨line.toNat, character.toNat⟩
  else none

/-- The part of a text between two positions. -/
structure Range where
  first : Position
  last : Position
  deriving DecidableEq, Repr, Inhabited

namespace Document

def isBreak (character : Char) : Bool := character = '\r' || character = '\n'

/-- The offsets at which the line breaks of a text end, when the text starts at `offset`. -/
def breakEnds (offset : Nat) : List Char → List Nat
  | [] => []
  | '\r' :: '\n' :: rest => (offset + 2) :: breakEnds (offset + 2) rest
  | character :: rest =>
    if isBreak character then (offset + 1) :: breakEnds (offset + 1) rest
    else breakEnds (offset + 1) rest

/-- The first index from `low` up to `high` whose entry is greater than `bound`, in an array whose
entries increase. The fuel is at least `high - low`. -/
def searchGreater (entries : Array Nat) (bound : Nat) : Nat → Nat → Nat → Nat
  | 0, low, _ => low
  | fuel + 1, low, high =>
    if low < high then
      let middle := (low + high) / 2
      if bound < entries.getD middle 0 then searchGreater entries bound fuel low middle
      else searchGreater entries bound fuel (middle + 1) high
    else low

/-- A text with the offsets at which its lines start. -/
structure Snapshot where
  characters : List Char
  lineStarts : Array Nat
  deriving DecidableEq, Repr

namespace Snapshot

def ofText (text : String) : Snapshot where
  characters := text.toList
  lineStarts := (0 :: breakEnds 0 text.toList).toArray

def text (snapshot : Snapshot) : String := String.ofList snapshot.characters

def length (snapshot : Snapshot) : Nat := snapshot.characters.length

/-- The number of lines; a text that ends with a line break has an empty line after it. -/
def lineCount (snapshot : Snapshot) : Nat := snapshot.lineStarts.size

/-- The offset of the first character of a line. -/
def lineStart (snapshot : Snapshot) (line : Int) : Except PositionFault Nat :=
  if 0 ≤ line && line < snapshot.lineCount then
    .ok (snapshot.lineStarts.getD line.toNat 0)
  else .error (.lineOutside line snapshot.lineCount)

/-- The offset at which the next line starts, or the end of the text. -/
def lineEnd (snapshot : Snapshot) (line : Nat) : Nat :=
  snapshot.lineStarts.getD (line + 1) snapshot.length

def lineText (snapshot : Snapshot) (line : Int) : Except PositionFault (List Char) := do
  let start ← snapshot.lineStart line
  let extent := snapshot.lineEnd line.toNat - start
  return ((snapshot.characters.drop start).take extent).filter fun character => !isBreak character

/-- The line that contains an offset; the end of the text belongs to the last line. -/
def lineAt (snapshot : Snapshot) (offset : Int) : Except PositionFault Nat :=
  if 0 ≤ offset && offset ≤ snapshot.length then
    .ok (searchGreater snapshot.lineStarts offset.toNat snapshot.lineCount 0 snapshot.lineCount - 1)
  else .error (.offsetOutside offset snapshot.length)

/-- The offset of a position. A character past the end of its line counts on into the next lines,
as long as the text goes on. -/
def toOffset (snapshot : Snapshot) (position : Position) : Except PositionFault Nat := do
  if snapshot.lineCount ≤ position.line then throw .positionLineOutside
  let start ← snapshot.lineStart position.line
  if snapshot.length < start + position.character then throw .offsetPastEnd
  return start + position.character

def toPosition (snapshot : Snapshot) (offset : Int) : Except PositionFault Position := do
  let line ← snapshot.lineAt offset
  let start ← snapshot.lineStart line
  return ⟨line, offset.toNat - start⟩

end Snapshot

end Document

end LanguageClient
