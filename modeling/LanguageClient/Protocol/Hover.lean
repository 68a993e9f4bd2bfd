import LanguageClient.Protocol.Field
import LanguageClient.Failure
import LanguageClient.Document.Snapshot

/-!
# Hovers of the server

What the server tells about a place in a document, as texts that belong to a range.
-/

namespace LanguageClient.Protocol

open LanguageClient.Json

/-!
## Contents

The text of a hover or of a documentation: plain text, text in a named format or language, or a list
of such texts. Values without a text are accepted and fail only when their text is asked for.
-/

/-- One text of a list of contents. -/
inductive ContentsPart where
  | plain (text : String)
  | marked (label : String) (text : String)
  | textless (value : Value)
  deriving DecidableEq, Repr

/-- The contents of a hover or of a documentation. -/
inductive Contents where
  | single (part : ContentsPart)
  | list (parts : List ContentsPart)
  deriving DecidableEq, Repr

/-- Text in a named language. -/
def markedText : Reader ContentsPart := fun value => do
  let language ← required "language" text value
  let text ← required "value" text value
  return .marked language text

/-- The name of a text format. -/
def markupKind : Reader String
  | .string kind => if kind = "plaintext" || kind = "markdown" then some kind else none
  | .null | .bool _ | .int _ | .float _ | .array _ | .object _ => none

/-- Text in a named format. -/
def markupText : Reader ContentsPart := fun value => do
  let kind ← required "kind" markupKind value
  let text ← required "value" text value
  return .marked kind text

/-- One item of a list of contents. -/
def contentsPart : Reader ContentsPart
  | .string text => some (.plain text)
  | .bool value => some (.textless (.bool value))
  | .int value => some (.textless (.int value))
  | .float value => some (.textless (.float value))
  | .null => none
  | .array _ => none
  | .object members => markedText (.object members)

/-- The contents of a hover or of a documentation. -/
def contents : Reader Contents
  | .array items => (items.mapM contentsPart).map .list
  | .object members =>
    if (member? "kind" members).isSome then (markupText (.object members)).map .single
    else (markedText (.object members)).map .single
  | .string text => some (.single (.plain text))
  | .null => some (.single (.textless .null))
  | .bool value => some (.single (.textless (.bool value)))
  | .int value => some (.single (.textless (.int value)))
  | .float value => some (.single (.textless (.float value)))

def ContentsPart.format : ContentsPart → Except Failure String
  | .plain text => .ok text
  | .marked _ text => .ok text
  | .textless _ => .error .missing

/-- The texts of a list, each followed by an empty line. -/
def joinedParts : List ContentsPart → Except Failure String
  | [] => .ok ""
  | part :: rest => do
    let text ← part.format
    let following ← joinedParts rest
    return text ++ "\n\n" ++ following

def Contents.format : Contents → Except Failure String
  | .single part => part.format
  | .list parts => joinedParts parts

/-- Whether contents count as given: empty text, an empty list, zero and false do not. -/
def Contents.isGiven : Contents → Bool
  | .single (.plain text) => text != ""
  | .single (.marked _ _) => true
  | .single (.textless value) => value.truthy
  | .list parts => !parts.isEmpty

/-! ## Positions, ranges and hovers of the server -/

def position : Reader Position := fun value => do
  let line ← required "line" unsignedInteger value
  let character ← required "character" unsignedInteger value
  return { line, character }

def range : Reader Range := fun value => do
  let first ← required "start" position value
  let last ← required "end" position value
  return { first, last }

/-- What the server tells about a place in a document. -/
structure Hover where
  contents : Contents
  range : Option Range
  deriving DecidableEq, Repr

def hover : Reader Hover := fun value => do
  let contents ← required "contents" contents value
  let range ← optional "range" range value
  return { contents, range }

def hoverResult : Reader (Option Hover)
  | .null => some none
  | value => (hover value).map some

end LanguageClient.Protocol
