import LanguageClient.Protocol.Field

/-!
# Selectors

Which documents, notebooks and cells a server wants to know about.
-/

namespace LanguageClient.Protocol

open LanguageClient.Json

/-!
## Glob patterns

A pattern for paths is a text, or a record that puts it below a folder. In place of a text any other
scalar and null are passed on as they are.
-/

/-- Where a relative pattern starts. -/
inductive PatternBase where
  /-- An address, or what was given for one. -/
  | address (value : Value)
  | folder (uri name : String)
  deriving DecidableEq, Repr

/-- A pattern for paths. -/
inductive GlobPattern where
  /-- A pattern, or what was given for one. -/
  | plain (value : Value)
  | relative (base : PatternBase) (pattern : String)
  deriving DecidableEq, Repr

/-- Accepts null and scalars as they are, and otherwise what `read` accepts. -/
def plainOr {α : Type} (plain : Value → α) (read : Reader α) : Reader α := fun value =>
  if value = .null || isScalar value then some (plain value) else read value

/-- Where a relative pattern starts, in a payload. -/
def patternBase : Reader PatternBase :=
  plainOr .address fun value => do
    let uri ← required "uri" text value
    let name ← required "name" text value
    return .folder uri name

def globPattern : Reader GlobPattern :=
  plainOr .plain fun value => do
    let base ← required "baseUri" patternBase value
    let pattern ← required "pattern" text value
    return .relative base pattern

def PatternBase.toValue : PatternBase → Value
  | .address value => value
  | .folder uri name => .object [("uri", .string uri), ("name", .string name)]

def GlobPattern.toValue : GlobPattern → Value
  | .plain value => value
  | .relative base pattern => .object [("baseUri", base.toValue), ("pattern", .string pattern)]

/-!
## Notebook filters

A filter names the notebooks and the cells that a server wants to know about. A notebook is named by
a text or by a record with a type, a scheme or a pattern; the first of these keys that is present
selects the kind of record.
-/

/-- How a filter names notebooks. -/
inductive NotebookSelector where
  | name (text : String)
  | byType (notebookType : String) (scheme : Option String) (pattern : Option GlobPattern)
  | byScheme (scheme : String) (notebookType : Option String) (pattern : Option GlobPattern)
  | byPattern (pattern : GlobPattern) (notebookType scheme : Option String)
  deriving DecidableEq, Repr

def patternSelector : Reader NotebookSelector := fun value => do
  let pattern ← required "pattern" globPattern value
  let notebookType ← optional "notebookType" text value
  let scheme ← optional "scheme" text value
  return .byPattern pattern notebookType scheme

def schemeSelector : Reader NotebookSelector := fun value => do
  let scheme ← required "scheme" text value
  let notebookType ← optional "notebookType" text value
  let pattern ← optional "pattern" globPattern value
  return .byScheme scheme notebookType pattern

def typeSelector : Reader NotebookSelector := fun value => do
  let notebookType ← required "notebookType" text value
  let scheme ← optional "scheme" text value
  let pattern ← optional "pattern" globPattern value
  return .byType notebookType scheme pattern

def notebookSelector : Reader NotebookSelector
  | .string name => some (.name name)
  | value => do
    if ← mentions? "notebookType" value then typeSelector value
    else if ← mentions? "scheme" value then schemeSelector value
    else patternSelector value

/-- A filter that names cells and perhaps notebooks. -/
structure NotebookFilter where
  notebook : Option NotebookSelector
  cells : List String
  deriving DecidableEq, Repr

def notebookFilter : Reader NotebookFilter := fun value => do
  let cells ← required "cells" (sequence (required "language" text)) value
  let notebook ← optional "notebook" notebookSelector value
  return { notebook, cells }

/-- A member with a text, unless that is absent. -/
def textMember (key : String) (text : Option String) : List (String × Value) :=
  (text.map fun text => (key, .string text)).toList

/-- A member with a pattern, unless that is absent. -/
def patternMember (pattern : Option GlobPattern) : List (String × Value) :=
  (pattern.map fun pattern => ("pattern", pattern.toValue)).toList

def NotebookSelector.toValue : NotebookSelector → Value
  | .name text => .string text
  | .byType notebookType scheme pattern =>
    .object (textMember "notebookType" notebookType ++ textMember "scheme" scheme ++
      patternMember pattern)
  | .byScheme scheme notebookType pattern =>
    .object (textMember "notebookType" notebookType ++ textMember "scheme" scheme ++
      patternMember pattern)
  | .byPattern pattern notebookType scheme =>
    .object (textMember "notebookType" notebookType ++ textMember "scheme" scheme ++
      patternMember pattern)

def NotebookFilter.toValue (filter : NotebookFilter) : Value :=
  let cells : Value := .array (filter.cells.map fun language =>
    .object [("language", .string language)])
  match filter.notebook with
  | none => .object [("cells", cells)]
  | some notebook => .object [("notebook", notebook.toValue), ("cells", cells)]

/-!
## Document selectors

A selector is a sequence of filters for documents. A filter is a text or a record; the first of its
keys that is present selects the kind of record, and a record without any of them needs a pattern.
-/

def cellFilter : Reader Unit := fun value => do
  let _ ← required "notebook" notebookSelector value
  let _ ← optional "language" text value

def languageFilter : Reader Unit := fun value => do
  let _ ← required "language" text value
  let _ ← optional "scheme" text value
  let _ ← optional "pattern" globPattern value

/-- A filter for the documents whose addresses have a scheme. -/
def schemeFilter : Reader Unit := fun value => do
  let _ ← required "scheme" text value
  let _ ← optional "language" text value
  let _ ← optional "pattern" globPattern value

/-- A filter for the documents whose paths match a pattern. -/
def patternFilter : Reader Unit := fun value => do
  let _ ← required "pattern" globPattern value
  let _ ← optional "language" text value
  let _ ← optional "scheme" text value

def documentFilter : Reader Unit
  | .string _ => some ()
  | value => do
    if ← mentions? "notebook" value then cellFilter value
    else if ← mentions? "language" value then languageFilter value
    else if ← mentions? "scheme" value then schemeFilter value
    else patternFilter value

/-- Accepts selectors whose filters are all accepted. -/
def documentSelector : Reader Unit := fun value => (sequence documentFilter value).map fun _ => ()

end LanguageClient.Protocol
