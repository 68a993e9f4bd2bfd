import LanguageClient.Protocol.Hover

/-!
# Completion items of the server
-/

namespace LanguageClient.Protocol

open LanguageClient.Json

/-- One proposal of the server. -/
structure CompletionItem where
  label : String
  kind : Value
  detail : Option String
  documentation : Option Contents
  sortText : Option String
  filterText : Option String
  insertText : Option String
  /-- The text of the edit that accepting the proposal makes. -/
  editText : Option String
  deriving DecidableEq, Repr

/-- A replacement of one range. -/
def textEdit : Reader String := fun value => do
  let _ ← required "range" range value
  required "newText" text value

/-- A replacement with one range for inserting and one for replacing. -/
def insertReplaceEdit : Reader String := fun value => do
  let newText ← required "newText" text value
  let _ ← required "insert" range value
  let _ ← required "replace" range value
  return newText

/-- The edit of a completion item, of either form. Only a record with a range for replacing has two
ranges. -/
def completionEdit : Reader String := fun value =>
  if (value.get? "replace").isSome then insertReplaceEdit value else textEdit value

def labelDetails : Reader Unit := fun value => do
  let _ ← optional "detail" text value
  let _ ← optional "description" text value

def command : Reader Unit := fun value => do
  let _ ← required "title" text value
  let _ ← required "command" text value
  let _ ← optional "tooltip" text value
  let _ ← optional "arguments" (sequence anything) value

/-- The kind of a completion item: any truth value, number or string. -/
def itemKind : Reader Value := fun value => if isScalar value then some value else none

def completionItem : Reader CompletionItem := fun value => do
  let label ← required "label" text value
  let kind ← optional "kind" itemKind value
  let detail ← optional "detail" text value
  let documentation ← optional "documentation" contents value
  let sortText ← optional "sortText" text value
  let filterText ← optional "filterText" text value
  let insertText ← optional "insertText" text value
  let editText ← optional "textEdit" completionEdit value
  let _ ← optional "labelDetails" labelDetails value
  let _ ← optional "tags" (sequence (choice 1 1)) value
  let _ ← optional "insertTextFormat" (choice 1 2) value
  let _ ← optional "insertTextMode" (choice 1 2) value
  let _ ← optional "additionalTextEdits" (sequence textEdit) value
  let _ ← optional "commitCharacters" (sequence text) value
  let _ ← optional "command" command value
  return {
    label
    kind := kind.getD .null
    detail
    documentation
    sortText
    filterText
    insertText
    editText }

/-- The range or ranges that the items of a list share. A record with an end is one range. -/
def sharedEditRange : Reader Unit := fun value => do
  if (value.get? "end").isSome then
    let _ ← range value
  else
    let _ ← required "insert" range value
    let _ ← required "replace" range value

def sharedDefaults : Reader Unit := fun value => do
  let _ ← optional "commitCharacters" (sequence text) value
  let _ ← optional "editRange" sharedEditRange value
  let _ ← optional "insertTextFormat" (choice 1 2) value
  let _ ← optional "insertTextMode" (choice 1 2) value
  let _ ← optional "data" anything value

/-- How what the items share is combined with what they have themselves. -/
def sharedUse : Reader Unit := fun value => do
  let _ ← optional "commitCharacters" (choice 1 2) value
  let _ ← optional "data" (choice 1 2) value

def completionList : Reader (List CompletionItem) := fun value => do
  let _ ← required "isIncomplete" flag value
  let items ← required "items" (sequence completionItem) value
  let _ ← optional "itemDefaults" sharedDefaults value
  let _ ← optional "applyKind" sharedUse value
  return items

/-- The result of a completion request: null, items, or a list of items. -/
def completionResult : Reader (Option (List CompletionItem))
  | .null => some none
  | .array items => (items.mapM completionItem).map some
  | value => (completionList value).map some

end LanguageClient.Protocol
