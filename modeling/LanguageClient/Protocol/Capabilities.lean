import LanguageClient.Protocol.CompletionItem
import LanguageClient.Protocol.Selector

/-!
# Capabilities of the server

What a server announces in its answer to the handshake. Hover and completion are used; the other
capabilities only have to be well-formed.
-/

namespace LanguageClient.Protocol

open LanguageClient.Json

/-- Accepts a truth value, a number, a string or whatever `read` accepts. -/
def scalarOr (read : Reader Unit) : Reader Unit := fun value =>
  if isScalar value then some () else read value

/-- Accepts what `present` accepts if the value mentions the key, and otherwise what `absent`
accepts. -/
def selectedBy (key : String) (present absent : Reader Unit) : Reader Unit := fun value => do
  if ← mentions? key value then present value else absent value

/-- A record whose members are all optional flags or texts. -/
def settings (keys : List String) : Reader Unit := fun value =>
  keys.forM fun key => (optional key anything value).map fun _ => ()

def texts : Reader (List String) := sequence text

/-- A record of settings, of which some hold lists of texts. -/
def settingsWithTexts (keys lists : List String) : Reader Unit := fun value => do
  settings keys value
  lists.forM fun key => (optional key texts value).map fun _ => ()

/-- A capability that is a flag or a record of settings. -/
def provider (keys : List String) : Reader Unit :=
  scalarOr (settings ("workDoneProgress" :: keys))

/-- The documents that a capability is registered for. -/
def selectorMember : Reader Unit := fun value =>
  (optional "documentSelector" documentSelector value).map fun _ => ()

/-- A record that registers a capability for some documents. -/
def registration (keys : List String) : Reader Unit := fun value => do
  settings ("workDoneProgress" :: keys) value
  selectorMember value

/-- A capability that is a flag, a record of settings, or a registration under an id. -/
def registeredProvider (keys : List String) : Reader Unit :=
  scalarOr (selectedBy "id" (registration ("id" :: keys)) (settings ("workDoneProgress" :: keys)))

/-- A capability like the others whose registration has no id of its own, although an id tells it
from a record of settings. -/
def unnamedProvider : Reader Unit :=
  scalarOr (selectedBy "id" (registration []) (settings ["workDoneProgress"]))

def documentSync : Reader Unit := fun value => do
  settings ["openClose", "willSave", "willSaveWaitUntil"] value
  let _ ← optional "change" (choice 0 2) value
  let _ ← optional "save" (scalarOr (settings ["includeText"])) value

/-- One selector of the notebook synchronization: with a notebook, or only with cells. -/
def notebookSyncSelector : Reader Unit :=
  selectedBy "notebook"
    (fun value => do
      let _ ← required "notebook" notebookSelector value
      let _ ← optional "cells" (sequence (required "language" text)) value)
    (fun value => (notebookFilter value).map fun _ => ())

def notebookSync : Reader Unit := fun value => do
  let _ ← required "notebookSelector" (sequence notebookSyncSelector) value
  settings ["save", "id"] value

/-- The settings of completion; the result is the list of trigger characters. -/
def completionSettings : Reader (List String) := fun value => do
  let triggers ← optional "triggerCharacters" texts value
  let _ ← optional "allCommitCharacters" texts value
  settings ["resolveProvider", "workDoneProgress"] value
  let _ ← optional "completionItem" (settings ["labelDetailsSupport"]) value
  return triggers.getD []

def typingFormatSettings : Reader Unit := fun value => do
  let _ ← required "firstTriggerCharacter" text value
  let _ ← optional "moreTriggerCharacter" texts value

def commandSettings : Reader Unit := fun value => do
  let _ ← required "commands" texts value
  settings ["workDoneProgress"] value

def tokenLegend : Reader Unit := fun value => do
  let _ ← required "tokenTypes" texts value
  let _ ← required "tokenModifiers" texts value

def tokenSettings : Reader Unit := fun value => do
  let _ ← required "legend" tokenLegend value
  let _ ← optional "range" (scalarOr (settings [])) value
  let _ ← optional "full" (scalarOr (settings ["delta"])) value
  settings ["workDoneProgress"] value

def diagnosticSettings : Reader Unit := fun value => do
  let _ ← required "interFileDependencies" flag value
  let _ ← required "workspaceDiagnostics" flag value
  settings ["identifier", "workDoneProgress"] value

/-- A record of settings that names documents where it is a registration under an id. -/
def settingsOrRegistration (read : Reader Unit) : Reader Unit :=
  selectedBy "id"
    (fun value => do
      read value
      settings ["id"] value
      selectorMember value)
    read

def kindName : Reader Unit := plainOr (fun _ => ()) fun _ => none

def kindDocumentation : Reader Unit := fun value => do
  let _ ← required "kind" kindName value
  let _ ← required "command" command value

def codeActionSettings : Reader Unit := fun value => do
  let _ ← optional "codeActionKinds" (sequence kindName) value
  let _ ← optional "documentation" (sequence kindDocumentation) value
  settings ["resolveProvider", "workDoneProgress"] value

/-- Which addresses the server gives the text of. -/
def contentSettings : Reader Unit := fun value => do
  let _ ← required "schemes" texts value

/-- Which files an operation of the workspace concerns. -/
def fileOperationFilters : Reader Unit := fun value => do
  let pattern : Reader Unit := fun value => do
    let _ ← required "glob" text value
    let _ ← optional "matches" (fun kind =>
      match kind with
      | .string name => if name = "file" || name = "folder" then some () else none
      | _ => none) value
    let _ ← optional "options" (settings ["ignoreCase"]) value
  let filter : Reader Unit := fun value => do
    let _ ← required "pattern" pattern value
    settings ["scheme"] value
  let _ ← required "filters" (sequence filter) value

def workspaceSettings : Reader Unit := fun value => do
  let _ ← optional "workspaceFolders" (settings ["supported", "changeNotifications"]) value
  let _ ← optional "fileOperations" (fun value =>
    ["didCreate", "willCreate", "didRename", "willRename", "didDelete", "willDelete"].forM
      fun key => (optional key fileOperationFilters value).map fun _ => ()) value
  let _ ← optional "textDocumentContent" contentSettings value

/-- The capabilities that are flags or records of settings. -/
def plainProviders : List (String × List String) := [
  ("definitionProvider", []), ("referencesProvider", []), ("documentHighlightProvider", []),
  ("documentSymbolProvider", ["label"]), ("workspaceSymbolProvider", ["resolveProvider"]),
  ("documentFormattingProvider", []), ("documentRangeFormattingProvider", ["rangesSupport"]),
  ("renameProvider", ["prepareProvider"]), ("inlineCompletionProvider", [])]

def registeredProviders : List (String × List String) := [
  ("declarationProvider", []), ("typeDefinitionProvider", []), ("implementationProvider", []),
  ("colorProvider", []), ("foldingRangeProvider", []), ("selectionRangeProvider", []),
  ("callHierarchyProvider", []), ("linkedEditingRangeProvider", []),
  ("typeHierarchyProvider", []), ("inlineValueProvider", []),
  ("inlayHintProvider", ["resolveProvider"])]

def otherCapabilities : Reader Unit := fun value => do
  settings ["experimental"] value
  let _ ← optional "positionEncoding" kindName value
  let _ ← optional "textDocumentSync" (scalarOr documentSync) value
  let _ ← optional "notebookDocumentSync" notebookSync value
  plainProviders.forM fun (key, keys) => (optional key (provider keys) value).map fun _ => ()
  registeredProviders.forM fun (key, keys) =>
    (optional key (registeredProvider keys) value).map fun _ => ()
  let _ ← optional "monikerProvider" unnamedProvider value
  let _ ← optional "signatureHelpProvider" (settingsWithTexts ["workDoneProgress"]
    ["triggerCharacters", "retriggerCharacters"]) value
  let _ ← optional "codeActionProvider" (scalarOr codeActionSettings) value
  let _ ← optional "codeLensProvider" (settings ["resolveProvider", "workDoneProgress"]) value
  let _ ← optional "documentLinkProvider" (settings ["resolveProvider", "workDoneProgress"]) value
  let _ ← optional "documentOnTypeFormattingProvider" typingFormatSettings value
  let _ ← optional "executeCommandProvider" commandSettings value
  let _ ← optional "semanticTokensProvider" (settingsOrRegistration tokenSettings) value
  let _ ← optional "diagnosticProvider" (settingsOrRegistration diagnosticSettings) value
  let _ ← optional "workspace" workspaceSettings value

/-- Whether the server answers hover requests: a flag as it is, a record in any case. -/
def hoverProvider : Reader Bool := fun value =>
  if isScalar value then some value.truthy
  else (settings ["workDoneProgress"] value).map fun _ => true

/-- What the client uses of the capabilities of a server. -/
structure Capabilities where
  hover : Bool
  /-- The trigger characters, when the server completes. -/
  completion : Option (List String)
  deriving DecidableEq, Repr

def capabilities : Reader Capabilities := fun value => do
  let hover ← optional "hoverProvider" hoverProvider value
  let completion ← optional "completionProvider" completionSettings value
  otherCapabilities value
  return { hover := hover.getD false, completion }

/-- The name and the version of a server. -/
structure ServerInfo where
  name : String
  version : Option String
  deriving DecidableEq, Repr

/-- The name and the version of a server in a payload. -/
def serverInfo : Reader ServerInfo := fun value => do
  let name ← required "name" text value
  let version ← optional "version" text value
  return { name, version }

/-- The answer of the server to the handshake. -/
structure InitializeResult where
  capabilities : Capabilities
  serverInfo : Option ServerInfo
  deriving DecidableEq, Repr

/-- The answer to the handshake in a payload. -/
def initializeResult : Reader InitializeResult := fun value => do
  let capabilities ← required "capabilities" capabilities value
  let serverInfo ← optional "serverInfo" serverInfo value
  return { capabilities, serverInfo }

end LanguageClient.Protocol
