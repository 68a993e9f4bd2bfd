import LanguageClient.Number.Literal
import LanguageClient.Number.Quantity

/-!
# Options of a client

What a host tells about the server, the document and the waiting times. Accepted options have an
address of a WebSocket, a document, a language, a positive timeout and a debounce time that is not
negative.
-/

namespace LanguageClient

open LanguageClient.Json LanguageClient.Number

/-- A folder of the workspace. -/
structure WorkspaceFolder where
  uri : String
  name : String
  deriving DecidableEq, Repr

/-- The options of a client. The document, the language and the root are kept as they were given. -/
structure Options where
  serverUri : String
  documentUri : Value
  languageId : Value
  rootUri : Value := .null
  workspaceFolders : Option (List WorkspaceFolder) := none
  timeout : Quantity
  debounce : Quantity
  deriving DecidableEq, Repr

/-- Why options are not accepted. -/
inductive OptionsFault where
  | missingKey (key : String)
  | wrongType
  /-- The address of the server is no text. -/
  | notText
  /-- The options are no object. -/
  | notObject
  | unreadableNumber
  | tooLarge
  | serverUri (uri : String)
  | noDocumentUri
  | noLanguageId
  | timeout (value : Quantity)
  | debounce (value : Quantity)
  deriving DecidableEq, Repr

/-- The wording of a fault; faults of the form of the options have none. -/
def OptionsFault.message? : OptionsFault → Option String
  | .missingKey key => some key
  | .wrongType | .notText | .notObject | .unreadableNumber | .tooLarge => none
  | .serverUri uri => some ("server uri must be ws:// or wss://, got " ++ quote uri)
  | .noDocumentUri => some "document uri is required"
  | .noLanguageId => some "language id is required"
  | .timeout value => some ("timeout must be positive, got " ++ value.text)
  | .debounce value => some ("debounce must not be negative, got " ++ value.text)

namespace Options

/-- The seconds to wait for a response, unless told otherwise. -/
def defaultTimeout : Quantity := .float (Binary64.ofDecimal false 10 0)

/-- The seconds without an edit before a change is sent, unless told otherwise. -/
def defaultDebounce : Quantity := .float (Binary64.ofDecimal false 5 (-1))

/-- How much longer the handshake may take than other requests. -/
def handshakeFactor : Nat := 3

/-- Whether a text is an address of a WebSocket. -/
def isWebSocketUri (uri : String) : Bool :=
  "ws://".toList.isPrefixOf uri.toList || "wss://".toList.isPrefixOf uri.toList

/-- Accepts options that can be used. The first fault counts, in the order of the fields. -/
def check (options : Options) : Except OptionsFault Options :=
  if !isWebSocketUri options.serverUri then .error (.serverUri options.serverUri)
  else if !options.documentUri.truthy then .error .noDocumentUri
  else if !options.languageId.truthy then .error .noLanguageId
  else if options.timeout.isAtMostZero then .error (.timeout options.timeout)
  else if options.debounce.isNegative then .error (.debounce options.debounce)
  else .ok options

def require (key : String) (value : Value) : Except OptionsFault Value :=
  match value.get? key with
  | some found => .ok found
  | none => .error (.missingKey key)

/-- A value as a floating-point number: truth values and integers are converted, strings read. -/
def number : Value → Except OptionsFault Quantity
  | .bool value => .ok (.float (Binary64.ofRatio false (if value then 1 else 0) 1))
  | .int value =>
    match Binary64.ofInt? value with
    | some number => .ok (.float number)
    | none => .error .tooLarge
  | .float value => .ok (.float value)
  | .string text =>
    match readFloat? text with
    | some number => .ok (.float number)
    | none => .error .unreadableNumber
  | .null | .array _ | .object _ => .error .wrongType

/-- The value of a key as a number, or the default. -/
def numberOr (default : Quantity) (key : String) (value : Value) : Except OptionsFault Quantity :=
  match value.get? key with
  | none => .ok default
  | some found => number found

def folder : Value → Except OptionsFault WorkspaceFolder
  | .object members => do
    let uri ← require "uri" (.object members)
    let name ← require "name" (.object members)
    match uri, name with
    | .string uri, .string name => return { uri, name }
    | _, _ => throw .wrongType
  | .null | .bool _ | .int _ | .float _ | .string _ | .array _ => .error .wrongType

/-- The folders of the workspace; null stands for none. -/
def folders : Value → Except OptionsFault (Option (List WorkspaceFolder))
  | .null => .ok none
  | .array items => (items.mapM folder).map some
  | .string text => if text = "" then .ok (some []) else .error .wrongType
  | .object members => if members.isEmpty then .ok (some []) else .error .wrongType
  | .bool _ | .int _ | .float _ => .error .wrongType

/-- Reads the options that a host passes. The folders are read first, then the keys that have to be
there, then the numbers; the options are checked at last. -/
def ofMembers (value : Value) : Except OptionsFault Options := do
  let workspaceFolders ← folders ((value.get? "workspaceFolders").getD .null)
  let serverUri ← require "serverUri" value
  let documentUri ← require "documentUri" value
  let languageId ← require "languageId" value
  let timeout ← numberOr defaultTimeout "timeout" value
  let debounce ← numberOr defaultDebounce "debounce" value
  match serverUri with
  | .string serverUri =>
    check {
      serverUri
      documentUri
      languageId
      rootUri := (value.get? "rootUri").getD .null
      workspaceFolders
      timeout
      debounce }
  | _ => throw .notText

/-- Reads the options that a host passes, which have to be an object. -/
def ofValue : Value → Except OptionsFault Options
  | .object members => ofMembers (.object members)
  | .null | .bool _ | .int _ | .float _ | .string _ | .array _ => .error .notObject

/-! ## Fields -/

/-- The fields of options: those that have to be given and those that need not. -/
def fieldNames : List String × List String :=
  (["server_uri", "document_uri", "language_id"],
    ["root_uri", "workspace_folders", "timeout", "debounce"])

/-- One folder that has a uri, a name and nothing else. -/
def exactFolder (value : Value) : Except OptionsFault WorkspaceFolder :=
  match value with
  | .object members =>
    if members.all fun entry => entry.1 = "uri" || entry.1 = "name" then
      match member? "uri" members, member? "name" members with
      | some (.string uri), some (.string name) => .ok { uri, name }
      | _, _ => .error .wrongType
    else .error .wrongType
  | .null | .bool _ | .int _ | .float _ | .string _ | .array _ => .error .wrongType

/-- The folders of a field; null stands for none. -/
def exactFolders : Value → Except OptionsFault (Option (List WorkspaceFolder))
  | .array items => (items.mapM exactFolder).map some
  | value => folders value

/-- The number of a field as it was given, or the default. -/
def quantityOr (default : Quantity) (key : String) (value : Value) :
    Except OptionsFault Quantity :=
  match value.get? key with
  | none => .ok default
  | some found =>
    match Quantity.ofValue? found with
    | some quantity => .ok quantity
    | none => .error .wrongType

/-- Makes options from fields that are not converted. The fields are checked in order, so a fault of
an earlier one counts even if a later one has the wrong type. -/
def ofFields (value : Value) : Except OptionsFault Options := do
  let workspaceFolders ← exactFolders ((value.get? "workspace_folders").getD .null)
  let given : List String :=
    match value with
    | .object members => members.map (·.1)
    | _ => []
  if !fieldNames.1.all given.contains then throw .wrongType
  if !given.all (fieldNames.1 ++ fieldNames.2).contains then throw .wrongType
  let field (key : String) : Value := (value.get? key).getD .null
  match field "server_uri" with
  | .string serverUri =>
    let options : Options := {
      serverUri
      documentUri := field "document_uri"
      languageId := field "language_id"
      rootUri := field "root_uri"
      workspaceFolders
      timeout := defaultTimeout
      debounce := defaultDebounce }
    let options ← check options
    let options ← check { options with timeout := ← quantityOr defaultTimeout "timeout" value }
    check { options with debounce := ← quantityOr defaultDebounce "debounce" value }
  | _ => throw .notText

end Options

end LanguageClient
