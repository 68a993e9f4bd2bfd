import LanguageClient.Json.Value
import LanguageClient.Options
import LanguageClient.Protocol.Result

/-!
# Messages of the client

The frames that the client sends: requests, notifications and answers to requests of the server.
-/

namespace LanguageClient.Protocol

open LanguageClient.Json

def messageVersion : String × Value := ("jsonrpc", .string "2.0")

/-- How deeply the parameters of a message may be nested. -/
def payloadDepth : Nat := 328

/-- Whether parameters can be written: they are not nested too deeply. -/
def isWritable (params : Value) : Bool := params.hasDepthWithin payloadDepth

/-- The parameters as the last member of a message, if there are any. -/
def paramsMember : Option Value → List (String × Value)
  | none => []
  | some params => [("params", params)]

def requestMessage (id method : String) (params : Option Value) : Value :=
  .object ([messageVersion, ("id", .string id), ("method", .string method)] ++ paramsMember params)

def notificationMessage (method : String) (params : Option Value) : Value :=
  .object ([messageVersion, ("method", .string method)] ++ paramsMember params)

/-- The answer to a request of the server: no method can be called, so the result is null. -/
def answerMessage (id : Value) : Value :=
  .object [messageVersion, ("id", id), ("result", .null)]

/-! ## The handshake -/

def shownFormats : Value := .strings ["plaintext", "markdown"]

/-- A flag for registration at run time. -/
def dynamic : String × Value := ("dynamicRegistration", .bool true)

/-- A capability with links to other places. -/
def linking : Value := .object [dynamic, ("linkSupport", .bool true)]

/-- What the client announces about documents. -/
def documentCapabilities : Value := .object [
  ("synchronization", .object [dynamic, ("willSave", .bool false),
    ("willSaveWaitUntil", .bool false), ("didSave", .bool false)]),
  ("completion", .object [dynamic,
    ("completionItem", .object [("snippetSupport", .bool false),
      ("commitCharactersSupport", .bool true), ("documentationFormat", shownFormats),
      ("deprecatedSupport", .bool false), ("preselectSupport", .bool false)]),
    ("contextSupport", .bool false)]),
  ("hover", .object [dynamic, ("contentFormat", shownFormats)]),
  ("signatureHelp", .object [dynamic]),
  ("declaration", linking),
  ("definition", linking),
  ("typeDefinition", linking),
  ("implementation", linking),
  ("moniker", .object [])]

def clientCapabilities : Value := .object [
  ("workspace", .object [("didChangeConfiguration", .object [dynamic])]),
  ("textDocument", documentCapabilities)]

def folderValue (folder : WorkspaceFolder) : Value :=
  .object [("uri", .string folder.uri), ("name", .string folder.name)]

/-- The folders in a message; none are null. -/
def foldersValue : Option (List WorkspaceFolder) → Value
  | none => .null
  | some folders => .array (folders.map folderValue)

def handshakeParams (rootUri : Value) (folders : Option (List WorkspaceFolder)) : Value := .object [
  ("capabilities", clientCapabilities), ("processId", .null), ("rootPath", .null),
  ("rootUri", rootUri), ("workspaceFolders", foldersValue folders)]

/-! ## Documents -/

/-- The parameters that open a document at version zero. The language is passed on as it is. -/
def didOpenParams (uri : String) (languageId : Value) (text : String) : Value := .object [
  ("textDocument", .object [("uri", .string uri), ("languageId", languageId),
    ("version", .int 0), ("text", .string text)])]

/-- The parameters that replace the whole text of a document. -/
def didChangeParams (uri : String) (version : Int) (text : String) : Value := .object [
  ("textDocument", .object [("uri", .string uri), ("version", .int version)]),
  ("contentChanges", .array [.object [("text", .string text)]])]

/-- The parameters that name a document. -/
def documentMember (uri : String) : String × Value :=
  ("textDocument", .object [("uri", .string uri)])

def didCloseParams (uri : String) : Value := .object [documentMember uri]

def positionValue (position : Position) : Value :=
  .object [("line", .int position.line), ("character", .int position.character)]

def hoverParams (uri : String) (position : Position) : Value :=
  .object [documentMember uri, ("position", positionValue position)]

/-- What made the client ask for completions: the host, or a trigger character. -/
def completionContext : Option Char → Value
  | none => .object [("triggerKind", .int 1)]
  | some trigger =>
    .object [("triggerKind", .int 2), ("triggerCharacter", .string (String.ofList [trigger]))]

def completionParams (uri : String) (position : Position) (trigger : Option Char) : Value :=
  .object [documentMember uri, ("position", positionValue position),
    ("context", completionContext trigger)]

/-- Whether a version fits into its field. -/
def isVersion (version : Int) : Bool :=
  -largestInteger - 1 ≤ version && version ≤ largestInteger

end LanguageClient.Protocol
