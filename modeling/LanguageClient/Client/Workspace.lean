import LanguageClient.Client.Session

/-!
# Workspaces and open files

A workspace is a session after its handshake. It keeps the open files by uri, and passes
notifications about a document on to the listeners of the file that is open under its uri.
-/

namespace LanguageClient.Client

open LanguageClient.Json LanguageClient.Loop LanguageClient.Number LanguageClient.Protocol

def endingText : Outcome Reply → String
  | .failed failure => failure.message
  | .returned _ | .cancelled => ""

/-- The level of a message that the peer asks to show. -/
def serverLogLevel (type : Option Value) : LogLevel :=
  match type.bind Value.integral? with
  | some 1 => .error
  | some 2 => .warning
  | some 3 => .info
  | _ => .debug

namespace System

/-! ## The handshake -/

/-- Goes on after a session was closed whose handshake did not succeed. -/
def resumeAbandoningHandshake (ending : Outcome Reply) (system : System)
    (outcome : Outcome Reply) : Step :=
  match outcome with
  | .returned _ => .ended system ending
  | .failed _ | .cancelled => .ended system outcome

/-- Closes a session whose handshake did not succeed; the call ends like the handshake. -/
def abandonHandshake (system : System) (session : Nat) (serverUri : String)
    (ending : Outcome Reply) : Step :=
  let system := system.log .error .workspace
    ("initialize failed for " ++ serverUri ++ ": " ++ endingText ending)
  Step.andThen (system.closeSession session) (.abandoningHandshake ending)
    (resumeAbandoningHandshake ending)

def addWorkspace (system : System) (session : Nat) (result : InitializeResult) : System :=
  let workspace : Workspace :=
    { session, capabilities := result.capabilities, serverInfo := result.serverInfo }
  let added := { system with workspaces := system.workspaces ++ [workspace] }
  added.modifySession session fun found =>
    { found with listener := .workspace system.workspaces.length }

/-- Goes on after the handshake was confirmed. -/
def resumeConfirming (session : Nat) (serverUri : String) (result : InitializeResult)
    (system : System) (outcome : Outcome Reply) : Step :=
  match outcome with
  | .returned _ =>
    .returned (system.addWorkspace session result) (.workspace system.workspaces.length)
  | .failed _ | .cancelled => system.abandonHandshake session serverUri outcome

/-- Goes on after the answer to the handshake has come. -/
def resumeHandshaking (session : Nat) (serverUri : String) (system : System)
    (outcome : Outcome Reply) : Step :=
  match outcome with
  | .returned (.result raw) =>
    match initializeResultOf raw with
    | .error failure => system.abandonHandshake session serverUri (.failed failure)
    | .ok result =>
      Step.andThen (system.notify session Method.handshakeDone (some (.object [])))
        (.confirming session serverUri result) (resumeConfirming session serverUri result)
  | .returned _ => system.abandonHandshake session serverUri (.failed .missing)
  | .failed _ | .cancelled => system.abandonHandshake session serverUri outcome

/-- Connects to a server and performs the handshake. -/
def createWorkspace (system : System) (request : WorkspaceRequest) : Step :=
  let system := system.note (.dialled request.serverUri)
  match request.unreachable with
  | some failure => .failed system failure
  | none =>
    let session := system.sessions.length
    let (system, link) := system.connect
    let system := system.addSession link request.timeout
    let params := handshakeParams request.rootUri request.folders
    let timeout := request.timeout.scale Options.handshakeFactor
    Step.andThen (system.request session Method.handshake (some params) (some timeout))
      (.handshaking session request.serverUri) (resumeHandshaking session request.serverUri)

/-! ## Open files -/

def openFile? (system : System) (workspace : Nat) (uri : String) : Option Nat :=
  (system.workspaces[workspace]?).bind fun found => found.openFiles.lookup uri

def isOpen (system : System) (file : Nat) : Bool :=
  match system.files[file]? with
  | none => false
  | some found => system.openFile? found.workspace found.uri = some file

/-- Removes whatever file is open under a uri. -/
def unregister (system : System) (workspace : Nat) (uri : String) : System :=
  system.modifyWorkspace workspace fun found =>
    { found with openFiles := found.openFiles.filter fun entry => entry.1 ≠ uri }

/-- Sends a notification in the session of a workspace. -/
def notifyIn (system : System) (workspace : Nat) (method : String) (params : Value) : Step :=
  match system.workspaces[workspace]? with
  | none => .failed system .missing
  | some found => system.notify found.session method (some params)

/-- Goes on after the opening of a document was announced. If it was not, the uri is free again. -/
def resumeOpening (workspace : Nat) (uri : String) (file : Nat) (system : System)
    (outcome : Outcome Reply) : Step :=
  match outcome with
  | .returned _ => .returned system (.file file)
  | .failed _ | .cancelled => .ended (system.unregister workspace uri) outcome

/-- Registers a new handle under its uri. -/
def addFile (system : System) (file : OpenFile) : System :=
  let added := { system with files := system.files ++ [file] }
  added.modifyWorkspace file.workspace fun found =>
    { found with openFiles := found.openFiles ++ [(file.uri, system.files.length)] }

/-- Opens a document at version zero. The handle is registered before the document is announced, so
the uri is taken from then on. -/
def openFile (system : System) (workspace : Nat) (uri : String) (languageId : Value)
    (text : String) (listeners : List (String × DocumentListener)) : Step :=
  match system.openFile? workspace uri with
  | some _ => .failed system (.documentAlreadyOpen uri)
  | none =>
    let file := system.files.length
    let system := system.addFile { workspace, uri, languageId, listeners }
    Step.andThen (system.notifyIn workspace Method.didOpen (didOpenParams uri languageId text))
      (.opening workspace uri file) (resumeOpening workspace uri file)

/-- Sends the whole text of an open file under a version. -/
def changeFile (system : System) (file : Nat) (version : Int) (text : String) : Step :=
  match system.files[file]? with
  | none => .failed system .missing
  | some found =>
    if !system.isOpen file then .failed system (.documentClosed found.uri)
    else if !isVersion version then .failed system .outOfRange
    else system.notifyIn found.workspace Method.didChange (didChangeParams found.uri version text)

/-- Goes on after the closing of a document was announced; a failure is only logged. -/
def resumeClosingFile (uri : String) (system : System) (outcome : Outcome Reply) : Step :=
  match outcome with
  | .failed failure =>
    .returned (system.log .error .workspace
      ("failed to send didClose for " ++ uri ++ ": " ++ failure.message)) .nothing
  | .returned _ => .returned system .nothing
  | .cancelled => .ended system .cancelled

def closeFile (system : System) (file : Nat) : Step :=
  match system.files[file]? with
  | none => .failed system .missing
  | some found =>
    if !system.isOpen file then .returned system .nothing
    else
      let system := system.unregister found.workspace found.uri
      Step.andThen (system.notifyIn found.workspace Method.didClose (didCloseParams found.uri))
        (.closingFile found.uri) (resumeClosingFile found.uri)

/-- Closes a workspace; its open files are dropped. -/
def closeWorkspace (system : System) (workspace : Nat) : Step :=
  match system.workspaces[workspace]? with
  | none => .failed system .missing
  | some found =>
    (system.modifyWorkspace workspace fun found => { found with openFiles := [] }).closeSession
      found.session

/-! ## Notifications of the peer -/

/-- Writes a log record for a message that the peer asks to show. -/
def showMessage (system : System) (params : Value) : System :=
  match params with
  | .object members =>
    let text := ((member? "message" members).map Value.display).getD ""
    system.log (serverLogLevel (member? "type" members)) .workspace ("[server] " ++ text)
  | _ => system

/-- Hands published diagnostics to the listener of a file. -/
def publish (system : System) (listener : DocumentListener) (params : Value)
    (tellEditor : System → Nat → PublishedDiagnostics → System × Option Failure) :
    System × Option Failure :=
  match publishedDiagnosticsOf params with
  | .error failure => (system, some failure)
  | .ok diagnostics =>
    match listener with
    | .editor editor => tellEditor system editor diagnostics
    | .host name fails => (system.note (.told (.published name diagnostics)),
        if fails then some (.foreign "RuntimeError" "handler broke") else none)

/-- The listener of the file that is open under the uri in some parameters. A list or an object
cannot be a uri. -/
def documentListener? (system : System) (workspace : Nat) (method : String) (params : Value) :
    Except Failure (Option DocumentListener) :=
  match params.get? "uri" with
  | none => .ok none
  | some uri =>
    match unusableKey? uri, uri with
    | some typeName, _ => .error (.unusableKey typeName)
    | none, .string uri => .ok do
        let file ← system.openFile? workspace uri
        let found ← system.files[file]?
        found.listeners.lookup method
    | none, _ => .ok none

/-- Handles a notification of the peer. Editors are told through the given function. -/
def takeNotification (tellEditor : System → Nat → PublishedDiagnostics → System × Option Failure)
    (system : System) (workspace : Nat) (method params : Value) : System × Option Failure :=
  match unusableKey? method with
  | some typeName => (system, some (.unusableKey typeName))
  | none =>
    if method = .string Method.publishDiagnostics then
      match system.documentListener? workspace Method.publishDiagnostics params with
      | .error failure => (system, some failure)
      | .ok none => (system, none)
      | .ok (some listener) => system.publish listener params tellEditor
    else if method = .string Method.logMessage || method = .string Method.showMessage then
      (system.showMessage params, none)
    else (system, none)

end System

end LanguageClient.Client
