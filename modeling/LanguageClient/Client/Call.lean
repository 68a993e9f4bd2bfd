import LanguageClient.CommandLine.Arguments
import LanguageClient.Completion.Ranking
import LanguageClient.Document.PlacedDiagnostic
import LanguageClient.Document.PlacedHover
import LanguageClient.Loop.Scheduler
import LanguageClient.Protocol.Message

/-!
# Calls and their suspended parts

What can be asked of the client, what a call returns, and where a call can be suspended. Every
component is known by its number in the state of the client. A frame stands for the rest of a call
after the point where it awaits another one, and holds the values that the rest needs.
-/

namespace LanguageClient.Client

open LanguageClient.Json LanguageClient.Loop LanguageClient.Number

/-- What a call returns. -/
inductive Reply where
  | nothing
  | result (value : Value)
  | workspace (workspace : Nat)
  | file (file : Nat)
  | hover (hover : Option Document.PlacedHover)
  | completion (completion : Option Completion.Ranked)
  | exitCode (code : Nat)
  deriving DecidableEq, Repr

/-- What a workspace is created from. -/
structure WorkspaceRequest where
  serverUri : String
  rootUri : Value
  folders : Option (List WorkspaceFolder)
  timeout : Quantity
  /-- Why the peer cannot be reached, if it cannot. -/
  unreachable : Option Failure
  deriving DecidableEq, Repr

/-- Who receives the notifications about a document. -/
inductive DocumentListener where
  /-- A callback of the host, known by a name; it may fail after it was called. -/
  | host (name : String) (fails : Bool)
  /-- The editor that shows the document. -/
  | editor (editor : Nat)
  deriving DecidableEq, Repr

/-- A call of the client. -/
inductive Call where
  | request (session : Nat) (method : String) (params : Option Value) (timeout : Option Quantity)
  | notify (session : Nat) (method : String) (params : Option Value)
  | closeSession (session : Nat)
  | answer (session : Nat) (id : Value)
  | createWorkspace (request : WorkspaceRequest)
  | openFile (workspace : Nat) (uri : String) (languageId : Value) (text : String)
      (listeners : List (String × DocumentListener))
  | changeFile (file : Nat) (version : Int) (text : String)
  | closeFile (file : Nat)
  | closeWorkspace (workspace : Nat)
  | flush (synchronizer : Nat) (force : Bool)
  | sendDebounced (synchronizer : Nat)
  | closeSynchronizer (synchronizer : Nat)
  | start (editor : Nat)
  | hover (editor : Nat) (offset : Int)
  | complete (editor : Nat) (offset : Int) (explicit : Bool)
  | refresh (editor : Nat)
  | closeEditor (editor : Nat)
  | runCommand (command : Nat)
  deriving DecidableEq, Repr

/-- What a completion request was asked with. -/
structure CompletionQuery where
  offset : Int
  position : Position
  before : List Char
  trigger : Option Char
  deriving DecidableEq, Repr

/-- The rest of a call after a point where it may be suspended. -/
inductive Frame where
  /-- A call that has not begun. -/
  | begin (call : Call)
  /-- A frame that the connection has not accepted yet. -/
  | sending (link : Nat) (frame : Value)
  /-- A frame is written; the text names it in failures. -/
  | writing (subject : String)
  /-- A request is written; its answer is awaited next. -/
  | requesting (promise : Nat)
  /-- The connection of a session is closed. -/
  | closingLink
  /-- The handshake was sent; its answer comes. -/
  | handshaking (session : Nat) (serverUri : String)
  /-- The handshake is confirmed. -/
  | confirming (session : Nat) (serverUri : String) (result : Protocol.InitializeResult)
  /-- A session whose handshake ended like this is closed. -/
  | abandoningHandshake (ending : Outcome Reply)
  /-- The opening of a document is announced. -/
  | opening (workspace : Nat) (uri : String) (file : Nat)
  /-- The closing of a document is announced. -/
  | closingFile (uri : String)
  /-- The send lock is awaited through a promise. -/
  | locking (synchronizer : Nat) (promise : Nat) (force : Bool)
  /-- A change is sent under the lock. -/
  | changing (synchronizer : Nat) (version : Nat) (wasDirty : Bool)
  /-- A change is sent because the timer fired. -/
  | sendingDebounced (synchronizer : Nat)
  /-- The sends of a synchronizer that closes are awaited. -/
  | settlingSends (synchronizer : Nat)
  /-- The document of a synchronizer that closes is closed. -/
  | detaching (synchronizer : Nat)
  /-- The workspace of an editor is created. -/
  | creatingWorkspace (editor : Nat)
  /-- The document of an editor is opened with a text. -/
  | openingDocument (editor : Nat) (text : String)
  /-- The workspace of an editor whose start ended like this is closed. -/
  | abandoningStart (editor : Nat) (ending : Outcome Reply)
  /-- Edits are flushed before a hover request. -/
  | flushingForHover (editor : Nat) (offset : Int)
  /-- The answer to a hover request comes. -/
  | hovering (editor : Nat) (position : Position)
  /-- Edits are flushed before a completion request. -/
  | flushingForCompletion (editor : Nat) (query : CompletionQuery)
  /-- The answer to a completion request comes. -/
  | completing (query : CompletionQuery)
  /-- The text is sent again for fresh diagnostics. -/
  | refreshing
  /-- The synchronizer of an editor is closed. -/
  | closingSynchronizer (editor : Nat)
  /-- The workspace of an editor is closed; closing the synchronizer ended like this. -/
  | closingWorkspace (editor : Nat) (ending : Outcome Reply)
  /-- The editor of a command starts. -/
  | startingCommand (command : Nat)
  /-- The hover of a command comes. -/
  | hoveringCommand (command : Nat)
  /-- The completions of a command come. -/
  | completingCommand (command : Nat)
  /-- A command waits for diagnostics. -/
  | waitingCommand (command : Nat)
  /-- The editor of a command that ended like this is closed. -/
  | closingCommand (ending : Outcome Reply)
  deriving DecidableEq, Repr

/-- What the scheduler runs besides tasks. -/
inductive Action where
  /-- Removes the entry of a settled request. -/
  | discard (session : Nat) (id : String)
  /-- Ends a request whose time is over. -/
  | expire (session : Nat) (id : String)
  /-- Notes that the answer to a request of the server was written or not. -/
  | answerEnded (session : Nat) (task : Nat)
  /-- Sends a change after a time without edits. -/
  | debounce (synchronizer : Nat)
  /-- Notes that a debounced send has ended. -/
  | sendEnded (synchronizer : Nat) (task : Nat)
  /-- Hands a text of the peer to the session of a connection. -/
  | deliver (link : Nat) (text : String)
  /-- Ends a wait. -/
  | wake (promise : Nat)
  deriving DecidableEq, Repr

end LanguageClient.Client
