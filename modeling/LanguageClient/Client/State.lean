import LanguageClient.Client.Peer
import LanguageClient.Log

/-!
# The state of the client

Sessions, workspaces, open files, synchronizers and editors, each known by its number, together with
the scheduler, the peer and a journal of all that happened.
-/

namespace LanguageClient.Client

open LanguageClient.Json LanguageClient.Loop LanguageClient.Number

/-- A request that awaits its response. -/
structure PendingRequest where
  id : String
  method : String
  timeout : Quantity
  promise : Nat
  timer : Nat
  deriving DecidableEq, Repr

/-- Who receives the notifications of the peer. -/
inductive SessionListener where
  | nobody
  /-- A callback of the host; it may fail after it was called. -/
  | host (fails : Bool)
  | workspace (workspace : Nat)
  deriving DecidableEq, Repr

/-- One conversation with the peer over a connection. -/
structure Session where
  link : Nat
  defaultTimeout : Quantity
  /-- How many requests were made; the ids count them. -/
  requests : Nat := 0
  /-- The requests without an answer, in the order in which they were made. -/
  pending : List PendingRequest := []
  listener : SessionListener := .nobody
  /-- The tasks that write answers to requests of the peer. -/
  answers : List Nat := []
  closed : Bool := false
  deriving DecidableEq, Repr

/-- A session after its handshake, with the documents that are open in it. -/
structure Workspace where
  session : Nat
  capabilities : Protocol.Capabilities
  serverInfo : Option Protocol.ServerInfo
  /-- The open files by uri, in the order in which they were opened. -/
  openFiles : List (String × Nat) := []
  deriving DecidableEq, Repr

/-- A handle to a document that was opened in a workspace. -/
structure OpenFile where
  workspace : Nat
  uri : String
  /-- The language as the host gave it, which should be a text. -/
  languageId : Value
  /-- The receivers of notifications about the document, by method. -/
  listeners : List (String × DocumentListener)
  deriving DecidableEq, Repr

/-- A lock that is handed on in the order of arrival. -/
structure Lock where
  held : Bool := false
  /-- The promises of those who wait. -/
  waiters : List Nat := []
  deriving DecidableEq, Repr

/-- Keeps the text of one document at the peer up to date. -/
structure Synchronizer where
  uri : String
  /-- The language as the host gave it, which should be a text. -/
  languageId : Value
  text : String
  debounce : Quantity
  version : Nat := 0
  /-- Whether the text may differ from what was sent. -/
  dirty : Bool := false
  file : Option Nat := none
  timer : Option Nat := none
  /-- The tasks that send because the timer fired. -/
  sends : List Nat := []
  lock : Lock := {}
  deriving DecidableEq, Repr

/-- What the host does with new diagnostics. -/
inductive DiagnosticsListener where
  | nobody
  | host (fails : Bool)
  deriving DecidableEq, Repr

/-- One document of the host at a language server. -/
structure Editor where
  serverUri : String
  documentUri : Value
  languageId : Value
  rootUri : Value
  folders : Option (List WorkspaceFolder)
  timeout : Quantity
  synchronizer : Nat
  listener : DiagnosticsListener
  unreachable : Option Failure := none
  workspace : Option Nat := none
  diagnostics : List Document.PlacedDiagnostic := []
  deriving DecidableEq, Repr

/-- A run of the command line. -/
structure Command where
  editor : Nat
  snapshot : Document.Snapshot
  hover : Option Position
  complete : Option Position
  wait : Binary64
  deriving DecidableEq, Repr

/-- What a callback of the host was told. -/
inductive HostEvent where
  | notification (method params : Value)
  | published (name : String) (diagnostics : Protocol.PublishedDiagnostics)
  | diagnostics (diagnostics : List Document.PlacedDiagnostic)
  deriving DecidableEq, Repr

/-- Something that happened. -/
inductive Occurrence where
  /-- A connection was asked for. -/
  | dialled (uri : String)
  /-- A frame was handed to a connection. -/
  | handed (link : Nat) (frame : Value)
  /-- The peer accepted a frame. -/
  | accepted (link : Nat) (frame : Value)
  /-- A connection was told to close. -/
  | closedLink (link : Nat)
  /-- A log record was written. -/
  | logged (record : LogRecord)
  /-- A callback of the host was called. -/
  | told (event : HostEvent)
  /-- A failure went through to the reader of a connection, or to a host that does not wait. -/
  | escaped (failure : Failure)
  /-- A task ended. -/
  | ended (task : Nat) (outcome : Outcome Reply)
  /-- A line was printed. -/
  | printed (line : String)
  deriving DecidableEq, Repr

/-- The scheduler of the client. -/
abbrev ClientLoop := Scheduler Frame Action Reply

/-- The state of the client. -/
structure System where
  loop : ClientLoop := {}
  peer : Peer := {}
  links : List Link := []
  sessions : List Session := []
  workspaces : List Workspace := []
  files : List OpenFile := []
  synchronizers : List Synchronizer := []
  editors : List Editor := []
  commands : List Command := []
  journal : List Occurrence := []
  deriving DecidableEq, Repr

/-- Where a call has got to: it has ended, or its frames wait for a promise. -/
inductive Progress where
  | ended (outcome : Outcome Reply)
  | suspended (frames : List Frame) (promise : Nat)
  deriving DecidableEq, Repr

/-- A state and where a call has got to in it. -/
abbrev Step := System × Progress

def Step.returned (system : System) (reply : Reply) : Step := (system, .ended (.returned reply))

def Step.failed (system : System) (failure : Failure) : Step := (system, .ended (.failed failure))

/-- A call that ends like another one. -/
def Step.ended (system : System) (outcome : Outcome Reply) : Step := (system, .ended outcome)

/-- Goes on with the rest of a call when a call inside it has ended; if that is suspended, the frame
of the rest is kept. -/
def Step.andThen (step : Step) (frame : Frame) (rest : System → Outcome Reply → Step) : Step :=
  match step with
  | (system, .ended outcome) => rest system outcome
  | (system, .suspended frames promise) => (system, .suspended (frames ++ [frame]) promise)

namespace System

def onLoop (system : System) (change : ClientLoop → ClientLoop) : System :=
  { system with loop := change system.loop }

/-- Notes something in the journal. -/
def note (system : System) (occurrence : Occurrence) : System :=
  { system with journal := system.journal ++ [occurrence] }

/-- Writes a log record. -/
def log (system : System) (level : LogLevel) (source : LogSource) (text : String) : System :=
  system.note (.logged { level, source, text })

def modifySession (system : System) (session : Nat) (change : Session → Session) : System :=
  { system with sessions := system.sessions.modify session change }

def modifyWorkspace (system : System) (workspace : Nat) (change : Workspace → Workspace) : System :=
  { system with workspaces := system.workspaces.modify workspace change }

def modifySynchronizer (system : System) (synchronizer : Nat)
    (change : Synchronizer → Synchronizer) : System :=
  { system with synchronizers := system.synchronizers.modify synchronizer change }

def modifyEditor (system : System) (editor : Nat) (change : Editor → Editor) : System :=
  { system with editors := system.editors.modify editor change }

def addPromise (system : System) : System := system.onLoop (·.addPromise {})

def nextPromise (system : System) : Nat := system.loop.nextPromise

def settle (system : System) (promise : Nat) (outcome : Outcome Reply) : System :=
  system.onLoop (·.settle promise outcome)

def disarm (system : System) (timer : Nat) : System := system.onLoop (·.disarm timer)

/-- Starts a task for a call. -/
def spawn (system : System) (call : Call) : System := system.onLoop (·.spawn [.begin call])

def nextTask (system : System) : Nat := system.loop.nextTask

def whenEnded (system : System) (task : Nat) (action : Action) : System :=
  match system.loop.tasks[task]? with
  | none => system
  | some found => system.onLoop (·.whenSettled found.completion (.act action))

/-- Awaits a promise; if it is settled already, the call goes on at once. -/
def await (system : System) (promise : Nat) : Step :=
  match system.loop.outcome? promise with
  | some outcome => (system, .ended outcome)
  | none => (system, .suspended [] promise)

end System

end LanguageClient.Client
