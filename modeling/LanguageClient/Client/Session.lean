import LanguageClient.Client.Connection
import LanguageClient.Json.Reader

/-!
# Sessions

A session numbers its requests, gives each response to the request that it names, ends requests
whose time is over, answers every request of the peer with null, and passes notifications on to one
listener.
-/

namespace LanguageClient.Client

open LanguageClient.Json LanguageClient.Loop LanguageClient.Number LanguageClient.Protocol

def requestId (number : Nat) : String := intText number

def Session.find? (session : Session) (id : String) : Option PendingRequest :=
  session.pending.find? fun entry => entry.id = id

/-- The code of an error: an integer, a truth value as one or zero, or that of an internal error. -/
def errorCode (code : Option Value) : Int × Value :=
  match code with
  | some (.int code) => (code, .int code)
  | some (.bool code) => (if code then 1 else 0, .bool code)
  | _ => (ResponseErrorKind.internalError.defaultCode,
      .int ResponseErrorKind.internalError.defaultCode)

/-- The failure that the error of a response stands for. An error that is not an object is taken for
its message. A code that is no signed integer of 32 bits cannot be represented. -/
def responseFailure (error : Value) : Except Failure Failure :=
  let members : List (String × Value) :=
    match error with
    | .object members => members
    | _ => [("message", .string error.display)]
  let (code, shown) := errorCode (member? "code" members)
  let message := ((member? "message" members).map Value.display).getD ""
  if isVersion code then
    .ok (.response (ResponseError.of code shown message ((member? "data" members).getD .null)))
  else .error .outOfRange

namespace System

/-- Adds a session that listens to a connection; its number is the number of sessions before. -/
def addSession (system : System) (link : Nat) (defaultTimeout : Quantity) : System :=
  { system with
    sessions := system.sessions ++ [{ link, defaultTimeout }]
    links := system.links.modify link fun found =>
      { found with session := some system.sessions.length } }

/-! ## Writing -/

/-- Goes on after a frame was written. A failure of another kind than those of the transport is
reported as one. -/
def resumeWriting (subject : String) (system : System) (outcome : Outcome Reply) : Step :=
  match outcome with
  | .failed failure =>
    .failed system (if failure.isTransport then failure else .unsent subject failure.message)
  | .returned _ | .cancelled => .ended system outcome

/-- Writes a frame; the subject names it in failures. -/
def write (system : System) (session : Nat) (subject : String) (frame : Value) : Step :=
  match system.sessions[session]? with
  | none => .failed system .missing
  | some found =>
    Step.andThen (system.send found.link frame) (.writing subject) (resumeWriting subject)

/-! ## Requests and notifications -/

/-- Goes on after a request was written: its answer is awaited. If it was not written, the request
is withdrawn. -/
def resumeRequesting (promise : Nat) (system : System) (outcome : Outcome Reply) : Step :=
  match outcome with
  | .returned _ => system.await promise
  | .failed _ | .cancelled => .ended (system.settle promise .cancelled) outcome

/-- Counts a request; its id is taken from then on. -/
def countRequest (system : System) (session : Nat) : System :=
  system.modifySession session fun found => { found with requests := found.requests + 1 }

/-- Notes a request before it is written: its promise, its deadline and its entry. -/
def registerRequest (system : System) (session : Nat) (id method : String) (timeout : Quantity)
    (delay : Delay) : System :=
  let promise := system.nextPromise
  let timer := system.loop.timersArmed
  let system := system.onLoop fun loop =>
    ((loop.addPromise {}).arm delay (.expire session id)).whenSettled promise
      (.act (.discard session id))
  system.modifySession session fun found =>
    { found with pending := found.pending ++ [{ id, method, timeout, promise, timer }] }

/-- Sends a request and awaits its result. A request whose parameters cannot be written stays
registered until its time is over. -/
def request (system : System) (session : Nat) (method : String) (params : Option Value)
    (timeout : Option Quantity) : Step :=
  match system.sessions[session]? with
  | none => .failed system .missing
  | some found =>
    if found.closed then .failed system (.sessionClosed method)
    else
      let id := requestId (found.requests + 1)
      let timeout := timeout.getD found.defaultTimeout
      let system := system.countRequest session
      match timeout.delay? with
      | none => .failed system .tooLarge
      | some delay =>
        let promise := system.nextPromise
        let system := system.registerRequest session id method timeout delay
        if params.all isWritable then
          Step.andThen (system.write session method (requestMessage id method params))
            (.requesting promise) (resumeRequesting promise)
        else .failed system .nestedTooDeep

/-- Sends a notification; the call ends when the connection has accepted it. -/
def notify (system : System) (session : Nat) (method : String) (params : Option Value) : Step :=
  match system.sessions[session]? with
  | none => .failed system .missing
  | some found =>
    if found.closed then .failed system (.sessionClosed method)
    else if params.all isWritable then
      system.write session method (notificationMessage method params)
    else .failed system .nestedTooDeep

/-! ## The end of requests -/

/-- Removes the entry of a request and disarms its timer. -/
def discard (system : System) (session : Nat) (id : String) : System :=
  match (system.sessions[session]?).bind (·.find? id) with
  | none => system
  | some entry =>
    (system.modifySession session fun found =>
      { found with pending := found.pending.filter fun other => other.id ≠ id }).disarm entry.timer

/-- The entry of a request that is not settled yet. -/
def openRequest? (system : System) (session : Nat) (id : String) : Option PendingRequest :=
  ((system.sessions[session]?).bind (·.find? id)).filter fun entry =>
    !system.loop.isSettled entry.promise

/-- Ends a request whose time is over. -/
def expire (system : System) (session : Nat) (id : String) : System :=
  match system.openRequest? session id with
  | none => system
  | some entry =>
    let failure : Failure := .timedOut entry.method id entry.timeout
    (system.log .warning .session ("request " ++ failure.message)).settle entry.promise
      (.failed failure)

/-- Ends an outstanding request together with its session. -/
def abandonRequest (reason : SessionEnd) (system : System) (entry : PendingRequest) : System :=
  (system.disarm entry.timer).settle entry.promise
    (.failed (.abandoned entry.method entry.id reason))

def abandonRequests (system : System) (session : Nat) (reason : SessionEnd) : System :=
  match system.sessions[session]? with
  | none => system
  | some found =>
    (found.pending.foldl (abandonRequest reason) system).modifySession session fun found =>
      { found with pending := [] }

/-- Goes on after the connection of a session was closed; a failure to do so does not matter. -/
def resumeClosingLink (system : System) (outcome : Outcome Reply) : Step :=
  match outcome with
  | .returned _ | .failed _ => .returned system .nothing
  | .cancelled => .ended system .cancelled

/-- Closes a session: outstanding requests end, answers to the peer are dropped, and the connection
is closed. -/
def closeSession (system : System) (session : Nat) : Step :=
  match system.sessions[session]? with
  | none => .failed system .missing
  | some found =>
    if found.closed then .returned system .nothing
    else
      let system := system.modifySession session fun found => { found with closed := true }
      let system := system.abandonRequests session .closed
      let system := system.onLoop fun loop =>
        found.answers.foldl (fun loop task => loop.cancel task) loop
      Step.andThen (system.closeLink found.link) .closingLink resumeClosingLink

/-- Ends a session whose connection was lost. -/
def loseConnection (system : System) (session : Nat) : System :=
  match system.sessions[session]? with
  | none => system
  | some found =>
    if found.closed then system
    else
      let system := system.log .warning .session "connection lost, failing outstanding requests"
      let system := system.modifySession session fun found => { found with closed := true }
      system.abandonRequests session .lost

/-! ## Messages of the peer -/

/-- Writes the answer to a request of the peer. -/
def answer (system : System) (session : Nat) (id : Value) : Step :=
  system.write session "response" (answerMessage id)

/-- Starts a task that answers a request of the peer, unless the session is closed. -/
def takeRequest (system : System) (session : Nat) (id : Value) : System :=
  match system.sessions[session]? with
  | none => system
  | some found =>
    if found.closed then system
    else
      let task := system.nextTask
      ((system.spawn (.answer session id)).whenEnded task (.answerEnded session task)).modifySession
        session fun found => { found with answers := found.answers ++ [task] }

def endAnswer (system : System) (session task : Nat) : System :=
  let system := system.modifySession session fun found =>
    { found with answers := found.answers.filter fun other => other ≠ task }
  match ((system.loop.tasks[task]?).bind fun found => system.loop.outcome? found.completion) with
  | some (.failed failure) =>
    system.log .error .session ("failed to answer server request: " ++ failure.message)
  | some (.returned _) | some .cancelled | none => system

/-- Settles the request that a response names. -/
def takeResponse (system : System) (session : Nat) (id : String) (message : Value) :
    System × Option Failure :=
  match system.openRequest? session id with
  | none =>
    (system.log .warning .session
      ("dropping response for unknown or expired request id=" ++ id), none)
  | some entry =>
    match message.present? "error" with
    | none =>
      let result := (message.get? "result").getD .null
      (system.settle entry.promise (.returned (.result result)), none)
    | some error =>
      match responseFailure error with
      | .ok failure => (system.settle entry.promise (.failed failure), none)
      | .error failure => (system, some failure)

/-- How much of a frame is shown in a message. -/
def shownLength : Nat := 80

/-- The beginning of a frame. -/
def shownPart (raw : String) : String := String.ofList (raw.toList.take shownLength)

/-- The name of the type of a value that cannot be a key. -/
def unusableKey? : Value → Option String
  | .array _ => some "list"
  | .object _ => some "dict"
  | .null | .bool _ | .int _ | .float _ | .string _ => none

/-- Handles one text of the peer. The listener of a workspace is given; the result holds a failure
that goes through to the reader of the connection. -/
def takeMessage (system : System) (session : Nat) (raw : String)
    (tellWorkspace : System → Nat → Value → Value → System × Option Failure) :
    System × Option Failure :=
  match Value.ofText raw with
  | .error .malformed => (system.log .error .session "dropping malformed frame", none)
  | .error .nestedTooDeep => (system, some .nestedTooDeep)
  | .ok (.object members) =>
    let message := Value.object members
    match message.present? "method", message.present? "id" with
    | some _, some id => (system.takeRequest session id, none)
    | some method, none =>
      let params := (message.get? "params").getD .null
      match (system.sessions[session]?).map (·.listener) with
      | none | some .nobody =>
        (system.log .warning .session
          ("no notification handler registered, dropping " ++ method.display), none)
      | some listener =>
        let (system, failure) :=
          match listener with
          | .workspace workspace => tellWorkspace system workspace method params
          | .host fails => (system.note (.told (.notification method params)),
              if fails then some (.foreign "RuntimeError" "handler broke") else none)
          | .nobody => (system, none)
        match failure with
        | none => (system, none)
        | some failure =>
          (system.log .error .session
            ("notification handler failed for " ++ method.display ++ ": " ++ failure.message), none)
    | none, some id => system.takeResponse session id.display message
    | none, none =>
      (system.log .warning .session ("unrecognised message: " ++ shownPart raw), none)
  | .ok _ => (system.log .error .session ("dropping non-object frame: " ++ shownPart raw), none)

end System

end LanguageClient.Client
