import LanguageClient.WebSocket.Connection
import LanguageClient.Number.Quantity
import LanguageClient.Simulation.Stage

/-!
# Simulated sockets

A script for WebSocket connections: the host connects, listens, sends and closes, and the peer sends
frames and closes. There is one socket, which all connections share; the host uses the one that was
made last. After each step everything is read that has arrived, by the reader that has waited for it
the longest.
-/

namespace LanguageClient.Simulation

open LanguageClient.Json LanguageClient.WebSocket

/-- A step of a script for a socket. -/
inductive SocketStep where
  /-- The host connects with a limit of the time for it. -/
  | connect (uri : String) (limit : Value) (fault : Option DialFault)
  /-- The host listens; its handler may fail on every message. -/
  | listen (fails : Bool)
  | mute
  | watch
  | arrive (frame : Frame)
  | finish (ending : Ending)
  | send (text : String)
  | close
  /-- Nothing happens. -/
  | rest

/-- What a call of the host returns. -/
inductive SocketReply where
  | connected
  | finished
  deriving DecidableEq, Repr

/-- What a step shows. -/
inductive SocketShown where
  | dialled (uri : String) (limit : Value)
  | message (text : String)
  | closed
  deriving DecidableEq, Repr

/-- What happened in a step of a script for a socket. -/
structure SocketReport where
  ended : Option (Except Failure SocketReply)
  logs : List LogRecord
  shown : List SocketShown
  sent : List String

/-- What the script's handler answers: it fails on every message or on none. -/
def scriptedHandler (fails : Bool) : Handler :=
  fun _ _ => if fails then some "handler broke" else none

/-- What is shown of something that a connection has done. -/
def shownOf : Occurrence → Option SocketShown
  | .handled text => some (.message text)
  | .ended => some .closed
  | .logged _ => none

/-- The log record in something that a connection has done. -/
def recordOf : Occurrence → Option LogRecord
  | .logged record => some record
  | .handled _ | .ended => none

/-- The socket of a simulation and the connections over it. -/
structure SocketStage where
  socket : Socket := {}
  /-- The connections in the order in which they were made. -/
  connections : List Connection := []
  /-- The connections whose readers wait, the one that has waited longest first. -/
  waiting : List Nat := []

namespace SocketStage

def onConnection (stage : SocketStage) (number : Nat) (change : Connection → Connection) :
    SocketStage :=
  match stage.connections[number]? with
  | none => stage
  | some found =>
    let changed := change { found with socket := stage.socket }
    { stage with socket := changed.socket, connections := stage.connections.set number changed }

/-- Whether a connection has a reader that has not come to an end. -/
def isReading (stage : SocketStage) (number : Nat) : Bool :=
  (stage.connections[number]?).any fun found => found.reader == .reading

/-- The waiting readers take what has arrived, one thing each in turn. The fuel bounds the number of
things. -/
def feed : Nat → SocketStage → SocketStage
  | 0, stage => stage
  | fuel + 1, stage =>
    match stage.waiting, stage.socket.arrived with
    | [], _ | _, [] => stage
    | number :: rest, _ :: _ =>
      let read := stage.onConnection number Connection.readNext
      feed fuel { read with
        waiting := if read.isReading number then rest ++ [number] else rest }

/-- Lets the waiting readers take everything that has arrived. -/
def feedAll (stage : SocketStage) : SocketStage := feed stage.socket.arrived.length stage

/-- The number of the connection that was made last. -/
def current (stage : SocketStage) : Nat := stage.connections.length - 1

/-- The host listens with a handler or without. A new reader first reads what has arrived, and then
waits. -/
def listen (stage : SocketStage) (handler : Option Handler) : SocketStage :=
  let number := stage.current
  let listening := stage.onConnection number (·.listen handler)
  if !listening.isReading number || stage.waiting.contains number then listening
  else
    let read := listening.onConnection number Connection.readAll
    if read.isReading number then { read with waiting := read.waiting ++ [number] } else read

/-- The host closes its connection, whose reader waits no longer. -/
def close (stage : SocketStage) : SocketStage :=
  let number := stage.current
  let closed := stage.onConnection number Connection.close
  { closed with waiting := closed.waiting.filter fun other => other ≠ number }

/-- Everything that the connections have done. -/
def journals (stage : SocketStage) : List (List Occurrence) :=
  stage.connections.map (·.journal)

end SocketStage

/-- What the connections have done since an earlier state. -/
def doneBetween (before after : SocketStage) : List Occurrence :=
  ((List.range after.connections.length).map fun number =>
    ((after.journals[number]?).getD []).drop ((before.journals[number]?).getD []).length).flatten

/-- The report of a step that led from one state to another one. -/
def reportBetween (before after : SocketStage) (ended : Option (Except Failure SocketReply))
    (shown : List SocketShown) : SocketReport :=
  let journal := doneBetween before after
  { ended
    logs := (journal.filterMap recordOf).filter isShown
    shown := shown ++ journal.filterMap shownOf
    sent := after.socket.sent.drop before.socket.sent.length }

/-- The host connects, or finds a fault. -/
def connect (stage : SocketStage) (uri : String) :
    Option DialFault → SocketStage × Except Failure SocketReply
  | none => ({ stage with connections := stage.connections ++ [{}] }, .ok .connected)
  | some fault => (stage, .error (fault.failure uri))

/-- What a step changes, and what the call in it returns. -/
def SocketStage.begin (stage : SocketStage) (step : SocketStep) :
    SocketStage × Option (Except Failure SocketReply) :=
  let connected := !stage.connections.isEmpty
  match step with
  | .connect uri _ fault =>
    let (stage, reply) := connect stage uri fault
    (stage, some reply)
  | .listen fails => (stage.listen (some (scriptedHandler fails)), none)
  | .mute => (stage.listen none, none)
  | .watch => (stage.onConnection stage.current Connection.watch, none)
  | .arrive frame => ({ stage with socket := stage.socket.arrive frame }, none)
  | .finish ending => ({ stage with socket := stage.socket.finish ending }, none)
  | .send text =>
    if connected then
      match stage.socket.send text with
      | .ok socket => ({ stage with socket }, some (.ok .finished))
      | .error failure => (stage, some (.error failure))
    else (stage, none)
  | .close => if connected then (stage.close, some (.ok .finished)) else (stage, none)
  | .rest => (stage, none)

def SocketStep.shown : SocketStep → List SocketShown
  | .connect uri limit _ => [.dialled uri limit]
  | .listen _ | .mute | .watch | .arrive _ | .finish _ | .send _ | .close | .rest => []

/-- Plays a step of a script and lets everything be read that has arrived. -/
def SocketStage.play (stage : SocketStage) (step : SocketStep) : SocketStage × SocketReport :=
  let (begun, ended) := stage.begin step
  let after := begun.feedAll
  (after, reportBetween stage after ended step.shown)

end LanguageClient.Simulation
