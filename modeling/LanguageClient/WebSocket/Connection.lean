import LanguageClient.Log
import LanguageClient.WebSocket.Socket

/-!
# WebSocket connections

A connection hands the frames of its socket to a handler as texts, in the order in which they
arrive. It begins to read when somebody listens for the first time, so that no frame is lost
before. A frame without a text and a handler that fails do not stop the reading. When the frames
come to an end although the connection was not closed here, the host is told once.
-/

namespace LanguageClient.WebSocket

/-- Whether the frames of a connection are read. -/
inductive Reader where
  | absent
  | reading
  | finished
  deriving DecidableEq, Repr

/-- What takes the messages of a connection: given how many messages were handled before, it answers
why it fails on a message, or nothing. -/
abbrev Handler := Nat → String → Option String

/-- Something that a connection has done. -/
inductive Occurrence where
  /-- The handler was called with a text. -/
  | handled (text : String)
  /-- The host was told that the frames have come to their end. -/
  | ended
  | logged (record : LogRecord)
  deriving DecidableEq, Repr

/-- A connection over a socket. -/
structure Connection where
  socket : Socket := {}
  handler : Option Handler := none
  /-- How many messages were handled. -/
  handled : Nat := 0
  /-- Whether the host wants to be told of the end. -/
  watched : Bool := false
  reader : Reader := .absent
  /-- Whether the connection was closed here. -/
  closing : Bool := false
  journal : List Occurrence := []

/-- Why a socket could not be opened. -/
inductive DialFault where
  /-- The network, the server or the time allowed for it stood against it. -/
  | refused (reason : String)
  /-- The address is none. -/
  | invalidUri (uri reason : String)
  /-- An error that has nothing to do with the connection. -/
  | foreign (kind message : String)
  deriving DecidableEq, Repr

def DialFault.failure (uri : String) : DialFault → Failure
  | .refused reason => .unreachable uri reason
  | .invalidUri given reason => .unreachable uri (given ++ " isn't a valid URI: " ++ reason)
  | .foreign kind message => .foreign kind message

namespace Connection

def note (connection : Connection) (occurrence : Occurrence) : Connection :=
  { connection with journal := connection.journal ++ [occurrence] }

/-- Writes a log record. -/
def log (connection : Connection) (level : LogLevel) (text : String) : Connection :=
  connection.note (.logged { level, source := .connection, text })

/-! ## The socket -/

def arrive (connection : Connection) (frame : Frame) : Connection :=
  { connection with socket := connection.socket.arrive frame }

/-- The frames come to an end. -/
def finish (connection : Connection) (ending : Ending) : Connection :=
  { connection with socket := connection.socket.finish ending }

/-- Sends a text. A closed socket takes none. -/
def send (connection : Connection) (text : String) : Except Failure Connection :=
  (connection.socket.send text).map fun socket => { connection with socket }

/-! ## Reading -/

/-- Hands a text to the handler. Without a handler it is lost. -/
def handle (connection : Connection) (text : String) : Connection :=
  match connection.handler with
  | none => connection
  | some handler =>
    let called :=
      { connection.note (.handled text) with handled := connection.handled + 1 }
    match handler connection.handled text with
    | none => called
    | some reason => called.log .error ("message handler failed: " ++ reason)

/-- Reads a frame; one without a text is dropped. -/
def readFrame (connection : Connection) (frame : Frame) : Connection :=
  match frame.text? with
  | none => connection.log .error "dropping binary frame that is not UTF-8"
  | some text => connection.handle text

/-- Ends the reading. The host is told, unless the connection was closed here. -/
def endReading (connection : Connection) (ending : Ending) : Connection :=
  let logged :=
    match ending with
    | .completed => connection
    | .broken => connection.log .warning ("connection lost: " ++ lossReason)
  let finished := { logged with reader := .finished }
  if connection.closing || !connection.watched then finished else finished.note .ended

/-- Takes the first thing that has arrived off the socket. -/
def takeOff (connection : Connection) (rest : List Arrival) : Connection :=
  { connection with socket := { connection.socket with arrived := rest } }

/-- One step of the reader: it reads the next frame, or comes to the end of the frames. -/
def readNext (connection : Connection) : Connection :=
  match connection.reader with
  | .absent | .finished => connection
  | .reading =>
    match connection.socket.arrived with
    | [] => connection
    | .frame frame :: rest => (connection.takeOff rest).readFrame frame
    | .ending ending :: rest => (connection.takeOff rest).endReading ending

/-- Reads everything that has arrived, up to the end of the frames. -/
def readAll (connection : Connection) : Connection :=
  (List.range connection.socket.arrived.length).foldl (fun connection _ => connection.readNext)
    connection

/-! ## The host -/

/-- Sets or removes the handler; the first time, the reading begins. -/
def listen (connection : Connection) (handler : Option Handler) : Connection :=
  { connection with
    handler
    reader :=
      match connection.reader with
      | .absent => .reading
      | .reading => .reading
      | .finished => .finished }

/-- Asks to be told of the end. -/
def watch (connection : Connection) : Connection := { connection with watched := true }

/-- Begins to close the connection: the host is not told of an end from now on. -/
def beginClosing (connection : Connection) : Connection := { connection with closing := true }

/-- Stops the reader. What was not read stays on the socket for whoever reads later. -/
def stopReading (connection : Connection) : Connection := { connection with reader := .absent }

/-- Closes the connection: its socket is closed, which brings the frames to an end, and nothing more
is read. -/
def close (connection : Connection) : Connection :=
  (connection.beginClosing.finish .completed).stopReading

end Connection

end LanguageClient.WebSocket
