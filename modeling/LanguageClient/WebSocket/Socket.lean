import LanguageClient.Failure

/-!
# Sockets

A socket keeps what has arrived until it is read: frames, and the ends that the frames come to. It
takes texts to send until it is closed.
-/

namespace LanguageClient.WebSocket

/-- A frame of a socket. -/
inductive Frame where
  | text (text : String)
  | binary (bytes : ByteArray)

/-- The text of a frame; the bytes of a binary frame are read as UTF-8. -/
def Frame.text? : Frame → Option String
  | .text content => some content
  | .binary bytes => String.fromUTF8? bytes

/-- How the frames of a socket come to their end. -/
inductive Ending where
  | completed
  | broken
  deriving DecidableEq, Repr

/-- Something that arrives over a socket. -/
inductive Arrival where
  | frame (frame : Frame)
  | ending (ending : Ending)

/-- A socket. -/
structure Socket where
  /-- What has arrived and was not read yet, in order. -/
  arrived : List Arrival := []
  closed : Bool := false
  /-- The texts that were sent. -/
  sent : List String := []

/-- The wording for a socket that is closed without the closing handshake. -/
def lossReason : String := "no close frame received or sent"

namespace Socket

def arrive (socket : Socket) (frame : Frame) : Socket :=
  { socket with arrived := socket.arrived ++ [.frame frame] }

/-- The frames come to an end, and the socket is closed. -/
def finish (socket : Socket) (ending : Ending) : Socket :=
  { socket with arrived := socket.arrived ++ [.ending ending], closed := true }

/-- Sends a text. A closed socket takes none. -/
def send (socket : Socket) (text : String) : Except Failure Socket :=
  if socket.closed then .error (.connectionClosed ("connection closed: " ++ lossReason))
  else .ok { socket with sent := socket.sent ++ [text] }

end Socket

end LanguageClient.WebSocket
