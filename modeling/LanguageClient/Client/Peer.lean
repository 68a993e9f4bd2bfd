import LanguageClient.Client.Call

/-!
# The peer and its connections

A connection takes whole frames. The peer decides when it accepts them, whether it refuses them, and
what it answers: it may hold frames back until they are released, and it may follow a script of
replies to the methods of the client.
-/

namespace LanguageClient.Client

open LanguageClient.Json

/-- How the peer refuses a frame. -/
inductive RefusalMode where
  | reset
  | transport
  | closed
  deriving DecidableEq, Repr

def RefusalMode.failure : RefusalMode → Failure
  | .reset => .foreign "ConnectionResetError" "socket is gone"
  | .transport => .transport "refused"
  | .closed => .connectionClosed "socket closed"

/-- Which frames the peer refuses: those of some methods, or all. -/
structure Refusal where
  mode : RefusalMode
  methods : Option (List String)
  deriving DecidableEq, Repr

/-- What the peer sends when it has accepted a frame. -/
inductive ScriptedReply where
  /-- Some frames, in which the id of the accepted frame and the uri of the open document may be
  filled in. -/
  | frames (frames : List Value)
  /-- An answer with the id of the accepted frame and further members. -/
  | answer (members : List (String × Value))
  deriving DecidableEq, Repr

/-- The replies to one method: always the same, or one after the other. -/
inductive ScriptEntry where
  | always (reply : Option ScriptedReply)
  | inTurn (replies : List (Option ScriptedReply))
  deriving DecidableEq, Repr

/-- The behaviour of the peer. -/
structure Peer where
  /-- Whether all who connect get the same connection. -/
  sharesConnection : Bool := false
  /-- Whether frames are held back. -/
  holding : Bool := false
  /-- The promises of the frames that are held back, in order. -/
  held : List Nat := []
  /-- Whether the closing of a connection is held back. -/
  holdingClose : Bool := false
  /-- The promises of the closings that are held back. -/
  heldCloses : List Nat := []
  refusal : Option Refusal := none
  /-- Whether closing a connection fails. -/
  closeFails : Bool := false
  script : List (String × ScriptEntry) := []
  /-- The document that was opened last. -/
  openedUri : Option Value := none
  deriving DecidableEq, Repr

/-- The client's side of a connection. -/
structure Link where
  /-- The session that listens to the connection, which is the last one that was added to it. -/
  session : Option Nat := none
  closed : Bool := false
  deriving DecidableEq, Repr

def methodOf? (frame : Value) : Option String :=
  match frame.get? "method" with
  | some (.string method) => some method
  | _ => none

def Refusal.concerns (refusal : Refusal) (frame : Value) : Bool :=
  match refusal.methods with
  | none => true
  | some methods =>
    match methodOf? frame with
    | none => false
    | some method => methods.contains method

/-- The failure with which the peer refuses a frame, if it does. -/
def Peer.refusalOf? (peer : Peer) (frame : Value) : Option Failure :=
  match peer.refusal with
  | none => none
  | some refusal => if refusal.concerns frame then some refusal.mode.failure else none

/-! ## The script -/

/-- Takes the reply of an entry and leaves what comes after it. -/
def ScriptEntry.take : ScriptEntry → Option ScriptedReply × ScriptEntry
  | .always reply => (reply, .always reply)
  | .inTurn [] => (none, .inTurn [])
  | .inTurn (reply :: rest) => (reply, .inTurn rest)

def takeReply (method : String) :
    List (String × ScriptEntry) → Option ScriptedReply × List (String × ScriptEntry)
  | [] => (none, [])
  | (key, entry) :: rest =>
    if key = method then
      let (reply, entry) := entry.take
      (reply, (key, entry) :: rest)
    else
      let (reply, rest) := takeReply method rest
      (reply, (key, entry) :: rest)

mutual

/-- Fills in the id of a frame and the uri of the open document. -/
def fillIn (id uri : Value) : Value → Value
  | .string text => if text = "$ID" then id else if text = "$URI" then uri else .string text
  | .array items => .array (fillInItems id uri items)
  | .object members => .object (fillInMembers id uri members)
  | .null => .null
  | .bool value => .bool value
  | .int value => .int value
  | .float value => .float value

def fillInItems (id uri : Value) : List Value → List Value
  | [] => []
  | item :: rest => fillIn id uri item :: fillInItems id uri rest

def fillInMembers (id uri : Value) : List (String × Value) → List (String × Value)
  | [] => []
  | (key, value) :: rest => (key, fillIn id uri value) :: fillInMembers id uri rest

end

def ScriptedReply.framesFor (frame : Value) (openedUri : Option Value) : ScriptedReply → List Value
  | .frames templates =>
    templates.map (fillIn ((frame.get? "id").getD .null) (openedUri.getD .null))
  | .answer members =>
    match frame.get? "id" with
    | none => []
    | some id => [.object (members.foldl
        (fun found entry => insertMember entry.1 entry.2 found)
        [Protocol.messageVersion, ("id", id)])]

def openedUri? (frame : Value) : Option Value := do
  if methodOf? frame = some Protocol.Method.didOpen then
    let params ← frame.get? "params"
    let document ← params.get? "textDocument"
    document.get? "uri"
  else none

/-- Accepts a frame: the peer notes the document that it opens, and replies. -/
def Peer.accept (peer : Peer) (frame : Value) : List Value × Peer :=
  let openedUri := openedUri? frame <|> peer.openedUri
  let peer := { peer with openedUri }
  match methodOf? frame with
  | none => ([], peer)
  | some method =>
    let (reply, script) := takeReply method peer.script
    let frames := (reply.map (ScriptedReply.framesFor frame openedUri)).getD []
    (frames, { peer with script })

end LanguageClient.Client
