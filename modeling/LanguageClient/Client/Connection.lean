import LanguageClient.Client.State
import LanguageClient.Json.Writer

/-!
# Sending and closing

A frame is accepted or refused when the connection takes it, which is at once unless the peer holds
frames back.
-/

namespace LanguageClient.Client

open LanguageClient.Json LanguageClient.Loop

namespace System

/-- Makes frames of the peer ready for the session of a connection. -/
def deliver (system : System) (link : Nat) (frames : List Value) : System :=
  system.onLoop (·.enqueue (frames.map fun frame => .act (.deliver link frame.render)))

/-- The peer takes a frame: it refuses it, or accepts it and replies. -/
def takeFrame (system : System) (link : Nat) (frame : Value) : Step :=
  match system.peer.refusalOf? frame with
  | some failure => .failed system failure
  | none =>
    let (replies, peer) := system.peer.accept frame
    .returned (({ system with peer }.note (.accepted link frame)).deliver link replies) .nothing

/-- Goes on with a frame that was held back. -/
def resumeSending (link : Nat) (frame : Value) (system : System) (outcome : Outcome Reply) : Step :=
  match outcome with
  | .returned _ => system.takeFrame link frame
  | .failed _ | .cancelled => .ended system outcome

def send (system : System) (link : Nat) (frame : Value) : Step :=
  let system := system.note (.handed link frame)
  if system.peer.holding then
    let promise := system.nextPromise
    let waiting := { system.addPromise with
      peer := { system.peer with held := system.peer.held ++ [promise] } }
    Step.andThen (waiting.await promise) (.sending link frame) (resumeSending link frame)
  else system.takeFrame link frame

def closeLink (system : System) (link : Nat) : Step :=
  let system := { system.note (.closedLink link) with
    links := system.links.modify link fun found => { found with closed := true } }
  if system.peer.holdingClose then
    let promise := system.nextPromise
    let waiting := { system.addPromise with
      peer := { system.peer with heldCloses := system.peer.heldCloses ++ [promise] } }
    waiting.await promise
  else if system.peer.closeFails then
    .failed system (.foreign "RuntimeError" "close failed")
  else .returned system .nothing

/-- Adds a connection that nobody listens to yet; its number is the number of connections before. -/
def addLink (system : System) : System := { system with links := system.links ++ [{}] }

/-- Connects to the peer: the connection is a new one, unless the peer gives all the same. -/
def connect (system : System) : System × Nat :=
  if system.peer.sharesConnection && !system.links.isEmpty then (system, 0)
  else (system.addLink, system.links.length)

end System

end LanguageClient.Client
