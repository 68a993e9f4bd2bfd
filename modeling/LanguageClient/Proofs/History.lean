import LanguageClient.Proofs.Sending

/-!
# Histories of the client

A run of the client is an endless sequence of inputs. The host, the peer and the clock may act
between any two turns, and a turn runs the callback that comes next, so every interleaving of calls,
frames, deadlines, cancellations and slow or refused sends is a sequence of inputs.
-/

namespace LanguageClient.Client

open LanguageClient.Json LanguageClient.Loop LanguageClient.Number

/-- What can happen to a client between two turns, or a turn. -/
inductive Input where
  /-- The host starts a call as a task of its own. -/
  | call (call : Call)
  /-- The host cancels a task. -/
  | cancel (task : Nat)
  /-- The host gives a session a listener. -/
  | listen (session : Nat) (listener : SessionListener)
  /-- The host attaches a synchronizer to a file that was opened with a text. -/
  | attach (synchronizer file : Nat) (openedText : String)
  /-- The host gives a synchronizer a new text. -/
  | edit (synchronizer : Nat) (text : String)
  /-- The host gives an editor a new text. -/
  | editText (editor : Nat) (text : String)
  /-- The peer sends a text over a connection. -/
  | receive (link : Nat) (text : String)
  /-- The peer drops a connection. -/
  | drop (link : Nat)
  /-- The peer holds back, refuses or answers frames in another way from now on. -/
  | behave (peer : Peer)
  /-- The peer lets go one of the frames that it holds back. -/
  | release (place : Nat)
  /-- The peer lets go one of the closings that it holds back. -/
  | releaseClose (place : Nat)
  /-- The clock moves forward. -/
  | tick (moment : Rat)
  /-- The callback that comes next is run. -/
  | turn

namespace System

/-- Notes a failure of a call that the host does not wait for. -/
def noteEscaped : System × Option Failure → System
  | (system, none) => system
  | (system, some failure) => system.note (.escaped failure)

/-- Lets go a frame that the peer holds back. -/
def releaseFrame (system : System) (place : Nat) : System :=
  match system.peer.held[place]? with
  | none => system
  | some promise =>
    { system with
      peer := { system.peer with held := system.peer.held.eraseIdx place } }.settle promise
        (.returned .nothing)

/-- Lets go a closing that the peer holds back. -/
def releaseClosing (system : System) (place : Nat) : System :=
  match system.peer.heldCloses[place]? with
  | none => system
  | some promise =>
    { system with
      peer := { system.peer with heldCloses := system.peer.heldCloses.eraseIdx place } }.settle
        promise (.returned .nothing)

/-- What a client is like after its peer was told to let go something that it holds back: as before, or
whoever waits for that is told that it has been sent. -/
inductive Releases (system : System) : System → Prop where
  | nothing : Releases system system
  | promise {promise : Nat} {peer : Peer} (detained : promise ∈ system.peer.detained)
      (fewer : ∀ other ∈ peer.detained, other ∈ system.peer.detained)
      (kept : ∀ other ∈ system.peer.detained, other = promise ∨ other ∈ peer.detained) :
    Releases system (({ system with peer } : System).settle promise (.returned .nothing))

theorem releaseFrame_releases (system : System) (place : Nat) :
    system.Releases (system.releaseFrame place) := by
  unfold releaseFrame
  split
  · exact .nothing
  · rename_i promise isHeld
    refine .promise (mem_detained_of_held isHeld) (fun _ => detained_of_frame_released) ?_
    intro other member
    rcases List.mem_append.mp member with held | closing
    · exact (mem_eraseIdx_of_mem isHeld held).imp_right (List.mem_append_left _)
    · exact Or.inr (List.mem_append_right _ closing)

theorem releaseClosing_releases (system : System) (place : Nat) :
    system.Releases (system.releaseClosing place) := by
  unfold releaseClosing
  split
  · exact .nothing
  · rename_i promise isHeld
    refine .promise (mem_detained_of_heldClose isHeld) (fun _ => detained_of_closing_released) ?_
    intro other member
    rcases List.mem_append.mp member with held | closing
    · exact Or.inr (List.mem_append_left _ held)
    · exact (mem_eraseIdx_of_mem isHeld closing).imp_right (List.mem_append_right _)

/-- Changes the behaviour of the peer; what it holds back stays held. -/
def withPeer (system : System) (peer : Peer) : System :=
  { system with
    peer := { peer with
      held := system.peer.held
      heldCloses := system.peer.heldCloses } }

/-- What one input does to a client. -/
def step (system : System) : Input → System
  | .call call => system.spawn call
  | .cancel task => system.onLoop (·.cancel task)
  | .listen session listener => system.modifySession session fun found => { found with listener }
  | .attach synchronizer file openedText => noteEscaped (system.attach synchronizer file openedText)
  | .edit synchronizer text => noteEscaped (system.edit synchronizer text)
  | .editText editor text => noteEscaped (system.editText editor text)
  | .receive link text => system.receive link text
  | .drop link => system.drop link
  | .behave peer => system.withPeer peer
  | .release place => system.releaseFrame place
  | .releaseClose place => system.releaseClosing place
  | .tick moment => system.onLoop (·.moveClock moment)
  | .turn => system.turn?.getD system

theorem step_turn_of_next
    {system : System} {callback : Callback Action} {rest : ClientLoop}
    (next : system.loop.next? = some (callback, rest)) :
    system.step .turn = ({ system with loop := rest } : System).runCallback callback := by
  simp only [step, turn?, next, Option.map_some, Option.getD_some]

/-- In a turn the callback that comes next is run, or nothing happens. -/
theorem step_turn_cases (system : System) :
    system.loop.next? = none ∧ system.step .turn = system ∨
      ∃ callback rest, system.loop.next? = some (callback, rest) ∧
        system.step .turn = ({ system with loop := rest } : System).runCallback callback := by
  cases next : system.loop.next? with
  | none => exact Or.inl ⟨rfl, by simp only [step, turn?, next, Option.map_none, Option.getD_none]⟩
  | some found => exact Or.inr ⟨found.1, found.2, rfl, step_turn_of_next next⟩

/-- A client with one session over one connection. -/
def ofSession (resolution : Rat) (defaultTimeout : Quantity) : System :=
  ({ loop := { resolution } : System }.addLink).addSession 0 defaultTimeout

/-- A client after some of the inputs of a run. -/
def after (system : System) (inputs : Nat → Input) : Nat → System
  | 0 => system
  | count + 1 => (system.after inputs count).step (inputs count)

/-- The callback that comes next. -/
def comingCallback? (system : System) : Option (Callback Action) :=
  system.loop.next?.map (·.1)

/-- A text that a session over a connection hears with an input: one that the peer sends, or one
that is delivered because the peer has accepted a frame. -/
def heardText? (system : System) (link : Nat) : Input → Option String
  | .receive source text => if source = link then some text else none
  | .turn =>
    match system.comingCallback? with
    | some (.act (.deliver source text)) => if source = link then some text else none
    | _ => none
  | _ => none

/-- How a task has ended, if it has. -/
def ending? (system : System) (task : Nat) : Option (Outcome Reply) :=
  (system.loop.tasks[task]?).bind fun found => system.loop.outcome? found.completion

end System

end LanguageClient.Client
