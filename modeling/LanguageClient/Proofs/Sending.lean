import LanguageClient.Client.Turn
import LanguageClient.Proofs.Loop.Outcome

/-!
# What comes of a frame

A frame that is handed to a connection is held back, refused or accepted, and which of the three
happens depends on the peer alone. The failure of a refused frame always concerns the transport.
-/

namespace LanguageClient.Client

open LanguageClient.Json LanguageClient.Loop LanguageClient.Protocol

/-- The promises of what a peer holds back. -/
def Peer.detained (peer : Peer) : List Nat := peer.held ++ peer.heldCloses

theorem detained_accept (peer : Peer) (frame : Value) :
    (peer.accept frame).2.detained = peer.detained := by
  unfold Peer.accept
  cases methodOf? frame with
  | none => rfl
  | some method => rfl

theorem mem_detained_of_held
    {peer : Peer} {place promise : Nat} (isHeld : peer.held[place]? = some promise) :
    promise ∈ peer.detained :=
  List.mem_append_left _ (List.mem_of_getElem? isHeld)

theorem mem_detained_of_heldClose
    {peer : Peer} {place promise : Nat} (isHeld : peer.heldCloses[place]? = some promise) :
    promise ∈ peer.detained :=
  List.mem_append_right _ (List.mem_of_getElem? isHeld)

/-- A peer that lets go a frame holds back nothing that it did not hold back. -/
theorem detained_of_frame_released
    {peer : Peer} {place promise : Nat}
    (remains : promise ∈ ({ peer with held := peer.held.eraseIdx place } : Peer).detained) :
    promise ∈ peer.detained := by
  rcases List.mem_append.mp remains with held | closing
  · exact List.mem_append_left _ (List.mem_of_mem_eraseIdx held)
  · exact List.mem_append_right _ closing

/-- A peer that lets go a closing holds back nothing that it did not hold back. -/
theorem detained_of_closing_released
    {peer : Peer} {place promise : Nat}
    (remains : promise ∈
      ({ peer with heldCloses := peer.heldCloses.eraseIdx place } : Peer).detained) :
    promise ∈ peer.detained := by
  rcases List.mem_append.mp remains with held | closing
  · exact List.mem_append_left _ held
  · exact List.mem_append_right _ (List.mem_of_mem_eraseIdx closing)

theorem mem_eraseIdx_of_mem
    {items : List Nat} {place item other : Nat} (found : items[place]? = some item)
    (member : other ∈ items) : other = item ∨ other ∈ items.eraseIdx place := by
  obtain ⟨index, entry⟩ := List.mem_iff_getElem?.mp member
  by_cases same : index = place
  · subst same
    exact Or.inl (Option.some.inj (entry.symm.trans found))
  · exact Or.inr (List.mem_eraseIdx_iff_getElem?.mpr ⟨index, same, entry⟩)

theorem methodOf?_requestMessage (id method : String) (params : Option Value) :
    methodOf? (requestMessage id method params) = some method := by
  simp [methodOf?, requestMessage, messageVersion, Value.get?, member?]

theorem methodOf?_notificationMessage (method : String) (params : Option Value) :
    methodOf? (notificationMessage method params) = some method := by
  simp [methodOf?, notificationMessage, messageVersion, Value.get?, member?]

theorem isWritable_didCloseParams (uri : String) : isWritable (didCloseParams uri) = true := by
  simp [isWritable, payloadDepth, didCloseParams, documentMember, Value.hasDepthWithin,
    membersHaveDepthWithin]

/-- The failure of a write when the connection failed to take its frame. -/
def writeFailure (subject : String) (failure : Failure) : Failure :=
  if failure.isTransport then failure else .unsent subject failure.message

theorem writeFailure_isTransport (subject : String) (failure : Failure) :
    (writeFailure subject failure).isTransport = true := by
  unfold writeFailure
  split
  · assumption
  · rfl

namespace System

/-- Holds a frame back: whoever sends it waits for a new promise. -/
def holdBack (system : System) : System :=
  { system.addPromise with
    peer := { system.peer with held := system.peer.held ++ [system.nextPromise] } }

/-- The peer accepts a frame; its replies become ready. -/
def accept (system : System) (link : Nat) (frame : Value) : System :=
  ({ system with peer := (system.peer.accept frame).2 }.note (.accepted link frame)).deliver link
    (system.peer.accept frame).1

variable {system : System} {session link : Nat} {found : Session} {subject : String}
  {frame : Value}

theorem await_of_unsettled
    {promise : Nat} (unsettled : system.loop.outcome? promise = none) :
    system.await promise = (system, .suspended [] promise) := by
  simp only [await, unsettled]

theorem await_of_settled
    {promise : Nat} {outcome : Outcome Reply}
    (settled : system.loop.outcome? promise = some outcome) :
    system.await promise = (system, .ended outcome) := by
  simp only [await, settled]

theorem takeFrame_of_refusal
    {failure : Failure} (link : Nat) (refused : system.peer.refusalOf? frame = some failure) :
    system.takeFrame link frame = (system, .ended (.failed failure)) := by
  simp only [takeFrame, refused, Step.failed]

theorem takeFrame_of_acceptance
    (link : Nat) (accepted : system.peer.refusalOf? frame = none) :
    system.takeFrame link frame = (system.accept link frame, .ended (.returned .nothing)) := by
  simp only [takeFrame, accepted, Step.returned, accept]

theorem send_of_holding (link : Nat) (frame : Value) (holding : system.peer.holding = true) :
    system.send link frame =
      ((system.note (.handed link frame)).holdBack,
        .suspended [.sending link frame] system.nextPromise) := by
  have unsettled : (system.note (.handed link frame)).holdBack.loop.outcome? system.nextPromise =
      none :=
    Scheduler.addPromise_outcome?_new {} system.loop
  have stillHolding : (system.note (.handed link frame)).peer.holding = true := holding
  simp only [send]
  rw [if_pos stillHolding]
  change Step.andThen ((system.note (.handed link frame)).holdBack.await system.nextPromise)
    (.sending link frame) (resumeSending link frame) = _
  rw [await_of_unsettled unsettled]
  rfl

theorem send_of_not_holding (link : Nat) (frame : Value) (free : system.peer.holding = false) :
    system.send link frame = (system.note (.handed link frame)).takeFrame link frame := by
  simp [send, note, free]

theorem write_of_holding
    (subject : String) (frame : Value) (sessionFound : system.sessions[session]? = some found)
    (holding : system.peer.holding = true) :
    system.write session subject frame =
      ((system.note (.handed found.link frame)).holdBack,
        .suspended [.sending found.link frame, .writing subject] system.nextPromise) := by
  simp only [write, sessionFound, send_of_holding found.link frame holding, Step.andThen,
    List.singleton_append]

theorem write_of_refusal
    {failure : Failure} (subject : String) (sessionFound : system.sessions[session]? = some found)
    (free : system.peer.holding = false) (refused : system.peer.refusalOf? frame = some failure) :
    system.write session subject frame =
      (system.note (.handed found.link frame),
        .ended (.failed (writeFailure subject failure))) := by
  have refusedLater :
      (system.note (.handed found.link frame)).peer.refusalOf? frame = some failure := refused
  simp only [write, sessionFound, send_of_not_holding found.link frame free,
    takeFrame_of_refusal found.link refusedLater, Step.andThen, resumeWriting, Step.failed,
    writeFailure]

theorem write_of_acceptance
    (subject : String) (sessionFound : system.sessions[session]? = some found)
    (free : system.peer.holding = false) (accepted : system.peer.refusalOf? frame = none) :
    system.write session subject frame =
      ((system.note (.handed found.link frame)).accept found.link frame,
        .ended (.returned .nothing)) := by
  have acceptedLater :
      (system.note (.handed found.link frame)).peer.refusalOf? frame = none := accepted
  simp only [write, sessionFound, send_of_not_holding found.link frame free,
    takeFrame_of_acceptance found.link acceptedLater, Step.andThen, resumeWriting, Step.ended]

/-- A frame that is written is refused, held back or accepted. -/
theorem write_cases
    (subject : String) (frame : Value) (sessionFound : system.sessions[session]? = some found) :
    (∃ failure, system.peer.refusalOf? frame = some failure ∧
      system.write session subject frame =
        (system.note (.handed found.link frame),
          .ended (.failed (writeFailure subject failure)))) ∨
    system.write session subject frame =
      ((system.note (.handed found.link frame)).holdBack,
        .suspended [.sending found.link frame, .writing subject] system.nextPromise) ∨
    system.write session subject frame =
      ((system.note (.handed found.link frame)).accept found.link frame,
        .ended (.returned .nothing)) := by
  cases holding : system.peer.holding with
  | true =>
      exact Or.inr (Or.inl (write_of_holding subject frame sessionFound holding))
  | false =>
      cases refused : system.peer.refusalOf? frame with
      | some failure =>
          exact Or.inl ⟨failure, rfl, write_of_refusal subject sessionFound holding refused⟩
      | none =>
          exact Or.inr (Or.inr (write_of_acceptance subject sessionFound holding refused))

end System

end LanguageClient.Client
