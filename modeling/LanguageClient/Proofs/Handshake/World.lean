import LanguageClient.Proofs.Conduct.Endings
import LanguageClient.Proofs.Session.TableSteps
import LanguageClient.Proofs.Session.Traffic

/-!
# The world of a handshake

The first task of a client creates a workspace: it asks for the handshake, awaits the answer, and
confirms. Every other task answers one request of the peer. The invariant tells at which point of the
handshake the first task is, and what has been said to the peer up to there.
-/

namespace LanguageClient.Client

open LanguageClient.Json LanguageClient.Loop LanguageClient.Number LanguageClient.Protocol

/-- An input while a workspace is created. The host may cancel; all else is up to the peer and the
clock. -/
def Input.OnHandshake : Input → Prop
  | .cancel _ | .receive _ _ | .drop _ | .behave _ | .release _ | .releaseClose _ | .tick _
  | .turn => True
  | .call _ | .listen _ _ | .attach _ _ _ | .edit _ _ | .editText _ _ => False

theorem Input.OnHandshake.onSession {input : Input} (onHandshake : input.OnHandshake) :
    input.OnSession := by
  cases input with
  | call _ => exact onHandshake.elim
  | listen _ _ => exact onHandshake.elim
  | _ => exact onHandshake

/-! ## What is said -/

/-- The request that opens the handshake. -/
def WorkspaceRequest.opening (request : WorkspaceRequest) : Value :=
  requestMessage (requestId 1) Method.handshake
    (some (handshakeParams request.rootUri request.folders))

/-- The notification that confirms the handshake. -/
def handshakeConfirmation : Value := notificationMessage Method.handshakeDone (some (.object []))

/-- A frame is the null answer to a request that was heard from the peer. -/
def IsReply (heard : String → Prop) (frame : Value) : Prop :=
  ∃ text id, heard text ∧ IsRequest text id ∧ frame = answerMessage id

/-- The handshake was asked for, and nothing else was said but answers. -/
def IsAsked (request : WorkspaceRequest) (heard : String → Prop) (frames : List Value) : Prop :=
  ∃ early, frames = request.opening :: early ∧ ∀ frame ∈ early, IsReply heard frame

/-- The handshake was asked for and confirmed, and nothing else was said but answers. -/
def IsConfirmed (request : WorkspaceRequest) (heard : String → Prop) (frames : List Value) : Prop :=
  ∃ early late, frames = request.opening :: (early ++ handshakeConfirmation :: late) ∧
    (∀ frame ∈ early, IsReply heard frame) ∧ ∀ frame ∈ late, IsReply heard frame

/-- What a client may say in a handshake. -/
def IsHandshake (request : WorkspaceRequest) (heard : String → Prop) (frames : List Value) : Prop :=
  frames = [] ∨ IsAsked request heard frames ∨ IsConfirmed request heard frames

section Frames

variable {request : WorkspaceRequest} {heard later : String → Prop} {frames replies : List Value}

theorem IsReply.mono
    {frame : Value} (isReply : IsReply heard frame) (hears : ∀ text, heard text → later text) :
    IsReply later frame := by
  obtain ⟨text, id, isHeard, rest⟩ := isReply
  exact ⟨text, id, hears text isHeard, rest⟩

theorem IsReply.ne_confirmation {frame : Value} (isReply : IsReply heard frame) :
    frame ≠ handshakeConfirmation := by
  rintro rfl
  obtain ⟨_, id, _, _, same⟩ := isReply
  simp [handshakeConfirmation, notificationMessage, answerMessage, messageVersion,
    paramsMember] at same

theorem confirmation_ne_opening : handshakeConfirmation ≠ request.opening := by
  intro same
  simp [handshakeConfirmation, notificationMessage, WorkspaceRequest.opening, requestMessage,
    messageVersion, paramsMember] at same

theorem not_mem_of_replies (replied : ∀ frame ∈ replies, IsReply heard frame) :
    handshakeConfirmation ∉ replies :=
  fun member => (replied _ member).ne_confirmation rfl

theorem IsAsked.unconfirmed (asked : IsAsked request heard frames) :
    handshakeConfirmation ∉ frames := by
  obtain ⟨early, rfl, replied⟩ := asked
  intro member
  rcases List.mem_cons.mp member with same | inside
  · exact confirmation_ne_opening same
  · exact not_mem_of_replies replied inside

theorem IsConfirmed.confirmed (confirmed : IsConfirmed request heard frames) :
    handshakeConfirmation ∈ frames := by
  obtain ⟨early, late, rfl, _⟩ := confirmed
  simp

theorem IsAsked.opened (request : WorkspaceRequest) (heard : String → Prop) :
    IsAsked request heard [request.opening] :=
  ⟨[], rfl, by simp⟩

theorem IsAsked.confirm (asked : IsAsked request heard frames) :
    IsConfirmed request heard (frames ++ [handshakeConfirmation]) := by
  obtain ⟨early, rfl, replied⟩ := asked
  exact ⟨early, [], rfl, replied, by simp⟩

theorem IsAsked.reply
    (asked : IsAsked request heard frames) (replied : ∀ frame ∈ replies, IsReply heard frame) :
    IsAsked request heard (frames ++ replies) := by
  obtain ⟨early, rfl, earlier⟩ := asked
  exact ⟨early ++ replies, rfl, List.forall_mem_append.mpr ⟨earlier, replied⟩⟩

theorem IsConfirmed.reply
    (confirmed : IsConfirmed request heard frames) (replied : ∀ frame ∈ replies, IsReply heard frame) :
    IsConfirmed request heard (frames ++ replies) := by
  obtain ⟨early, late, rfl, before, after⟩ := confirmed
  refine ⟨early, late ++ replies, ?_, before, List.forall_mem_append.mpr ⟨after, replied⟩⟩
  simp

theorem IsHandshake.reply
    (handshake : IsHandshake request heard frames) (replied : ∀ frame ∈ replies, IsReply heard frame)
    (spoke : replies ≠ [] → frames ≠ []) :
    IsHandshake request heard (frames ++ replies) := by
  rcases handshake with rfl | asked | confirmed
  · left
    by_contra replies
    exact spoke replies rfl
  · exact Or.inr (Or.inl (asked.reply replied))
  · exact Or.inr (Or.inr (confirmed.reply replied))

theorem IsAsked.mono
    (asked : IsAsked request heard frames) (hears : ∀ text, heard text → later text) :
    IsAsked request later frames := by
  obtain ⟨early, same, replied⟩ := asked
  exact ⟨early, same, fun frame member => (replied frame member).mono hears⟩

theorem IsConfirmed.mono
    (confirmed : IsConfirmed request heard frames) (hears : ∀ text, heard text → later text) :
    IsConfirmed request later frames := by
  obtain ⟨early, late, same, before, after⟩ := confirmed
  exact ⟨early, late, same, fun frame member => (before frame member).mono hears,
    fun frame member => (after frame member).mono hears⟩

theorem IsHandshake.mono
    (handshake : IsHandshake request heard frames) (hears : ∀ text, heard text → later text) :
    IsHandshake request later frames :=
  handshake.imp id (Or.imp (·.mono hears) (·.mono hears))

end Frames

/-! ## Where the first task is -/

/-- The peer holds a promise back, unless it is settled already. -/
def System.Withholds (system : System) (promise : Nat) : Prop :=
  promise ∈ system.peer.detained ∨ system.loop.outcome? promise ≠ none

/-- Where the task is that creates a workspace: its frames, what it awaits, and how it has ended. -/
inductive HandshakePlace
    (request : WorkspaceRequest) (heard : String → Prop) (registered : List Registration)
    (system : System) :
    List Frame → Option Nat → Option (Outcome Reply) → Prop where
  /-- The opening is held back. -/
  | asking (link held : Nat) (registration : Registration) (member : registration ∈ registered)
      (asked : IsAsked request heard system.handedFrames)
      (unconfirmed : handshakeConfirmation ∉ system.acceptedFrames)
      (withheld : system.Withholds held) :
      HandshakePlace request heard registered system
        [.sending link request.opening, .writing Method.handshake,
          .requesting registration.entry.promise, .handshaking 0 request.serverUri]
        (some held) none
  /-- The answer is awaited. -/
  | awaiting (registration : Registration) (member : registration ∈ registered)
      (asked : IsAsked request heard system.handedFrames)
      (unconfirmed : handshakeConfirmation ∉ system.acceptedFrames) :
      HandshakePlace request heard registered system [.handshaking 0 request.serverUri]
        (some registration.entry.promise) none
  /-- The confirmation is held back. -/
  | confirming (link held : Nat) (result : InitializeResult)
      (confirmed : IsConfirmed request heard system.handedFrames)
      (unconfirmed : handshakeConfirmation ∉ system.acceptedFrames)
      (withheld : system.Withholds held) :
      HandshakePlace request heard registered system
        [.sending link handshakeConfirmation, .writing Method.handshakeDone,
          .confirming 0 request.serverUri result]
        (some held) none
  /-- The closing of the connection is held back. -/
  | closing (held : Nat) (ending : Outcome Reply) (unsuccessful : ∀ reply, ending ≠ .returned reply)
      (handshake : IsHandshake request heard system.handedFrames)
      (unconfirmed : handshakeConfirmation ∉ system.acceptedFrames) (shut : IsShut system)
      (withheld : system.Withholds held) :
      HandshakePlace request heard registered system [.closingLink, .abandoningHandshake ending]
        (some held) none
  /-- The workspace was created. -/
  | created (workspace : Nat) (confirmed : IsConfirmed request heard system.handedFrames)
      (accepted : handshakeConfirmation ∈ system.acceptedFrames) :
      HandshakePlace request heard registered system [] none
        (some (.returned (.workspace workspace)))
  /-- The workspace could not be created, and the session is closed. -/
  | failed (ending : Outcome Reply) (unsuccessful : ∀ reply, ending ≠ .returned reply)
      (handshake : IsHandshake request heard system.handedFrames)
      (unconfirmed : handshakeConfirmation ∉ system.acceptedFrames) (shut : IsShut system) :
      HandshakePlace request heard registered system [] none (some ending)

/-- What may happen while the first task stays where it is: answers are handed over and accepted, and
what the peer holds back is settled. -/
structure Aloof (heard : String → Prop) (before after : System) : Prop where
  handed : ∃ replies, after.handedFrames = before.handedFrames ++ replies ∧
    (∀ frame ∈ replies, IsReply heard frame) ∧ (replies ≠ [] → before.handedFrames ≠ [])
  accepted : ∃ replies, after.acceptedFrames = before.acceptedFrames ++ replies ∧
    ∀ frame ∈ replies, IsReply heard frame
  detained : ∀ promise ∈ before.peer.detained, after.Withholds promise
  kept : ∀ promise outcome,
    before.loop.outcome? promise = some outcome → after.loop.outcome? promise = some outcome
  shut : IsShut before → IsShut after

section Places

variable {request : WorkspaceRequest} {heard later : String → Prop} {registered : List Registration}
  {before after system : System} {stack : List Frame} {awaiting : Option Nat}
  {ending : Option (Outcome Reply)}

theorem Aloof.confirmation (aloof : Aloof heard before after) :
    handshakeConfirmation ∈ after.acceptedFrames ↔ handshakeConfirmation ∈ before.acceptedFrames := by
  obtain ⟨replies, same, replied⟩ := aloof.accepted
  rw [same, List.mem_append]
  exact or_iff_left (not_mem_of_replies replied)

theorem Aloof.handed_confirmation (aloof : Aloof heard before after) :
    handshakeConfirmation ∈ after.handedFrames ↔ handshakeConfirmation ∈ before.handedFrames := by
  obtain ⟨replies, same, replied, _⟩ := aloof.handed
  rw [same, List.mem_append]
  exact or_iff_left (not_mem_of_replies replied)

theorem Aloof.withholds
    {promise : Nat} (aloof : Aloof heard before after) (withheld : before.Withholds promise) :
    after.Withholds promise := by
  rcases withheld with isDetained | isSettled
  · exact aloof.detained promise isDetained
  · obtain ⟨outcome, settled⟩ := Option.ne_none_iff_exists'.mp isSettled
    right
    rw [aloof.kept promise outcome settled]
    exact Option.some_ne_none outcome

/-- The place of the first task stays what it is when something else happens. -/
theorem HandshakePlace.of_aloof
    (place : HandshakePlace request heard registered before stack awaiting ending)
    (aloof : Aloof heard before after) :
    HandshakePlace request heard registered after stack awaiting ending := by
  obtain ⟨replies, handed, replied, spoke⟩ := aloof.handed
  have unaccepted : handshakeConfirmation ∉ before.acceptedFrames →
      handshakeConfirmation ∉ after.acceptedFrames := mt aloof.confirmation.mp
  cases place with
  | asking link held registration member asked unconfirmed withheld =>
      exact .asking link held registration member (handed ▸ asked.reply replied)
        (unaccepted unconfirmed) (aloof.withholds withheld)
  | awaiting registration member asked unconfirmed =>
      exact .awaiting registration member (handed ▸ asked.reply replied) (unaccepted unconfirmed)
  | confirming link held result confirmed unconfirmed withheld =>
      exact .confirming link held result (handed ▸ confirmed.reply replied)
        (unaccepted unconfirmed) (aloof.withholds withheld)
  | closing held ending unsuccessful handshake unconfirmed shut withheld =>
      exact .closing held ending unsuccessful (handed ▸ handshake.reply replied spoke)
        (unaccepted unconfirmed) (aloof.shut shut) (aloof.withholds withheld)
  | created workspace confirmed accepted =>
      exact .created workspace (handed ▸ confirmed.reply replied) (aloof.confirmation.mpr accepted)
  | failed ending unsuccessful handshake unconfirmed shut =>
      exact .failed ending unsuccessful (handed ▸ handshake.reply replied spoke)
        (unaccepted unconfirmed) (aloof.shut shut)

theorem HandshakePlace.mono
    (place : HandshakePlace request heard registered system stack awaiting ending)
    (hears : ∀ text, heard text → later text) :
    HandshakePlace request later registered system stack awaiting ending := by
  cases place with
  | asking link held registration member asked unconfirmed withheld =>
      exact .asking link held registration member (asked.mono hears) unconfirmed withheld
  | awaiting registration member asked unconfirmed =>
      exact .awaiting registration member (asked.mono hears) unconfirmed
  | confirming link held result confirmed unconfirmed withheld =>
      exact .confirming link held result (confirmed.mono hears) unconfirmed withheld
  | closing held ending unsuccessful handshake unconfirmed shut withheld =>
      exact .closing held ending unsuccessful (handshake.mono hears) unconfirmed shut withheld
  | created workspace confirmed accepted =>
      exact .created workspace (confirmed.mono hears) accepted
  | failed ending unsuccessful handshake unconfirmed shut =>
      exact .failed ending unsuccessful (handshake.mono hears) unconfirmed shut

theorem HandshakePlace.handshake
    (place : HandshakePlace request heard registered system stack awaiting ending) :
    IsHandshake request heard system.handedFrames := by
  cases place with
  | asking _ _ _ _ asked => exact Or.inr (Or.inl asked)
  | awaiting _ _ asked => exact Or.inr (Or.inl asked)
  | confirming _ _ _ confirmed => exact Or.inr (Or.inr confirmed)
  | closing _ _ _ handshake => exact handshake
  | created _ confirmed => exact Or.inr (Or.inr confirmed)
  | failed _ _ handshake => exact handshake

/-- A first task that has said nothing has given up. -/
theorem HandshakePlace.shut_of_silence
    (place : HandshakePlace request heard registered system stack awaiting ending)
    (nothingSaid : system.handedFrames = []) : IsShut system := by
  have unasked : ¬ IsAsked request heard system.handedFrames := by
    rintro ⟨_, same, _⟩
    rw [nothingSaid] at same
    cases same
  have unconfirmed : ¬ IsConfirmed request heard system.handedFrames := by
    rintro ⟨_, _, same, _⟩
    rw [nothingSaid] at same
    cases same
  cases place with
  | asking _ _ _ _ asked => exact (unasked asked).elim
  | awaiting _ _ asked => exact (unasked asked).elim
  | confirming _ _ _ confirmed => exact (unconfirmed confirmed).elim
  | closing _ _ _ _ _ shut => exact shut
  | created _ confirmed => exact (unconfirmed confirmed).elim
  | failed _ _ _ _ shut => exact shut

end Places

/-! ## Answers -/

/-- The frames of a task that answers a request of the peer. -/
def IsAnswering (heard : String → Prop) (stack : List Frame) : Prop :=
  stack = [] ∨
    (∃ id, IsReply heard (answerMessage id) ∧ stack = [.begin (.answer 0 id)]) ∨
      ∃ link frame, IsReply heard frame ∧ stack = [.sending link frame, .writing "response"]

theorem IsAnswering.mono
    {heard later : String → Prop} {stack : List Frame} (answering : IsAnswering heard stack)
    (hears : ∀ text, heard text → later text) :
    IsAnswering later stack := by
  rcases answering with ended | ⟨id, isReply, begins⟩ | ⟨link, frame, isReply, sends⟩
  · exact Or.inl ended
  · exact Or.inr (Or.inl ⟨id, isReply.mono hears, begins⟩)
  · exact Or.inr (Or.inr ⟨link, frame, isReply.mono hears, sends⟩)

/-! ## The invariant -/

/-- The invariant of a client whose first task performs a handshake over a connection. -/
structure HandshakeWorld
    (request : WorkspaceRequest) (heard : String → Prop) (registered : List Registration)
    (system : System) : Prop where
  session : SessionWorld registered system
  table : HasTable registered [] system
  wakeful : system.loop.Wakeful none
  ids : ∀ registration ∈ registered, registration.entry.id = requestId 1
  results : ∀ registration ∈ registered, ∀ value,
    system.loop.outcome? registration.entry.promise = some (.returned (.result value)) →
      ∃ text, heard text ∧ AnswersWith text (requestId 1) value
  creation : ∃ found, system.loop.tasks[0]? = some found ∧
    HandshakePlace request heard registered system found.stack found.awaiting (system.ending? 0)
  answers : ∀ task found, task ≠ 0 → system.loop.tasks[task]? = some found →
    IsAnswering heard found.stack
  /-- A client that has said nothing never will. -/
  silent : system.handedFrames = [] → system.nextTask = 1 ∧ IsShut system

end LanguageClient.Client
