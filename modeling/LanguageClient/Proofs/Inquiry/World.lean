import LanguageClient.Proofs.Loop.Queue
import LanguageClient.Proofs.Session.Course
import LanguageClient.Proofs.Session.Table
import LanguageClient.Proofs.Session.Traffic

/-!
# Requests of the peer

A request of the peer is a text with a method and an id, and an open session starts a task that
answers it with null. The requests whose answers have not begun stand in the queue of the scheduler,
so each input takes one from its front or adds one at its end, or leaves it as it is.

Whatever the code of a session does, except when it takes a request of the peer or answers one, it
hands over no answer, and it moves no task in the queue. Only the end of the session cancels tasks.
-/

namespace LanguageClient.Client

open LanguageClient.Json LanguageClient.Loop LanguageClient.Number LanguageClient.Protocol

/-- A request of the peer that a session has taken: the task that answers it, and its id. -/
structure Inquiry where
  task : Nat
  id : Value
  deriving DecidableEq, Repr

/-- The id of a text that is a request of the peer. -/
def requestedId? (text : String) : Option Value :=
  match Value.ofText text with
  | .ok (.object members) =>
    match (Value.object members).present? "method" with
    | some _ => (Value.object members).present? "id"
    | none => none
  | _ => none

theorem requestedId?_eq_some_iff {text : String} {id : Value} :
    requestedId? text = some id ↔ IsRequest text id := by
  constructor
  · intro requested
    unfold requestedId? at requested
    split at requested
    · rename_i members parsed
      split at requested
      · rename_i method hasMethod
        exact ⟨_, method, parsed, ⟨members, rfl⟩, hasMethod, requested⟩
      · cases requested
    · cases requested
  · rintro ⟨_, method, parsed, ⟨members, rfl⟩, hasMethod, hasId⟩
    simp only [requestedId?, parsed, hasMethod, hasId]

/-- Whether a frame is an answer to the peer: it names no method. -/
def isReply (frame : Value) : Bool := (frame.get? "method").isNone

theorem isReply_answerMessage (id : Value) : isReply (answerMessage id) = true := by
  simp [isReply, answerMessage, messageVersion, Value.get?, member?]

theorem isReply_requestMessage (id method : String) (params : Option Value) :
    isReply (requestMessage id method params) = false := by
  simp [isReply, requestMessage, messageVersion, Value.get?, member?]

theorem isReply_notificationMessage (method : String) (params : Option Value) :
    isReply (notificationMessage method params) = false := by
  simp [isReply, notificationMessage, messageVersion, Value.get?, member?]

/-- The request of the peer that a call answers when a task begins it. -/
def Call.inquiry? (task : Nat) : Call → Option Inquiry
  | .answer _ id => some ⟨task, id⟩
  | _ => none

namespace System

/-- The answers that were handed to connections, in order. -/
def handedReplies (system : System) : List Value := system.handedFrames.filter isReply

/-- The request of the peer that a task is to answer, while the task has not begun. -/
def inquiryOf? (system : System) (task : Nat) : Option Inquiry :=
  (system.loop.tasks[task]?).bind fun found =>
    match found.stack with
    | [.begin (.answer _ id)] => some ⟨task, id⟩
    | _ => none

/-- The requests of the peer whose answers have not begun, in the order in which these will. -/
def waitingInquiries (system : System) : List Inquiry :=
  (resumed system.loop.ready).filterMap system.inquiryOf?

/-- The request of the peer that an open session takes with a text. -/
def inquiryIn? (system : System) (text : String) : Option Inquiry :=
  (requestedId? text).bind fun id =>
    (system.sessions[0]?).bind fun found =>
      if found.closed then none else some ⟨system.nextTask, id⟩

/-- The request of the peer that an open session takes with an input. -/
def arrivingInquiry? (system : System) (input : Input) : Option Inquiry :=
  (system.heardText? 0 input).bind system.inquiryIn?

/-- The task that goes on with an input. -/
def resumedTask? (system : System) : Input → Option Nat
  | .turn => system.comingCallback?.bind Callback.resumed?
  | _ => none

/-- The request of the peer whose answer begins with an input, or would if it were not cancelled. -/
def startingInquiry? (system : System) (input : Input) : Option Inquiry :=
  (system.resumedTask? input).bind system.inquiryOf?

/-- The request of the peer whose answer begins with an input. -/
def answeredInquiry? (system : System) (input : Input) : Option Inquiry :=
  (system.resumedTask? input).bind fun task =>
    (system.begunCall? task).bind (Call.inquiry? task)

/-- Whether the host closes the session with an input. -/
def ClosesSession (system : System) (input : Input) : Prop :=
  ∃ task, system.resumedTask? input = some task ∧
    system.begunCall? task = some (.closeSession 0)

/-- The requests of the peer that were taken with some of the inputs of a run, in order. -/
def inquiries (system : System) (inputs : Nat → Input) (count : Nat) : List Inquiry :=
  (List.range count).filterMap fun place =>
    (system.after inputs place).arrivingInquiry? (inputs place)

/-- The requests of the peer whose answers began with some of the inputs of a run, in order. -/
def answeredInquiries (system : System) (inputs : Nat → Input) (count : Nat) : List Inquiry :=
  (List.range count).filterMap fun place =>
    (system.after inputs place).answeredInquiry? (inputs place)

end System

/-! ## What leaves all else alone -/

/-- Something that happens when a request of the peer is answered by a task. -/
def Occurrence.IsOfAnswer (task : Nat) : Occurrence → Prop
  | .handed _ _ | .accepted _ _ | .logged _ => True
  | .ended other _ => other = task
  | .dialled _ | .closedLink _ | .told _ | .escaped _ | .printed _ => False

/-- A task that answers a request of the peer leaves all else alone: the requests of the host and
their outcomes, the sessions and the connections, and the tasks of the host. Nothing is raised. -/
structure Inert (task : Nat) (before after : System) : Prop where
  tables : after.sessions.map Session.table = before.sessions.map Session.table
  outcomes : ∀ session ∈ before.sessions, ∀ entry ∈ session.pending,
    after.loop.outcome? entry.promise = before.loop.outcome? entry.promise
  links : after.links = before.links
  endings : ∀ other ≠ task, after.ending? other = before.ending? other
  quiet : ∃ occurrences, after.journal = before.journal ++ occurrences ∧
    ∀ occurrence ∈ occurrences, occurrence.IsOfAnswer task

/-! ## What leaves the answers alone -/

/-- A frame of a call to a session that has finished its handshake. -/
def Frame.IsExchange : Frame → Prop
  | .sending _ _ | .writing _ | .requesting _ | .closingLink => True
  | _ => False

/-- No answer is handed over, no task goes on or is started, and only the `targets` may have been
cancelled. -/
structure Disregards (targets : Nat → Prop) (before after : System) : Prop where
  loop : before.loop.Queues targets after.loop
  replies : after.handedReplies = before.handedReplies
  hears : ∀ link : Nat,
    (after.links[link]?).bind (·.session) = (before.links[link]?).bind (·.session)

/-- The frames that a call is left with belong to a session after its handshake. -/
def Step.Exchanges (step : Step) : Prop := ∀ frame ∈ step.2.frames, frame.IsExchange

theorem Step.Exchanges.of_ended (system : System) (outcome : Outcome Reply) :
    Step.Exchanges (system, .ended outcome) :=
  fun _ member => absurd member List.not_mem_nil

theorem Step.Exchanges.andThen
    {step : Step} {frame : Frame} {rest : System → Outcome Reply → Step} (inner : step.Exchanges)
    (exchange : frame.IsExchange) (outer : ∀ later outcome, (rest later outcome).Exchanges) :
    (step.andThen frame rest).Exchanges := by
  obtain ⟨later, outcome | ⟨frames, promise⟩⟩ := step
  · exact outer later outcome
  · intro other member
    rcases List.mem_append.mp member with isInner | isFrame
    · exact inner other isInner
    · rw [List.mem_singleton.mp isFrame]
      exact exchange

variable {targets : Nat → Prop}

namespace Disregards

variable {before middle after : System}

theorem of_journal
    (loop : before.loop.Queues targets after.loop) (journal : after.journal = before.journal)
    (links : after.links = before.links) : Disregards targets before after :=
  ⟨loop, by simp only [System.handedReplies, System.handedFrames, journal], fun _ => by rw [links]⟩

theorem of_same
    (loop : after.loop = before.loop) (journal : after.journal = before.journal)
    (links : after.links = before.links) : Disregards targets before after :=
  .of_journal (loop ▸ .refl _) journal links

theorem refl (system : System) : Disregards targets system system := .of_same rfl rfl rfl

theorem trans
    (first : Disregards targets before middle) (second : Disregards targets middle after) :
    Disregards targets before after :=
  ⟨first.loop.trans second.loop, second.replies.trans first.replies,
    fun link => (second.hears link).trans (first.hears link)⟩

theorem andThen
    {step : Step} {frame : Frame} {rest : System → Outcome Reply → Step}
    (first : Disregards targets before step.1)
    (second : ∀ later outcome, Disregards targets later (rest later outcome).1) :
    Disregards targets before (step.andThen frame rest).1 := by
  obtain ⟨later, outcome | ⟨frames, promise⟩⟩ := step
  · exact first.trans (second later outcome)
  · exact first

theorem mono
    {wider : Nat → Prop} (disregards : Disregards targets before after)
    (within : ∀ task, targets task → wider task) : Disregards wider before after :=
  { disregards with loop := disregards.loop.mono within }

theorem nextTask (disregards : Disregards targets before after) :
    after.nextTask = before.nextTask :=
  disregards.loop.nextTask

variable (system : System)

theorem onLoop
    {change : ClientLoop → ClientLoop} (queues : system.loop.Queues targets (change system.loop)) :
    Disregards targets system (system.onLoop change) :=
  .of_journal queues rfl rfl

theorem note {occurrence : Occurrence} (silent : occurrence.handedFrame? = none) :
    Disregards targets system (system.note occurrence) := by
  refine ⟨.refl _, ?_, fun _ => rfl⟩
  rw [System.handedReplies, System.handedFrames_note, silent, Option.toList_none, List.append_nil]
  rfl

theorem log (level : LogLevel) (source : LogSource) (text : String) :
    Disregards targets system (system.log level source text) :=
  note system rfl

theorem settle (promise : Nat) (outcome : Outcome Reply) :
    Disregards targets system (system.settle promise outcome) :=
  onLoop system (system.loop.settle_queues promise outcome)

theorem disarm (timer : Nat) : Disregards targets system (system.disarm timer) :=
  onLoop system (system.loop.disarm_queues timer)

theorem modifySession (session : Nat) (change : Session → Session) :
    Disregards targets system (system.modifySession session change) :=
  .of_same rfl rfl rfl

/-- A frame that names a method is no answer. -/
theorem handed (link : Nat) {frame : Value} (names : isReply frame = false) :
    Disregards targets system (system.note (.handed link frame)) := by
  refine ⟨.refl _, ?_, fun _ => rfl⟩
  simp [System.handedReplies, System.handedFrames_handed, names]

theorem detain (peer : Peer) : Disregards targets system { system.addPromise with peer } :=
  .of_journal system.loop.addPromise_queues rfl rfl

theorem accept (link : Nat) (frame : Value) :
    Disregards targets system (system.accept link frame) := by
  refine ⟨?_, by rw [System.handedReplies, System.handedFrames_accept]; rfl, fun _ => rfl⟩
  refine system.loop.enqueue_queues fun callback member => ?_
  obtain ⟨_, _, rfl⟩ := List.mem_map.mp member
  rfl

end Disregards

namespace System

variable (system : System)

theorem await_disregards (promise : Nat) :
    Disregards targets system (system.await promise).1 ∧ (system.await promise).Exchanges := by
  unfold await
  split
  · exact ⟨.refl system, .of_ended _ _⟩
  · exact ⟨.refl system, fun _ member => absurd member List.not_mem_nil⟩

/-! ## Writing -/

theorem write_exchanges (session : Nat) (subject : String) (frame : Value) :
    (system.write session subject frame).Exchanges := by
  cases sessionFound : system.sessions[session]? with
  | none =>
      simp only [write, sessionFound]
      exact .of_ended _ _
  | some found =>
      rcases write_cases subject frame sessionFound with ⟨_, _, refused⟩ | held | accepted
      · rw [refused]
        exact .of_ended _ _
      · rw [held]
        intro frame member
        simp only [Progress.frames, List.mem_cons, List.not_mem_nil, or_false] at member
        rcases member with rfl | rfl
        · trivial
        · trivial
      · rw [accepted]
        exact .of_ended _ _

/-- Apart from the frame that is handed over, writing leaves the answers alone. -/
theorem write_disregards
    {found : Session} (session : Nat) (subject : String) (frame : Value)
    (sessionFound : system.sessions[session]? = some found) :
    Disregards targets (system.note (.handed found.link frame))
      (system.write session subject frame).1 := by
  rcases write_cases subject frame sessionFound with ⟨_, _, refused⟩ | held | accepted
  · rw [refused]
    exact .refl _
  · rw [held]
    exact .detain _ _
  · rw [accepted]
    exact .accept _ _ _

theorem write_disregards_of_method
    {frame : Value} (session : Nat) (subject : String) (names : isReply frame = false) :
    Disregards targets system (system.write session subject frame).1 := by
  cases sessionFound : system.sessions[session]? with
  | none =>
      simp only [write, sessionFound]
      exact .refl system
  | some found =>
      exact (Disregards.handed system found.link names).trans
        (system.write_disregards session subject frame sessionFound)

theorem notify_disregards (session : Nat) (method : String) (params : Option Value) :
    Disregards targets system (system.notify session method params).1 ∧
      (system.notify session method params).Exchanges := by
  unfold notify
  split
  · exact ⟨.refl system, .of_ended _ _⟩
  · split
    · exact ⟨.refl system, .of_ended _ _⟩
    · split
      · have names := isReply_notificationMessage method params
        exact ⟨system.write_disregards_of_method session method names,
          system.write_exchanges session method _⟩
      · exact ⟨.refl system, .of_ended _ _⟩

theorem resumeRequesting_disregards (promise : Nat) (outcome : Outcome Reply) :
    Disregards targets system (resumeRequesting promise system outcome).1 ∧
      (resumeRequesting promise system outcome).Exchanges := by
  cases outcome with
  | returned _ => exact system.await_disregards promise
  | failed _ => exact ⟨.settle system promise .cancelled, .of_ended _ _⟩
  | cancelled => exact ⟨.settle system promise .cancelled, .of_ended _ _⟩

theorem registerRequest_disregards
    (session : Nat) (id method : String) (timeout : Quantity) (delay : Delay) :
    Disregards targets system (system.registerRequest session id method timeout delay) := by
  have added : system.loop.Queues targets (system.loop.addPromise {}) :=
    system.loop.addPromise_queues
  have armed : (system.loop.addPromise {}).Queues targets
      ((system.loop.addPromise {}).arm delay (.expire session id)) := .of_same rfl rfl rfl
  exact .of_journal ((added.trans armed).trans (Scheduler.whenSettled_queues _ _ rfl)) rfl rfl

theorem request_disregards
    (session : Nat) (method : String) (params : Option Value) (timeout : Option Quantity) :
    Disregards targets system (system.request session method params timeout).1 ∧
      (system.request session method params timeout).Exchanges := by
  unfold request
  split
  · exact ⟨.refl system, .of_ended _ _⟩
  · rename_i found _
    split
    · exact ⟨.refl system, .of_ended _ _⟩
    · have counted : Disregards targets system (system.countRequest session) := .modifySession _ _ _
      simp only
      split
      · exact ⟨counted, .of_ended _ _⟩
      · rename_i delay _
        have registered := counted.trans (registerRequest_disregards _ session
          (requestId (found.requests + 1)) method (timeout.getD found.defaultTimeout) delay)
        have goesOn : ∀ promise later outcome,
            Disregards targets later (resumeRequesting promise later outcome).1 ∧ _ :=
          fun promise later outcome => resumeRequesting_disregards later promise outcome
        split
        · have written := registered.trans (write_disregards_of_method _ session method
            (isReply_requestMessage (requestId (found.requests + 1)) method params))
          exact ⟨written.andThen fun later outcome => (goesOn _ later outcome).1,
            (write_exchanges _ session method _).andThen trivial fun later outcome =>
              (goesOn _ later outcome).2⟩
        · exact ⟨registered, .of_ended _ _⟩

/-! ## The end of a session -/

theorem discard_disregards (session : Nat) (id : String) :
    Disregards targets system (system.discard session id) := by
  unfold discard
  split
  · exact .refl system
  · exact (Disregards.modifySession system session _).trans (.disarm _ _)

theorem expire_disregards (session : Nat) (id : String) :
    Disregards targets system (system.expire session id) := by
  unfold expire
  split
  · exact .refl system
  · exact (Disregards.log system _ _ _).trans (.settle _ _ _)

theorem abandonRequests_disregards (session : Nat) (reason : SessionEnd) :
    Disregards targets system (system.abandonRequests session reason) := by
  unfold abandonRequests
  split
  · exact .refl system
  · rename_i found _
    have abandoned : Disregards targets system
        (found.pending.foldl (abandonRequest reason) system) :=
      List.foldlRecOn found.pending _ (.refl system) fun later disregards entry _ =>
        (disregards.trans (.disarm later entry.timer)).trans (.settle _ _ _)
    exact abandoned.trans (.modifySession _ session _)

theorem loseConnection_disregards (session : Nat) :
    Disregards targets system (system.loseConnection session) := by
  unfold loseConnection
  split
  · exact .refl system
  · split
    · exact .refl system
    · exact ((Disregards.log system _ _ _).trans (.modifySession _ session _)).trans
        (abandonRequests_disregards _ session .lost)

theorem drop_disregards (link : Nat) : Disregards targets system (system.drop link) := by
  unfold drop
  split
  · exact .refl system
  · exact system.loseConnection_disregards _

theorem closeLink_disregards (link : Nat) :
    Disregards targets system (system.closeLink link).1 ∧ (system.closeLink link).Exchanges := by
  have closed : Disregards targets system { system.note (.closedLink link) with
      links := system.links.modify link fun found => { found with closed := true } } := by
    refine (Disregards.note system rfl).trans ⟨.refl _, rfl, fun other => ?_⟩
    simp only [System.note, List.getElem?_modify]
    cases system.links[other]? with
    | none => rfl
    | some found => by_cases same : link = other <;> simp [same]
  unfold closeLink
  simp only
  split
  · have awaits : ∀ later promise, Disregards targets later (await later promise).1 ∧ _ :=
      await_disregards
    exact ⟨(closed.trans (.detain _ _)).trans (awaits _ _).1, (awaits _ _).2⟩
  · split
    · exact ⟨closed, .of_ended _ _⟩
    · exact ⟨closed, .of_ended _ _⟩

/-- The end of a session cancels tasks, and leaves the answers alone otherwise. -/
theorem closeSession_disregards (session : Nat) :
    Disregards (fun _ => True) system (system.closeSession session).1 ∧
      (system.closeSession session).Exchanges := by
  unfold closeSession
  split
  · exact ⟨.refl system, .of_ended _ _⟩
  · rename_i found _
    split
    · exact ⟨.refl system, .of_ended _ _⟩
    · have shut : Disregards (fun _ => True) system (system.modifySession session fun found =>
          { found with closed := true }) := .modifySession _ _ _
      have abandoned := shut.trans (abandonRequests_disregards _ session .closed)
      have cancels : ∀ later : System, Disregards (fun _ => True) later (later.onLoop fun loop =>
          found.answers.foldl (fun loop task => loop.cancel task) loop) := fun later =>
        .onLoop later <| List.foldlRecOn found.answers _ (.refl later.loop)
          fun loop queues task _ =>
            queues.trans (loop.cancel_queues trivial fun _ _ _ _ _ => trivial)
      have cancelled := abandoned.trans (cancels _)
      have closes : ∀ later, Disregards (fun _ => True) later (closeLink later found.link).1 ∧ _ :=
        fun later => closeLink_disregards later found.link
      refine ⟨(cancelled.trans (closes _).1).andThen fun later outcome => ?_,
        (closes _).2.andThen trivial fun later outcome => ?_⟩
      · cases outcome <;> exact .refl later
      · cases outcome <;> exact .of_ended _ _

/-! ## Frames and callbacks -/

theorem resumeFrame_disregards
    {frame : Frame} (exchange : frame.IsExchange) (outcome : Outcome Reply) :
    Disregards targets system (resumeFrame frame system outcome).1 ∧
      (resumeFrame frame system outcome).Exchanges := by
  cases frame with
  | sending link frame =>
      cases outcome with
      | returned reply =>
          cases refused : system.peer.refusalOf? frame with
          | some failure =>
              have refuses : resumeFrame (.sending link frame) system (.returned reply) = _ :=
                takeFrame_of_refusal link refused
              rw [refuses]
              exact ⟨.refl system, .of_ended _ _⟩
          | none =>
              have accepts : resumeFrame (.sending link frame) system (.returned reply) = _ :=
                takeFrame_of_acceptance link refused
              rw [accepts]
              exact ⟨.accept system link frame, .of_ended _ _⟩
      | failed _ => exact ⟨.refl system, .of_ended _ _⟩
      | cancelled => exact ⟨.refl system, .of_ended _ _⟩
  | writing subject =>
      cases outcome <;> exact ⟨.refl system, .of_ended _ _⟩
  | requesting promise => exact system.resumeRequesting_disregards promise outcome
  | closingLink =>
      cases outcome <;> exact ⟨.refl system, .of_ended _ _⟩
  | _ => exact exchange.elim

theorem resumeStack_disregards
    {stack : List Frame} (exchanges : ∀ frame ∈ stack, frame.IsExchange) (outcome : Outcome Reply) :
    Disregards targets system (system.resumeStack outcome stack).1 ∧
      (system.resumeStack outcome stack).Exchanges := by
  induction stack generalizing system outcome with
  | nil => exact ⟨.refl system, .of_ended _ _⟩
  | cons frame outer inductionHypothesis =>
      have inner : Disregards targets system (resumeFrame frame system outcome).1 ∧ _ :=
        resumeFrame_disregards system (exchanges frame List.mem_cons_self) outcome
      have exchangesOuter : ∀ other ∈ outer, other.IsExchange :=
        fun other member => exchanges other (List.mem_cons_of_mem frame member)
      rcases result : resumeFrame frame system outcome with ⟨later, ending | ⟨frames, promise⟩⟩
      · rw [result] at inner
        rw [resumeStack_of_ended outer result]
        obtain ⟨disregards, rest⟩ := inductionHypothesis later exchangesOuter ending
        exact ⟨inner.1.trans disregards, rest⟩
      · rw [result] at inner
        rw [resumeStack_of_suspended outer result]
        refine ⟨inner.1, fun other member => ?_⟩
        rcases List.mem_append.mp member with isInner | isOuter
        · exact inner.2 other isInner
        · exact exchangesOuter other isOuter

theorem endAnswer_disregards (session task : Nat) :
    Disregards targets system (system.endAnswer session task) := by
  have removed : Disregards targets system (system.modifySession session fun found =>
      { found with answers := found.answers.filter fun other => other ≠ task }) :=
    .modifySession _ _ _
  unfold endAnswer
  simp only
  split
  · exact removed.trans (.log _ _ _ _)
  · exact removed
  · exact removed
  · exact removed

/-! ## Messages of the peer -/

theorem takeResponse_disregards (session : Nat) (id : String) (message : Value) :
    Disregards targets system (system.takeResponse session id message).1 := by
  unfold takeResponse
  split
  · exact .log system _ _ _
  · split
    · exact .settle system _ _
    · split
      · exact .settle system _ _
      · exact .refl system

theorem takeNotification_disregards
    (unopened : ∀ found ∈ system.workspaces, found.openFiles = [])
    (tell : System → Nat → PublishedDiagnostics → System × Option Failure)
    (workspace : Nat) (method params : Value) :
    Disregards targets system (takeNotification tell system workspace method params).1 := by
  rcases takeNotification_of_unopened unopened tell workspace method params with
    same | ⟨level, text, logs⟩
  · rw [same]
    exact .refl system
  · rw [logs]
    exact .log system _ _ _

/-- A text that is a request of the peer is taken as one. -/
theorem takeMessage_of_request
    {raw : String} {id : Value} (requested : requestedId? raw = some id) (session : Nat)
    (tell : System → Nat → Value → Value → System × Option Failure) :
    system.takeMessage session raw tell = (system.takeRequest session id, none) := by
  obtain ⟨_, method, parsed, ⟨members, rfl⟩, hasMethod, hasId⟩ :=
    requestedId?_eq_some_iff.mp requested
  simp only [takeMessage, parsed, hasMethod, hasId]

/-- A text that is no request of the peer leaves the answers alone. -/
theorem takeMessage_disregards
    (unopened : ∀ found ∈ system.workspaces, found.openFiles = []) {raw : String}
    (unrequested : requestedId? raw = none) (session : Nat) :
    Disregards targets system
      (system.takeMessage session raw (takeNotification showDiagnostics)).1 := by
  unfold takeMessage
  split
  · exact .log system _ _ _
  · exact .refl system
  · rename_i members parsed
    simp only
    split
    · rename_i method id hasMethod hasId
      simp only [requestedId?, parsed, hasMethod, hasId] at unrequested
      cases unrequested
    · split
      · exact .log system _ _ _
      · exact .log system _ _ _
      · rename_i method _ _ _ listener _ _
        cases listener with
        | nobody => exact .refl system
        | workspace workspace =>
            have told : Disregards targets system _ := takeNotification_disregards system unopened
              showDiagnostics workspace method (((Value.object members).get? "params").getD .null)
            simp only
            split
            · exact told
            · exact told.trans (.log _ _ _ _)
        | host fails =>
            simp only
            split
            · exact .note system rfl
            · exact (Disregards.note system rfl).trans (.log _ _ _ _)
    · exact system.takeResponse_disregards session _ _
    · exact .log system _ _ _
  · exact .log system _ _ _

theorem releases_disregards {after : System} (releases : system.Releases after) :
    Disregards targets system after := by
  cases releases with
  | nothing => exact .refl system
  | promise => exact .of_journal (system.loop.settle_queues _ _) rfl rfl

end System

end LanguageClient.Client
