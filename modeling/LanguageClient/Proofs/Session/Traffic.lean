import LanguageClient.Proofs.Resuming
import LanguageClient.Proofs.Session.World
import LanguageClient.Proofs.Loop.Stands

/-!
# The traffic of a session

The frames that are handed to connections and those that peers accept. Most of what a client does
goes unnoticed by the peer: no frame is handed over or accepted, what is held back stays held, and no
task is started that could write later.
-/

namespace LanguageClient.Client

open LanguageClient.Json LanguageClient.Loop LanguageClient.Number LanguageClient.Protocol

/-- The frame that is handed to a connection. -/
def Occurrence.handedFrame? : Occurrence → Option Value
  | .handed _ frame => some frame
  | _ => none

/-- The frame that a peer accepts. -/
def Occurrence.acceptedFrame? : Occurrence → Option Value
  | .accepted _ frame => some frame
  | _ => none

/-- A text of the peer is a request with an id. -/
def IsRequest (text : String) (id : Value) : Prop :=
  ∃ message method, Value.ofText text = .ok message ∧ (∃ members, message = .object members) ∧
    message.present? "method" = some method ∧ message.present? "id" = some id

namespace System

/-- The frames that were handed to connections, in order. -/
def handedFrames (system : System) : List Value := system.journal.filterMap Occurrence.handedFrame?

/-- The frames that were accepted by peers, in order. -/
def acceptedFrames (system : System) : List Value :=
  system.journal.filterMap Occurrence.acceptedFrame?

theorem handedFrames_note (system : System) (occurrence : Occurrence) :
    (system.note occurrence).handedFrames =
      system.handedFrames ++ occurrence.handedFrame?.toList := by
  unfold handedFrames note
  rw [List.filterMap_append]
  cases noted : occurrence.handedFrame? with
  | none => simp [noted]
  | some frame => simp [noted]

theorem acceptedFrames_note (system : System) (occurrence : Occurrence) :
    (system.note occurrence).acceptedFrames =
      system.acceptedFrames ++ occurrence.acceptedFrame?.toList := by
  unfold acceptedFrames note
  rw [List.filterMap_append]
  cases noted : occurrence.acceptedFrame? with
  | none => simp [noted]
  | some frame => simp [noted]

theorem handedFrames_accept (system : System) (link : Nat) (frame : Value) :
    (system.accept link frame).handedFrames = system.handedFrames :=
  (handedFrames_note { system with peer := (system.peer.accept frame).2 }
    (.accepted link frame)).trans (List.append_nil _)

theorem acceptedFrames_accept (system : System) (link : Nat) (frame : Value) :
    (system.accept link frame).acceptedFrames = system.acceptedFrames ++ [frame] :=
  acceptedFrames_note { system with peer := (system.peer.accept frame).2 } (.accepted link frame)

theorem handedFrames_handed (system : System) (link : Nat) (frame : Value) :
    (system.note (.handed link frame)).handedFrames = system.handedFrames ++ [frame] :=
  handedFrames_note system (.handed link frame)

theorem acceptedFrames_handed (system : System) (link : Nat) (frame : Value) :
    (system.note (.handed link frame)).acceptedFrames = system.acceptedFrames :=
  (acceptedFrames_note system (.handed link frame)).trans (List.append_nil _)

theorem handedFrames_write
    {system : System} {session : Nat} {found : Session}
    (sessionFound : system.sessions[session]? = some found) (subject : String) (frame : Value) :
    (system.write session subject frame).1.handedFrames = system.handedFrames ++ [frame] := by
  have handed := system.handedFrames_handed found.link frame
  rcases write_cases subject frame sessionFound with ⟨_, _, refused⟩ | held | accepted
  · rw [refused]
    exact handed
  · rw [held]
    exact handed
  · rw [accepted]
    exact (handedFrames_accept _ found.link frame).trans handed

/-- The peer notices nothing, and no task is started. -/
structure Unnoticed (before after : System) : Prop where
  handed : after.handedFrames = before.handedFrames
  accepted : after.acceptedFrames = before.acceptedFrames
  detained : ∀ promise ∈ before.peer.detained, promise ∈ after.peer.detained
  nextTask : after.nextTask = before.nextTask

namespace Unnoticed

variable {before middle after system : System}

theorem of_same
    (journal : after.journal = before.journal) (peer : after.peer = before.peer)
    (nextTask : after.nextTask = before.nextTask) : Unnoticed before after where
  handed := by rw [handedFrames, journal, handedFrames]
  accepted := by rw [acceptedFrames, journal, acceptedFrames]
  detained := by rw [peer]; exact fun _ => id
  nextTask

theorem refl (system : System) : Unnoticed system system := .of_same rfl rfl rfl

theorem trans (first : Unnoticed before middle) (second : Unnoticed middle after) :
    Unnoticed before after where
  handed := second.handed.trans first.handed
  accepted := second.accepted.trans first.accepted
  detained := fun promise member => second.detained promise (first.detained promise member)
  nextTask := second.nextTask.trans first.nextTask

theorem andThen
    {step : Step} {frame : Frame} {rest : System → Outcome Reply → Step}
    (first : Unnoticed before step.1)
    (second : ∀ later outcome, Unnoticed later (rest later outcome).1) :
    Unnoticed before (step.andThen frame rest).1 := by
  obtain ⟨later, outcome | ⟨frames, promise⟩⟩ := step
  · exact first.trans (second later outcome)
  · exact first

theorem note
    {occurrence : Occurrence} (system : System) (handed : occurrence.handedFrame? = none)
    (accepted : occurrence.acceptedFrame? = none) : Unnoticed system (system.note occurrence) where
  handed := by rw [handedFrames_note, handed, Option.toList_none, List.append_nil]
  accepted := by rw [acceptedFrames_note, accepted, Option.toList_none, List.append_nil]
  detained := fun _ => id
  nextTask := rfl

theorem log (system : System) (level : LogLevel) (source : LogSource) (text : String) :
    Unnoticed system (system.log level source text) :=
  note system rfl rfl

theorem settle (system : System) (promise : Nat) (outcome : Outcome Reply) :
    Unnoticed system (system.settle promise outcome) :=
  .of_same rfl rfl (congrArg List.length (Scheduler.settle_tasks promise outcome system.loop))

theorem cancel (system : System) (task : Nat) :
    Unnoticed system (system.onLoop (·.cancel task)) :=
  .of_same rfl rfl (system.loop.cancel_nextTask task)

theorem holdBack (system : System) : Unnoticed system system.holdBack where
  handed := rfl
  accepted := rfl
  detained := fun promise member => by
    simp only [System.holdBack, Peer.detained, List.mem_append] at member ⊢
    exact member.imp Or.inl id
  nextTask := rfl

end Unnoticed

section Functions

variable (system : System)

/-! ## Closing -/

theorem abandonRequest_unnoticed (reason : SessionEnd) (entry : PendingRequest) :
    Unnoticed system (system.abandonRequest reason entry) :=
  (Unnoticed.of_same rfl rfl rfl : Unnoticed system (system.disarm entry.timer)).trans
    (.settle _ _ _)

theorem abandonRequests_unnoticed (session : Nat) (reason : SessionEnd) :
    Unnoticed system (system.abandonRequests session reason) := by
  have abandoned : ∀ entries : List PendingRequest,
      Unnoticed system (entries.foldl (abandonRequest reason) system) := fun entries =>
    List.foldlRecOn entries _ (.refl system) fun later unnoticed entry _ =>
      unnoticed.trans (abandonRequest_unnoticed later reason entry)
  unfold abandonRequests
  split
  · exact .refl system
  · exact (abandoned _).trans (.of_same rfl rfl rfl)

theorem cancels_unnoticed (tasks : List Nat) :
    Unnoticed system (system.onLoop fun loop => tasks.foldl (fun loop task => loop.cancel task) loop) := by
  induction tasks generalizing system with
  | nil =>
      exact .refl system
  | cons head others inductionHypothesis =>
      exact (Unnoticed.cancel system head).trans (inductionHypothesis _)

theorem closeLink_unnoticed (link : Nat) : Unnoticed system (system.closeLink link).1 := by
  have closed : Unnoticed system { system.note (.closedLink link) with
      links := system.links.modify link fun found => { found with closed := true } } :=
    (Unnoticed.note system rfl rfl).trans (.of_same rfl rfl rfl)
  unfold closeLink
  simp only
  split
  · refine closed.trans ?_
    unfold await
    split <;>
    · refine ⟨rfl, rfl, fun promise member => ?_, rfl⟩
      simp only [Peer.detained, List.mem_append] at member ⊢
      exact member.imp id Or.inl
  · split <;> exact closed

theorem closeSession_unnoticed (session : Nat) :
    Unnoticed system (system.closeSession session).1 := by
  unfold closeSession
  split
  · exact .refl system
  · rename_i found _
    split
    · exact .refl system
    · have shut : Unnoticed system (system.modifySession session fun found =>
          { found with closed := true }) := .of_same rfl rfl rfl
      have abandoned := shut.trans (abandonRequests_unnoticed _ session .closed)
      have cancelled := abandoned.trans (cancels_unnoticed _ found.answers)
      exact (cancelled.trans (closeLink_unnoticed _ found.link)).andThen fun later outcome => by
        cases outcome <;> exact .refl later

theorem loseConnection_unnoticed (session : Nat) :
    Unnoticed system (system.loseConnection session) := by
  unfold loseConnection
  split
  · exact .refl system
  · split
    · exact .refl system
    · have shut : Unnoticed (system.log .warning .session _) ((system.log .warning .session
          "connection lost, failing outstanding requests").modifySession session fun found =>
            { found with closed := true }) := .of_same rfl rfl rfl
      exact ((Unnoticed.log system _ _ _).trans shut).trans (abandonRequests_unnoticed _ session .lost)

theorem abandonHandshake_unnoticed (session : Nat) (serverUri : String) (ending : Outcome Reply) :
    Unnoticed system (system.abandonHandshake session serverUri ending).1 := by
  have closed := (Unnoticed.log system .error .workspace
    ("initialize failed for " ++ serverUri ++ ": " ++ endingText ending)).trans
      (closeSession_unnoticed _ session)
  exact closed.andThen fun later outcome => by
    cases outcome <;> exact .refl later

/-! ## Callbacks -/

theorem discard_unnoticed (session : Nat) (id : String) :
    Unnoticed system (system.discard session id) := by
  unfold discard
  split
  · exact .refl system
  · exact .of_same rfl rfl rfl

theorem expire_unnoticed (session : Nat) (id : String) :
    Unnoticed system (system.expire session id) := by
  unfold expire
  split
  · exact .refl system
  · exact (Unnoticed.log system _ _ _).trans (.settle _ _ _)

theorem endAnswer_unnoticed (session task : Nat) :
    Unnoticed system (system.endAnswer session task) := by
  have removed : Unnoticed system (system.modifySession session fun found =>
      { found with answers := found.answers.filter fun other => other ≠ task }) :=
    .of_same rfl rfl rfl
  unfold endAnswer
  simp only
  split
  · exact removed.trans (.log _ _ _ _)
  · exact removed
  · exact removed
  · exact removed

theorem drop_unnoticed (link : Nat) : Unnoticed system (system.drop link) := by
  unfold drop
  split
  · exact .refl system
  · exact loseConnection_unnoticed system _

/-! ## Messages of the peer -/

theorem takeResponse_unnoticed (session : Nat) (id : String) (message : Value) :
    Unnoticed system (system.takeResponse session id message).1 := by
  unfold takeResponse
  split
  · exact .log system _ _ _
  · split
    · exact .settle system _ _
    · split
      · exact .settle system _ _
      · exact .refl system

/-- A request of the peer starts a task that answers it, and nothing else. -/
structure Answering (session : Nat) (id : Value) (before after : System) : Prop where
  isOpen : ∃ found, before.sessions[session]? = some found ∧ found.closed = false
  handed : after.handedFrames = before.handedFrames
  accepted : after.acceptedFrames = before.acceptedFrames
  detained : ∀ promise ∈ before.peer.detained, promise ∈ after.peer.detained
  nextTask : after.nextTask = before.nextTask + 1
  started : ∀ found, after.loop.tasks[before.nextTask]? = some found →
    found.stack = [.begin (.answer session id)]

/-- A text of the peer goes unnoticed, or it is a request that will be answered. -/
theorem takeRequest_answers (session : Nat) (id : Value) :
    Unnoticed system (system.takeRequest session id) ∨
      Answering session id system (system.takeRequest session id) := by
  unfold takeRequest
  split
  · exact Or.inl (.refl system)
  · rename_i found sessionFound
    split
    · exact Or.inl (.refl system)
    · rename_i isOpen
      right
      simp only
      generalize watchedEq : (system.spawn (.answer session id)).whenEnded system.nextTask
        (.answerEnded session system.nextTask) = watched
      have tasks : watched.loop.tasks = (system.spawn (.answer session id)).loop.tasks := by
        rw [← watchedEq]
        unfold whenEnded
        split
        · rfl
        · exact Scheduler.whenSettled_tasks _ _ _
      have others : watched.journal = system.journal ∧ watched.peer = system.peer := by
        rw [← watchedEq]
        unfold whenEnded
        split <;> exact ⟨rfl, rfl⟩
      have spawned : (system.spawn (.answer session id)).loop.tasks = system.loop.tasks ++ [{
          stack := [.begin (.answer session id)]
          awaiting := none
          cancelRequested := false
          completion := system.nextPromise }] := rfl
      exact {
        isOpen := ⟨found, sessionFound, Bool.not_eq_true _ ▸ isOpen⟩
        handed := by simp only [handedFrames, modifySession, others.1]
        accepted := by simp only [acceptedFrames, modifySession, others.1]
        detained := fun promise member => by
          simp only [modifySession, others.2]
          exact member
        nextTask := by
          simp only [nextTask, Scheduler.nextTask, modifySession, tasks, spawned,
            List.length_append, List.length_singleton]
        started := fun found entry => by
          simp only [modifySession, tasks, spawned, nextTask, Scheduler.nextTask,
            List.getElem?_concat_length, Option.some.injEq] at entry
          rw [← entry] }

theorem takeNotification_unnoticed
    (unopened : ∀ found ∈ system.workspaces, found.openFiles = [])
    (tell : System → Nat → PublishedDiagnostics → System × Option Failure)
    (workspace : Nat) (method params : Value) :
    Unnoticed system (takeNotification tell system workspace method params).1 := by
  rcases takeNotification_of_unopened unopened tell workspace method params with
    same | ⟨level, text, logs⟩
  · rw [same]
    exact .refl system
  · rw [logs]
    exact .log system _ _ _

/-- A text of the peer goes unnoticed, unless it is a request. -/
theorem takeMessage_answers
    (unopened : ∀ found ∈ system.workspaces, found.openFiles = []) (session : Nat) (raw : String) :
    let later := (system.takeMessage session raw (takeNotification showDiagnostics)).1
    Unnoticed system later ∨ ∃ id, IsRequest raw id ∧ Answering session id system later := by
  intro later
  suffices answers : ∀ id, IsRequest raw id → later = system.takeRequest session id →
      Unnoticed system later ∨ ∃ id, IsRequest raw id ∧ Answering session id system later by
    by_cases request : ∃ id, IsRequest raw id ∧ later = system.takeRequest session id
    · obtain ⟨id, isRequest, same⟩ := request
      exact answers id isRequest same
    · left
      simp only [later] at request ⊢
      unfold takeMessage at request ⊢
      split
      · exact .log system _ _ _
      · exact .refl system
      · rename_i members parsed
        simp only [parsed] at request ⊢
        split
        · rename_i method id hasMethod hasId
          simp only [hasMethod, hasId] at request
          exact (request ⟨_, ⟨_, _, parsed, ⟨_, rfl⟩, hasMethod, hasId⟩, rfl⟩).elim
        · split
          · exact .log system _ _ _
          · exact .log system _ _ _
          · rename_i method _ _ _ listener _ _
            cases listener with
            | nobody => exact .refl system
            | workspace workspace =>
                have told := takeNotification_unnoticed system unopened showDiagnostics workspace
                  method (((Value.object members).get? "params").getD .null)
                simp only
                split
                · exact told
                · exact told.trans (.log _ _ _ _)
            | host fails =>
                simp only
                split
                · exact .note system rfl rfl
                · exact (Unnoticed.note system rfl rfl).trans (.log _ _ _ _)
        · exact takeResponse_unnoticed system session _ _
        · exact .log system _ _ _
      · exact .log system _ _ _
  intro id isRequest same
  rw [same]
  exact (takeRequest_answers system session id).imp_right fun answering => ⟨id, isRequest, answering⟩

theorem Answering.note
    {session : Nat} {id : Value} {before after : System} (answering : Answering session id before after)
    (failure : Failure) : Answering session id before (after.note (.escaped failure)) where
  isOpen := answering.isOpen
  handed := (Unnoticed.note after rfl rfl).handed.trans answering.handed
  accepted := (Unnoticed.note after rfl rfl).accepted.trans answering.accepted
  detained := answering.detained
  nextTask := answering.nextTask
  started := answering.started

/-- What comes over a connection goes unnoticed, unless it is a request to the session that listens. -/
theorem receive_answers
    (unopened : ∀ found ∈ system.workspaces, found.openFiles = []) (link : Nat) (text : String) :
    Unnoticed system (system.receive link text) ∨
      ∃ session id, (system.links[link]?).bind (·.session) = some session ∧ IsRequest text id ∧
        Answering session id system (system.receive link text) := by
  unfold receive
  split
  · exact Or.inl (.refl system)
  · rename_i session listens
    have answers := takeMessage_answers system unopened session text
    generalize system.takeMessage session text (takeNotification showDiagnostics) = result at answers
    obtain ⟨later, failure⟩ := result
    cases failure with
    | none =>
        exact answers.imp id fun ⟨id, isRequest, answering⟩ =>
          ⟨session, id, listens, isRequest, answering⟩
    | some failure =>
        exact answers.imp (·.trans (.note later rfl rfl)) fun ⟨id, isRequest, answering⟩ =>
          ⟨session, id, listens, isRequest, answering.note failure⟩

end Functions

/-! ## Tasks -/

section Tasks

variable (system : System)

theorem andThen_nextTask
    {step : Step} {frame : Frame} {rest : System → Outcome Reply → Step}
    (first : step.1.nextTask = system.nextTask)
    (second : ∀ later outcome, (rest later outcome).1.nextTask = later.nextTask) :
    (step.andThen frame rest).1.nextTask = system.nextTask := by
  obtain ⟨later, outcome | ⟨frames, promise⟩⟩ := step
  · exact (second later outcome).trans first
  · exact first

theorem await_nextTask (promise : Nat) : (system.await promise).1.nextTask = system.nextTask := by
  unfold await
  split <;> rfl

theorem takeFrame_nextTask (link : Nat) (frame : Value) :
    (system.takeFrame link frame).1.nextTask = system.nextTask := by
  unfold takeFrame
  split <;> rfl

theorem resumeSending_nextTask (link : Nat) (frame : Value) (outcome : Outcome Reply) :
    (resumeSending link frame system outcome).1.nextTask = system.nextTask := by
  cases outcome with
  | returned _ => exact takeFrame_nextTask system link frame
  | failed _ => rfl
  | cancelled => rfl

theorem resumeWriting_nextTask (subject : String) (outcome : Outcome Reply) :
    (resumeWriting subject system outcome).1.nextTask = system.nextTask := by
  cases outcome <;> rfl

theorem write_nextTask (session : Nat) (subject : String) (frame : Value) :
    (system.write session subject frame).1.nextTask = system.nextTask := by
  cases sessionFound : system.sessions[session]? with
  | none => simp only [write, sessionFound, Step.failed]
  | some found =>
      rcases write_cases subject frame sessionFound with ⟨_, _, refused⟩ | held | accepted
      · rw [refused]
        rfl
      · rw [held]
        rfl
      · rw [accepted]
        rfl

theorem notify_nextTask (session : Nat) (method : String) (params : Option Value) :
    (system.notify session method params).1.nextTask = system.nextTask := by
  unfold notify
  split
  · rfl
  · split
    · rfl
    · split
      · exact write_nextTask system session _ _
      · rfl

theorem request_nextTask
    (session : Nat) (method : String) (params : Option Value) (timeout : Option Quantity) :
    (system.request session method params timeout).1.nextTask = system.nextTask := by
  unfold request
  split
  · rfl
  · split
    · rfl
    · simp only
      split
      · rfl
      · rename_i delay _
        have registered : ∀ id timeout, ((system.countRequest session).registerRequest session id
            method timeout delay).nextTask = system.nextTask := fun id timeout =>
          congrArg List.length (Scheduler.whenSettled_tasks _ _ _)
        split
        · refine andThen_nextTask system ((write_nextTask _ session _ _).trans (registered _ _)) ?_
          intro later outcome
          cases outcome with
          | returned _ => exact await_nextTask later _
          | failed _ => exact (Unnoticed.settle later _ .cancelled).nextTask
          | cancelled => exact (Unnoticed.settle later _ .cancelled).nextTask
        · exact registered _ _

theorem resumeConfirming_nextTask
    (session : Nat) (serverUri : String) (result : InitializeResult) (outcome : Outcome Reply) :
    (resumeConfirming session serverUri result system outcome).1.nextTask = system.nextTask := by
  cases outcome with
  | returned _ => rfl
  | failed _ => exact (abandonHandshake_unnoticed system session serverUri _).nextTask
  | cancelled => exact (abandonHandshake_unnoticed system session serverUri _).nextTask

theorem resumeHandshaking_nextTask
    (session : Nat) (serverUri : String) (outcome : Outcome Reply) :
    (resumeHandshaking session serverUri system outcome).1.nextTask = system.nextTask := by
  unfold resumeHandshaking
  split
  · split
    · exact (abandonHandshake_unnoticed system session serverUri _).nextTask
    · exact andThen_nextTask system (notify_nextTask system session _ _) fun later outcome =>
        resumeConfirming_nextTask later session serverUri _ outcome
  · exact (abandonHandshake_unnoticed system session serverUri _).nextTask
  · exact (abandonHandshake_unnoticed system session serverUri _).nextTask
  · exact (abandonHandshake_unnoticed system session serverUri _).nextTask

/-- A frame of a session starts no task when it goes on. -/
theorem resumeFrame_nextTask
    {registered : List Registration} {frame : Frame} (allowed : IsSessionFrame registered frame)
    (outcome : Outcome Reply) :
    (resumeFrame frame system outcome).1.nextTask = system.nextTask := by
  cases frame with
  | sending link sent => exact resumeSending_nextTask system link sent outcome
  | writing subject => exact resumeWriting_nextTask system subject outcome
  | requesting promise =>
      cases outcome with
      | returned _ => exact await_nextTask system promise
      | failed _ => exact (Unnoticed.settle system promise .cancelled).nextTask
      | cancelled => exact (Unnoticed.settle system promise .cancelled).nextTask
  | closingLink => cases outcome <;> rfl
  | handshaking session serverUri =>
      exact resumeHandshaking_nextTask system session serverUri outcome
  | confirming session serverUri result =>
      exact resumeConfirming_nextTask system session serverUri result outcome
  | abandoningHandshake ending => cases outcome <;> rfl
  | _ => exact allowed.elim

theorem resumeStack_nextTask
    {registered : List Registration} {stack : List Frame}
    (allowed : ∀ frame ∈ stack, IsSessionFrame registered frame) (outcome : Outcome Reply) :
    (system.resumeStack outcome stack).1.nextTask = system.nextTask := by
  induction stack generalizing system outcome with
  | nil => rfl
  | cons frame outer inductionHypothesis =>
      have inner := resumeFrame_nextTask system (allowed frame List.mem_cons_self) outcome
      have allowedOuter : ∀ frame ∈ outer, IsSessionFrame registered frame :=
        fun other member => allowed other (List.mem_cons_of_mem _ member)
      rcases result : resumeFrame frame system outcome with ⟨later, ending | ⟨frames, promise⟩⟩
      · rw [result] at inner
        rw [resumeStack_of_ended outer result]
        exact (inductionHypothesis later allowedOuter ending).trans inner
      · rw [result] at inner
        rw [resumeStack_of_suspended outer result]
        exact inner

end Tasks

end System

/-! ## The end of a turn -/

theorem settleTask_unnoticed (task completion : Nat) (step : Step) :
    step.1.Unnoticed (System.settleTask task completion step) := by
  obtain ⟨middle, outcome | ⟨frames, promise⟩⟩ := step
  · exact (System.Unnoticed.note middle rfl rfl).trans (.settle _ completion outcome)
  · refine .of_same rfl rfl ?_
    simp [System.nextTask, System.settleTask, System.onLoop, Scheduler.nextTask,
      Scheduler.suspend, Scheduler.modifyTask]

theorem settleTask_outcome?
    {task completion promise : Nat} {outcome : Outcome Reply} (step : Step)
    (settled : step.1.loop.outcome? promise = some outcome) :
    (System.settleTask task completion step).loop.outcome? promise = some outcome := by
  obtain ⟨middle, ending | ⟨frames, awaited⟩⟩ := step
  · exact Scheduler.settle_outcome?_of_some ending settled
  · exact (Scheduler.suspend_outcome? task frames awaited promise middle.loop).trans settled

theorem settleTask_sessions (task completion : Nat) (step : Step) :
    (System.settleTask task completion step).sessions = step.1.sessions := by
  obtain ⟨middle, outcome | ⟨frames, promise⟩⟩ := step <;> rfl

theorem settleTask_links (task completion : Nat) (step : Step) :
    (System.settleTask task completion step).links = step.1.links := by
  obtain ⟨middle, outcome | ⟨frames, promise⟩⟩ := step <;> rfl

theorem settleTask_journal (task completion : Nat) (step : Step) :
    (System.settleTask task completion step).journal = step.1.journal ∨
      ∃ outcome, (System.settleTask task completion step).journal =
        step.1.journal ++ [.ended task outcome] := by
  obtain ⟨middle, outcome | ⟨frames, promise⟩⟩ := step
  · exact Or.inr ⟨outcome, rfl⟩
  · exact Or.inl rfl

end LanguageClient.Client
