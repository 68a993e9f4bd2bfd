import LanguageClient.Proofs.Loop.TaskTurn
import LanguageClient.Proofs.Resuming
import LanguageClient.Proofs.Session.Calls
import Mathlib.Data.List.Nodup

/-!
# The turns of a session

One input of a run keeps the invariant of the session, settles promises of requests only as their
sources allow, and keeps the relation between the task of a request and the promise of the request.

What ends a request besides its own call: a response of the peer, the end of its time, and the loss
of the connection. A response or a deadline settles a promise only if the source of the outcome
allows that for the request of the same id, and one text of the peer settles one promise at most.
-/

namespace LanguageClient.Client

open LanguageClient.Json LanguageClient.Loop LanguageClient.Number

/-! ## Messages, deadlines and losses -/

section Passages

variable {registered : List Registration} {running : Option Nat}
  {source : Registration → Outcome Reply → Prop} {before system : System}

theorem registration_of_openRequest?
    {session : Nat} {id : String} {entry : PendingRequest}
    (passage : SessionPassage registered running source before system)
    (isOpen : system.openRequest? session id = some entry) :
    ∃ registration ∈ registered, registration.entry = entry ∧ entry.id = id := by
  simp only [System.openRequest?, Option.filter_eq_some_iff, Option.bind_eq_some_iff,
    Session.find?] at isOpen
  obtain ⟨⟨found, sessionFound, entryFound⟩, _⟩ := isOpen
  obtain ⟨only, isOnly, isSession⟩ := passage.parts.session
  have sameSession : found = only := by
    rw [isOnly] at sessionFound
    exact List.mem_singleton.mp (List.mem_of_getElem? sessionFound)
  subst sameSession
  obtain ⟨registration, member, isEntry⟩ :=
    isSession.pending entry (List.mem_of_find?_eq_some entryFound)
  have sameId := List.find?_some entryFound
  simp only [decide_eq_true_eq] at sameId
  exact ⟨registration, member, isEntry, sameId⟩

theorem registration_of_promise
    {left right : Registration} (parts : SessionParts registered system)
    (leftMember : left ∈ registered) (rightMember : right ∈ registered)
    (same : left.entry.promise = right.entry.promise) :
    left = right :=
  List.inj_on_of_nodup_map parts.promisesDistinct leftMember rightMember same

/-- The promise of a request may be settled when its source allows that. -/
theorem mayEnd_of_source
    {registration : Registration} {outcome : Outcome Reply}
    (parts : SessionParts registered system) (member : registration ∈ registered)
    (allowed : source registration outcome) :
    MayEnd registered source registration.entry.promise outcome := by
  intro other otherMember same
  rw [registration_of_promise parts otherMember member same]
  exact Or.inr allowed

theorem discard_passage
    (session : Nat) (id : String)
    (passage : SessionPassage registered running source before system) :
    SessionPassage registered running source before (system.discard session id) := by
  unfold System.discard
  split
  · exact passage
  · refine SessionPassage.disarm (passage.modifySession session fun _ isSession => ?_) _
    exact {
      pending := fun entry member => isSession.pending entry (List.mem_filter.mp member).1
      ids := isSession.ids }

theorem expire_passage
    (session : Nat) (id : String)
    (passage : SessionPassage registered running source before system)
    (allowed : ∀ registration ∈ registered, registration.entry.id = id →
      source registration (.failed
        (.timedOut registration.entry.method id registration.entry.timeout))) :
    SessionPassage registered running source before (system.expire session id) := by
  unfold System.expire
  split
  · exact passage
  · rename_i entry isOpen
    obtain ⟨registration, member, rfl, sameId⟩ := registration_of_openRequest? passage isOpen
    have logged := passage.log .warning .session
      ("request " ++ (Failure.timedOut registration.entry.method id
        registration.entry.timeout).message)
    exact logged.settle (logged.parts.plain registration member)
      (mayEnd_of_source logged.parts member (allowed registration member sameId))

theorem loseConnection_passage
    (session : Nat) (passage : SessionPassage registered running source before system) :
    SessionPassage registered running source before (system.loseConnection session) := by
  unfold System.loseConnection
  split
  · exact passage
  · split
    · exact passage
    · refine abandonRequests_passage session .lost ?_
      exact (passage.log _ _ _).modifySession session fun _ isSession =>
        ⟨isSession.pending, isSession.ids⟩

theorem takeRequest_passage
    (id : Value) (passage : SessionPassage registered running source before system) :
    SessionPassage registered running source before (system.takeRequest 0 id) := by
  unfold System.takeRequest
  split
  · exact passage
  · split
    · exact passage
    · have spawned : SessionPassage registered running source before
          (system.spawn (.answer 0 id)) := passage.spawn rfl
      exact (spawned.whenEnded _ _ _).modifySession 0 fun _ isSession =>
        ⟨isSession.pending, isSession.ids⟩

theorem endAnswer_passage
    (session task : Nat) (passage : SessionPassage registered running source before system) :
    SessionPassage registered running source before (system.endAnswer session task) := by
  have removed : SessionPassage registered running source before
      (system.modifySession session fun found =>
        { found with answers := found.answers.filter fun other => other ≠ task }) :=
    passage.modifySession session fun _ isSession =>
      ⟨isSession.pending, isSession.ids⟩
  unfold System.endAnswer
  simp only
  split
  · exact removed.log _ _ _
  · exact removed
  · exact removed
  · exact removed

theorem takeResponse_passage
    (session : Nat) (id : String) (message : Value)
    (passage : SessionPassage registered running source before system)
    (result : message.present? "error" = none → ∀ registration ∈ registered,
      registration.entry.id = id →
        source registration (.returned (.result ((message.get? "result").getD .null))))
    (error : ∀ error failure, message.present? "error" = some error →
      responseFailure error = .ok failure → ∀ registration ∈ registered,
        registration.entry.id = id → source registration (.failed failure)) :
    SessionPassage registered running source before (system.takeResponse session id message).1 := by
  unfold System.takeResponse
  split
  · exact passage.log _ _ _
  · rename_i entry isOpen
    obtain ⟨registration, member, rfl, sameId⟩ := registration_of_openRequest? passage isOpen
    have plain := passage.parts.plain registration member
    split
    · rename_i noError
      exact passage.settle plain
        (mayEnd_of_source passage.parts member (result noError registration member sameId))
    · rename_i found hasError
      split
      · rename_i failure isFailure
        exact passage.settle plain (mayEnd_of_source passage.parts member
          (error found failure hasError isFailure registration member sameId))
      · exact passage

/-- The outcomes that a text of the peer may give to requests. -/
def TextMayEnd
    (registered : List Registration) (source : Registration → Outcome Reply → Prop)
    (text : String) : Prop :=
  ∀ registration ∈ registered,
    (∀ value, AnswersWith text registration.entry.id value →
      source registration (.returned (.result value))) ∧
    ∀ failure, AnswersWithError text registration.entry.id failure →
      source registration (.failed failure)

theorem takeNotification_passage
    (tell : System → Nat → Protocol.PublishedDiagnostics → System × Option Failure)
    (workspace : Nat) (method params : Value)
    (passage : SessionPassage registered running source before system) :
    SessionPassage registered running source before
      (System.takeNotification tell system workspace method params).1 := by
  rcases System.takeNotification_of_unopened passage.parts.unopened tell workspace method params with
    same | ⟨level, text, logs⟩
  · rw [same]
    exact passage
  · rw [logs]
    exact passage.log _ _ _

theorem takeMessage_passage
    (raw : String) (tellWorkspace : System → Nat → Value → Value → System × Option Failure)
    (passage : SessionPassage registered running source before system)
    (tells : ∀ workspace method params, SessionPassage registered running source before
      (tellWorkspace system workspace method params).1)
    (allowed : TextMayEnd registered source raw) :
    SessionPassage registered running source before
      (system.takeMessage 0 raw tellWorkspace).1 := by
  unfold System.takeMessage
  split
  · exact passage.log _ _ _
  · exact passage
  · rename_i members parsed
    simp only
    split
    · exact takeRequest_passage _ passage
    · split
      · exact passage.log _ _ _
      · exact passage.log _ _ _
      · rename_i method _ _ _ listener _ _
        cases listener with
        | nobody =>
            exact passage
        | workspace workspace =>
            have told := tells workspace method (((Value.object members).get? "params").getD .null)
            simp only
            split
            · exact told
            · exact told.log _ _ _
        | host fails =>
            simp only
            split
            · exact passage.note _
            · exact (passage.note _).log _ _ _
    · rename_i idValue noMethod hasId
      have isResponse : ∀ id, idValue.display = id → IsResponse raw id (.object members) :=
        fun id sameId => ⟨parsed, ⟨members, rfl⟩, noMethod, idValue, hasId, sameId⟩
      refine takeResponse_passage 0 _ _ passage ?_ ?_
      · intro noError registration member sameId
        exact (allowed registration member).1 _
          ⟨_, isResponse _ sameId.symm, noError, rfl⟩
      · intro error failure hasError isFailure registration member sameId
        exact (allowed registration member).2 failure
          ⟨_, isResponse _ sameId.symm, error, hasError, isFailure⟩
    · exact passage.log _ _ _
  · exact passage.log _ _ _

theorem receive_passage
    (link : Nat) (text : String)
    (passage : SessionPassage registered running source before system)
    (allowed : link = 0 → TextMayEnd registered source text) :
    SessionPassage registered running source before (system.receive link text) := by
  unfold System.receive
  split
  · exact passage
  · rename_i session listens
    obtain ⟨sameLink, rfl⟩ := passage.parts.links link session listens
    have taken := takeMessage_passage text (System.takeNotification System.showDiagnostics)
      passage (fun workspace method params => takeNotification_passage _ _ _ _ passage)
      (allowed sameLink)
    split
    · rename_i later result
      rw [result] at taken
      exact taken
    · rename_i later failure result
      rw [result] at taken
      exact taken.note _

theorem drop_passage
    (link : Nat) (passage : SessionPassage registered running source before system) :
    SessionPassage registered running source before (system.drop link) := by
  unfold System.drop
  split
  · exact passage
  · exact loseConnection_passage _ passage

end Passages

/-! ## Where the task of a request is -/

/-- Where the task of a request is: it has not begun, it is registered and waits, or it has ended,
with an answer only if the promise of its registration has that outcome. -/
def RequestPlace
    (registered : List Registration) (system : System) (task : Nat) (call : Call) : Prop :=
  ∃ found : TaskState Frame, system.loop.tasks[task]? = some found ∧
    ((∃ outcome, system.loop.outcome? found.completion = some outcome ∧
        (IsAnswer outcome → ∃ registration ∈ registered, registration.task = task ∧
          system.loop.outcome? registration.entry.promise = some outcome)) ∨
      system.loop.outcome? found.completion = none ∧
        (found.stack = [.begin call] ∧ found.awaiting = none ∨
          ∃ registration ∈ registered, registration.task = task ∧
            ((∃ link frame subject, found.stack =
                [.sending link frame, .writing subject,
                  .requesting registration.entry.promise]) ∨
              found.stack = [] ∧ found.awaiting = some registration.entry.promise)))

/-- What one input does to a session, where some requests may be registered anew. -/
structure SessionStep
    (registered later : List Registration) (source : Registration → Outcome Reply → Prop)
    (before after : System) :
    Prop where
  world : SessionWorld later after
  kept : ∀ promise outcome,
    before.loop.outcome? promise = some outcome → after.loop.outcome? promise = some outcome
  gained : ∀ promise outcome, before.loop.IsPlain promise ∨ before.nextPromise ≤ promise →
    before.loop.outcome? promise = none → after.loop.outcome? promise = some outcome →
      MayEnd later source promise outcome
  places : ∀ task method params timeout,
    RequestPlace registered before task (.request 0 method params timeout) →
      RequestPlace later after task (.request 0 method params timeout)

/-- The task of a request stays where it is while it does not go on. -/
theorem RequestPlace.of_same
    {registered later : List Registration} {before after : System} {task : Nat} {call : Call}
    {found : TaskState Frame} {cancelRequested : Bool}
    (place : RequestPlace registered before task call)
    (entry : before.loop.tasks[task]? = some found)
    (entryLater : after.loop.tasks[task]? = some { found with cancelRequested })
    (completion : after.loop.outcome? found.completion = before.loop.outcome? found.completion)
    (kept : ∀ promise outcome,
      before.loop.outcome? promise = some outcome → after.loop.outcome? promise = some outcome)
    (more : ∀ registration ∈ registered, registration ∈ later) :
    RequestPlace later after task call := by
  obtain ⟨same, sameEntry, state⟩ := place
  rw [entry] at sameEntry
  obtain rfl := Option.some.inj sameEntry
  refine ⟨_, entryLater, ?_⟩
  rcases state with ⟨outcome, ended, answered⟩ | ⟨unended, waits⟩
  · left
    refine ⟨outcome, completion.trans ended, fun isAnswer => ?_⟩
    obtain ⟨registration, member, isTask, settled⟩ := answered isAnswer
    exact ⟨registration, more registration member, isTask, kept _ _ settled⟩
  · right
    refine ⟨completion.trans unended, ?_⟩
    rcases waits with unbegun | ⟨registration, member, isTask, rest⟩
    · exact Or.inl unbegun
    · exact Or.inr ⟨registration, more registration member, isTask, rest⟩

section Steps

variable {registered : List Registration} {source : Registration → Outcome Reply → Prop}
  {before system : System}

theorem SessionWorld.start (world : SessionWorld registered system) :
    SessionPassage registered none source system system :=
  ⟨world.parts, .refl world.orderly world.punctual fun _ isRunning => by cases isRunning⟩

theorem SessionPassage.step
    (passage : SessionPassage registered none source before system) :
    SessionStep registered registered source before system where
  world := ⟨passage.parts, passage.loop.orderly, passage.loop.punctual⟩
  kept := passage.loop.advances.kept
  gained := fun promise outcome _ => passage.loop.advances.gained promise outcome
  places := fun task method params timeout place => by
    obtain ⟨found, entry, _⟩ := id place
    obtain ⟨cancelRequested, later, _⟩ := passage.loop.advances.tasks task found entry
    exact place.of_same entry later
      (passage.loop.advances.completions _
        (List.mem_map.mpr ⟨found, List.mem_of_getElem? entry, rfl⟩))
      passage.loop.advances.kept fun _ member => member

/-! ## A task goes on -/

theorem resumeFrame_passage
    {running : Option Nat} {frame : Frame} (allowed : IsSessionFrame registered frame)
    (outcome : Outcome Reply)
    (passage : SessionPassage registered running source before system) :
    StepPassage registered running source before (System.resumeFrame frame system outcome) := by
  cases frame with
  | sending link value => exact resumeSending_passage link value outcome passage
  | writing subject => exact resumeWriting_passage subject outcome passage
  | requesting promise => exact resumeRequesting_passage outcome allowed passage
  | closingLink => exact resumeClosingLink_passage outcome passage
  | handshaking session serverUri =>
      exact resumeHandshaking_passage session serverUri outcome passage
  | confirming session serverUri result =>
      exact resumeConfirming_passage session serverUri result outcome passage
  | abandoningHandshake ending => exact resumeAbandoningHandshake_passage ending outcome passage
  | _ => exact allowed.elim

theorem resumeStack_passage
    {running : Option Nat} {stack : List Frame}
    (allowed : ∀ frame ∈ stack, IsSessionFrame registered frame) (outcome : Outcome Reply)
    (passage : SessionPassage registered running source before system) :
    StepPassage registered running source before (system.resumeStack outcome stack) := by
  induction stack generalizing system outcome with
  | nil =>
      exact passage.ended outcome
  | cons frame outer inductionHypothesis =>
      have resumed := resumeFrame_passage (allowed frame List.mem_cons_self) outcome passage
      simp only [System.resumeStack]
      split
      · rename_i later ending result
        rw [result] at resumed
        exact inductionHypothesis (fun other member => allowed other (List.mem_cons_of_mem _ member))
          ending resumed.passage
      · rename_i later frames promise result
        rw [result] at resumed
        obtain ⟨framesAllowed, plain⟩ := resumed.suspended frames promise rfl
        refine resumed.passage.suspended ?_ plain
        intro other member
        rcases List.mem_append.mp member with inner | isOuter
        · exact framesAllowed other inner
        · exact allowed other (List.mem_cons_of_mem _ isOuter)

/-- A call of the session, with the request that it registers. -/
theorem call_passage
    {running : Option Nat} {call : Call} (task : Nat) (onSession : call.OnSession)
    (passage : SessionPassage registered running source before system) :
    StepPassage (registered ++ (system.registrationBy? task call).toList) running source before
      (system.call call) := by
  cases call with
  | request session method params timeout =>
      obtain rfl : session = 0 := onSession
      cases registers : system.registrationBy? task (.request 0 method params timeout) with
      | none =>
          simp only [Option.toList_none, List.append_nil]
          exact (request_of_no_registration passage registers).1
      | some new =>
          exact (request_of_registration passage registers).1
  | notify session method params =>
      simp only [System.registrationBy?, Option.toList_none, List.append_nil]
      exact notify_passage passage session method params
  | closeSession session =>
      simp only [System.registrationBy?, Option.toList_none, List.append_nil]
      exact closeSession_passage passage session
  | answer session id =>
      simp only [System.registrationBy?, Option.toList_none, List.append_nil]
      exact write_passage passage session "response" _
  | _ => exact onSession.elim

/-- The rest of a request after its frame was held back. -/
theorem resumeStack_awaitsAnswer
    (link : Nat) (frame : Value) (subject : String) (promise : Nat) (outcome : Outcome Reply) :
    AwaitsAnswer promise
      (system.resumeStack outcome [.sending link frame, .writing subject, .requesting promise]) := by
  have ofEnding : ∀ (later : System) (ending : Outcome Reply),
      (∃ reply, ending = .returned reply) ∨ ¬ IsAnswer ending →
      AwaitsAnswer promise (later.resumeStack ending [.requesting promise]) := by
    intro later ending written
    rw [System.resumeStack_singleton]
    exact resumeRequesting_awaitsAnswer promise later written
  have ofWriting : ∀ (later : System) (ending : Outcome Reply),
      AwaitsAnswer promise (later.resumeStack ending [.writing subject, .requesting promise]) := by
    intro later ending
    cases ending with
    | returned reply =>
        rw [System.resumeStack_of_ended _ rfl]
        exact ofEnding later (.returned reply) (Or.inl ⟨reply, rfl⟩)
    | failed failure =>
        rw [System.resumeStack_of_ended _ rfl]
        exact ofEnding later (.failed (writeFailure subject failure))
          (Or.inr (not_isAnswer_of_isTransport (writeFailure_isTransport subject failure)))
    | cancelled =>
        rw [System.resumeStack_of_ended _ rfl]
        exact ofEnding later .cancelled (Or.inr id)
  cases outcome with
  | returned reply =>
      cases refused : system.peer.refusalOf? frame with
      | none =>
          have accepts : System.resumeFrame (.sending link frame) system (.returned reply) = _ :=
            System.takeFrame_of_acceptance link refused
          rw [System.resumeStack_of_ended _ accepts]
          exact ofWriting _ _
      | some failure =>
          have refuses : System.resumeFrame (.sending link frame) system (.returned reply) = _ :=
            System.takeFrame_of_refusal link refused
          rw [System.resumeStack_of_ended _ refuses]
          exact ofWriting _ _
  | failed failure =>
      rw [System.resumeStack_of_ended _ rfl]
      exact ofWriting system (.failed failure)
  | cancelled =>
      rw [System.resumeStack_of_ended _ rfl]
      exact ofWriting system .cancelled

theorem registrationBy?_clearTask (task other : Nat) (call : Call) :
    (system.onLoop (·.clearTask task)).registrationBy? other call =
      system.registrationBy? other call := by
  cases call <;> rfl

theorem task_of_registrationBy?
    {task : Nat} {call : Call} {new : Registration}
    (registers : system.registrationBy? task call = some new) :
    new.task = task := by
  cases call with
  | request session method params timeout =>
      simp only [System.registrationBy?, Option.bind_eq_some_iff] at registers
      obtain ⟨found, _, registers⟩ := registers
      split at registers
      · cases registers
      · obtain ⟨delay, _, rfl⟩ := Option.map_eq_some_iff.mp registers
        rfl
  | _ => cases registers

theorem SessionWorld.start_task
    {task : Nat} {found : TaskState Frame} (world : SessionWorld registered system)
    (entry : system.loop.tasks[task]? = some found) (notReady : task ∉ resumed system.loop.ready)
    (settled : ∀ promise, found.awaiting = some promise → system.loop.outcome? promise ≠ none) :
    SessionPassage registered (some task) source (system.onLoop (·.clearTask task))
      (system.onLoop (·.clearTask task)) where
  parts := world.parts.of_plain rfl rfl rfl rfl fun _ plain =>
    plain.of_le (Scheduler.clearTask_completions task system.loop) (Nat.le_refl _)
  loop := Scheduler.Passage.start world.orderly world.punctual entry notReady settled
    (Or.inr fun _ member => by cases member)

/-- What a task registers when it begins a call. -/
theorem registrationIn?_of_begin
    {task : Nat} {found : TaskState Frame} {call : Call}
    (entry : system.loop.tasks[task]? = some found) (unended : system.loop.hasEnded task = false)
    (cancelled : found.cancelRequested = false) (stack : found.stack = [.begin call]) :
    system.registrationIn? (.resume task) =
      (system.onLoop (·.clearTask task)).registrationBy? task call := by
  rw [registrationBy?_clearTask]
  simp [System.registrationIn?, System.begunCall?, entry, unended, cancelled, stack]

/-- What a task does with its stack, with the request that it registers. -/
theorem runTask_passage
    {task : Nat} {found : TaskState Frame} (world : SessionWorld registered system)
    (entry : system.loop.tasks[task]? = some found)
    (unended : system.loop.hasEnded task = false) (notReady : task ∉ resumed system.loop.ready)
    (settled : ∀ promise, found.awaiting = some promise → system.loop.outcome? promise ≠ none) :
    StepPassage (registered ++ (system.registrationIn? (.resume task)).toList) (some task) source
      (system.onLoop (·.clearTask task))
      ((system.onLoop (·.clearTask task)).resumeStack (system.signalOf found) found.stack) := by
  have start : SessionPassage registered (some task) source _ _ :=
    world.start_task entry notReady settled
  rcases world.orderly.tasks found (List.mem_of_getElem? entry) with
    ⟨call, onSession, stackEq, idle⟩ | frames
  · cases cancelled : found.cancelRequested with
    | true =>
        have nothing : system.registrationIn? (.resume task) = none := by
          simp [System.registrationIn?, System.begunCall?, entry, cancelled]
        rw [nothing, Option.toList_none, List.append_nil, System.signalOf_of_cancel cancelled, stackEq,
          System.resumeStack_not_begin _ _ (by simp)]
        exact start.ended _
    | false =>
        rw [registrationIn?_of_begin entry unended cancelled stackEq,
          System.signalOf_of_idle cancelled idle, stackEq, System.resumeStack_begin]
        exact call_passage task onSession start
  · have nothing : system.registrationIn? (.resume task) = none := by
      simp only [System.registrationIn?, System.begunCall?, entry, Option.bind_some]
      split
      · rfl
      · split
        · rename_i call stackEq
          exact (frames (.begin call) (by rw [stackEq]; exact List.mem_cons_self)).elim
        · rfl
    rw [nothing, Option.toList_none, List.append_nil]
    exact resumeStack_passage frames _ start

/-- A request waits for the answer to what it registers, or it ends without one. -/
theorem request_awaitsAnswer
    {running : Option Nat} {method : String} {params : Option Value} {timeout : Option Quantity}
    (task : Nat) (passage : SessionPassage registered running source before system) :
    (∃ registration ∈
        (system.registrationBy? task (.request 0 method params timeout)).toList,
        registration.task = task ∧
          AwaitsAnswer registration.entry.promise (system.request 0 method params timeout)) ∨
      ∃ outcome, (system.request 0 method params timeout).2 = .ended outcome ∧
        ¬ IsAnswer outcome := by
  cases registers : system.registrationBy? task (.request 0 method params timeout) with
  | none =>
      obtain ⟨failure, ends, noAnswer⟩ := (request_of_no_registration passage registers).2
      exact Or.inr ⟨_, ends, noAnswer⟩
  | some new =>
      exact Or.inl ⟨new, List.mem_singleton.mpr rfl, task_of_registrationBy? registers,
        (request_of_registration passage registers).2⟩

/-- What the task of a request does with its stack: it goes on to wait for its answer, or it ends
without one. -/
theorem runTask_awaitsAnswer
    {task : Nat} {found : TaskState Frame} {method : String} {params : Option Value}
    {timeout : Option Quantity} (world : SessionWorld registered system)
    (place : RequestPlace registered system task (.request 0 method params timeout))
    (entry : system.loop.tasks[task]? = some found)
    (unended : system.loop.hasEnded task = false) (notReady : task ∉ resumed system.loop.ready)
    (settled : ∀ promise, found.awaiting = some promise → system.loop.outcome? promise ≠ none) :
    let result := (system.onLoop (·.clearTask task)).resumeStack (system.signalOf found) found.stack
    (∃ registration ∈ registered ++ (system.registrationIn? (.resume task)).toList,
        registration.task = task ∧ AwaitsAnswer registration.entry.promise result) ∨
      ∃ outcome, result.2 = .ended outcome ∧ ¬ IsAnswer outcome := by
  intro result
  have start : SessionPassage registered (some task) (fun _ _ => True) _ _ :=
    world.start_task entry notReady settled
  obtain ⟨same, sameEntry, state⟩ := place
  rw [entry] at sameEntry
  obtain rfl := Option.some.inj sameEntry
  rcases state with ⟨outcome, ended, _⟩ | ⟨_, ⟨stackEq, idle⟩ |
    ⟨registration, member, isTask, ⟨link, frame, subject, stackEq⟩ | ⟨stackEq, awaits⟩⟩⟩
  · simp [Scheduler.hasEnded, entry, Scheduler.isSettled, ended] at unended
  · -- The request has not begun.
    cases cancelled : found.cancelRequested with
    | true =>
        right
        refine ⟨.cancelled, ?_, id⟩
        simp only [result, System.signalOf_of_cancel cancelled, stackEq]
        rw [System.resumeStack_not_begin _ _ (by simp)]
    | false =>
        have isCall : result =
            (system.onLoop (·.clearTask task)).request 0 method params timeout := by
          simp only [result, System.signalOf_of_idle cancelled idle, stackEq]
          exact System.resumeStack_begin _ _ _
        rw [isCall, registrationIn?_of_begin entry unended cancelled stackEq]
        refine (request_awaitsAnswer task start).imp ?_ id
        rintro ⟨registration, member, isTask, awaits⟩
        exact ⟨registration, List.mem_append_right _ member, isTask, awaits⟩
  · -- Its frame was held back.
    left
    refine ⟨registration, List.mem_append_left _ member, isTask, ?_⟩
    simp only [result, stackEq]
    exact resumeStack_awaitsAnswer link frame subject _ _
  · -- It waits for its answer.
    cases cancelled : found.cancelRequested with
    | true =>
        right
        refine ⟨.cancelled, ?_, id⟩
        simp only [result, System.signalOf_of_cancel cancelled, stackEq]
        rfl
    | false =>
        obtain ⟨outcome, isOutcome⟩ := Option.ne_none_iff_exists'.mp (settled _ awaits)
        left
        refine ⟨registration, List.mem_append_left _ member, isTask,
          Or.inr (Or.inr ⟨outcome, ?_, fun _ => ?_⟩)⟩
        · simp only [result, System.signalOf_of_awaiting cancelled awaits isOutcome, stackEq]
          rfl
        · simp only [result, stackEq]
          exact isOutcome

end Steps

end LanguageClient.Client
