import LanguageClient.Proofs.Handshake.Steps

/-!
# The start of a handshake

Before the first task takes its turn nothing happens, whatever the peer and the clock do. In that turn
it ends without a connection, or it opens the handshake over a new one.
-/

namespace LanguageClient.Client

open LanguageClient.Json LanguageClient.Loop LanguageClient.Number LanguageClient.Protocol

/-- A client whose first task creates a workspace. -/
def System.ofCreation (resolution : Rat) (request : WorkspaceRequest) : System :=
  ({ loop := { resolution } } : System).spawn (.createWorkspace request)

/-- A client without a connection has said nothing and has no timers. -/
structure IsApart (system : System) : Prop where
  links : system.links = []
  sessions : system.sessions = []
  workspaces : system.workspaces = []
  unsaid : system.handedFrames = []
  unaccepted : system.acceptedFrames = []
  undetained : system.peer.detained = []
  timers : system.loop.timers = []

/-- The first task has not taken its turn. -/
structure Unbegun (request : WorkspaceRequest) (system : System) : Prop extends IsApart system where
  task : ∃ cancelRequested, system.loop.tasks = [{
    stack := [.begin (.createWorkspace request)]
    awaiting := none
    cancelRequested
    completion := 0 }]
  promises : system.loop.promises = [{}]
  ready : system.loop.ready = [.resume 0]

/-- The first task has ended before there was a connection. -/
structure Unconnected (system : System) : Prop extends IsApart system where
  task : ∃ found : TaskState Frame, system.loop.tasks = [found] ∧ found.awaiting = none
  ended : ∃ ending, system.ending? 0 = some ending ∧ ∀ reply, ending ≠ .returned reply
  ready : system.loop.ready = []

section Apart

variable {system after : System} {request : WorkspaceRequest} {input : Input}

/-- What a client without a connection hears and is given back concerns nobody. -/
theorem IsApart.same
    (apart : IsApart system) (onHandshake : input.OnHandshake) (noTurn : input ≠ .turn) :
    IsApart (system.step input) ∧
      ((system.step input).loop = system.loop ∨
        (∃ task, input = .cancel task) ∨ ∃ moment, input = .tick moment) := by
  have unlistened : ∀ link : Nat, (system.links[link]?).bind (·.session) = none := by
    intro link
    rw [apart.links]
    rfl
  have unheld := List.append_eq_nil_iff.mp apart.undetained
  cases input with
  | turn => exact (noTurn rfl).elim
  | cancel task =>
      refine ⟨⟨apart.links, apart.sessions, apart.workspaces, apart.unsaid, apart.unaccepted,
        apart.undetained, ?_⟩, Or.inr (Or.inl ⟨task, rfl⟩)⟩
      exact (system.loop.cancel_untimed task).timers.trans apart.timers
  | receive link text =>
      have same : system.step (.receive link text) = system := by
        simp only [System.step, System.receive, unlistened]
      rw [same]
      exact ⟨apart, Or.inl rfl⟩
  | drop link =>
      have same : system.step (.drop link) = system := by
        simp only [System.step, System.drop, unlistened]
      rw [same]
      exact ⟨apart, Or.inl rfl⟩
  | behave peer =>
      exact ⟨⟨apart.links, apart.sessions, apart.workspaces, apart.unsaid, apart.unaccepted,
        apart.undetained, apart.timers⟩, Or.inl rfl⟩
  | release place =>
      have same : system.step (.release place) = system := by
        simp [System.step, System.releaseFrame, unheld.1]
      rw [same]
      exact ⟨apart, Or.inl rfl⟩
  | releaseClose place =>
      have same : system.step (.releaseClose place) = system := by
        simp [System.step, System.releaseClosing, unheld.2]
      rw [same]
      exact ⟨apart, Or.inl rfl⟩
  | tick moment =>
      exact ⟨⟨apart.links, apart.sessions, apart.workspaces, apart.unsaid, apart.unaccepted,
        apart.undetained, apart.timers⟩, Or.inr (Or.inr ⟨moment, rfl⟩)⟩
  | call _ => exact onHandshake.elim
  | listen _ _ => exact onHandshake.elim
  | attach _ _ _ => exact onHandshake.elim
  | edit _ _ => exact onHandshake.elim
  | editText _ _ => exact onHandshake.elim

theorem Unconnected.cancel (unconnected : Unconnected system) (task : Nat) :
    system.loop.cancel task = system.loop := by
  obtain ⟨found, tasks, idle⟩ := unconnected.task
  obtain ⟨ending, ended, _⟩ := unconnected.ended
  have isEnded : system.loop.hasEnded task = true := by
    cases task with
    | zero =>
        have entry : system.loop.tasks[0]? = some found := by rw [tasks]; rfl
        rw [ending?_of_entry entry] at ended
        simp [Scheduler.hasEnded, tasks, Scheduler.isSettled, ended]
    | succ other => simp [Scheduler.hasEnded, tasks]
  have unawaited : system.loop.awaitedGroup? task = none := by
    cases task with
    | zero => simp [Scheduler.awaitedGroup?, tasks, idle]
    | succ other => simp [Scheduler.awaitedGroup?, tasks]
  simp only [Scheduler.cancel, unawaited, Scheduler.cancelMember, isEnded, if_true]

/-- After a creation without a connection nothing happens any more. -/
theorem Unconnected.step (unconnected : Unconnected system) (onHandshake : input.OnHandshake) :
    Unconnected (system.step input) := by
  by_cases isTurn : input = .turn
  · subst isTurn
    have idle : system.loop.next? = none := by
      unfold Scheduler.next?
      split <;> simp [Scheduler.beginRound, unconnected.ready, unconnected.timers]
    have same : system.step .turn = system := by
      simp only [System.step, System.turn?, idle, Option.map_none, Option.getD_none]
    rw [same]
    exact unconnected
  · obtain ⟨apart, sameLoop | ⟨task, rfl⟩ | ⟨moment, rfl⟩⟩ :=
      unconnected.toIsApart.same onHandshake isTurn
    · refine ⟨apart, ?_, ?_, ?_⟩
      · rw [sameLoop]
        exact unconnected.task
      · simp only [System.ending?, sameLoop]
        exact unconnected.ended
      · rw [sameLoop]
        exact unconnected.ready
    · have same : system.step (.cancel task) = system := by
        simp only [System.step, System.onLoop, unconnected.cancel task]
      rw [same]
      exact unconnected
    · exact ⟨apart, unconnected.task, unconnected.ended, unconnected.ready⟩

theorem Unbegun.cancel
    (unbegun : Unbegun request system) (task : Nat) :
    (system.loop.cancel task).promises = system.loop.promises ∧
      (system.loop.cancel task).ready = system.loop.ready ∧
        ∃ cancelRequested, (system.loop.cancel task).tasks = [{
          stack := [.begin (.createWorkspace request)]
          awaiting := none
          cancelRequested
          completion := 0 }] := by
  obtain ⟨cancelRequested, tasks⟩ := unbegun.task
  have unended : (system.loop.isSettled 0) = false := by
    simp [Scheduler.isSettled, Scheduler.outcome?, unbegun.promises]
  cases task with
  | zero =>
      have cancelled : system.loop.cancel 0 = system.loop.requestCancel 0 := by
        simp [Scheduler.cancel, Scheduler.awaitedGroup?, tasks, Scheduler.cancelMember,
          Scheduler.hasEnded, unended]
      rw [cancelled]
      refine ⟨rfl, rfl, true, ?_⟩
      simp [Scheduler.requestCancel, Scheduler.modifyTask, tasks]
  | succ other =>
      have same : system.loop.cancel (other + 1) = system.loop := by
        simp [Scheduler.cancel, Scheduler.awaitedGroup?, tasks, Scheduler.cancelMember,
          Scheduler.hasEnded]
      rw [same]
      exact ⟨rfl, rfl, cancelRequested, tasks⟩

/-- Until the first task takes its turn, it can be cancelled at most. -/
theorem Unbegun.step
    (unbegun : Unbegun request system) (onHandshake : input.OnHandshake) (noTurn : input ≠ .turn) :
    Unbegun request (system.step input) := by
  obtain ⟨apart, sameLoop | ⟨task, rfl⟩ | ⟨moment, rfl⟩⟩ :=
    unbegun.toIsApart.same onHandshake noTurn
  · refine ⟨apart, ?_, ?_, ?_⟩
    · rw [sameLoop]
      exact unbegun.task
    · rw [sameLoop]
      exact unbegun.promises
    · rw [sameLoop]
      exact unbegun.ready
  · obtain ⟨promises, ready, cancelled⟩ := unbegun.cancel task
    exact ⟨apart, cancelled, promises.trans unbegun.promises, ready.trans unbegun.ready⟩
  · exact ⟨apart, unbegun.task, unbegun.promises, unbegun.ready⟩

theorem ofCreation_unbegun (resolution : Rat) (request : WorkspaceRequest) :
    Unbegun request (System.ofCreation resolution request) where
  links := rfl
  sessions := rfl
  workspaces := rfl
  unsaid := rfl
  unaccepted := rfl
  undetained := rfl
  timers := rfl
  task := ⟨false, rfl⟩
  promises := rfl
  ready := rfl

/-! ## The first turn -/

/-- The next turn is that of the first task, and nothing else is ready. -/
theorem Unbegun.resumes (unbegun : Unbegun request system) :
    ∃ rest found, System.Resumes system 0 rest found ∧
      found.stack = [.begin (.createWorkspace request)] ∧ found.awaiting = none ∧
        found.completion = 0 ∧ rest.tasks = [found] ∧ rest.promises = [{}] ∧ rest.timers = [] ∧
          rest.ready = [] := by
  obtain ⟨found, tasks, stackEq, idle, completion⟩ : ∃ found : TaskState Frame,
      system.loop.tasks = [found] ∧ found.stack = [.begin (.createWorkspace request)] ∧
        found.awaiting = none ∧ found.completion = 0 := by
    obtain ⟨cancelRequested, tasks⟩ := unbegun.task
    exact ⟨_, tasks, rfl, rfl, rfl⟩
  have unended : system.loop.hasEnded 0 = false := by
    simp [Scheduler.hasEnded, tasks, Scheduler.isSettled, Scheduler.outcome?, unbegun.promises,
      completion]
  have entry : system.loop.tasks[0]? = some found := by
    rw [tasks]
    exact List.getElem?_cons_zero
  cases next : system.loop.next? with
  | none =>
      unfold Scheduler.next? at next
      split at next <;> simp [Scheduler.beginRound, unbegun.ready, unbegun.timers] at next
  | some result =>
      obtain ⟨callback, rest⟩ := result
      have taken := Scheduler.taken_of_next? next
      obtain ⟨rfl, restReady⟩ : callback = .resume 0 ∧ rest.ready = [] := by
        unfold Scheduler.next? at next
        split at next <;>
        · simp only [Scheduler.beginRound, unbegun.ready, unbegun.timers, List.filter_nil,
            List.foldl_nil, List.map_nil, List.append_nil, Option.some.injEq,
            Prod.mk.injEq] at next
          obtain ⟨rfl, rfl⟩ := next
          exact ⟨rfl, rfl⟩
      have restTimers : rest.timers = [] :=
        List.sublist_nil.mp (unbegun.timers ▸ (Scheduler.timers_of_next? next).1)
      exact ⟨rest, found, ⟨next, entry, unended⟩, stackEq, idle, completion,
        taken.tasks.trans tasks,
        taken.promises.trans unbegun.promises, restTimers, restReady⟩

/-- A first task that ends without a connection leaves nothing behind. -/
theorem Unconnected.of_ended
    {found : TaskState Frame} {outcome : Outcome Reply} (apart : IsApart system)
    (tasks : system.loop.tasks = [found]) (idle : found.awaiting = none)
    (completion : found.completion = 0) (promises : system.loop.promises = [{}])
    (ready : system.loop.ready = []) (unsuccessful : ∀ reply, outcome ≠ .returned reply) :
    Unconnected (System.settleTask 0 0 (system, .ended outcome)) := by
  have unnoticed := settleTask_unnoticed 0 0 (system, .ended outcome)
  have settled : system.loop.settle 0 outcome = { system.loop with
      promises := [{ outcome := some outcome }], ready := [] } := by
    simp [Scheduler.settle, promises, Scheduler.enqueue, ready]
  have loopEq : (System.settleTask 0 0 (system, .ended outcome)).loop =
      system.loop.settle 0 outcome := rfl
  refine ⟨⟨apart.links, apart.sessions, apart.workspaces, unnoticed.handed.trans apart.unsaid,
    unnoticed.accepted.trans apart.unaccepted, apart.undetained, ?_⟩, ⟨found, ?_, idle⟩,
    ⟨outcome, ?_, unsuccessful⟩, ?_⟩
  · rw [loopEq, settled]
    exact apart.timers
  · rw [loopEq, settled]
    exact tasks
  · rw [ending?_of_entry (show _ = some found by rw [loopEq, settled]; simp [tasks]), loopEq, settled,
      completion]
    rfl
  · rw [loopEq, settled]

/-- The client once a connection is obtained. -/
def System.connected (system : System) (request : WorkspaceRequest) : System :=
  ((system.note (.dialled request.serverUri)).addLink).addSession 0 request.timeout

/-- A call that creates a workspace fails without a connection, or it opens the handshake. -/
theorem IsApart.createWorkspace (apart : IsApart system) (request : WorkspaceRequest) :
    (∃ failure, request.unreachable = some failure ∧ system.createWorkspace request =
      (system.note (.dialled request.serverUri), .ended (.failed failure))) ∨
    request.unreachable = none ∧ system.createWorkspace request =
      Step.andThen ((system.connected request).request 0 Method.handshake
          (some (handshakeParams request.rootUri request.folders))
          (some (request.timeout.scale Options.handshakeFactor)))
        (.handshaking 0 request.serverUri) (System.resumeHandshaking 0 request.serverUri) := by
  unfold System.createWorkspace
  cases reachable : request.unreachable with
  | some failure => exact Or.inl ⟨failure, rfl, rfl⟩
  | none =>
      right
      refine ⟨rfl, ?_⟩
      have connects : (system.note (.dialled request.serverUri)).connect =
          ((system.note (.dialled request.serverUri)).addLink, 0) := by
        simp [System.connect, System.note, apart.links]
      have first : (system.note (.dialled request.serverUri)).sessions.length = 0 :=
        congrArg List.length apart.sessions
      simp only [connects, first]
      rfl

theorem connected_sessions (apart : IsApart system) (request : WorkspaceRequest) :
    (system.connected request).sessions = [{ link := 0, defaultTimeout := request.timeout }] := by
  simp [System.connected, System.addSession, System.addLink, System.note, apart.sessions]

theorem connected_links (apart : IsApart system) (request : WorkspaceRequest) :
    (system.connected request).links = [{ session := some 0 }] := by
  simp [System.connected, System.addSession, System.addLink, System.note, apart.links,
    apart.sessions]

/-- The scheduler when its only task takes its first turn. -/
structure IsLone (loop : ClientLoop) : Prop where
  task : ∃ found : TaskState Frame, loop.tasks = [found] ∧ found.stack = [] ∧
    found.awaiting = none ∧ found.completion = 0
  promises : loop.promises = [{}]
  timers : loop.timers = []
  ready : loop.ready = []

theorem IsLone.orderly
    {loop : ClientLoop} (lone : IsLone loop) (registered : List Registration) (now resolution : Rat) :
    loop.Orderly (sessionScope registered now resolution) := by
  obtain ⟨found, tasks, stackEq, idle, completion⟩ := lone.task
  have completions : loop.completions = [0] := by
    simp [Scheduler.completions, tasks, completion]
  have only : ∀ entry ∈ loop.promises, entry = {} := by
    rw [lone.promises]
    exact fun entry member => List.mem_singleton.mp member
  exact {
    tasks := fun task member => by
      rw [tasks, List.mem_singleton] at member
      subst member
      exact Or.inr (by simp [stackEq])
    waiting := fun entry member callback waits => by
      rw [only entry member] at waits
      cases waits
    ready := by simp [lone.ready]
    timers := by simp [lone.timers]
    groups := fun entry member group grouped => by
      rw [only entry member] at grouped
      cases grouped
    completionsKnown := by simp [completions, Scheduler.nextPromise, lone.promises]
    completionsDistinct := by simp [completions]
    completionsUngrouped := by simp [completions, Scheduler.IsUngrouped, lone.promises]
    awaited := fun task member promise awaits => by
      rw [tasks, List.mem_singleton] at member
      rw [member, idle] at awaits
      cases awaits }

theorem IsLone.punctual {loop : ClientLoop} (lone : IsLone loop) : loop.Punctual (some 0) := by
  obtain ⟨found, tasks, _, idle, _⟩ := lone.task
  have only : ∀ entry ∈ loop.promises, entry = {} := by
    rw [lone.promises]
    exact fun entry member => List.mem_singleton.mp member
  exact {
    readyOnce := by simp [lone.ready, resumed]
    waitingOnce := fun entry member => by
      rw [only entry member]
      exact List.nodup_nil
    waiting := fun promise entry found task waits => by
      rw [only entry (List.mem_of_getElem? found)] at waits
      cases waits
    ready := by simp [lone.ready, resumed]
    notRunning := fun task isRunning => by
      obtain rfl := Option.some.inj isRunning
      refine ⟨by simp [lone.ready, resumed], fun state entry => ?_⟩
      rw [tasks] at entry
      rw [← Option.some.inj entry]
      exact idle }

section Connected

variable {running : System} {source : Registration → Outcome Reply → Prop}
  (apart : IsApart running) (lone : IsLone running.loop)

include apart lone

/-- A new connection is the world of one session without requests. -/
theorem connected_passage (request : WorkspaceRequest) :
    SessionPassage [] (some 0) source running (running.connected request) where
  parts := {
    session := ⟨_, connected_sessions apart request, by simp, by simp⟩
    links := fun link session listens => by
      rw [connected_links apart request] at listens
      cases link with
      | zero => exact ⟨rfl, (Option.some.inj listens).symm⟩
      | succ other => cases listens
    unopened := fun found member => by
      have none : (running.connected request).workspaces = [] := apart.workspaces
      rw [none] at member
      cases member
    plain := by simp
    detained := fun promise member => by
      have none : (running.connected request).peer.detained = [] := apart.undetained
      rw [none] at member
      cases member
    promisesDistinct := List.nodup_nil
    idsDistinct := List.nodup_nil }
  loop := .refl (lone.orderly [] _ _) lone.punctual fun task isTask => by
    obtain rfl := Option.some.inj isTask
    obtain ⟨found, tasks, _⟩ := lone.task
    simp [Scheduler.nextTask, tasks]

theorem connected_table (request : WorkspaceRequest) :
    HasTable [] [] (running.connected request) := by
  have ready : (running.connected request).loop.ready = [] := lone.ready
  have promises : (running.connected request).loop.promises = [{}] := lone.promises
  have timers : (running.connected request).loop.timers = [] := lone.timers
  refine ⟨_, connected_sessions apart request, ?_, ?_, by simp⟩
  · exact {
      entries := List.nil_sublist _
      listed := by simp
      waiting := by simp
      leaving := by simp
      removals := by simp [ready]
      waits := fun promise session id ⟨entry, entryFound, _, waits⟩ => by
        rw [promises] at entryFound
        rw [List.mem_singleton.mp (List.mem_of_getElem? entryFound)] at waits
        cases waits }
  · exact {
      timers := by simp [timers]
      armed := by simp
      listed := by simp
      known := by simp
      distinct := List.nodup_nil }

/-- The call that opens a handshake. -/
def WorkspaceRequest.openingCall (request : WorkspaceRequest) : Call :=
  .request 0 Method.handshake (some (handshakeParams request.rootUri request.folders))
    (some (request.timeout.scale Options.handshakeFactor))

/-- What is left of the creation of a workspace once a connection is obtained. -/
def System.openHandshake (system : System) (request : WorkspaceRequest) : Step :=
  Step.andThen ((system.connected request).call request.openingCall)
    (.handshaking 0 request.serverUri) (System.resumeHandshaking 0 request.serverUri)

/-- The request that opens a handshake, if it is registered. -/
def System.openingRegistrations (system : System) (request : WorkspaceRequest) : List Registration :=
  ((system.connected request).registrationBy? 0 request.openingCall).toList

theorem openingCall_passage (request : WorkspaceRequest) :
    StepPassage (running.openingRegistrations request) (some 0) source running
      ((running.connected request).call request.openingCall) := by
  have passage : SessionPassage [] (some 0) source running _ := connected_passage apart lone request
  have called : StepPassage ([] ++ running.openingRegistrations request) (some 0) source running
      ((running.connected request).call request.openingCall) :=
    call_passage 0 rfl passage
  rwa [List.nil_append] at called

theorem openHandshake_passage (request : WorkspaceRequest) :
    StepPassage (running.openingRegistrations request) (some 0) source running
      (running.openHandshake request) :=
  (openingCall_passage apart lone request).andThen trivial fun _ outcome passage =>
    resumeHandshaking_passage 0 request.serverUri outcome passage

theorem openHandshake_table (request : WorkspaceRequest) :
    TablePassage (running.openingRegistrations request) running
      (running.openHandshake request).1 := by
  have passage : StepPassage _ (some 0) (fun _ _ => True) running _ :=
    openingCall_passage apart lone request
  have onSession : request.openingCall.OnSession := rfl
  have called : TablePassage ([] ++ running.openingRegistrations request)
      (running.connected request) ((running.connected request).call request.openingCall).1 :=
    call_table (connected_table apart lone request) onSession (by simp) 0
  rw [List.nil_append] at called
  have whole : TablePassage (running.openingRegistrations request) (running.connected request)
      (running.openHandshake request).1 := by
    unfold System.openHandshake
    generalize (running.connected request).call request.openingCall = step at passage called ⊢
    obtain ⟨later, outcome | ⟨frames, promise⟩⟩ := step
    · exact called.trans (resumeHandshaking_table 0 request.serverUri outcome passage.passage
        called.table)
    · exact called
  refine ⟨whole.table, whole.loop, ?_⟩
  rintro ⟨found, only, _⟩
  rw [apart.sessions] at only
  cases only

omit apart lone in
theorem openHandshake_nextTask (request : WorkspaceRequest) :
    (running.openHandshake request).1.nextTask = running.nextTask := by
  have called := (running.connected request).request_nextTask 0 Method.handshake
    (some (handshakeParams request.rootUri request.folders))
    (some (request.timeout.scale Options.handshakeFactor))
  exact System.andThen_nextTask running called fun later outcome =>
    later.resumeHandshaking_nextTask 0 request.serverUri outcome

end Connected

theorem openHandshake_place
    {heard : String → Prop} (apart : IsApart system) (request : WorkspaceRequest) :
    (system.openHandshake request).InHandshake request heard
        (system.openingRegistrations request) ∧
      handshakeConfirmation ∉ (system.openHandshake request).1.handedFrames :=
  openRequest_place 0 (connected_sessions apart request) rfl rfl
    ((System.Unnoticed.note system rfl rfl).handed.trans apart.unsaid)
    ((System.Unnoticed.note system rfl rfl).accepted.trans apart.unaccepted) _

theorem openingRegistrations_id
    (apart : IsApart system) (request : WorkspaceRequest) :
    ∀ registration ∈ system.openingRegistrations request,
      registration.entry.id = requestId 1 := by
  intro registration member
  have sessionFound : (system.connected request).sessions[0]? =
      some { link := 0, defaultTimeout := request.timeout } := by
    rw [connected_sessions apart request]
    rfl
  simp only [System.openingRegistrations, WorkspaceRequest.openingCall, System.registrationBy?,
    sessionFound, Option.bind_some, Bool.false_eq_true, if_false, Option.mem_toList,
    Option.map_eq_some_iff] at member
  obtain ⟨delay, _, rfl⟩ := member
  rfl

/-- When a task has been left as its stack has been left, no other promise than its completion has been
settled. -/
theorem outcome?_of_settleTask
    {task completion promise : Nat} {outcome : Outcome Reply} {step : Step}
    (settled : (System.settleTask task completion step).loop.outcome? promise = some outcome)
    (other : promise ≠ completion) :
    step.1.loop.outcome? promise = some outcome := by
  obtain ⟨middle, ending | ⟨frames, awaited⟩⟩ := step
  · rcases Scheduler.settle_outcome?_cases settled with earlier | ⟨_, same, _⟩
    · exact earlier
    · exact (other same).elim
  · exact (Scheduler.suspend_outcome? task frames awaited promise middle.loop).symm.trans settled

/-- The first turn obtains a connection, and from then on the invariant of a handshake holds. -/
theorem handshake_of_connection
    {rest : ClientLoop} {found : TaskState Frame} {heard : String → Prop}
    (apart : IsApart (system.resumed rest 0)) (lone : IsLone (system.resumed rest 0).loop)
    (resumes : System.Resumes system 0 rest found) (tasks : rest.tasks = [found])
    (completion : found.completion = 0)
    (goesOn : system.resumption rest 0 found = (system.resumed rest 0).openHandshake request) :
    HandshakeWorld request heard ((system.resumed rest 0).openingRegistrations request)
      (system.step .turn) := by
  have restEntry : rest.tasks[0]? = some found := by rw [tasks]; rfl
  have ran : ∀ source, StepPassage ((system.resumed rest 0).openingRegistrations request) (some 0)
      source (system.resumed rest 0) (system.resumption rest 0 found) := by
    intro source
    rw [goesOn]
    exact openHandshake_passage apart lone request
  have passage := (ran fun _ _ => False).passage
  have tabled := openHandshake_table apart lone request
  rw [← goesOn] at tabled
  have wakeful : rest.Wakeful (some 0) := by
    intro task state entry notRunning
    rw [tasks] at entry
    cases task with
    | zero => exact (notRunning rfl).elim
    | succ other => cases entry
  have known : found.completion < rest.nextPromise := by
    have promises : rest.promises = [{}] := lone.promises
    simp [completion, Scheduler.nextPromise, promises]
  have table : TableStep _ { system with loop := rest } _ :=
    HasTable.settleTask wakeful restEntry known (ran _) tabled
  rw [← resumes.step_turn] at table
  have world : SessionWorld _ _ :=
    StepPassage.settled_world restEntry (ran fun _ _ => False)
  rw [← resumes.step_turn] at world
  have nextTask : (system.step .turn).nextTask = 1 := by
    rw [resumes.step_turn, (settleTask_unnoticed _ _ _).nextTask, goesOn, openHandshake_nextTask]
    obtain ⟨only, onlyTask, _⟩ := lone.task
    exact congrArg List.length onlyTask
  obtain ⟨⟨cancelRequested, left⟩, ending⟩ := resumes.leaves_turn passage.loop
  have place : HandshakePlace request heard ((system.resumed rest 0).openingRegistrations request)
      (system.step .turn) (system.resumption rest 0 found).2.frames
      (system.resumption rest 0 found).2.awaited (system.resumption rest 0 found).2.ending? := by
    have placed : (system.resumption rest 0 found).InHandshake request heard _ :=
      goesOn ▸ (openHandshake_place apart request).1
    rw [resumes.step_turn]
    exact placed.of_aloof (.settleTask 0 found.completion _)
  exact {
    session := world
    table := table.table
    wakeful := table.wakeful
    ids := openingRegistrations_id apart request
    results := fun registration member value settled => by
      obtain ⟨_, running⟩ := passage.loop.running_task restEntry
      have notCompletion : registration.entry.promise ≠ found.completion := by
        intro same
        refine (passage.parts.plain registration member).noCompletion ?_
        rw [same]
        exact List.mem_map.mpr ⟨_, List.mem_of_getElem? running, rfl⟩
      rw [resumes.step_turn] at settled
      have earlier := outcome?_of_settleTask settled notCompletion
      have unsettled : (system.resumed rest 0).loop.outcome? registration.entry.promise = none := by
        have promises : (system.resumed rest 0).loop.promises = [{}] := lone.promises
        simp only [Scheduler.outcome?, promises]
        cases registration.entry.promise <;> rfl
      rcases passage.loop.advances.gained _ _ unsettled earlier registration member rfl with
        (same | ⟨_, _, _, same⟩) | impossible
      · cases same
      · cases same
      · exact impossible.elim
    creation := ⟨_, left, ending ▸ place⟩
    answers := fun task state notFirst entry => by
      have inside : task < (system.step .turn).nextTask := (List.getElem?_eq_some_iff.mp entry).1
      omega
    silent := fun nothingSaid => ⟨nextTask, place.shut_of_silence nothingSaid⟩ }

/-- The first turn ends without a connection, or it opens the handshake. -/
theorem Unbegun.turn
    {heard : String → Prop} (unbegun : Unbegun request system) :
    handshakeConfirmation ∉ (system.step .turn).handedFrames ∧
      (Unconnected (system.step .turn) ∨
        ∃ registered, HandshakeWorld request heard registered (system.step .turn)) := by
  obtain ⟨rest, found, resumes, stackEq, idle, completion, tasks, promises, timers, ready⟩ :=
    unbegun.resumes
  have apart : IsApart (system.resumed rest 0) := { unbegun.toIsApart with timers }
  have cleared : (system.resumed rest 0).loop.tasks =
      [{ found with stack := [], awaiting := none, cancelRequested := false }] := by
    have same : (system.resumed rest 0).loop.tasks = (rest.clearTask 0).tasks := rfl
    rw [same]
    simp [Scheduler.clearTask, Scheduler.modifyTask, tasks]
  have lone : IsLone (system.resumed rest 0).loop :=
    ⟨⟨_, cleared, rfl, rfl, completion⟩, promises, timers, ready⟩
  have ends : ∀ (later : System) (outcome : Outcome Reply), IsApart later →
      later.loop = (system.resumed rest 0).loop → (∀ reply, outcome ≠ .returned reply) →
        system.resumption rest 0 found = (later, .ended outcome) →
        handshakeConfirmation ∉ (system.step .turn).handedFrames ∧
          Unconnected (system.step .turn) := by
    intro later outcome apartLater sameLoop unsuccessful goesOn
    rw [resumes.step_turn, goesOn, completion]
    have clearedLater : later.loop.tasks =
        [{ found with stack := [], awaiting := none, cancelRequested := false }] := by
      rw [sameLoop]
      exact cleared
    have unconnected := Unconnected.of_ended apartLater clearedLater rfl completion
      (by rw [sameLoop]; exact promises) (by rw [sameLoop]; exact ready) unsuccessful
    refine ⟨?_, unconnected⟩
    rw [unconnected.unsaid]
    simp
  rcases system.resumption_begin rest 0 stackEq with begins | ⟨outcome, unsuccessful, gaveUp⟩
  · rcases apart.createWorkspace request with ⟨failure, _, fails⟩ | ⟨_, opens⟩
    · have apartDialled : IsApart
          ((system.resumed rest 0).note (.dialled request.serverUri)) := {
        apart with
        unsaid := (System.Unnoticed.note _ rfl rfl).handed.trans apart.unsaid
        unaccepted := (System.Unnoticed.note _ rfl rfl).accepted.trans apart.unaccepted }
      obtain ⟨unconfirmed, unconnected⟩ :=
        ends _ (.failed failure) apartDialled rfl (by simp) (begins.trans fails)
      exact ⟨unconfirmed, Or.inl unconnected⟩
    · have goesOn : system.resumption rest 0 found =
          (system.resumed rest 0).openHandshake request := begins.trans opens
      refine ⟨?_, Or.inr ⟨_, handshake_of_connection apart lone resumes tasks completion goesOn⟩⟩
      have placed : ((system.resumed rest 0).openHandshake request).InHandshake request heard _ ∧
          _ := openHandshake_place apart request
      rw [resumes.step_turn, (settleTask_unnoticed _ _ _).handed, goesOn]
      exact placed.2
  · obtain ⟨unconfirmed, unconnected⟩ := ends _ outcome apart rfl unsuccessful gaveUp
    exact ⟨unconfirmed, Or.inl unconnected⟩

end Apart

end LanguageClient.Client
