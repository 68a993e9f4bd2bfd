import LanguageClient.Proofs.Conduct.Apart
import LanguageClient.Proofs.Session.Pending
import LanguageClient.Proofs.Session.Resumption
import LanguageClient.Proofs.Session.Traffic

/-!
# A request apart from others

A request has a task and promises of its own: the completion of its task, what the task waits for and the
promise of its entry in the table. Other promises are singled out as those of others. That the two stay
apart is an invariant, whatever happens to a promise, a task or the table.

What happens in a run of a session apart from one request. Timeouts, cancellations, refused frames and
responses of that request are left out, and so is all that the client does by itself: the clock moves,
the table is tidied up, and a timer fires whose request has ended. The rest is a sequence of events.
-/

namespace LanguageClient.Client

open LanguageClient.Json LanguageClient.Loop LanguageClient.Number LanguageClient.Protocol

/-! ## Runs as others see them -/

/-- One request of a session: the task that makes it and the id under which it is made. -/
structure Target where
  task : Nat
  id : String
  deriving DecidableEq, Repr

/-- Something that happens in a run apart from one request. -/
inductive Event where
  /-- The host starts a call. -/
  | calls (call : Call)
  /-- The host cancels a task. -/
  | cancels (task : Nat)
  /-- The session hears a text. -/
  | hears (text : String)
  /-- The connection is lost. -/
  | drops
  /-- The peer lets go what a task waits for. -/
  | releases (task : Nat)
  /-- The request in question takes its id. -/
  | issues
  /-- A task goes on, while the peer treats frames and closings in some manner. -/
  | goesOn (task : Nat) (manner : Peer)
  /-- The time of a request is over. -/
  | expires (id : String)
  /-- The end of a task that answers the peer is noted in a session. -/
  | notes (session task : Nat)
  deriving DecidableEq, Repr

/-- A call without the time that a request is given. -/
def Call.untimed : Call → Call
  | .request session method params _ => .request session method params none
  | call => call

/-- How a peer treats frames and closings, apart from what it holds back already and what it says. -/
def Peer.manner (peer : Peer) : Peer where
  holding := peer.holding
  holdingClose := peer.holdingClose
  refusal := peer.refusal
  closeFails := peer.closeFails

/-- The id that a text names if it is a response. -/
def responseId? (text : String) : Option String :=
  match Value.ofText text with
  | .ok (.object members) =>
    match (Value.object members).present? "method" with
    | some _ => none
    | none => ((Value.object members).present? "id").map Value.display
  | _ => none

namespace Target

/-- A frame is the request in question. -/
def bears (target : Target) (frame : Value) : Bool :=
  frame.get? "id" = some (.string target.id) && (frame.get? "method").isSome

/-- The frames that belong to others. -/
def others (target : Target) (frames : List Value) : List Value :=
  frames.filter fun frame => !target.bears frame

/-- A text is heard, unless it answers the request in question. -/
def hearing? (target : Target) (text : String) : Option Event :=
  if responseId? text = some target.id then none else some (.hears text)

theorem bears_requestMessage
    (target : Target) (id method : String) (params : Option Value) :
    target.bears (requestMessage id method params) = decide (id = target.id) := by
  simp [bears, requestMessage, messageVersion, Value.get?, member?]

theorem bears_notificationMessage (target : Target) (method : String) (params : Option Value) :
    target.bears (notificationMessage method params) = false := by
  cases params with
  | none => rfl
  | some value => rfl

theorem bears_answerMessage (target : Target) (id : Value) :
    target.bears (answerMessage id) = false := by
  simp [bears, answerMessage, messageVersion, Value.get?, member?]

end Target

namespace System

/-- A task takes an id for a request when it goes on. -/
def issues (system : System) (task : Nat) : Bool :=
  match system.begunCall? task with
  | some (.request session _ _ _) => (system.sessions[session]?).any fun found => !found.closed
  | _ => false

/-- The task of somebody else that awaits a promise. -/
def awaiter? (system : System) (target : Target) (promise : Nat) : Option Nat :=
  (List.range system.nextTask).find? fun task =>
    task ≠ target.task && (system.loop.tasks[task]?).bind (·.awaiting) = some promise

/-- What the peer lets go is an event for the task that waits for it still. -/
def release? (system : System) (target : Target) (promise : Nat) : Option Event :=
  if system.loop.isSettled promise then none
  else (system.awaiter? target promise).map .releases

def actionEvent? (system : System) (target : Target) : Action → Option Event
  | .deliver link text => if link = 0 then target.hearing? text else none
  | .expire _ id =>
    if id = target.id then none
    else (system.openRequest? 0 id).map fun _ => .expires id
  | .answerEnded session task => some (.notes session task)
  | .discard _ _ | .debounce _ | .sendEnded _ _ | .wake _ => none

def callbackEvent? (system : System) (target : Target) : Callback Action → Option Event
  | .resume task =>
    if system.loop.hasEnded task then none
    else if task = target.task then if system.issues task then some .issues else none
    else some (.goesOn task system.peer.manner)
  | .fire _ action | .act action => system.actionEvent? target action
  | .memberEnded _ | .skipped => none

/-- The event that an input is apart from one request, if it is any. -/
def event? (system : System) (target : Target) : Input → Option Event
  | .call call => some (.calls (if system.nextTask = target.task then call.untimed else call))
  | .cancel task => if task = target.task then none else some (.cancels task)
  | .receive link text => if link = 0 then target.hearing? text else none
  | .drop link => if link = 0 then some .drops else none
  | .release place => (system.peer.held[place]?).bind (system.release? target)
  | .releaseClose place => (system.peer.heldCloses[place]?).bind (system.release? target)
  | .turn => system.comingCallback?.bind (system.callbackEvent? target)
  | .listen _ _ | .attach _ _ _ | .edit _ _ | .editText _ _ | .behave _ | .tick _ => none

/-- The events of a run apart from one request, in order. -/
def events (start : System) (target : Target) (inputs : Nat → Input) : Nat → List Event
  | 0 => []
  | count + 1 =>
    start.events target inputs count ++
      ((start.after inputs count).event? target (inputs count)).toList

end System

/-- In a run, a task makes one request, which has got its id if it has been registered so far. -/
structure Target.IsMade
    (target : Target) (start : System) (inputs : Nat → Input) (count : Nat) : Prop where
  called : ∃ place method params timeout, (start.after inputs place).nextTask = target.task ∧
    inputs place = .call (.request 0 method params timeout)
  numbered : ∀ registration ∈ start.registrations inputs count,
    registration.task = target.task ↔ registration.entry.id = target.id

/-! ## What a request has to itself -/

/-- What all requests have in common in a session: everything but its table and its listener. -/
def Session.outline (session : Session) : Session :=
  { session with pending := [], listener := .nobody }

/-- Where the task of the request can be. -/
inductive OwnStack (target : Target) : List Frame → Prop where
  | waits : OwnStack target []
  | begins (method : String) (params : Option Value) (timeout : Option Quantity) :
    OwnStack target [.begin (.request 0 method params timeout)]
  | writes (link : Nat) (frame : Value) (subject : String) (promise : Nat)
      (own : target.bears frame = true) :
    OwnStack target [.sending link frame, .writing subject, .requesting promise]

namespace System

/-- What all requests have in common in a client: its sessions and who listens to its connections. -/
def outline (system : System) : List Session × List (Option Nat) :=
  (system.sessions.map Session.outline, system.links.map (·.session))

/-- The promises of the request: those of its task and that of its answer. -/
def Owned (system : System) (target : Target) (promise : Nat) : Prop :=
  (∃ found, system.loop.tasks[target.task]? = some found ∧
    (promise = found.completion ∨ promise ∈ heldPromises found.stack found.awaiting)) ∨
    ∃ session ∈ system.sessions, ∃ entry ∈ session.pending,
      entry.id = target.id ∧ entry.promise = promise

/-- An entry stands for a request that is not settled. -/
def Opens (system : System) (entry : PendingRequest) : Prop :=
  (∃ session ∈ system.sessions, entry ∈ session.pending) ∧
    system.loop.outcome? entry.promise = none

end System

/-- The request and its task are apart from the promises of others. -/
structure Secluded (target : Target) (foreign : Nat → Prop) (system : System) : Prop where
  owned : ∀ promise, system.Owned target promise →
    promise < system.nextPromise ∧ ¬ foreign promise
  known : ∀ promise, foreign promise → promise < system.nextPromise
  stack : ∀ found, system.loop.tasks[target.task]? = some found → OwnStack target found.stack
  ungrouped : ∀ promise, system.loop.groupOf? promise = none
  awaited : ∀ promise, foreign promise → promise ∈ system.peer.detained →
    system.loop.outcome? promise = none →
      ∃ task found, task ≠ target.task ∧ system.loop.tasks[task]? = some found ∧
        found.awaiting = some promise
  detained : ∀ promise ∈ system.peer.detained, promise < system.nextPromise
  session : ∃ found, system.sessions = [found]

section Systems

variable {target : Target} {system after : System} {promise : Nat}

namespace System

theorem owned_congr
    (own : after.loop.tasks[target.task]? = system.loop.tasks[target.task]?)
    (pending : after.sessions.map (·.pending) = system.sessions.map (·.pending)) :
    after.Owned target promise ↔ system.Owned target promise := by
  have flat (client : System) : (∃ session ∈ client.sessions, ∃ entry ∈ session.pending,
      entry.id = target.id ∧ entry.promise = promise) ↔
        ∃ pending ∈ client.sessions.map (·.pending), ∃ entry ∈ pending,
          entry.id = target.id ∧ entry.promise = promise := by simp
  unfold Owned
  rw [flat, flat, pending, own]

theorem owned_modifyTask
    {task : Nat} (isOther : task ≠ target.task) (change : TaskState Frame → TaskState Frame) :
    (system.onLoop (·.modifyTask task change)).Owned target promise ↔
      system.Owned target promise := by
  have own : (system.onLoop (·.modifyTask task change)).loop.tasks[target.task]? =
      system.loop.tasks[target.task]? := by
    simp [onLoop, Scheduler.modifyTask, isOther]
  exact owned_congr own rfl

theorem opens_congr
    {entry : PendingRequest}
    (outcomes : after.loop.outcome? entry.promise = system.loop.outcome? entry.promise)
    (pending : after.sessions.map (·.pending) = system.sessions.map (·.pending)) :
    after.Opens entry ↔ system.Opens entry := by
  have flat (client : System) : (∃ session ∈ client.sessions, entry ∈ session.pending) ↔
      ∃ pending ∈ client.sessions.map (·.pending), entry ∈ pending := by simp
  unfold Opens
  rw [flat, flat, pending, outcomes]

theorem settle_outcome?_of_some
    {other : Nat} {found : Outcome Reply} (settled : system.loop.outcome? other = some found)
    (promise : Nat) (outcome : Outcome Reply) :
    (system.settle promise outcome).loop.outcome? other = some found :=
  Scheduler.settle_outcome?_of_some outcome settled

theorem outcome?_of_settle
    {other : Nat} {outcome : Outcome Reply}
    (unsettled : (system.settle promise outcome).loop.outcome? other = none) :
    system.loop.outcome? other = none := by
  by_contra settled
  obtain ⟨found, isFound⟩ := Option.ne_none_iff_exists'.mp settled
  exact Option.some_ne_none _
    ((settle_outcome?_of_some isFound promise outcome).symm.trans unsettled)

theorem settle_settles (known : promise < system.nextPromise) (outcome : Outcome Reply) :
    (system.settle promise outcome).loop.outcome? promise =
      some ((system.loop.outcome? promise).getD outcome) := by
  cases earlier : system.loop.outcome? promise with
  | none => exact Scheduler.settle_outcome?_self outcome known earlier
  | some found => exact settle_outcome?_of_some earlier promise outcome

theorem Opens.of_settle
    {entry : PendingRequest} {outcome : Outcome Reply}
    (isOpen : (system.settle promise outcome).Opens entry) : system.Opens entry :=
  ⟨isOpen.1, outcome?_of_settle isOpen.2⟩

/-- An entry stays open while another promise is settled. -/
theorem Opens.settle
    {entry : PendingRequest} (isOpen : system.Opens entry) (different : entry.promise ≠ promise)
    (outcome : Outcome Reply) : (system.settle promise outcome).Opens entry :=
  ⟨isOpen.1, (Scheduler.settle_outcome?_of_ne outcome system.loop different).trans isOpen.2⟩

end System

end Systems

namespace Secluded

variable {target : Target} {foreign wider : Nat → Prop} {system after : System} {promise : Nat}
  (secluded : Secluded target foreign system)

include secluded

/-- A new promise belongs to nobody yet. -/
theorem apart_next : ¬ foreign system.nextPromise := fun isForeign =>
  Nat.lt_irrefl _ (secluded.known _ isForeign)

theorem of_same
    (tasks : after.loop.tasks = system.loop.tasks)
    (outcomes : ∀ promise, after.loop.outcome? promise = none → system.loop.outcome? promise = none)
    (nextPromise : after.nextPromise = system.nextPromise)
    (groups : ∀ promise, after.loop.groupOf? promise = system.loop.groupOf? promise)
    (pending : after.sessions.map (·.pending) = system.sessions.map (·.pending))
    (detained : ∀ promise ∈ after.peer.detained, promise ∈ system.peer.detained) :
    Secluded target foreign after where
  owned := fun promise owned => by
    rw [nextPromise]
    exact secluded.owned promise ((System.owned_congr (by rw [tasks]) pending).mp owned)
  known := fun promise isForeign => by
    rw [nextPromise]
    exact secluded.known promise isForeign
  stack := by
    rw [tasks]
    exact secluded.stack
  ungrouped := fun promise => (groups promise).trans (secluded.ungrouped promise)
  awaited := fun promise isForeign member unsettled => by
    rw [tasks]
    exact secluded.awaited promise isForeign (detained promise member) (outcomes promise unsettled)
  detained := fun promise member => by
    rw [nextPromise]
    exact secluded.detained promise (detained promise member)
  session := by
    obtain ⟨found, only⟩ := secluded.session
    have length : after.sessions.length = 1 := by
      have same := congrArg List.length pending
      simpa [only] using same
    exact List.length_eq_one_iff.mp length

/-- More promises turn out to be those of others. -/
theorem widen
    (apart : ∀ promise, wider promise → ¬ foreign promise →
      promise < system.nextPromise ∧ ¬ system.Owned target promise)
    (awaited : ∀ promise, wider promise → ¬ foreign promise → promise ∈ system.peer.detained →
      ∃ task found, task ≠ target.task ∧ system.loop.tasks[task]? = some found ∧
        found.awaiting = some promise) : Secluded target wider system where
  owned := fun promise owned => by
    obtain ⟨known, notForeign⟩ := secluded.owned promise owned
    exact ⟨known, fun isWider => (apart promise isWider notForeign).2 owned⟩
  known := fun promise isWider => by
    by_cases isForeign : foreign promise
    · exact secluded.known promise isForeign
    · exact (apart promise isWider isForeign).1
  stack := secluded.stack
  ungrouped := secluded.ungrouped
  awaited := fun promise isWider member unsettled => by
    by_cases isForeign : foreign promise
    · exact secluded.awaited promise isForeign member unsettled
    · exact awaited promise isWider isForeign member
  detained := secluded.detained
  session := secluded.session

theorem settle (promise : Nat) (outcome : Outcome Reply) :
    Secluded target foreign (system.settle promise outcome) :=
  secluded.of_same (Scheduler.settle_tasks promise outcome system.loop)
    (fun _ => System.outcome?_of_settle) (Scheduler.settle_nextPromise promise outcome system.loop)
    (fun other => congrArg Option.join
      (Scheduler.settle_groups promise other outcome system.loop)) rfl fun _ => id

/-- A promise is added, and the peer may hold back what it is for. -/
theorem addPromise
    (peer : Peer) (detained : ∀ promise ∈ peer.detained,
      promise ∈ system.peer.detained ∨ promise = system.nextPromise) :
    Secluded target foreign { system.addPromise with peer } := by
  have nextPromise : ({ system.addPromise with peer } : System).nextPromise =
      system.nextPromise + 1 :=
    Scheduler.addPromise_nextPromise {} system.loop
  have outcomes (promise : Nat) :
      ({ system.addPromise with peer } : System).loop.outcome? promise =
        system.loop.outcome? promise :=
    Scheduler.addPromise_outcome? promise system.loop rfl
  exact {
    owned := fun promise owned => by
      obtain ⟨known, apart⟩ := secluded.owned promise owned
      exact ⟨nextPromise ▸ Nat.lt_succ_of_lt known, apart⟩
    known := fun promise isForeign => by
      rw [nextPromise]
      exact Nat.lt_succ_of_lt (secluded.known promise isForeign)
    stack := secluded.stack
    ungrouped := fun promise => by
      cases isGroup : ({ system.addPromise with peer } : System).loop.groupOf? promise with
      | none => rfl
      | some group =>
          rcases system.loop.addPromise_groupOf? isGroup with earlier | ⟨_, added⟩
          · rw [secluded.ungrouped promise] at earlier
            cases earlier
          · cases added
    awaited := fun promise isForeign member unsettled => by
      rw [outcomes] at unsettled
      rcases detained promise member with earlier | rfl
      · exact secluded.awaited promise isForeign earlier unsettled
      · exact (secluded.apart_next isForeign).elim
    detained := fun promise member => by
      rw [nextPromise]
      rcases detained promise member with earlier | rfl
      · exact Nat.lt_succ_of_lt (secluded.detained promise earlier)
      · exact Nat.lt_succ_self _
    session := secluded.session }

/-- A task is changed that may be the one of the request. What somebody else waits for still has to be
awaited, unless it is settled. -/
theorem modifyTask
    (task : Nat) (change : TaskState Frame → TaskState Frame)
    (completion : ∀ found, (change found).completion = found.completion)
    (own : ∀ found, task = target.task → system.loop.tasks[task]? = some found →
      OwnStack target (change found).stack ∧
        ∀ promise ∈ heldPromises (change found).stack (change found).awaiting,
          promise < system.nextPromise ∧ ¬ foreign promise)
    (waits : ∀ found promise, task ≠ target.task → system.loop.tasks[task]? = some found →
      found.awaiting = some promise → system.loop.outcome? promise = none →
        (change found).awaiting = some promise) :
    Secluded target foreign (system.onLoop (·.modifyTask task change)) := by
  have others (other : Nat) (different : other ≠ task) :
      (system.loop.modifyTask task change).tasks[other]? = system.loop.tasks[other]? := by
    simp [Scheduler.modifyTask, Ne.symm different]
  have changed (found : TaskState Frame)
      (entry : (system.loop.modifyTask task change).tasks[task]? = some found) :
      ∃ earlier, system.loop.tasks[task]? = some earlier ∧ change earlier = found := by
    simpa [Scheduler.modifyTask] using entry
  exact {
    owned := by
      rintro promise (⟨found, entry, isOwn⟩ | listed)
      · by_cases isTask : task = target.task
        · subst isTask
          obtain ⟨earlier, earlierEntry, rfl⟩ := changed found entry
          rcases isOwn with rfl | isHeld
          · rw [completion]
            exact secluded.owned _ (Or.inl ⟨earlier, earlierEntry, Or.inl rfl⟩)
          · exact (own earlier rfl earlierEntry).2 promise isHeld
        · exact secluded.owned promise
            (Or.inl ⟨found, (others _ (Ne.symm isTask)).symm.trans entry, isOwn⟩)
      · exact secluded.owned promise (Or.inr listed)
    known := secluded.known
    stack := fun found entry => by
      by_cases isTask : task = target.task
      · subst isTask
        obtain ⟨earlier, earlierEntry, rfl⟩ := changed found entry
        exact (own earlier rfl earlierEntry).1
      · exact secluded.stack found ((others _ (Ne.symm isTask)).symm.trans entry)
    ungrouped := secluded.ungrouped
    awaited := fun promise isForeign member unsettled => by
      obtain ⟨other, found, isOther, entry, awaits⟩ :=
        secluded.awaited promise isForeign member unsettled
      by_cases isTask : other = task
      · subst isTask
        refine ⟨other, change found, isOther, ?_, waits found promise isOther entry awaits unsettled⟩
        simp [System.onLoop, Scheduler.modifyTask, entry]
      · exact ⟨other, found, isOther, (others other isTask).trans entry, awaits⟩
    detained := secluded.detained
    session := secluded.session }

/-- The table changes as far as others are concerned. An entry of the request was there before, or its
promise belongs to nobody else. -/
theorem modifySession
    (change : Session → Session)
    (own : ∀ found ∈ system.sessions, ∀ entry ∈ (change found).pending, entry.id = target.id →
      entry ∈ found.pending ∨ entry.promise < system.nextPromise ∧ ¬ foreign entry.promise) :
    Secluded target foreign (system.modifySession 0 change) := by
  obtain ⟨found, only⟩ := secluded.session
  have later : (system.modifySession 0 change).sessions = [change found] := by
    simp [System.modifySession, only]
  have inside : found ∈ system.sessions := by simp [only]
  exact {
    owned := by
      rintro promise (isOwn | ⟨session, member, entry, listed, sameId, rfl⟩)
      · exact secluded.owned promise (Or.inl isOwn)
      · rw [later, List.mem_singleton] at member
        subst member
        rcases own found inside entry listed sameId with earlier | fresh
        · exact secluded.owned _ (Or.inr ⟨found, inside, entry, earlier, sameId, rfl⟩)
        · exact fresh
    known := secluded.known
    stack := secluded.stack
    ungrouped := secluded.ungrouped
    awaited := secluded.awaited
    detained := secluded.detained
    session := ⟨_, later⟩ }

/-- A task is started, which is the one of the request or that of somebody else. -/
theorem appendTask
    {state : TaskState Frame} (tasks : after.loop.tasks = system.loop.tasks ++ [state])
    (promises : after.loop.promises = system.loop.promises) (sessions : after.sessions = system.sessions)
    (peer : after.peer = system.peer)
    (own : system.nextTask = target.task → OwnStack target state.stack ∧
      ∀ promise, promise = state.completion ∨ promise ∈ heldPromises state.stack state.awaiting →
        promise < system.nextPromise ∧ ¬ foreign promise) :
    Secluded target foreign after := by
  have nextPromise : after.nextPromise = system.nextPromise := congrArg List.length promises
  have outcomes (promise : Nat) :
      after.loop.outcome? promise = system.loop.outcome? promise := by
    simp only [Scheduler.outcome?, promises]
  have cases {task : Nat} {found : TaskState Frame} (entry : after.loop.tasks[task]? = some found) :
      system.loop.tasks[task]? = some found ∨ task = system.nextTask ∧ found = state := by
    rw [tasks] at entry
    exact getElem?_append_singleton_cases entry
  exact {
    owned := by
      rintro promise (⟨found, entry, isOwn⟩ | listed)
      · rw [nextPromise]
        rcases cases entry with earlier | ⟨isNew, rfl⟩
        · exact secluded.owned promise (Or.inl ⟨found, earlier, isOwn⟩)
        · exact (own isNew.symm).2 promise isOwn
      · rw [nextPromise]
        rw [sessions] at listed
        exact secluded.owned promise (Or.inr listed)
    known := fun promise isForeign => by
      rw [nextPromise]
      exact secluded.known promise isForeign
    stack := fun found entry => by
      rcases cases entry with earlier | ⟨isNew, rfl⟩
      · exact secluded.stack found earlier
      · exact (own isNew.symm).1
    ungrouped := fun promise => by
      rw [← secluded.ungrouped promise]
      simp only [Scheduler.groupOf?, promises]
    awaited := fun promise isForeign member unsettled => by
      rw [peer] at member
      rw [outcomes] at unsettled
      obtain ⟨task, found, other, entry, awaits⟩ :=
        secluded.awaited promise isForeign member unsettled
      refine ⟨task, found, other, ?_, awaits⟩
      rw [tasks, List.getElem?_append_left (List.getElem?_eq_some_iff.mp entry).1]
      exact entry
    detained := fun promise member => by
      rw [nextPromise]
      rw [peer] at member
      exact secluded.detained promise member
    session := sessions ▸ secluded.session }

end Secluded

end LanguageClient.Client
