import LanguageClient.Proofs.Isolation.Seclusion

/-!
# What others do not see

What a request does to its session and to the scheduler besides taking an id. Whatever happens to its task
and its promises alone leaves the promises, the tasks, the entries and the frames of others as they are.
-/

namespace LanguageClient.Client

open LanguageClient.Json LanguageClient.Loop LanguageClient.Number LanguageClient.Protocol

/-- Something happens that only the request can notice. -/
structure Hides (target : Target) (foreign : Nat → Prop) (before after : System) : Prop where
  secluded : Secluded target foreign after
  outcomes : ∀ promise, foreign promise →
    after.loop.outcome? promise = before.loop.outcome? promise
  nextTask : after.nextTask = before.nextTask
  tasks : ∀ task, task ≠ target.task → after.loop.tasks[task]? = before.loop.tasks[task]?
  outline : after.outline = before.outline
  opened : ∀ entry, entry.id ≠ target.id → after.Opens entry → before.Opens entry
  opens : ∀ entry, entry.id ≠ target.id → foreign entry.promise → before.Opens entry →
    after.Opens entry
  handed : target.others after.handedFrames = target.others before.handedFrames
  accepted : target.others after.acceptedFrames = target.others before.acceptedFrames

/-- Something happens that nobody can notice. -/
structure Unseen (before after : System) : Prop where
  tasks : after.loop.tasks = before.loop.tasks
  outcomes : ∀ promise, after.loop.outcome? promise = before.loop.outcome? promise
  nextPromise : after.nextPromise = before.nextPromise
  groups : ∀ promise, after.loop.groupOf? promise = before.loop.groupOf? promise
  outline : after.outline = before.outline
  pending : after.sessions.map (·.pending) = before.sessions.map (·.pending)
  detained : ∀ promise ∈ after.peer.detained, promise ∈ before.peer.detained
  handed : after.handedFrames = before.handedFrames
  accepted : after.acceptedFrames = before.acceptedFrames

section Unseen

variable {before middle after system : System}

namespace Unseen

theorem of_same
    (tasks : after.loop.tasks = before.loop.tasks)
    (promises : after.loop.promises = before.loop.promises)
    (sessions : after.sessions = before.sessions)
    (links : after.links.map (·.session) = before.links.map (·.session))
    (detained : ∀ promise ∈ after.peer.detained, promise ∈ before.peer.detained)
    (journal : after.journal = before.journal) : Unseen before after where
  tasks
  outcomes := fun promise => by simp only [Scheduler.outcome?, promises]
  nextPromise := congrArg List.length promises
  groups := fun promise => by simp only [Scheduler.groupOf?, promises]
  outline := by rw [System.outline, sessions, links, System.outline]
  pending := by rw [sessions]
  detained
  handed := by rw [System.handedFrames, journal, System.handedFrames]
  accepted := by rw [System.acceptedFrames, journal, System.acceptedFrames]

theorem refl (system : System) : Unseen system system :=
  .of_same rfl rfl rfl rfl (fun _ => id) rfl

theorem of_taken
    {callback : Callback Action} {rest : ClientLoop}
    (taken : Scheduler.Taken before.loop callback rest) : Unseen before { before with loop := rest } :=
  .of_same taken.tasks taken.promises rfl rfl (fun _ => id) rfl

theorem trans (first : Unseen before middle) (second : Unseen middle after) : Unseen before after where
  tasks := second.tasks.trans first.tasks
  outcomes := fun promise => (second.outcomes promise).trans (first.outcomes promise)
  nextPromise := second.nextPromise.trans first.nextPromise
  groups := fun promise => (second.groups promise).trans (first.groups promise)
  outline := second.outline.trans first.outline
  pending := second.pending.trans first.pending
  detained := fun promise member => first.detained promise (second.detained promise member)
  handed := second.handed.trans first.handed
  accepted := second.accepted.trans first.accepted

theorem note
    {occurrence : Occurrence} (system : System) (handed : occurrence.handedFrame? = none)
    (accepted : occurrence.acceptedFrame? = none) : Unseen system (system.note occurrence) where
  tasks := rfl
  outcomes := fun _ => rfl
  nextPromise := rfl
  groups := fun _ => rfl
  outline := rfl
  pending := rfl
  detained := fun _ => id
  handed := (System.Unnoticed.note system handed accepted).handed
  accepted := (System.Unnoticed.note system handed accepted).accepted

theorem log (system : System) (level : LogLevel) (source : LogSource) (text : String) :
    Unseen system (system.log level source text) :=
  note system rfl rfl

/-- Only the queue, the timers and the clock change. -/
theorem onLoop
    (system : System) (change : ClientLoop → ClientLoop)
    (tasks : (change system.loop).tasks = system.loop.tasks)
    (promises : (change system.loop).promises = system.loop.promises) :
    Unseen system (system.onLoop change) :=
  .of_same tasks promises rfl rfl (fun _ => id) rfl

theorem whenSettled (system : System) (promise : Nat) (callback : Callback Action) :
    Unseen system (system.onLoop (·.whenSettled promise callback)) where
  tasks := Scheduler.whenSettled_tasks promise callback system.loop
  outcomes := fun other => Scheduler.whenSettled_outcome? promise other callback system.loop
  nextPromise := Scheduler.whenSettled_nextPromise promise callback system.loop
  groups := fun other => by
    have same := Scheduler.whenSettled_groups promise other callback system.loop
    exact congrArg Option.join same
  outline := rfl
  pending := rfl
  detained := fun _ => id
  handed := rfl
  accepted := rfl

theorem whenEnded (system : System) (task : Nat) (action : Action) :
    Unseen system (system.whenEnded task action) := by
  unfold System.whenEnded
  split
  · exact refl system
  · exact whenSettled system _ _

theorem closeLink (system : System) (link : Nat) :
    Unseen system { system.note (.closedLink link) with
      links := system.links.modify link fun found => { found with closed := true } } := by
  refine (note system rfl rfl).trans (.of_same rfl rfl rfl ?_ (fun _ => id) rfl)
  exact map_modify_of_keeps (by intro _; rfl) system.links link

/-- The peer changes, and holds back no more than before. -/
theorem withPeer
    (system : System) (peer : Peer)
    (detained : ∀ promise ∈ peer.detained, promise ∈ system.peer.detained) :
    Unseen system { system with peer } :=
  .of_same rfl rfl rfl rfl detained rfl

theorem hides
    {target : Target} {foreign : Nat → Prop} (unseen : Unseen before after)
    (secluded : Secluded target foreign before) : Hides target foreign before after where
  secluded := secluded.of_same unseen.tasks
    (fun promise unsettled => (unseen.outcomes promise).symm.trans unsettled) unseen.nextPromise
    unseen.groups unseen.pending unseen.detained
  outcomes := fun promise _ => unseen.outcomes promise
  nextTask := congrArg List.length unseen.tasks
  tasks := fun task _ => by rw [unseen.tasks]
  outline := unseen.outline
  opened := fun _ _ => (System.opens_congr (unseen.outcomes _) unseen.pending).mp
  opens := fun _ _ _ => (System.opens_congr (unseen.outcomes _) unseen.pending).mpr
  handed := by rw [unseen.handed]
  accepted := by rw [unseen.accepted]

end Unseen

end Unseen

section Hides

variable {target : Target} {foreign : Nat → Prop} {before middle after system : System}

namespace Hides

theorem refl (secluded : Secluded target foreign system) : Hides target foreign system system :=
  (Unseen.refl system).hides secluded

theorem trans
    (first : Hides target foreign before middle) (second : Hides target foreign middle after) :
    Hides target foreign before after where
  secluded := second.secluded
  outcomes := fun promise isForeign =>
    (second.outcomes promise isForeign).trans (first.outcomes promise isForeign)
  nextTask := second.nextTask.trans first.nextTask
  tasks := fun task other => (second.tasks task other).trans (first.tasks task other)
  outline := second.outline.trans first.outline
  opened := fun entry other isOpen => first.opened entry other (second.opened entry other isOpen)
  opens := fun entry other isForeign isOpen =>
    second.opens entry other isForeign (first.opens entry other isForeign isOpen)
  handed := second.handed.trans first.handed
  accepted := second.accepted.trans first.accepted

theorem unseen
    (hides : Hides target foreign before middle) (unseen : Unseen middle after) :
    Hides target foreign before after :=
  hides.trans (unseen.hides hides.secluded)

end Hides

namespace Secluded

variable (secluded : Secluded target foreign system)

include secluded

/-- A promise that belongs to nobody else is settled. -/
theorem settle_hides
    {promise : Nat} (apart : ¬ foreign promise) (outcome : Outcome Reply) :
    Hides target foreign system (system.settle promise outcome) := by
  have tasks : (system.settle promise outcome).loop.tasks = system.loop.tasks :=
    Scheduler.settle_tasks promise outcome system.loop
  exact {
    secluded := secluded.settle promise outcome
    outcomes := fun other isForeign =>
      Scheduler.settle_outcome?_of_ne outcome system.loop fun same => apart (same ▸ isForeign)
    nextTask := congrArg List.length tasks
    tasks := fun task _ => by rw [tasks]
    outline := rfl
    opened := fun _ _ isOpen => isOpen.of_settle
    opens := fun entry _ isForeign isOpen =>
      have different : entry.promise ≠ promise := fun same => apart (same ▸ isForeign)
      isOpen.settle different outcome
    handed := rfl
    accepted := rfl }

theorem addPromise_hides
    (peer : Peer) (detained : ∀ promise ∈ peer.detained,
      promise ∈ system.peer.detained ∨ promise = system.nextPromise) :
    Hides target foreign system { system.addPromise with peer } := by
  have outcomes (promise : Nat) :
      ({ system.addPromise with peer } : System).loop.outcome? promise =
        system.loop.outcome? promise :=
    Scheduler.addPromise_outcome? promise system.loop rfl
  exact {
    secluded := secluded.addPromise peer detained
    outcomes := fun promise _ => outcomes promise
    nextTask := rfl
    tasks := fun _ _ => rfl
    outline := rfl
    opened := fun _ _ => (System.opens_congr (outcomes _) rfl).mp
    opens := fun _ _ _ => (System.opens_congr (outcomes _) rfl).mpr
    handed := rfl
    accepted := rfl }

theorem holdBack_hides : Hides target foreign system system.holdBack := by
  refine secluded.addPromise_hides _ fun promise member => ?_
  simp only [Peer.detained, List.mem_append, List.mem_singleton] at member ⊢
  tauto

/-- The task of the request is changed. -/
theorem modifyOwn_hides
    (change : TaskState Frame → TaskState Frame)
    (completion : ∀ found, (change found).completion = found.completion)
    (own : ∀ found, system.loop.tasks[target.task]? = some found →
      OwnStack target (change found).stack ∧
        ∀ promise ∈ heldPromises (change found).stack (change found).awaiting,
          promise < system.nextPromise ∧ ¬ foreign promise) :
    Hides target foreign system (system.onLoop (·.modifyTask target.task change)) where
  secluded := secluded.modifyTask target.task change completion (fun found _ entry => own found entry)
    fun _ _ other => (other rfl).elim
  outcomes := fun _ _ => rfl
  nextTask := List.length_modify _ _ _
  tasks := fun task other => by
    simp [System.onLoop, Scheduler.modifyTask, Ne.symm other]
  outline := rfl
  opened := fun _ _ => id
  opens := fun _ _ _ => id
  handed := rfl
  accepted := rfl

/-- The frame of the request is handed over or accepted. -/
theorem noteOwn_hides
    (occurrence : Occurrence) (handed : ∀ frame ∈ occurrence.handedFrame?, target.bears frame = true)
    (accepted : ∀ frame ∈ occurrence.acceptedFrame?, target.bears frame = true) :
    Hides target foreign system (system.note occurrence) := by
  have others (frames : List Value) (frame? : Option Value)
      (own : ∀ frame ∈ frame?, target.bears frame = true) :
      target.others (frames ++ frame?.toList) = target.others frames := by
    cases frame? with
    | none => simp
    | some frame => simp [Target.others, own frame rfl]
  exact {
    secluded := secluded.of_same rfl (fun _ => id) rfl (fun _ => rfl) rfl fun _ => id
    outcomes := fun _ _ => rfl
    nextTask := rfl
    tasks := fun _ _ => rfl
    outline := rfl
    opened := fun _ _ => id
    opens := fun _ _ _ => id
    handed := by
      rw [System.handedFrames_note]
      exact others _ _ handed
    accepted := by
      rw [System.acceptedFrames_note]
      exact others _ _ accepted }

theorem hand_hides (link : Nat) {frame : Value} (own : target.bears frame = true) :
    Hides target foreign system (system.note (.handed link frame)) :=
  secluded.noteOwn_hides _ (by simpa [Occurrence.handedFrame?] using own)
    (by simp [Occurrence.acceptedFrame?])

/-- The table of the session changes as far as the request is concerned, or entries are removed whose
requests are settled. -/
theorem modifyTable_hides
    (change : Session → Session) (outline : ∀ found, (change found).outline = found.outline)
    (own : ∀ found ∈ system.sessions, ∀ entry ∈ (change found).pending, entry.id = target.id →
      entry ∈ found.pending ∨ entry.promise < system.nextPromise ∧ ¬ foreign entry.promise)
    (fewer : ∀ found ∈ system.sessions, ∀ entry ∈ (change found).pending, entry.id ≠ target.id →
      entry ∈ found.pending)
    (kept : ∀ found ∈ system.sessions, ∀ entry ∈ found.pending, entry.id ≠ target.id →
      system.loop.outcome? entry.promise = none → entry ∈ (change found).pending) :
    Hides target foreign system (system.modifySession 0 change) := by
  obtain ⟨found, only⟩ := secluded.session
  have later : (system.modifySession 0 change).sessions = [change found] := by
    simp [System.modifySession, only]
  have inside : found ∈ system.sessions := by simp [only]
  exact {
    secluded := secluded.modifySession change own
    outcomes := fun _ _ => rfl
    nextTask := rfl
    tasks := fun _ _ => rfl
    outline := by
      rw [System.outline, later, System.outline, only, List.map_singleton, List.map_singleton,
        outline]
      rfl
    opened := by
      rintro entry other ⟨⟨session, member, listed⟩, unsettled⟩
      rw [later, List.mem_singleton] at member
      subst member
      exact ⟨⟨found, inside, fewer found inside entry listed other⟩, unsettled⟩
    opens := by
      rintro entry other _ ⟨⟨session, member, listed⟩, unsettled⟩
      rw [only, List.mem_singleton] at member
      subst member
      exact ⟨⟨_, later ▸ List.mem_singleton_self _, kept session inside entry listed other unsettled⟩,
        unsettled⟩
    handed := rfl
    accepted := rfl }

/-- An entry is removed, if it is that of the request or of one that is settled. -/
theorem discard_hides
    {id : String} (settled : id = target.id ∨ ∀ found ∈ system.sessions, ∀ entry ∈ found.pending,
      entry.id = id → system.loop.outcome? entry.promise ≠ none) :
    Hides target foreign system (system.discard 0 id) := by
  unfold System.discard
  split
  · exact .refl secluded
  · refine Hides.unseen (secluded.modifyTable_hides (fun found =>
      { found with pending := found.pending.filter fun other => other.id ≠ id }) (fun _ => rfl)
        ?_ ?_ ?_) (.onLoop _ _ rfl rfl)
    · exact fun found _ entry listed _ => Or.inl (List.mem_filter.mp listed).1
    · exact fun found _ entry listed _ => (List.mem_filter.mp listed).1
    · intro found inside entry listed other unsettled
      refine List.mem_filter.mpr ⟨listed, ?_⟩
      by_contra same
      have sameId : entry.id = id := by simpa using same
      rcases settled with rfl | isSettled
      · exact other sameId
      · exact isSettled found inside entry listed sameId unsettled

/-- A session that is not there does not change. -/
theorem modifySession_succ (session : Nat) (change : Session → Session) :
    system.modifySession (session + 1) change = system := by
  obtain ⟨found, only⟩ := secluded.session
  simp only [System.modifySession, only]
  rw [List.modify_eq_self (by simp), ← only]

theorem listen_hides (session : Nat) (listener : SessionListener) :
    Hides target foreign system (system.modifySession session fun found => { found with listener }) := by
  cases session with
  | zero =>
      exact secluded.modifyTable_hides _ (fun _ => rfl) (fun _ _ _ listed _ => Or.inl listed)
        (fun _ _ _ listed _ => listed) fun _ _ _ listed _ _ => listed
  | succ other =>
      rw [secluded.modifySession_succ]
      exact .refl secluded

end Secluded

namespace Hides

theorem accept
    (hides : Hides target foreign before system) (link : Nat) {frame : Value}
    (own : target.bears frame = true) :
    Hides target foreign before (system.accept link frame) := by
  have peer := hides.unseen (.withPeer system (system.peer.accept frame).2 fun promise member =>
    detained_accept system.peer frame ▸ member)
  have accepted := peer.trans (peer.secluded.noteOwn_hides (.accepted link frame)
    (by simp [Occurrence.handedFrame?]) (by simpa [Occurrence.acceptedFrame?] using own))
  exact accepted.unseen (.onLoop _ _ rfl rfl)

end Hides

/-! ## The turn of the request -/

/-- A call of the request goes on, and nobody else sees it. -/
structure OwnStep (target : Target) (foreign : Nat → Prop) (before : System) (step : Step) : Prop where
  hides : Hides target foreign before step.1
  suspended : ∀ frames promise, step.2 = .suspended frames promise →
    OwnStack target frames ∧ ∀ other ∈ heldPromises frames (some promise),
      other < step.1.nextPromise ∧ ¬ foreign other

section Turn

variable {promise : Nat}

theorem Hides.ended (hides : Hides target foreign before system) (outcome : Outcome Reply) :
    OwnStep target foreign before (system, .ended outcome) :=
  ⟨hides, by simp⟩

theorem Hides.requesting
    (hides : Hides target foreign before system) (known : promise < system.nextPromise)
    (apart : ¬ foreign promise) (outcome : Outcome Reply) :
    OwnStep target foreign before (System.resumeRequesting promise system outcome) := by
  have withdrawn : Hides target foreign before (system.settle promise .cancelled) :=
    hides.trans (hides.secluded.settle_hides apart .cancelled)
  cases outcome with
  | failed failure => exact withdrawn.ended _
  | cancelled => exact withdrawn.ended _
  | returned reply =>
      cases settled : system.loop.outcome? promise with
      | some answer =>
          have goesOn : System.resumeRequesting promise system (.returned reply) = _ :=
            System.await_of_settled settled
          rw [goesOn]
          exact hides.ended answer
      | none =>
          have waits : System.resumeRequesting promise system (.returned reply) = _ :=
            System.await_of_unsettled settled
          rw [waits]
          refine ⟨hides, fun frames awaited suspends => ?_⟩
          obtain ⟨rfl, rfl⟩ := Progress.suspended.inj suspends
          exact ⟨.waits, by simpa [heldPromises] using ⟨known, apart⟩⟩

theorem Hides.write
    (hides : Hides target foreign before system) (known : promise < system.nextPromise)
    (apart : ¬ foreign promise) (subject : String) {frame : Value}
    (own : target.bears frame = true) :
    OwnStep target foreign before (Step.andThen (system.write 0 subject frame) (.requesting promise)
      (System.resumeRequesting promise)) := by
  obtain ⟨found, only⟩ := hides.secluded.session
  have sessionFound : system.sessions[0]? = some found := by rw [only]; rfl
  have handed : Hides target foreign before (system.note (.handed found.link frame)) :=
    hides.trans (hides.secluded.hand_hides found.link own)
  rcases System.write_cases subject frame sessionFound with ⟨failure, _, refused⟩ | held | accepted
  · rw [refused]
    exact handed.requesting known apart (.failed (writeFailure subject failure))
  · rw [held]
    have detains : Hides target foreign before (system.note (.handed found.link frame)).holdBack :=
      handed.trans handed.secluded.holdBack_hides
    refine ⟨detains, fun frames awaited suspends => ?_⟩
    obtain ⟨rfl, rfl⟩ := Progress.suspended.inj suspends
    have grown : (system.note (.handed found.link frame)).holdBack.nextPromise =
        system.nextPromise + 1 :=
      Scheduler.addPromise_nextPromise {} system.loop
    refine ⟨.writes _ _ _ promise own, ?_⟩
    have fresh : ¬ foreign system.nextPromise := hides.secluded.apart_next
    simp only [Step.andThen, heldPromises, Frame.promises, grown, Option.toList_some, List.cons_append,
      List.nil_append, List.flatMap_cons, List.flatMap_nil, List.append_nil, List.mem_cons,
      List.not_mem_nil, or_false, forall_eq_or_imp, forall_eq]
    exact ⟨⟨Nat.lt_succ_self _, fresh⟩, Nat.lt_succ_of_lt known, apart⟩
  · rw [accepted]
    exact (handed.accept found.link own).requesting known apart (.returned .nothing)

/-- The request takes an entry of its own. -/
theorem Hides.register
    (hides : Hides target foreign before system) (method : String) (timeout : Quantity)
    (delay : Delay) :
    Hides target foreign before (system.registerRequest 0 target.id method timeout delay) ∧
      (system.registerRequest 0 target.id method timeout delay).nextPromise =
        system.nextPromise + 1 := by
  have added : Hides target foreign before system.addPromise :=
    hides.trans (hides.secluded.addPromise_hides system.peer fun _ => Or.inl)
  have armed := added.unseen (.onLoop _ (·.arm delay (.expire 0 target.id)) rfl rfl)
  have watched := armed.unseen (.whenSettled _ system.nextPromise (.act (.discard 0 target.id)))
  have grown : (((system.addPromise.onLoop (·.arm delay (.expire 0 target.id))).onLoop
      (·.whenSettled system.nextPromise (.act (.discard 0 target.id)))).nextPromise) =
        system.nextPromise + 1 := by
    have same := Scheduler.whenSettled_nextPromise system.nextPromise (.act (.discard 0 target.id))
      ((system.loop.addPromise {}).arm delay (.expire 0 target.id))
    exact same.trans (Scheduler.addPromise_nextPromise {} system.loop)
  refine ⟨watched.trans (watched.secluded.modifyTable_hides _ (fun _ => rfl) ?_ ?_ ?_), grown⟩
  · intro found _ entry listed _
    refine (List.mem_append.mp listed).imp id fun isNew => ?_
    rw [List.mem_singleton.mp isNew, grown]
    exact ⟨Nat.lt_succ_self _, hides.secluded.apart_next⟩
  · intro found _ entry listed other
    refine (List.mem_append.mp listed).resolve_right fun isNew => ?_
    rw [List.mem_singleton.mp isNew] at other
    exact other rfl
  · exact fun found _ entry listed _ _ => List.mem_append_left _ listed

/-- What the request does after it has taken its id. -/
theorem Secluded.request
    {found : Session} (secluded : Secluded target foreign (system.countRequest 0))
    (only : system.sessions = [found]) (isOpen : found.closed = false) (method : String)
    (params : Option Value) (timeout : Option Quantity)
    (named : (timeout.getD found.defaultTimeout).delay? ≠ none →
      requestId (found.requests + 1) = target.id) :
    OwnStep target foreign (system.countRequest 0) (system.request 0 method params timeout) := by
  have counted : Hides target foreign (system.countRequest 0) (system.countRequest 0) :=
    .refl secluded
  have sessionFound : system.sessions[0]? = some found := by rw [only]; rfl
  simp only [System.request, sessionFound, isOpen, Bool.false_eq_true, if_false]
  split
  · exact counted.ended _
  · rename_i delay isDelay
    rw [named (by rw [isDelay]; exact Option.some_ne_none delay)]
    obtain ⟨registered, grown⟩ :=
      counted.register method (timeout.getD found.defaultTimeout) delay
    split
    · refine registered.write ?_ secluded.apart_next method
        (by simp [Target.bears_requestMessage])
      rw [grown]
      exact Nat.lt_succ_self _
    · exact registered.ended _

/-- The request goes on where it has been left. -/
theorem Hides.writes
    (hides : Hides target foreign before system) (known : promise < system.nextPromise)
    (apart : ¬ foreign promise) (link : Nat) {frame : Value} (own : target.bears frame = true)
    (subject : String) (signal : Outcome Reply) :
    OwnStep target foreign before
      (system.resumeStack signal [.sending link frame, .writing subject, .requesting promise]) := by
  rcases System.resumeStack_sending system link frame subject [.requesting promise] signal with
    ⟨_, _, _, accepted⟩ | ⟨ending, _, _, unwritten⟩
  · rw [accepted, System.resumeStack_singleton]
    exact (hides.accept link own).requesting known apart (.returned .nothing)
  · rw [unwritten, System.resumeStack_singleton]
    exact hides.requesting known apart ending

/-- A task of the request is left as its call is. -/
theorem OwnStep.settleTask
    {completion : Nat} {step : Step} (own : OwnStep target foreign before step)
    (apart : ¬ foreign completion) :
    Hides target foreign before (System.settleTask target.task completion step) := by
  obtain ⟨later, outcome | ⟨frames, awaited⟩⟩ := step
  · have ended : Hides target foreign before (later.note (.ended target.task outcome)) :=
      own.hides.unseen (.note later rfl rfl)
    exact ended.trans (ended.secluded.settle_hides apart outcome)
  · obtain ⟨stack, held⟩ := own.suspended frames awaited rfl
    have left := own.hides.trans (own.hides.secluded.modifyOwn_hides
      (fun found => { found with stack := frames, awaiting := some awaited }) (fun _ => rfl)
      fun _ _ => ⟨stack, held⟩)
    exact left.unseen (.whenSettled _ awaited (.resume target.task))

/-- The task of the request when it takes its turn. -/
theorem Secluded.resumed
    {rest : ClientLoop} {found : TaskState Frame} (secluded : Secluded target foreign system)
    (resumes : System.Resumes system target.task rest found) :
    Hides target foreign system (system.resumed rest target.task) := by
  have hides := (Unseen.of_taken resumes.taken).hides secluded
  exact hides.trans (hides.secluded.modifyOwn_hides
    (fun found => { found with stack := [], awaiting := none, cancelRequested := false })
    (fun _ => rfl) fun _ _ => ⟨.waits, fun _ member => by simp [heldPromises] at member⟩)

/-- In its turn the request is seen by others only if it takes its id. -/
theorem Secluded.own_turn
    {rest : ClientLoop} {found : TaskState Frame} (secluded : Secluded target foreign system)
    (resumes : System.Resumes system target.task rest found)
    (quiet : system.issues target.task = false) :
    Hides target foreign system (system.step .turn) := by
  have cleared := secluded.resumed resumes
  have ownCompletion : ¬ foreign found.completion :=
    (secluded.owned _ (Or.inl ⟨found, resumes.entry, Or.inl rfl⟩)).2
  rw [resumes.step_turn]
  refine OwnStep.settleTask ?_ ownCompletion
  unfold System.resumption
  have stack := secluded.stack found resumes.entry
  generalize stackEq : found.stack = frames at stack
  cases stack with
  | waits => exact cleared.ended _
  | begins method params timeout =>
      by_cases begins : ∃ reply, system.signalOf found = .returned reply
      · obtain ⟨reply, signal⟩ := begins
        have begun : system.begunCall? target.task = some (.request 0 method params timeout) :=
          resumes.begunCall?_of_begin (System.uncancelled_of_returned signal) stackEq
        obtain ⟨state, only⟩ := secluded.session
        have closed : state.closed = true := by
          simpa [System.issues, begun, only] using quiet
        have refused : (system.resumed rest target.task).call (.request 0 method params timeout) =
            (system.resumed rest target.task, .ended (.failed (.sessionClosed method))) := by
          have resumedFound : (system.resumed rest target.task).sessions[0]? = some state := by
            change system.sessions[0]? = some state
            rw [only]
            rfl
          simp only [System.call, System.request, resumedFound, closed, if_true]
          rfl
        rw [signal, System.resumeStack_begin, refused]
        exact cleared.ended _
      · rw [System.resumeStack_not_begin _ _ fun reply same => begins ⟨reply, same⟩]
        exact cleared.ended _
  | writes link frame subject promise own =>
      have owned : system.Owned target promise := by
        refine Or.inl ⟨found, resumes.entry, Or.inr ?_⟩
        rw [stackEq]
        simp [heldPromises, Frame.promises]
      obtain ⟨known, apart⟩ := secluded.owned promise owned
      rw [← resumes.resumed_nextPromise] at known
      exact cleared.writes known apart link own subject _

end Turn

end Hides

end LanguageClient.Client
