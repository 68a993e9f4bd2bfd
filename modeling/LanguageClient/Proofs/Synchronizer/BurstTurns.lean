import LanguageClient.Proofs.Synchronizer.Bursts

/-!
# Turns during a burst

While the host only edits, the timer hands the last edit to a task when its wait is over, and the task
sends the text in its first turn, if nothing keeps the peer from taking it. All other tasks answer
requests of the peer.
-/

namespace LanguageClient.Client

open LanguageClient.Json LanguageClient.Loop LanguageClient.Number LanguageClient.Protocol

section Callbacks

variable {burst : Burst} {running : Option Nat} {edits : List TimedEdit} {calm : Prop} {uri : String}
  {holder : Option (Nat × Change)} {synchronizer : Synchronizer} {system after : System}
  {callback : Callback Action} {rest : ClientLoop}

/-! ## Callbacks that are taken -/

/-- A timer fires only when the wait of the last edit is over. -/
theorem isOver_of_fire
    {edit : TimedEdit} {timer : Nat} {action : Action}
    (resolution : system.loop.resolution = burst.resolution)
    (deadlines : ∀ timer ∈ system.loop.timers,
      timer.deadline = waitEnd? burst.debounce edit.moment)
    (lapsed : system.IsSending → burst.isOver edit.moment system.loop.now = true)
    (taken : Scheduler.Taken system.loop callback rest)
    (fires : .fire timer action = callback ∨ .fire timer action ∈ rest.ready) :
    burst.isOver edit.moment system.loop.now = true := by
  rcases taken.ready _ fires with isReady | ⟨armed, waits, isDue, _⟩
  · exact lapsed (Or.inl (List.ne_nil_of_mem (Scheduler.mem_due isReady)))
  · rw [isDue_of_waitEnd (deadlines armed waits), resolution] at isDue
    exact isDue

/-- Unless it is the timer, taking a callback leaves the burst as it is. -/
theorem BurstWorld.taken
    (bursts : BurstWorld burst none edits synchronizer system)
    (taken : Scheduler.Taken system.loop callback rest) (untimed : callback.timer? = none) :
    BurstWorld burst callback.resumed? edits synchronizer { system with loop := rest } := by
  obtain ⟨sent, version, deliveries, duty⟩ := bursts.duty
  have notFire : ∀ timer action, Callback.fire timer action ≠ callback := by
    rintro timer action rfl
    cases untimed
  refine { bursts with
    resolution := taken.resolution.trans bursts.resolution
    tasks := ?_
    duty := ⟨sent, version, deliveries, ?_⟩ }
  · intro task found entry waits
    rw [taken.tasks] at entry
    refine (bursts.tasks task found entry nofun).imp_right fun soon => { soon with
      unended := (System.KeepsTask.of_same taken.tasks taken.promises).ending.trans soon.unended
      isReady := (taken.readyKept _ soon.isReady).resolve_left ?_ }
    rintro rfl
    exact waits rfl
  · have sending : ({ system with loop := rest } : System).IsSending →
        (∃ timer action, .fire timer action ∈ rest.ready) ∨ system.IsSending := by
      rintro (due | ⟨found, member, begins⟩)
      · exact Or.inl (Scheduler.exists_fire_of_due due)
      · exact Or.inr (Or.inr ⟨found, taken.tasks ▸ member, begins⟩)
    cases duty with
    | nothing clean all => exact .nothing clean (taken.now ▸ all)
    | last earlier edit isLast sentEarlier unsent current deadlines lapsed awaited =>
        refine .last earlier edit isLast sentEarlier unsent current
          (fun timer waits => deadlines timer (taken.timers timer waits)) ?_ fun counted => ?_
        · intro isSending
          rw [taken.now]
          rcases sending isSending with ⟨timer, action, fires⟩ | earlierSending
          · exact isOver_of_fire bursts.resolution deadlines lapsed taken (Or.inr fires)
          · exact lapsed earlierSending
        · rcases awaited counted with armed | due | ⟨found, member, begins⟩
          · obtain ⟨timer, waits⟩ := List.exists_mem_of_ne_nil _ armed
            rcases taken.timersKept timer waits with kept | fires | fires
            · exact Or.inl (List.ne_nil_of_mem kept)
            · exact (notFire _ _ fires).elim
            · exact Or.inr (Or.inl (List.ne_nil_of_mem (Scheduler.mem_due fires)))
          · obtain ⟨timer, action, isReady⟩ := Scheduler.exists_fire_of_due due
            have kept := (taken.readyKept _ isReady).resolve_left (notFire timer action)
            exact Or.inr (Or.inl (List.ne_nil_of_mem (Scheduler.mem_due kept)))
          · exact Or.inr (Or.inr ⟨found, taken.tasks ▸ member, begins⟩)

/-! ## The timer -/

theorem whenEnded_tasks (system : System) (task : Nat) (action : Action) :
    (system.whenEnded task action).loop.tasks = system.loop.tasks := by
  unfold System.whenEnded
  split
  · rfl
  · exact Scheduler.whenSettled_tasks _ _ _

theorem debounce_tasks (system : System) :
    (system.debounce 0).loop.tasks = system.loop.tasks ++ [{
      stack := [.begin (.sendDebounced 0)]
      awaiting := none
      cancelRequested := false
      completion := system.nextPromise }] :=
  whenEnded_tasks (system.spawn (.sendDebounced 0)) _ _

theorem debounce_ready (system : System) :
    .resume system.nextTask ∈ (system.debounce 0).loop.ready := by
  have spawned := spawn_task system (.sendDebounced 0)
  have isReady : .resume system.nextTask ∈ (system.spawn (.sendDebounced 0)).loop.ready :=
    List.mem_append_right _ List.mem_cons_self
  simp only [System.debounce, System.whenEnded, spawned]
  exact (Scheduler.whenSettled_steady _ _ _).ready _ isReady

/-- When the timer fires, a task is started that sends the last edit. -/
theorem BurstWorld.fire
    {timer : Nat} (bursts : BurstWorld burst none edits synchronizer system)
    (world : SyncWorld False burst.uri holder synchronizer system)
    (taken : Scheduler.Taken system.loop (.fire timer (.debounce 0)) rest)
    (free : rest.HasOnly none) :
    ∃ later, BurstWorld burst none edits later
      (({ system with loop := rest } : System).debounce 0) := by
  obtain ⟨sent, version, deliveries, duty⟩ := bursts.duty
  obtain ⟨restWorld, allowed⟩ := world.taken taken
  obtain ⟨sends, fired⟩ := fire_event restWorld allowed
  have event : SyncEvent False burst.uri { system with loop := rest }
      { synchronizer with timer := none, sends }
      (({ system with loop := rest } : System).debounce 0) := fired
  have tasks := debounce_tasks { system with loop := rest }
  have now : (({ system with loop := rest } : System).debounce 0).loop.now = system.loop.now :=
    event.passage.loop.advances.now.trans taken.now
  have timers : (({ system with loop := rest } : System).debounce 0).loop.timers = [] :=
    event.keeps.timers.trans
      (List.map_eq_nil_iff.mp (List.append_eq_nil_iff.mp free.armed).1)
  refine ⟨_, {
    isOnly := event.passage.parts.synchronizers
    attached := bursts.attached
    isOpen := (event.keeps.isOpen 0).trans bursts.isOpen
    free := bursts.free
    debounce := bursts.debounce
    resolution := event.passage.loop.advances.resolution.trans
      (taken.resolution.trans bursts.resolution)
    tasks := fun task found entry _ => ?_
    duty := ⟨sent, version, event.keeps.deliveries.trans deliveries, ?_⟩ }⟩
  · rw [tasks] at entry
    rcases getElem?_append_singleton_cases entry with earlier | ⟨rfl, rfl⟩
    · have entryBefore : system.loop.tasks[task]? = some found := taken.tasks ▸ earlier
      refine (bursts.tasks task found entryBefore nofun).imp_right fun soon => ?_
      have known : task < ({ system with loop := rest } : System).nextTask :=
        (List.getElem?_eq_some_iff.mp earlier).1
      have keeps := keepsTask_of_advances event.passage.loop.advances known
      exact { soon with
        unended := keeps.ending.trans
          ((System.KeepsTask.of_same taken.tasks taken.promises).ending.trans soon.unended)
        isReady := event.keeps.ready _
          ((taken.readyKept _ soon.isReady).resolve_left nofun) }
    · have transmits : (({ system with loop := rest } : System).debounce 0).Transmits burst.uri
          synchronizer.text ({ system with loop := rest } : System).nextTask :=
        debounce_transmits _
      obtain ⟨started, startedEntry, unended, _⟩ := transmits
      refine Or.inr ⟨rfl, rfl, rfl, ?_, debounce_ready _⟩
      rw [← unended]
      exact ending?_of_entry startedEntry
  · cases duty with
    | nothing clean all => exact .nothing clean (now ▸ all)
    | last earlier edit isLast sentEarlier unsent current deadlines lapsed awaited =>
        refine .last earlier edit isLast sentEarlier unsent current ?_ (fun _ => ?_) fun _ => ?_
        · rw [timers]
          nofun
        · rw [now]
          exact isOver_of_fire bursts.resolution deadlines lapsed taken (Or.inl rfl)
        · right
          right
          rw [tasks]
          exact ⟨_, List.mem_append_right _ List.mem_cons_self, rfl⟩

end Callbacks

/-! ## Tasks that events start -/

section Events

variable {calm : Prop} {uri : String} {synchronizer : Synchronizer} {system after : System}

theorem takeRequest_addsAnswers (system : System) (session : Nat) (id : Value) :
    system.AddsAnswers (system.takeRequest session id) := by
  unfold System.takeRequest
  split
  · exact .of_same rfl
  · split
    · exact .of_same rfl
    · refine ⟨_, whenEnded_tasks (system.spawn (.answer session id)) _ _, fun found member => ?_⟩
      rw [List.mem_singleton.mp member]
      exact ⟨session, id, rfl⟩

theorem takeResponse_addsAnswers (system : System) (session : Nat) (id : String) (message : Value) :
    system.AddsAnswers (system.takeResponse session id message).1 := by
  unfold System.takeResponse
  split
  · exact .of_same rfl
  · split
    · exact .of_same (Scheduler.settle_tasks _ _ _)
    · split
      · exact .of_same (Scheduler.settle_tasks _ _ _)
      · exact .of_same rfl

section Parts

variable (parts : SyncParts uri synchronizer system)

include parts

theorem SyncParts.takeNotification_loop (workspace : Nat) (method params : Value) :
    (System.takeNotification System.showDiagnostics system workspace method params).1.loop =
      system.loop := by
  have published (listener : DocumentListener) :
      (system.publish listener params System.showDiagnostics).1.loop = system.loop := by
    unfold System.publish
    split
    · rfl
    · cases listener with
      | editor editor => simp only [System.showDiagnostics, parts.editors, List.getElem?_nil]
      | host name fails => rfl
  unfold System.takeNotification
  split
  · rfl
  · split
    · split
      · rfl
      · rfl
      · exact published _
    · split
      · unfold System.showMessage
        split <;> rfl
      · rfl

theorem SyncParts.takeMessage_addsAnswers (session : Nat) (text : String) :
    system.AddsAnswers (system.takeMessage session text
      (System.takeNotification System.showDiagnostics)).1 := by
  unfold System.takeMessage
  split
  · exact .of_same rfl
  · exact .of_same rfl
  · simp only
    split
    · exact takeRequest_addsAnswers system session _
    · split
      · exact .of_same rfl
      · exact .of_same rfl
      · rename_i listener _ _
        cases listener with
        | nobody => exact .of_same rfl
        | workspace workspace =>
            have told := parts.takeNotification_loop workspace
            simp only
            split
            · exact .of_same (congrArg Scheduler.tasks (told _ _))
            · exact .of_same (congrArg Scheduler.tasks (told _ _))
        | host fails =>
            simp only
            split <;> exact .of_same rfl
    · exact takeResponse_addsAnswers system session _ _
    · exact .of_same rfl
  · exact .of_same rfl

theorem SyncParts.receive_addsAnswers (link : Nat) (text : String) :
    system.AddsAnswers (system.receive link text) := by
  unfold System.receive
  split
  · exact .of_same rfl
  · rename_i session _
    have taken := parts.takeMessage_addsAnswers session text
    split
    · rename_i result
      rw [result] at taken
      exact taken
    · rename_i result
      rw [result] at taken
      exact taken

/-- A callback that lets no task go on and belongs to no timer starts tasks only to answer the
peer. -/
theorem SyncParts.callback_addsAnswers
    {callback : Callback Action} (allowed : (syncScope uri calm).callback callback)
    (noTask : callback.resumed? = none) (untimed : callback.timer? = none) :
    system.AddsAnswers (system.runCallback callback) := by
  cases callback with
  | resume task => cases noTask
  | memberEnded group => exact .of_same (system.loop.endMember_steady group Reply.nothing).tasks
  | fire timer action => cases untimed
  | skipped => exact .of_same rfl
  | act action =>
      cases action with
      | answerEnded session task =>
          have ended : (system.endAnswer session task).loop = system.loop := by
            unfold System.endAnswer
            simp only
            split <;> rfl
          exact .of_same (congrArg Scheduler.tasks ended)
      | deliver link text => exact parts.receive_addsAnswers link text
      | sendEnded other task => exact .of_same rfl
      | _ => exact allowed.elim

end Parts

end Events

/-! ## The turn of a task -/

/-- What a task does that is aside afterwards. -/
structure BurstTurn
    (uri : String) (task : Nat) (system : System) (result : Step) (later : Synchronizer) : Prop where
  passage : SyncPassage False uri (some task) system later result.1
  steady : system.Steady result.1
  timers : system.KeepsTimers result.1
  aside : IsAside uri result.2.frames

section Results

variable {uri : String} {task : Nat} {synchronizer : Synchronizer} {system : System}
  (passage : SyncPassage False uri (some task) system synchronizer system)

include passage

theorem IsAside.turn
    {stack : List Frame} (aside : IsAside uri stack) (signal : Outcome Reply) :
    BurstTurn uri task system (system.resumeStack signal stack) synchronizer ∧
      (system.resumeStack signal stack).1.deliveries uri = system.deliveries uri := by
  have nothing (ending : Outcome Reply) :
      BurstTurn uri task system (system, .ended ending) synchronizer :=
    ⟨passage, .refl system, .refl system, .ended⟩
  cases aside with
  | ended => exact ⟨nothing signal, rfl⟩
  | begins session id =>
      by_cases returned : ∃ reply, signal = .returned reply
      · obtain ⟨reply, rfl⟩ := returned
        rw [System.resumeStack_begin]
        obtain ⟨written, deliveries, steady, ends⟩ :=
          quiet_write session "response" passage (delivery?_answerMessage uri id)
        refine ⟨⟨written, steady, .of_course (write_course system session _ _), ?_⟩, deliveries⟩
        rcases ends with ⟨outcome, ended, _⟩ | ⟨link, _, held⟩
        · rw [System.call, System.answer, ended]
          exact .ended
        · rw [System.call, System.answer, held]
          exact .answers link _ _ (delivery?_answerMessage uri id)
      · rw [System.resumeStack_not_begin system _ fun reply same => returned ⟨reply, same⟩]
        exact ⟨nothing signal, rfl⟩
  | answers link frame subject noDelivery =>
      have inner : ∀ other ∈ [.sending link frame, .writing subject], System.IsSyncFrame other := by
        simp [System.IsSyncFrame]
      have timers := System.resumeStack_keepsTimers system inner signal
      obtain ⟨current, outcome, result, currentPassage, deliveries, steady⟩ :=
        quiet_sending link subject [] signal passage noDelivery
      rw [result] at timers ⊢
      exact ⟨⟨currentPassage, steady, timers, .ended⟩, deliveries⟩

/-! ## The send that the timer has started -/

section Sends

variable (free : synchronizer.lock = {}) (attached : synchronizer.file = some 0)
  (isOpen : system.isOpen 0 = true)

include free

/-- The lock is free, so the send takes it at once. -/
theorem sendChange_of_free :
    system.sendChange 0 false =
        (system.modifyLock 0 fun lock => { lock with held := true }).changeLocked 0 false ∧
      SyncPassage False uri (some task) system
        { synchronizer with lock := { synchronizer.lock with held := true } }
        (system.modifyLock 0 fun lock => { lock with held := true }) := by
  have nobody : NoneGranted synchronizer.lock.waiters system.loop := by
    rw [free]
    nofun
  refine ⟨?_, passage.modifyLock (fun lock => { lock with held := true })
    (passage.parts.lock.take nobody)⟩
  simp only [System.sendChange, passage.lockOf, free, Bool.not_false, List.all_nil, Bool.and_self,
    if_true]

include attached isOpen

/-- The send finds nothing unsent. -/
theorem sendDebounced_of_clean (clean : synchronizer.dirty = false) :
    BurstTurn uri task system (system.sendDebounced 0) synchronizer ∧
      (system.sendDebounced 0).1.deliveries uri = system.deliveries uri := by
  obtain ⟨takesLock, locked⟩ := sendChange_of_free passage free
  have found := congrArg (·[0]?) locked.parts.synchronizers
  have lockedOpen : (system.modifyLock 0 fun lock => { lock with held := true }).isOpen 0 = true :=
    isOpen
  have result : system.sendDebounced 0 =
      ((system.modifyLock 0 fun lock => { lock with held := true }).release 0,
        .ended (.returned .nothing)) := by
    simp only [List.getElem?_cons_zero] at found
    simp only [System.sendDebounced, takesLock, System.changeLocked, found, attached, lockedOpen,
      clean, Bool.not_true, Bool.or_self, Bool.not_false, Bool.or_true, if_true]
    rfl
  have unlocked : { synchronizer.lock with held := false } = synchronizer.lock := by rw [free]
  have released := locked.release
  have timers := System.sendDebounced_keepsTimers system 0
  rw [result] at timers ⊢
  simp only [unlocked] at released
  refine ⟨⟨released, ?_, timers, .ended⟩, System.release_deliveries _ uri⟩
  exact (modifyLock_steady system _).trans (System.release_steady _ 0)

/-- The send hands over the text, and the peer takes it at once. -/
theorem sendDebounced_of_dirty
    (unsent : synchronizer.dirty = true) (atOnce : system.peer.holding = false)
    (takes : system.Takes uri (synchronizer.version + 1 : Nat) synchronizer.text) :
    BurstTurn uri task system (system.sendDebounced 0)
        { synchronizer with dirty := false, version := synchronizer.version + 1 } ∧
      (system.sendDebounced 0).1.deliveries uri =
        system.deliveries uri ++
          [.changed (synchronizer.version + 1 : Nat) synchronizer.text] := by
  obtain ⟨takesLock, locked⟩ := sendChange_of_free passage free
  have found := congrArg (·[0]?) locked.parts.synchronizers
  have lockedOpen : (system.modifyLock 0 fun lock => { lock with held := true }).isOpen 0 = true :=
    isOpen
  have cleaned := locked.modifySynchronizer (fun found => { found with dirty := false }) rfl
    passage.parts.attached
  obtain ⟨link, accepts⟩ := changeFile_of_takes cleaned.parts isOpen
    ⟨takes.inSession, takes.inRange, takes.unrefused⟩ atOnce
  have result : system.sendDebounced 0 =
      (((((system.modifyLock 0 fun lock => { lock with held := true }).modifySynchronizer 0
        fun found => { found with dirty := false }).note
          (.handed link (changeFrame uri (synchronizer.version + 1 : Nat) synchronizer.text))).accept
            link (changeFrame uri (synchronizer.version + 1 : Nat) synchronizer.text)).commitChange
              (synchronizer.version + 1), .ended (.returned .nothing)) := by
    simp only [List.getElem?_cons_zero] at found
    simp only [System.sendDebounced, takesLock, System.changeLocked, found, attached, lockedOpen,
      unsent, Bool.not_true, Bool.or_false, Bool.or_self, Bool.false_eq_true, if_false, accepts]
    rfl
  have unlocked : { synchronizer.lock with held := false } = synchronizer.lock := by rw [free]
  have timers := System.sendDebounced_keepsTimers system 0
  rw [result] at timers ⊢
  have accepted := (cleaned.note (.handed link
    (changeFrame uri (synchronizer.version + 1 : Nat) synchronizer.text))).accept link
      (changeFrame uri (synchronizer.version + 1 : Nat) synchronizer.text)
  have committed := (accepted.modifySynchronizer
    (fun found => { found with version := synchronizer.version + 1 }) rfl
      passage.parts.attached).release
  simp only [unlocked] at committed
  refine ⟨⟨committed, ?_, timers, .ended⟩, ?_⟩
  · exact ((modifyLock_steady system _).trans (System.modifySynchronizer_steady _ 0 _)).trans
      (((System.note_steady _ _).trans (System.accept_steady _ link _)).trans
        ((System.modifySynchronizer_steady _ 0 _).trans (System.release_steady _ 0)))
  · refine (commitChange_deliveries _ uri link
      ⟨synchronizer.version + 1, synchronizer.text, true⟩).trans ?_
    exact congrArg (· ++ _) (System.note_deliveries _ uri (by simp))

end Sends

end Results

/-! ## The burst after a turn -/

section Turns

open LanguageClient.Client.System

variable {burst : Burst} {edits : List TimedEdit} {holder : Option (Nat × Change)}
  {synchronizer later : Synchronizer} {system : System} {task : Nat} {rest : ClientLoop}
  {found : TaskState Frame}

theorem leftTask_stack (found : TaskState Frame) (progress : Progress) :
    (leftTask found progress).stack = progress.frames := by
  cases progress <;> rfl

theorem settleTask_ready
    {callback : Callback Action} {step : Step} (task completion : Nat)
    (isReady : callback ∈ step.1.loop.ready) :
    callback ∈ (settleTask task completion step).loop.ready := by
  obtain ⟨later, outcome | ⟨frames, promise⟩⟩ := step
  · exact (later.loop.settle_steady completion outcome).ready callback isReady
  · exact (Scheduler.whenSettled_steady _ promise (.resume task)).ready callback isReady

theorem settleTask_synchronizers (task completion : Nat) (step : Step) :
    (settleTask task completion step).synchronizers = step.1.synchronizers := by
  obtain ⟨later, outcome | ⟨frames, promise⟩⟩ := step <;> rfl

theorem settleTask_isOpen (task completion file : Nat) (step : Step) :
    (settleTask task completion step).isOpen file = step.1.isOpen file := by
  obtain ⟨later, outcome | ⟨frames, promise⟩⟩ := step <;> rfl

section Turn

variable (resumes : Resumes system task rest found)
  (turn : BurstTurn burst.uri task (system.resumed rest task) (system.resumption rest task found)
    later)

include resumes turn

theorem BurstTurn.keepsTimers : ({ system with loop := rest } : System).KeepsTimers
    (system.step .turn) := by
  rw [resumes.step_turn]
  have cleared : ({ system with loop := rest } : System).KeepsTimers (system.resumed rest task) :=
    .onLoop (rest.modifyTask_keepsTimers task _)
  exact (cleared.trans turn.timers).trans (settleTask_keepsTimers task found.completion _)

/-- The task is aside after its turn, and all other tasks are where they were. -/
theorem BurstTurn.tasks :
    (∃ left, (system.step .turn).loop.tasks[task]? = some left ∧ IsAside burst.uri left.stack) ∧
      ∀ other, other ≠ task →
        (system.step .turn).loop.tasks[other]? = rest.tasks[other]? := by
  rw [resumes.step_turn]
  have cleared : ({ system with loop := rest } : System).loop.tasks[task]? = some found :=
    resumes.restEntry
  obtain ⟨mine, others⟩ := settleTask_tasks cleared turn.steady.loop.tasks
  refine ⟨⟨_, mine, ?_⟩, others⟩
  rw [leftTask_stack]
  exact turn.aside

theorem BurstWorld.of_turn
    (bursts : BurstWorld burst (some task) edits synchronizer { system with loop := rest })
    (file : later.file = synchronizer.file) (lock : later.lock = synchronizer.lock)
    (debounce : later.debounce = synchronizer.debounce)
    (duty : ∃ sent,
      later.version = burst.version + sent.length ∧
        (system.resumption rest task found).1.deliveries burst.uri =
          burst.delivered ++ changesOf burst.version sent ∧
        Duty burst edits sent later.dirty later.text (system.step .turn)) :
    BurstWorld burst none edits later (system.step .turn) where
  isOnly := by
    rw [resumes.step_turn, settleTask_synchronizers]
    exact turn.passage.parts.synchronizers
  attached := file.trans bursts.attached
  isOpen := by
    rw [resumes.step_turn, settleTask_isOpen, turn.steady.isOpen]
    exact bursts.isOpen
  free := lock.trans bursts.free
  debounce := debounce.trans bursts.debounce
  resolution := (turn.keepsTimers resumes).loop.resolution.trans bursts.resolution
  tasks := fun other state entry _ => by
    obtain ⟨⟨left, mine, aside⟩, others⟩ := turn.tasks resumes
    by_cases same : other = task
    · subst same
      rw [← Option.some.inj (mine.symm.trans entry)]
      exact Or.inl aside
    · rw [others other same] at entry
      refine (bursts.tasks other state entry fun same' => same
        (Option.some.inj same').symm).imp_right fun soon => ?_
      have known : other < system.nextTask :=
        (List.getElem?_eq_some_iff.mp (resumes.taken.tasks ▸ entry)).1
      have keeps := resumes.keepsTask_turn turn.passage.loop same known
      exact { soon with
        unended := keeps.ending.trans
          ((KeepsTask.of_same resumes.taken.tasks resumes.taken.promises).ending.symm.trans
            soon.unended)
        isReady := by
          rw [resumes.step_turn]
          exact settleTask_ready _ _ (turn.steady.loop.ready _ soon.isReady) }
  duty := by
    obtain ⟨sent, version, deliveries, owed⟩ := duty
    refine ⟨sent, version, ?_, owed⟩
    rw [resumes.step_turn, settleTask_deliveries]
    exact deliveries

end Turn

/-- A task that is to send the text is not among those that are aside, so it is among the others. -/
theorem exists_sendDebounced_of_others
    {uri : String} {tasks others : List (TaskState Frame)} {task : Nat} {found : TaskState Frame}
    (entry : tasks[task]? = some found) (aside : IsAside uri found.stack)
    (same : ∀ other, other ≠ task → tasks[other]? = others[other]?) :
    (∃ state ∈ tasks, state.stack = [.begin (.sendDebounced 0)]) →
      ∃ state ∈ others, state.stack = [.begin (.sendDebounced 0)] := by
  rintro ⟨state, member, begins⟩
  obtain ⟨other, otherEntry⟩ := List.mem_iff_getElem?.mp member
  by_cases isTask : other = task
  · subst isTask
    obtain rfl := Option.some.inj (entry.symm.trans otherEntry)
    exact (aside.not_sendDebounced begins).elim
  · rw [same other isTask] at otherEntry
    exact ⟨state, List.mem_of_getElem? otherEntry, begins⟩

section Resumed

variable (resumes : Resumes system task rest found)
  (bursts : BurstWorld burst (some task) edits synchronizer { system with loop := rest })
  (start : SyncPassage False burst.uri (some task) (system.resumed rest task) synchronizer
    (system.resumed rest task))

include resumes bursts start

/-- A task that is aside leaves the burst as it is. -/
theorem BurstWorld.aside_turn
    (prompt : rest.IsPrompt) (aside : IsAside burst.uri found.stack) :
    BurstWorld burst none edits synchronizer (system.step .turn) := by
  obtain ⟨turn, sameDeliveries⟩ := aside.turn start (system.signalOf found)
  obtain ⟨sent, version, deliveries, duty⟩ := bursts.duty
  have timers := (turn.keepsTimers resumes).loop
  obtain ⟨⟨left, mine, asideAfter⟩, others⟩ := turn.tasks resumes
  refine bursts.of_turn resumes turn rfl rfl rfl
    ⟨sent, version, sameDeliveries.trans deliveries, duty.of_same timers.now timers.timers ?_⟩
  unfold System.IsSending
  rw [timers.due prompt]
  refine or_congr_right ⟨?_, ?_⟩
  · exact exists_sendDebounced_of_others mine asideAfter others
  · exact exists_sendDebounced_of_others resumes.restEntry aside fun other differs =>
      (others other differs).symm

/-- The task that the timer has started sends the last edit, if it is not sent yet. -/
theorem BurstWorld.send_turn
    (soon : system.SendsSoon task found) (atOnce : system.peer.holding = false)
    (succeed : system.SendsSucceed burst.uri) :
    ∃ later, BurstWorld burst none edits later (system.step .turn) := by
  obtain ⟨sent, version, deliveries, duty⟩ := bursts.duty
  have sends : system.resumption rest task found = (system.resumed rest task).sendDebounced 0 := by
    rw [resumption, soon.begins, signalOf_of_idle soon.uncancelled soon.idle]
    exact resumeStack_begin _ .nothing (.sendDebounced 0)
  cases duty with
  | nothing clean all =>
      obtain ⟨turn, sameDeliveries⟩ :=
        sendDebounced_of_clean start bursts.free bursts.attached bursts.isOpen clean
      rw [← sends] at turn sameDeliveries
      have now := (turn.keepsTimers resumes).loop.now
      exact ⟨_, bursts.of_turn resumes turn rfl rfl rfl
        ⟨sent, version, sameDeliveries.trans deliveries, .nothing clean (now ▸ all)⟩⟩
  | last earlier edit isLast sentEarlier unsent current deadlines lapsed awaited =>
      have isMember : synchronizer ∈ system.synchronizers := by
        rw [bursts.isOnly]
        exact List.mem_cons_self
      have takes := succeed synchronizer isMember synchronizer.text
      obtain ⟨turn, added⟩ := sendDebounced_of_dirty start bursts.free bursts.attached bursts.isOpen
        unsent atOnce ⟨takes.inSession, takes.inRange, takes.unrefused⟩
      rw [← sends] at turn added
      have now := (turn.keepsTimers resumes).loop.now
      have isOver := lapsed (Or.inr ⟨found, List.mem_of_getElem? resumes.restEntry, soon.begins⟩)
      refine ⟨_, bursts.of_turn resumes turn rfl rfl rfl ⟨sent ++ [edit], ?_, ?_, .nothing rfl ?_⟩⟩
      · rw [List.length_append, ← Nat.add_assoc, ← version]
        rfl
      · rw [added, changesOf_concat, ← List.append_assoc, ← version, current]
        exact congrArg (· ++ _) deliveries
      · intro moment since
        have stillOver : burst.isOver edit.moment moment = true :=
          waitIsOver_mono isOver (now ▸ since)
        rw [isLast, burst.due_concat, sentEarlier, stillOver, if_pos rfl]

end Resumed

end Turns

end LanguageClient.Client
