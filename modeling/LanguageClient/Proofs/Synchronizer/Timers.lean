import LanguageClient.Proofs.Loop.Timers
import LanguageClient.Proofs.Session.Course
import LanguageClient.Proofs.Synchronizer.Runs

/-!
# The timer of a synchronizer

Only an edit arms a timer, and it disarms the one of the edit before. All that happens besides leaves
the timer as it is, disarms it, or lets it fire. So there is never more than one timer, however edits,
flushes, closings, cancellations and slow or refused sends follow on one another.
-/

namespace LanguageClient.Client

open LanguageClient.Json LanguageClient.Loop LanguageClient.Number LanguageClient.Protocol

namespace System

/-- Nobody begins or ends a wait for further edits. -/
structure KeepsTimers (before after : System) : Prop where
  loop : before.loop.KeepsTimers after.loop
  timer : after.synchronizers.map (·.timer) = before.synchronizers.map (·.timer)

/-- No timer is armed but the one that the synchronizer knows of. -/
def HasOnlyTimer (system : System) : Prop :=
  ∃ found, system.synchronizers = [found] ∧ system.loop.HasOnly found.timer

namespace KeepsTimers

variable {before middle after system : System}

theorem of_same
    (loop : after.loop = before.loop) (synchronizers : after.synchronizers = before.synchronizers) :
    before.KeepsTimers after := by
  refine ⟨?_, by rw [synchronizers]⟩
  rw [loop]
  exact .refl before.loop

theorem refl (system : System) : system.KeepsTimers system := .of_same rfl rfl

theorem trans (first : before.KeepsTimers middle) (second : middle.KeepsTimers after) :
    before.KeepsTimers after :=
  ⟨first.loop.trans second.loop, second.timer.trans first.timer⟩

theorem onLoop
    {change : ClientLoop → ClientLoop} (keeps : system.loop.KeepsTimers (change system.loop)) :
    system.KeepsTimers (system.onLoop change) :=
  ⟨keeps, rfl⟩

theorem settle (system : System) (promise : Nat) (outcome : Outcome Reply) :
    system.KeepsTimers (system.settle promise outcome) :=
  onLoop (system.loop.settle_keepsTimers promise outcome)

theorem spawn (system : System) (call : Call) : system.KeepsTimers (system.spawn call) :=
  onLoop (system.loop.spawn_keepsTimers _)

theorem whenEnded (system : System) (task : Nat) (action : Action) :
    system.KeepsTimers (system.whenEnded task action) := by
  unfold System.whenEnded
  split
  · exact .refl system
  · exact onLoop (system.loop.whenSettled_keepsTimers _ rfl)

theorem modifySynchronizer
    {change : Synchronizer → Synchronizer} (system : System) (synchronizer : Nat)
    (keeps : ∀ found, (change found).timer = found.timer) :
    system.KeepsTimers (system.modifySynchronizer synchronizer change) :=
  ⟨.refl system.loop, map_modify_of_keeps keeps system.synchronizers synchronizer⟩

theorem andThen
    {step : Step} {frame : Frame} {rest : System → Outcome Reply → Step}
    (first : before.KeepsTimers step.1)
    (second : ∀ (later : System) (outcome : Outcome Reply),
      later.KeepsTimers (rest later outcome).1) :
    before.KeepsTimers (step.andThen frame rest).1 := by
  obtain ⟨later, outcome | ⟨frames, promise⟩⟩ := step
  · exact first.trans (second later outcome)
  · exact first

theorem of_move (move : Move before after) : before.KeepsTimers after := by
  cases move with
  | note _ => exact .of_same rfl rfl
  | peer _ => exact .of_same rfl rfl
  | links _ => exact .of_same rfl rfl
  | workspaces _ => exact .of_same rfl rfl
  | session _ _ => exact .of_same rfl rfl
  | addPromise => exact onLoop (before.loop.addPromise_keepsTimers rfl)
  | settle promise outcome => exact .settle before promise outcome
  | deliver link frames =>
      refine onLoop (before.loop.enqueue_keepsTimers fun callback member => ?_)
      obtain ⟨_, _, rfl⟩ := List.mem_map.mp member
      rfl
  | spawn call => exact .spawn before call
  | whenEnded task session answer => exact .whenEnded before task _
  | cancel task => exact onLoop (before.loop.cancel_keepsTimers task)

theorem of_course (course : Course before after) : before.KeepsTimers after := by
  induction course with
  | refl => exact .refl before
  | tail _ move inductionHypothesis => exact inductionHypothesis.trans (of_move move)

theorem hasOnlyTimer (keeps : before.KeepsTimers after) (only : before.HasOnlyTimer) :
    after.HasOnlyTimer := by
  obtain ⟨found, isOnly, hasOnly⟩ := only
  have timers := keeps.timer
  rw [isOnly] at timers
  obtain ⟨later, isLater, sameTimer⟩ := List.map_eq_singleton_iff.mp timers
  exact ⟨later, isLater, sameTimer ▸ hasOnly.keeps keeps.loop⟩

end KeepsTimers

/-! ## Sends -/

section Sends

variable (system : System)

theorem notifyIn_keepsTimers (workspace : Nat) (method : String) (params : Value) :
    system.KeepsTimers (system.notifyIn workspace method params).1 := by
  unfold notifyIn
  split
  · exact .refl system
  · exact .of_course (notify_course system _ method _)

theorem changeFile_keepsTimers (file : Nat) (version : Int) (text : String) :
    system.KeepsTimers (system.changeFile file version text).1 := by
  unfold changeFile
  split
  · exact .refl system
  · split
    · exact .refl system
    · split
      · exact .refl system
      · exact notifyIn_keepsTimers system _ _ _

theorem modifyLock_keepsTimers (synchronizer : Nat) (change : Lock → Lock) :
    system.KeepsTimers (system.modifyLock synchronizer change) :=
  .modifySynchronizer system synchronizer fun _ => rfl

theorem wakeFirst_keepsTimers (synchronizer : Nat) :
    system.KeepsTimers (system.wakeFirst synchronizer) := by
  unfold wakeFirst
  split
  · exact .refl system
  · exact .settle system _ _

theorem release_keepsTimers (synchronizer : Nat) :
    system.KeepsTimers (system.release synchronizer) :=
  (modifyLock_keepsTimers system synchronizer _).trans (wakeFirst_keepsTimers _ synchronizer)

theorem resumeChanging_keepsTimers
    (synchronizer version : Nat) (wasDirty : Bool) (outcome : Outcome Reply) :
    system.KeepsTimers (resumeChanging synchronizer version wasDirty system outcome).1 := by
  have sent : system.KeepsTimers (system.modifySynchronizer synchronizer fun found =>
      { found with version := version }) :=
    .modifySynchronizer system synchronizer fun _ => rfl
  have gaveUp : system.KeepsTimers (system.modifySynchronizer synchronizer fun found =>
      { found with dirty := found.dirty || wasDirty }) :=
    .modifySynchronizer system synchronizer fun _ => rfl
  cases outcome with
  | returned reply => exact sent.trans (release_keepsTimers _ synchronizer)
  | failed failure => exact gaveUp.trans (release_keepsTimers _ synchronizer)
  | cancelled => exact gaveUp.trans (release_keepsTimers _ synchronizer)

theorem changeLocked_keepsTimers (synchronizer : Nat) (force : Bool) :
    system.KeepsTimers (system.changeLocked synchronizer force).1 := by
  unfold changeLocked
  split
  · exact .refl system
  · split
    · exact release_keepsTimers system synchronizer
    · split
      · exact release_keepsTimers system synchronizer
      · have cleaned : system.KeepsTimers (system.modifySynchronizer synchronizer fun found =>
            { found with dirty := false }) :=
          .modifySynchronizer system synchronizer fun _ => rfl
        exact .andThen (cleaned.trans (changeFile_keepsTimers _ _ _ _)) fun later =>
          resumeChanging_keepsTimers later synchronizer _ _

theorem resumeLocking_keepsTimers
    (synchronizer promise : Nat) (force : Bool) (outcome : Outcome Reply) :
    system.KeepsTimers (resumeLocking synchronizer promise force system outcome).1 := by
  have left := modifyLock_keepsTimers system synchronizer fun lock =>
    { lock with waiters := lock.waiters.filter fun other => other ≠ promise }
  have gaveUp : system.KeepsTimers
      (let leaving := system.modifyLock synchronizer fun lock =>
        { lock with waiters := lock.waiters.filter fun other => other ≠ promise }
      if (leaving.lockOf synchronizer).held then leaving else leaving.wakeFirst synchronizer) := by
    simp only
    split
    · exact left
    · exact left.trans (wakeFirst_keepsTimers _ synchronizer)
  cases outcome with
  | returned reply =>
      exact (left.trans (modifyLock_keepsTimers _ synchronizer _)).trans
        (changeLocked_keepsTimers _ synchronizer force)
  | failed failure => exact gaveUp
  | cancelled => exact gaveUp

theorem sendChange_keepsTimers (synchronizer : Nat) (force : Bool) :
    system.KeepsTimers (system.sendChange synchronizer force).1 := by
  unfold sendChange
  simp only
  split
  · exact (modifyLock_keepsTimers system synchronizer _).trans
      (changeLocked_keepsTimers _ synchronizer force)
  · refine .andThen ?_ fun later => resumeLocking_keepsTimers later synchronizer _ force
    have added : system.KeepsTimers system.addPromise :=
      .onLoop (system.loop.addPromise_keepsTimers rfl)
    exact (added.trans (modifyLock_keepsTimers _ synchronizer _)).trans
      (.of_course (await_course _ _))

theorem flush_keepsTimers (synchronizer : Nat) (force : Bool) :
    (system.cancelTimer synchronizer).KeepsTimers (system.flush synchronizer force).1 := by
  unfold flush
  simp only
  split
  · exact sendChange_keepsTimers _ synchronizer force
  · exact .refl _

theorem resumeSendingDebounced_keepsTimers (synchronizer : Nat) (outcome : Outcome Reply) :
    system.KeepsTimers (resumeSendingDebounced synchronizer system outcome).1 := by
  cases outcome with
  | returned reply => exact .refl system
  | failed failure => exact .of_same rfl rfl
  | cancelled => exact .refl system

theorem sendDebounced_keepsTimers (synchronizer : Nat) :
    system.KeepsTimers (system.sendDebounced synchronizer).1 :=
  .andThen (sendChange_keepsTimers system synchronizer false) fun later =>
    resumeSendingDebounced_keepsTimers later synchronizer

/-! ## Closing -/

theorem resumeClosingFile_keepsTimers (uri : String) (outcome : Outcome Reply) :
    system.KeepsTimers (resumeClosingFile uri system outcome).1 := by
  cases outcome with
  | returned reply => exact .refl system
  | failed failure => exact .of_same rfl rfl
  | cancelled => exact .refl system

theorem closeFile_keepsTimers (file : Nat) : system.KeepsTimers (system.closeFile file).1 := by
  unfold closeFile
  split
  · exact .refl system
  · rename_i found _
    split
    · exact .refl system
    · refine .andThen ?_ fun later => resumeClosingFile_keepsTimers later _
      have withdrawn : system.KeepsTimers (system.unregister found.workspace found.uri) :=
        .of_same rfl rfl
      exact withdrawn.trans (notifyIn_keepsTimers _ _ _ _)

theorem resumeDetaching_keepsTimers (synchronizer : Nat) (outcome : Outcome Reply) :
    system.KeepsTimers (resumeDetaching synchronizer system outcome).1 := by
  cases outcome with
  | returned reply => exact .modifySynchronizer system synchronizer fun _ => rfl
  | failed failure => exact .refl system
  | cancelled => exact .refl system

theorem closeAttached_keepsTimers (synchronizer : Nat) :
    system.KeepsTimers (system.closeAttached synchronizer).1 := by
  unfold closeAttached
  split
  · exact .refl system
  · exact .andThen (closeFile_keepsTimers system _) fun later =>
      resumeDetaching_keepsTimers later synchronizer

theorem resumeSettlingSends_keepsTimers (synchronizer : Nat) (outcome : Outcome Reply) :
    system.KeepsTimers (resumeSettlingSends synchronizer system outcome).1 := by
  cases outcome with
  | returned reply => exact closeAttached_keepsTimers system synchronizer
  | failed failure => exact .refl system
  | cancelled => exact .refl system

theorem closeSynchronizer_keepsTimers (synchronizer : Nat) :
    (system.cancelTimer synchronizer).KeepsTimers (system.closeSynchronizer synchronizer).1 := by
  unfold closeSynchronizer
  simp only
  split
  · exact closeAttached_keepsTimers _ synchronizer
  · refine .andThen ?_ fun later => resumeSettlingSends_keepsTimers later synchronizer
    have gathered := fun sends => KeepsTimers.onLoop
      ((system.cancelTimer synchronizer).loop.gather_keepsTimers sends Reply.nothing)
    exact (gathered _).trans (.of_course (await_course _ _))

end Sends

/-! ## Tasks -/

/-- A frame of a call of a synchronizer that has begun, or of an answer to the peer. -/
def IsSyncFrame : Frame → Prop
  | .sending _ _ | .writing _ | .locking _ _ _ | .changing _ _ _ | .sendingDebounced _
  | .settlingSends _ | .closingFile _ | .detaching _ => True
  | _ => False

theorem resumeFrame_keepsTimers
    {frame : Frame} (system : System) (inner : IsSyncFrame frame) (outcome : Outcome Reply) :
    system.KeepsTimers (resumeFrame frame system outcome).1 := by
  cases frame with
  | sending link frame => exact .of_course (resumeSending_course system link frame outcome)
  | writing subject => exact .of_course (resumeWriting_course system subject outcome)
  | locking synchronizer promise force =>
      exact resumeLocking_keepsTimers system synchronizer promise force outcome
  | changing synchronizer version wasDirty =>
      exact resumeChanging_keepsTimers system synchronizer version wasDirty outcome
  | sendingDebounced synchronizer =>
      exact resumeSendingDebounced_keepsTimers system synchronizer outcome
  | settlingSends synchronizer => exact resumeSettlingSends_keepsTimers system synchronizer outcome
  | closingFile uri => exact resumeClosingFile_keepsTimers system uri outcome
  | detaching synchronizer => exact resumeDetaching_keepsTimers system synchronizer outcome
  | _ => exact inner.elim

theorem resumeStack_keepsTimers
    {stack : List Frame} (system : System) (inner : ∀ frame ∈ stack, IsSyncFrame frame)
    (outcome : Outcome Reply) : system.KeepsTimers (system.resumeStack outcome stack).1 := by
  induction stack generalizing system outcome with
  | nil => exact .refl system
  | cons frame outer inductionHypothesis =>
      have first := resumeFrame_keepsTimers system (inner frame List.mem_cons_self) outcome
      rcases result : resumeFrame frame system outcome with ⟨later, ending | ⟨frames, promise⟩⟩
      · rw [resumeStack_of_ended outer result]
        rw [result] at first
        exact first.trans (inductionHypothesis later
          (fun other member => inner other (List.mem_cons_of_mem frame member)) ending)
      · rw [resumeStack_of_suspended outer result]
        rw [result] at first
        exact first

theorem settleTask_keepsTimers (task completion : Nat) (step : Step) :
    step.1.KeepsTimers (settleTask task completion step) := by
  obtain ⟨later, outcome | ⟨frames, promise⟩⟩ := step
  · have noted : later.KeepsTimers (later.note (.ended task outcome)) := .of_same rfl rfl
    exact noted.trans (.settle _ completion outcome)
  · exact .onLoop (later.loop.suspend_keepsTimers task frames promise)

/-- A task does not touch the timer, unless it begins to flush or to close. -/
theorem resumeStack_timers
    {uri : String} {stack : List Frame} {awaiting : Option Nat} (system : System)
    (shape : TaskShape uri stack awaiting) (outcome : Outcome Reply) :
    system.KeepsTimers (system.resumeStack outcome stack).1 ∨
      (system.cancelTimer 0).KeepsTimers (system.resumeStack outcome stack).1 := by
  have goesOn (inner : ∀ frame ∈ stack, IsSyncFrame frame) :
      system.KeepsTimers (system.resumeStack outcome stack).1 ∨
        (system.cancelTimer 0).KeepsTimers (system.resumeStack outcome stack).1 :=
    Or.inl (resumeStack_keepsTimers system inner outcome)
  have caller {frames : List Frame} (allowed : IsCaller frames) :
      ∀ frame ∈ frames, IsSyncFrame frame := by
    rcases allowed with rfl | rfl
    · simp
    · simp [IsSyncFrame]
  cases shape with
  | idle => exact goesOn (by simp)
  | begins call allowed =>
      by_cases returned : ∃ reply, outcome = .returned reply
      · obtain ⟨reply, rfl⟩ := returned
        rw [resumeStack_begin]
        cases call with
        | flush other force =>
            obtain rfl : other = 0 := allowed
            exact Or.inr (flush_keepsTimers system 0 force)
        | sendDebounced other => exact Or.inl (sendDebounced_keepsTimers system other)
        | closeSynchronizer other =>
            obtain rfl : other = 0 := allowed
            exact Or.inr (closeSynchronizer_keepsTimers system 0)
        | answer session id => exact Or.inl (.of_course (write_course system session _ _))
        | _ => exact allowed.elim
      · rw [resumeStack_not_begin system call fun reply same => returned ⟨reply, same⟩]
        exact Or.inl (.refl system)
  | locks promise force frames allowed =>
      exact goesOn (List.forall_mem_cons.mpr ⟨trivial, caller allowed⟩)
  | changes link change promise frames allowed =>
      exact goesOn (List.forall_mem_append.mpr
        ⟨by simp [changeFrames, IsSyncFrame], caller allowed⟩)
  | settles promise => exact goesOn (by simp [IsSyncFrame])
  | closes link frame subject promise nothing => exact goesOn (by simp [IsSyncFrame])
  | answers link frame subject promise nothing => exact goesOn (by simp [IsSyncFrame])

end System

/-! ## Messages of the peer -/

section Messages

variable {uri : String} {synchronizer : Synchronizer} {system : System}
  (parts : SyncParts uri synchronizer system)

include parts

/-- Without editors, a notification is passed on to the host, logged or dropped. -/
theorem SyncParts.takeNotification_course (workspace : Nat) (method params : Value) :
    Course system
      (System.takeNotification System.showDiagnostics system workspace method params).1 := by
  have published (listener : DocumentListener) :
      Course system (system.publish listener params System.showDiagnostics).1 := by
    unfold System.publish
    split
    · exact .refl
    · cases listener with
      | editor editor =>
          simp only [System.showDiagnostics, parts.editors, List.getElem?_nil]
          exact .refl
      | host name fails => exact .single (.note _)
  unfold System.takeNotification
  split
  · exact .refl
  · split
    · split
      · exact .refl
      · exact .refl
      · exact published _
    · split
      · unfold System.showMessage
        split
        · exact log_course system _ _ _
        · exact .refl
      · exact .refl

theorem SyncParts.receive_course (link : Nat) (text : String) :
    Course system (system.receive link text) := by
  unfold System.receive
  split
  · exact .refl
  · rename_i session _
    have taken := takeMessage_course system session text
      (System.takeNotification System.showDiagnostics) parts.takeNotification_course
    split
    · rename_i result
      rw [result] at taken
      exact taken
    · rename_i result
      rw [result] at taken
      exact taken.tail (.note _)

/-- Without requests of the client, the loss of a connection only closes its session. -/
theorem SyncParts.drop_same (link : Nat) :
    (system.drop link).loop = system.loop ∧
      (system.drop link).synchronizers = system.synchronizers := by
  unfold System.drop
  split
  · exact ⟨rfl, rfl⟩
  · rename_i session _
    unfold System.loseConnection
    split
    · exact ⟨rfl, rfl⟩
    · split
      · exact ⟨rfl, rfl⟩
      · simp only [System.abandonRequests]
        split
        · exact ⟨rfl, rfl⟩
        · rename_i found isSession
          obtain ⟨only, sessions, pending⟩ := parts.session
          have nothing : found.pending = [] := by
            simp only [System.modifySession, System.log, System.note, sessions] at isSession
            cases session with
            | zero =>
                obtain rfl := Option.some.inj isSession
                exact pending
            | succ other => simp at isSession
          rw [nothing]
          exact ⟨rfl, rfl⟩

end Messages

/-! ## The timer itself -/

section Timer

variable {uri : String} {synchronizer : Synchronizer} {system : System}

theorem cancelTimer_hasOnly
    (isOnly : system.synchronizers = [synchronizer]) (only : system.loop.HasOnly synchronizer.timer) :
    (system.cancelTimer 0).synchronizers = [{ synchronizer with timer := none }] ∧
      (system.cancelTimer 0).loop.HasOnly none := by
  cases armed : synchronizer.timer with
  | none =>
      have same : system.cancelTimer 0 = system := by
        simp [System.cancelTimer, isOnly, armed]
      rw [same, ← armed]
      exact ⟨isOnly, only⟩
  | some timer =>
      refine ⟨?_, ?_⟩
      · simp [System.cancelTimer, System.modifySynchronizer, System.disarm, System.onLoop, isOnly,
          armed]
      · simpa [System.cancelTimer, System.modifySynchronizer, System.disarm, System.onLoop, isOnly,
          armed] using only.disarm timer armed

theorem cancelTimer_hasOnlyTimer (only : system.HasOnlyTimer) : (system.cancelTimer 0).HasOnlyTimer := by
  obtain ⟨found, isOnly, hasOnly⟩ := only
  obtain ⟨cancelled, none⟩ := cancelTimer_hasOnly isOnly hasOnly
  exact ⟨_, cancelled, none⟩

/-- What is armed after a wait has begun anew: one timer, which waits for the end of the wait, or none
if no clock can count it. -/
theorem schedule_hasOnly
    (isOnly : system.synchronizers = [synchronizer]) (only : system.loop.HasOnly synchronizer.timer) :
    ∃ timer?, (system.schedule 0).1.synchronizers = [{ synchronizer with timer := timer? }] ∧
      (system.schedule 0).1.loop.HasOnly timer? ∧ (system.schedule 0).1.loop.due = [] ∧
      (system.schedule 0).1.loop.timers.map (·.deadline) =
        (synchronizer.debounce.delay?.map (system.loop.deadline ·)).toList := by
  obtain ⟨cancelled, free⟩ := cancelTimer_hasOnly isOnly only
  obtain ⟨noTimer, notDue⟩ := List.append_eq_nil_iff.mp free.armed
  have clock : (system.cancelTimer 0).loop.now = system.loop.now := by
    unfold System.cancelTimer
    split <;> rfl
  simp only [System.schedule, cancelled, List.getElem?_cons_zero]
  cases counted : synchronizer.debounce.delay? with
  | none => exact ⟨none, cancelled, free, notDue, by rw [List.map_eq_nil_iff.mp noTimer]; rfl⟩
  | some delay =>
      obtain ⟨armed, timers⟩ := free.arm delay (.debounce 0)
      refine ⟨some (system.cancelTimer 0).loop.timersArmed, ?_, armed, notDue, ?_⟩
      · simp [System.modifySynchronizer, System.onLoop, cancelled]
      · have sameDeadline : (system.cancelTimer 0).loop.deadline delay =
            system.loop.deadline delay := by
          simp only [Scheduler.deadline, clock]
        simp only [System.modifySynchronizer, System.onLoop, timers, List.map_cons, List.map_nil,
          sameDeadline, Option.map_some, Option.toList_some]

theorem schedule_hasOnlyTimer (only : system.HasOnlyTimer) : (system.schedule 0).1.HasOnlyTimer := by
  obtain ⟨found, isOnly, hasOnly⟩ := only
  obtain ⟨_, scheduled, armed, _⟩ := schedule_hasOnly isOnly hasOnly
  exact ⟨_, scheduled, armed⟩

theorem noteEscaped_hasOnlyTimer
    {result : System × Option Failure} (only : result.1.HasOnlyTimer) :
    (System.noteEscaped result).HasOnlyTimer := by
  obtain ⟨later, failure | failure⟩ := result
  · exact only
  · exact (System.KeepsTimers.of_same rfl rfl).hasOnlyTimer only

theorem edit_hasOnlyTimer (only : system.HasOnlyTimer) (text : String) :
    (System.noteEscaped (system.edit 0 text)).HasOnlyTimer := by
  have changed : system.KeepsTimers (system.modifySynchronizer 0 fun found =>
      { found with text, dirty := true }) :=
    .modifySynchronizer system 0 fun _ => rfl
  have edited := changed.hasOnlyTimer only
  apply noteEscaped_hasOnlyTimer
  unfold System.edit
  simp only
  split
  · exact schedule_hasOnlyTimer edited
  · exact edited

theorem attach_hasOnlyTimer (only : system.HasOnlyTimer) (file : Nat) (openedText : String) :
    (System.noteEscaped (system.attach 0 file openedText)).HasOnlyTimer := by
  have changed : system.KeepsTimers (system.modifySynchronizer 0 fun found =>
      { found with file := some file, version := 0, dirty := found.text ≠ openedText }) :=
    .modifySynchronizer system 0 fun _ => rfl
  have attached := changed.hasOnlyTimer only
  apply noteEscaped_hasOnlyTimer
  unfold System.attach
  simp only
  split
  · exact schedule_hasOnlyTimer attached
  · exact attached

/-- A timer that fires is armed no more, and the synchronizer knows of none. -/
theorem debounce_hasOnlyTimer
    (isOnly : system.synchronizers = [synchronizer]) (free : system.loop.HasOnly none) :
    (system.debounce 0).HasOnlyTimer := by
  have started := (System.KeepsTimers.spawn system (.sendDebounced 0)).trans
    (.whenEnded _ system.nextTask (.sendEnded 0 system.nextTask))
  have sameSynchronizers : ((system.spawn (.sendDebounced 0)).whenEnded system.nextTask
      (.sendEnded 0 system.nextTask)).synchronizers = [synchronizer] := by
    rw [← isOnly]
    unfold System.whenEnded
    split <;> rfl
  refine ⟨{ synchronizer with
    timer := none
    sends := synchronizer.sends ++ [system.nextTask] }, ?_, free.keeps started.loop⟩
  simp [System.debounce, System.modifySynchronizer, sameSynchronizers]

end Timer

/-! ## Steps -/

section Steps

variable {calm : Prop} {uri : String} {holder : Option (Nat × Change)}
  {synchronizer : Synchronizer} {system : System}

theorem SyncWorld.resumeTask_hasOnlyTimer
    (world : SyncWorld calm uri holder synchronizer system) (only : system.HasOnlyTimer)
    (task : Nat) : (system.resumeTask task).HasOnlyTimer := by
  unfold System.resumeTask
  split
  · exact only
  · rename_i found entry
    split
    · exact only
    · have cleared : (system.cleared task).HasOnlyTimer :=
        (System.KeepsTimers.onLoop (system.loop.modifyTask_keepsTimers task _)).hasOnlyTimer only
      refine (System.settleTask_keepsTimers task found.completion _).hasOnlyTimer ?_
      rcases System.resumeStack_timers (system.cleared task)
          (world.orderly.tasks found (List.mem_of_getElem? entry)) (system.signalOf found) with
        keeps | cancels
      · exact keeps.hasOnlyTimer cleared
      · exact cancels.hasOnlyTimer (cancelTimer_hasOnlyTimer cleared)

/-- A callback that lets no task go on and belongs to no timer leaves the timer as it is. -/
theorem SyncWorld.callback_keepsTimers
    {callback : Callback Action} (world : SyncWorld calm uri holder synchronizer system)
    (allowed : (syncScope uri calm).callback callback) (noTask : callback.resumed? = none)
    (noTimer : callback.timer? = none) :
    system.KeepsTimers (system.runCallback callback) := by
  cases callback with
  | resume task => cases noTask
  | memberEnded group => exact .onLoop (system.loop.endMember_keepsTimers group _)
  | fire timer action => cases noTimer
  | skipped => exact .refl system
  | act action =>
      cases action with
      | answerEnded session task => exact .of_course (endAnswer_course system session task)
      | deliver link text => exact .of_course (world.parts.receive_course link text)
      | sendEnded other task => exact .modifySynchronizer system other fun _ => rfl
      | _ => exact allowed.elim

theorem SyncWorld.turn_hasOnlyTimer
    (world : SyncWorld calm uri holder synchronizer system) (only : system.HasOnlyTimer) :
    (system.step .turn).HasOnlyTimer := by
  rcases system.step_turn_cases with ⟨_, same⟩ | ⟨callback, rest, next, runs⟩
  · rw [same]
    exact only
  · obtain ⟨restWorld, allowed⟩ := world.taken (Scheduler.taken_of_next? next)
    obtain ⟨found, isOnly, hasOnly⟩ := only
    rw [runs]
    rcases hasOnly.taken next with ⟨untimed, sameTimer⟩ | ⟨timer, fires, _, free⟩
    · have restOnly : ({ system with loop := rest } : System).HasOnlyTimer :=
        ⟨found, isOnly, sameTimer⟩
      cases resumes : callback.resumed? with
      | none => exact (restWorld.callback_keepsTimers allowed resumes untimed).hasOnlyTimer restOnly
      | some task =>
          obtain rfl := Callback.resumed?_eq_some_iff.mp resumes
          exact restWorld.resumeTask_hasOnlyTimer restOnly task
    · cases callback with
      | fire other action =>
          obtain rfl : action = .debounce 0 := allowed
          exact debounce_hasOnlyTimer isOnly free
      | _ => cases fires

/-- No input arms a second timer. -/
theorem SyncWorld.hasOnlyTimer_step
    {input : Input} (world : SyncWorld calm uri holder synchronizer system)
    (only : system.HasOnlyTimer) (allowed : input.OnSynchronizer) :
    (system.step input).HasOnlyTimer := by
  cases input with
  | call call => exact (System.KeepsTimers.spawn system call).hasOnlyTimer only
  | cancel task =>
      exact (System.KeepsTimers.onLoop (system.loop.cancel_keepsTimers task)).hasOnlyTimer only
  | edit other text =>
      obtain rfl : other = 0 := allowed
      exact edit_hasOnlyTimer only text
  | receive link text =>
      exact (System.KeepsTimers.of_course (world.parts.receive_course link text)).hasOnlyTimer only
  | drop link =>
      obtain ⟨sameLoop, sameSynchronizers⟩ := world.parts.drop_same link
      exact (System.KeepsTimers.of_same sameLoop sameSynchronizers).hasOnlyTimer only
  | behave peer => exact (System.KeepsTimers.of_same rfl rfl).hasOnlyTimer only
  | release place =>
      exact (System.KeepsTimers.of_course
        (releases_course system (system.releaseFrame_releases place))).hasOnlyTimer only
  | releaseClose place =>
      exact (System.KeepsTimers.of_course
        (releases_course system (system.releaseClosing_releases place))).hasOnlyTimer only
  | tick moment =>
      obtain ⟨found, isOnly, hasOnly⟩ := only
      exact ⟨found, isOnly, hasOnly.moveClock moment⟩
  | turn => exact world.turn_hasOnlyTimer only
  | _ => exact allowed.elim

end Steps

/-! ## Runs -/

/-- When a synchronizer is attached, at most one timer is armed. -/
theorem Attachment.start_hasOnlyTimer (attachment : Attachment) : attachment.start.HasOnlyTimer := by
  refine attach_hasOnlyTimer ⟨attachment.synchronizer, ?_, ?_⟩ 0 attachment.openedText
  · exact (attachment.detached_passage False).parts.synchronizers
  · rw [Attachment.detached, attachment.opened_eq]
    exact .of_empty rfl rfl rfl

/-- A synchronizer never has more than one timer. -/
theorem Attachment.hasOnlyTimer
    {attachment : Attachment} {inputs : Nat → Input} {count : Nat}
    (allowed : ∀ place < count, (inputs place).OnSynchronizer) :
    (∃ holder synchronizer, SyncWorld False attachment.uri holder synchronizer
        (attachment.start.after inputs count)) ∧
      (attachment.start.after inputs count).HasOnlyTimer := by
  induction count with
  | zero =>
      obtain ⟨timer?, world, _⟩ := attachment.start_world False
      exact ⟨⟨none, _, world⟩, attachment.start_hasOnlyTimer⟩
  | succ count inductionHypothesis =>
      obtain ⟨⟨holder, synchronizer, world⟩, only⟩ :=
        inductionHypothesis fun place inside => allowed place (Nat.lt_succ_of_lt inside)
      have isAllowed := allowed count (Nat.lt_succ_self count)
      exact ⟨world.step isAllowed nofun, world.hasOnlyTimer_step only isAllowed⟩

end LanguageClient.Client
