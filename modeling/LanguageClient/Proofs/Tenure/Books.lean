import LanguageClient.Proofs.Editor.Steps
import LanguageClient.Proofs.Loop.Gathering
import LanguageClient.Proofs.Loop.Timers

/-!
# What a synchronizer knows of the scheduler

A synchronizer keeps the number of the timer that lets it wait for further edits, and the tasks that
send because the timer fired. The scheduler agrees: no other such timer is armed, every send of the
timer that has not ended is among the tasks, and its end is told only after it.
-/

namespace LanguageClient.Client

open LanguageClient.Json LanguageClient.Loop LanguageClient.Number LanguageClient.Protocol

/-- Whether a task with some frames sends because the timer fired. -/
def IsTimerSend (stack : List Frame) : Prop :=
  stack = [.begin (.sendDebounced 0)] ∨ .sendingDebounced 0 ∈ stack

/-- A callback that neither belongs to a timer nor tells the end of a send. -/
def IsUneventful : Callback Action → Prop
  | .fire _ _ | .act (.sendEnded _ _) => False
  | .resume _ | .memberEnded _ | .skipped | .act _ => True

/-- A scheduler comes from another one without a timer that is armed, is disarmed or fires, and without
a send whose end is told. -/
structure Uneventful (before after : ClientLoop) : Prop where
  carries : Scheduler.Carries IsUneventful before after
  timers : before.KeepsTimers after
  timersArmed : after.timersArmed = before.timersArmed

/-- The only timer for further edits that may be armed is the given one. -/
structure HasDebounce (timer? : Option Nat) (loop : ClientLoop) : Prop where
  prompt : loop.IsPrompt
  distinct : loop.armed.Nodup
  below : ∀ timer ∈ loop.armed, timer < loop.timersArmed
  waiting : ∀ timer ∈ loop.timers, timer.action = .debounce 0 → timer? = some timer.id
  due : ∀ timer, .fire timer (.debounce 0) ∈ loop.ready → timer? = some timer

/-- The end of a send is told only after it. -/
structure TellsEnds (loop : ClientLoop) : Prop where
  ready : ∀ task, .act (.sendEnded 0 task) ∈ loop.ready → loop.IsOver task
  waiting : ∀ promise task, loop.WaitsFor promise (.act (.sendEnded 0 task)) →
    ∃ found, loop.tasks[task]? = some found ∧ found.completion = promise

/-- The scheduler agrees with what a synchronizer knows of it. -/
structure Books (timer? : Option Nat) (sends promised : List Nat) (loop : ClientLoop) : Prop where
  tallied : loop.Tallied
  ungrouped : ∀ promise ∈ promised, loop.IsUngrouped promise
  debounce : HasDebounce timer? loop
  ends : TellsEnds loop
  known : ∀ task ∈ sends, task < loop.nextTask
  sent : ∀ (task : Nat) (found : TaskState Frame), loop.tasks[task]? = some found →
    loop.outcome? found.completion = none → IsTimerSend found.stack → task ∈ sends

/-! ## Operations without events -/

namespace Uneventful

variable {before middle after : ClientLoop}

theorem refl (loop : ClientLoop) : Uneventful loop loop :=
  ⟨loop.continues_refl.toCarries, .refl loop, rfl⟩

theorem trans (first : Uneventful before middle) (second : Uneventful middle after) :
    Uneventful before after :=
  ⟨first.carries.trans second.carries, first.timers.trans second.timers,
    second.timersArmed.trans first.timersArmed⟩

variable (loop : ClientLoop)

theorem enqueue
    {callbacks : List (Callback Action)}
    (uneventful : ∀ callback ∈ callbacks, IsUneventful callback) :
    Uneventful loop (loop.enqueue callbacks) where
  carries := (loop.enqueue_continues uneventful).toCarries
  timers := loop.enqueue_keepsTimers fun callback member => by
    have isUneventful := uneventful callback member
    cases callback with
    | fire timer action => exact isUneventful.elim
    | _ => rfl
  timersArmed := rfl

theorem addPromise {entry : Promise Action Reply} (free : entry.callbacks = []) :
    Uneventful loop (loop.addPromise entry) :=
  ⟨loop.addPromise_carries free, loop.addPromise_keepsTimers free, rfl⟩

theorem settle (promise : Nat) (outcome : Outcome Reply) :
    Uneventful loop (loop.settle promise outcome) :=
  ⟨loop.settle_carries promise outcome, loop.settle_keepsTimers promise outcome,
    (loop.settle_untimed promise outcome).timersArmed⟩

theorem whenSettled
    {callback : Callback Action} (promise : Nat) (uneventful : IsUneventful callback) :
    Uneventful loop (loop.whenSettled promise callback) where
  carries := loop.whenSettled_carries promise uneventful
  timers := loop.whenSettled_keepsTimers promise (by
    cases callback with
    | fire timer action => exact uneventful.elim
    | _ => rfl)
  timersArmed := (loop.whenSettled_untimed promise callback).timersArmed

theorem spawn (stack : List Frame) : Uneventful loop (loop.spawn stack) :=
  ⟨(loop.spawn_continues stack trivial).toCarries, loop.spawn_keepsTimers stack, rfl⟩

theorem modifyTask (task : Nat) (change : TaskState Frame → TaskState Frame) :
    Uneventful loop (loop.modifyTask task change) :=
  ⟨loop.modifyTask_carries task change, loop.modifyTask_keepsTimers task change, rfl⟩

theorem suspend (task : Nat) (stack : List Frame) (promise : Nat) :
    Uneventful loop (loop.suspend task stack promise) :=
  (modifyTask loop task _).trans (whenSettled _ promise trivial)

theorem modifyGroup (promise : Nat) (change : Group → Group) :
    Uneventful loop (loop.modifyGroup promise change) :=
  ⟨loop.modifyGroup_carries promise change, loop.modifyGroup_keepsTimers promise change, rfl⟩

theorem cancel (task : Nat) : Uneventful loop (loop.cancel task) :=
  ⟨(loop.cancel_continues task).toCarries, loop.cancel_keepsTimers task,
    (loop.cancel_untimed task).timersArmed⟩

theorem gather (members : List Nat) : Uneventful loop (loop.gather members .nothing) :=
  Scheduler.gather_induction (motive := fun current => Uneventful loop current) members .nothing
    (fun _ _ _ _ => addPromise loop rfl)
    fun current completion _ uneventful =>
      uneventful.trans (whenSettled current completion trivial)

theorem endMember (promise : Nat) : Uneventful loop (loop.endMember promise .nothing) := by
  unfold Scheduler.endMember
  split
  · exact .refl loop
  · split
    · exact settle loop promise _
    · exact modifyGroup loop promise _

end Uneventful

/-! ## Timers -/

section Timers

variable {Frame Action Result : Type} (loop : Scheduler Frame Action Result)

theorem disarm_armed (timer : Nat) :
    (loop.disarm timer).armed = loop.armed.filter fun other => other ≠ timer := by
  have due (callbacks : List (Callback Action)) :
      (callbacks.map (Scheduler.withoutTimer timer)).filterMap Callback.timer? =
        (callbacks.filterMap Callback.timer?).filter fun other => other ≠ timer := by
    induction callbacks with
    | nil => rfl
    | cons callback others inductionHypothesis =>
        rw [List.map_cons, List.filterMap_cons, List.filterMap_cons, inductionHypothesis]
        cases callback with
        | fire other action =>
            by_cases same : other = timer
            · simp [Scheduler.withoutTimer, Callback.timer?, same]
            · simp [Scheduler.withoutTimer, Callback.timer?, same]
        | _ => rfl
  simp only [Scheduler.armed, Scheduler.due, Scheduler.disarm, due, List.filter_append,
    List.filter_map]
  rfl

theorem arm_armed_perm (delay : Delay) (action : Action) :
    (loop.arm delay action).armed.Perm (loop.timersArmed :: loop.armed) := by
  simp only [Scheduler.armed, Scheduler.due, Scheduler.arm, List.map_append, List.map_cons,
    List.map_nil, List.append_assoc]
  exact List.perm_middle

end Timers

namespace HasDebounce

variable {timer? : Option Nat} {before after loop : ClientLoop}

theorem mem_armed {timer : Timer Action} (waits : timer ∈ loop.timers) : timer.id ∈ loop.armed :=
  List.mem_append_left _ (List.mem_map.mpr ⟨timer, waits, rfl⟩)

theorem keeps
    {added : Callback Action → Prop} (debounce : HasDebounce timer? before)
    (carries : Scheduler.Carries added before after)
    (noFire : ∀ timer action, ¬ added (.fire timer action)) (timers : before.KeepsTimers after)
    (timersArmed : after.timersArmed = before.timersArmed) :
    HasDebounce timer? after := by
  have sameArmed : after.armed = before.armed := by
    rw [Scheduler.armed, Scheduler.armed, timers.timers, timers.due debounce.prompt]
  exact {
    prompt := timers.prompt debounce.prompt
    distinct := sameArmed ▸ debounce.distinct
    below := by
      rw [sameArmed, timersArmed]
      exact debounce.below
    waiting := timers.timers ▸ debounce.waiting
    due := fun timer fires => by
      rcases carries.readySource _ fires with earlier | added | ⟨promise, waits, _⟩
      · exact debounce.due timer earlier
      · exact (noFire _ _ added).elim
      · obtain ⟨entry, isEntry, _, member⟩ := waits
        cases debounce.prompt entry (List.mem_of_getElem? isEntry) _ member }

/-- Without such a timer the number may be any. -/
theorem retime (debounce : HasDebounce none loop) (timer? : Option Nat) : HasDebounce timer? loop :=
  { debounce with
    waiting := fun timer waits isDebounce => by
      cases debounce.waiting timer waits isDebounce
    due := fun timer fires => by
      cases debounce.due timer fires }

theorem arm
    {action : Action} (debounce : HasDebounce timer? loop) (delay : Delay)
    (numbered : action = .debounce 0 → timer? = some loop.timersArmed) :
    HasDebounce timer? (loop.arm delay action) where
  prompt := debounce.prompt
  distinct := by
    rw [(arm_armed_perm loop delay action).nodup_iff, List.nodup_cons]
    exact ⟨fun armed => Nat.lt_irrefl _ (debounce.below _ armed), debounce.distinct⟩
  below := fun timer armed => by
    rcases List.mem_cons.mp ((arm_armed_perm loop delay action).mem_iff.mp armed) with rfl | earlier
    · exact Nat.lt_succ_self _
    · exact Nat.lt_succ_of_lt (debounce.below timer earlier)
  waiting := fun timer waits isDebounce => by
    rcases List.mem_append.mp waits with earlier | isNew
    · exact debounce.waiting timer earlier isDebounce
    · obtain rfl := List.mem_singleton.mp isNew
      exact numbered isDebounce
  due := debounce.due

theorem disarm (debounce : HasDebounce timer? loop) (timer : Nat) :
    HasDebounce timer? (loop.disarm timer) where
  prompt := debounce.prompt
  distinct := by
    rw [disarm_armed]
    exact debounce.distinct.filter _
  below := fun other armed => by
    rw [disarm_armed] at armed
    exact debounce.below other (List.mem_filter.mp armed).1
  waiting := fun other waits => debounce.waiting other (List.mem_filter.mp waits).1
  due := fun other fires => by
    obtain ⟨callback, isReady, left⟩ := List.mem_map.mp fires
    rcases Scheduler.withoutTimer_cases timer callback with same | skipped
    · exact debounce.due other ((same.symm.trans left) ▸ isReady)
    · rw [skipped] at left
      cases left

theorem disarmed {timer : Nat} (debounce : HasDebounce (some timer) loop) :
    HasDebounce none (loop.disarm timer) := by
  have left := debounce.disarm timer
  have gone (other : Nat) (armed : other ∈ (loop.disarm timer).armed) : some timer ≠ some other := by
    rw [disarm_armed] at armed
    have different := of_decide_eq_true (List.mem_filter.mp armed).2
    exact fun same => different (Option.some.inj same).symm
  exact { left with
    waiting := fun other waits isDebounce =>
      (gone other.id (mem_armed waits) (left.waiting other waits isDebounce)).elim
    due := fun other fires =>
      (gone other (List.mem_append_right _ (Scheduler.mem_due fires)) (left.due other fires)).elim }

/-- When such a timer fires, it was the given one, and none is left. -/
theorem taken
    {rest : ClientLoop} {callback : Callback Action} (debounce : HasDebounce timer? loop)
    (next : loop.next? = some (callback, rest)) :
    HasDebounce timer? rest ∧
      ∀ timer, callback = .fire timer (.debounce 0) →
        timer? = some timer ∧ HasDebounce none rest := by
  have taken := Scheduler.taken_of_next? next
  have armed := Scheduler.armed_perm_of_next? next
  have due (timer : Nat)
      (fires : .fire timer (.debounce 0) = callback ∨ .fire timer (.debounce 0) ∈ rest.ready) :
      timer? = some timer := by
    rcases taken.ready _ fires with earlier | ⟨found, waits, _, same⟩
    · exact debounce.due timer earlier
    · obtain ⟨rfl, isDebounce⟩ := Callback.fire.inj same
      exact debounce.waiting found waits isDebounce.symm
  have left : HasDebounce timer? rest := {
    prompt := by
      rw [Scheduler.IsPrompt, taken.promises]
      exact debounce.prompt
    distinct := ((armed.nodup_iff.mpr debounce.distinct).sublist (List.sublist_append_right _ _))
    below := fun timer member => by
      rw [(Scheduler.timers_of_next? next).2]
      exact debounce.below timer (armed.mem_iff.mp (List.mem_append_right _ member))
    waiting := fun timer waits => debounce.waiting timer (taken.timers timer waits)
    due := fun timer fires => due timer (Or.inr fires) }
  refine ⟨left, fun timer fired => ?_⟩
  have isTimer := due timer (Or.inl fired.symm)
  have gone (other : Nat) (isArmed : other ∈ rest.armed) : timer? ≠ some other := by
    rw [isTimer]
    rintro same
    obtain rfl := Option.some.inj same
    have distinct := armed.nodup_iff.mpr debounce.distinct
    rw [fired] at distinct
    exact (List.nodup_cons.mp distinct).1 isArmed
  exact ⟨isTimer, { left with
    waiting := fun other waits isDebounce =>
      (gone other.id (mem_armed waits) (left.waiting other waits isDebounce)).elim
    due := fun other fires =>
      (gone other (List.mem_append_right _ (Scheduler.mem_due fires)) (left.due other fires)).elim }⟩

end HasDebounce

/-! ## The ends of sends -/

namespace TellsEnds

variable {before after loop : ClientLoop}

theorem keeps
    (ends : TellsEnds before) (carries : Scheduler.Carries IsUneventful before after)
    (completions : ∀ (task : Nat) (found : TaskState Frame), before.tasks[task]? = some found →
      ∃ later : TaskState Frame, after.tasks[task]? = some later ∧
        later.completion = found.completion) :
    TellsEnds after where
  ready := fun task member => by
    rcases carries.readySource _ member with earlier | added | ⟨promise, waits, settled⟩
    · obtain ⟨found, entry, ended⟩ := ends.ready task earlier
      obtain ⟨later, laterEntry, same⟩ := completions task found entry
      exact ⟨later, laterEntry, same ▸ carries.settled ended⟩
    · exact added.elim
    · obtain ⟨found, entry, rfl⟩ := ends.waiting promise task waits
      obtain ⟨later, laterEntry, same⟩ := completions task found entry
      exact ⟨later, laterEntry, same ▸ settled⟩
  waiting := fun promise task waits => by
    rcases carries.waitingSource promise _ waits with earlier | added
    · obtain ⟨found, entry, isCompletion⟩ := ends.waiting promise task earlier
      obtain ⟨later, laterEntry, same⟩ := completions task found entry
      exact ⟨later, laterEntry, same.trans isCompletion⟩
    · exact added.elim

/-- The end of a task is to be told that has not ended. -/
theorem whenSettled
    {task : Nat} {found : TaskState Frame} (ends : TellsEnds loop)
    (entry : loop.tasks[task]? = some found) (unended : loop.outcome? found.completion = none) :
    TellsEnds (loop.whenSettled found.completion (.act (.sendEnded 0 task))) where
  ready := fun other member => by
    rw [loop.whenSettled_ready _ unended] at member
    obtain ⟨state, known, ended⟩ := ends.ready other member
    refine ⟨state, (congrArg (·[other]?) (Scheduler.whenSettled_tasks _ _ loop)).trans known, ?_⟩
    rw [Scheduler.whenSettled_outcome?]
    exact ended
  waiting := fun promise other waits => by
    rw [Scheduler.whenSettled_tasks]
    rcases loop.whenSettled_waitsFor waits with earlier | ⟨rfl, same⟩
    · exact ends.waiting promise other earlier
    · obtain ⟨_, rfl⟩ := Action.sendEnded.inj (Callback.act.inj same)
      exact ⟨found, entry, rfl⟩

theorem taken
    {rest : ClientLoop} {callback : Callback Action} (ends : TellsEnds loop)
    (next : loop.next? = some (callback, rest)) :
    TellsEnds rest ∧ ∀ task, callback = .act (.sendEnded 0 task) → rest.IsOver task := by
  have taken := Scheduler.taken_of_next? next
  have isOver (task : Nat) (told : .act (.sendEnded 0 task) = callback ∨
      .act (.sendEnded 0 task) ∈ rest.ready) : rest.IsOver task := by
    rcases taken.ready _ told with earlier | ⟨_, _, _, isFire⟩
    · obtain ⟨found, entry, ended⟩ := ends.ready task earlier
      exact ⟨found, taken.tasks ▸ entry, taken.outcome?_eq _ ▸ ended⟩
    · cases isFire
  refine ⟨⟨fun task member => isOver task (Or.inr member), fun promise task waits => ?_⟩,
    fun task same => isOver task (Or.inl same.symm)⟩
  rw [taken.tasks]
  exact ends.waiting promise task (waits.of_promises taken.promises.symm)

end TellsEnds

/-! ## The books -/

namespace Books

variable {timer? : Option Nat} {sends promised : List Nat} {before after loop : ClientLoop}

theorem of_promised
    {later : List Nat} (books : Books timer? sends promised loop)
    (ungrouped : ∀ promise ∈ later, promise ∈ promised ∨ loop.IsUngrouped promise) :
    Books timer? sends later loop :=
  { books with
    ungrouped := fun promise member => (ungrouped promise member).elim (books.ungrouped promise) id }

/-- The books of a synchronizer that has done nothing. -/
theorem of_empty
    (tasks : loop.tasks = []) (promises : loop.promises = []) (ready : loop.ready = [])
    (timers : loop.timers = []) :
    Books none [] [] loop where
  tallied := .of_empty promises ready
  ungrouped := by simp
  debounce := {
    prompt := by simp [Scheduler.IsPrompt, promises]
    distinct := by simp [Scheduler.armed, Scheduler.due, timers, ready]
    below := by simp [Scheduler.armed, Scheduler.due, timers, ready]
    waiting := by simp [timers]
    due := by simp [ready] }
  ends := {
    ready := by simp [ready]
    waiting := fun promise task waits => by
      obtain ⟨entry, isEntry, _⟩ := waits
      simp [promises] at isEntry }
  known := by simp
  sent := by simp [tasks]

/-- No event concerns the synchronizer, and who sends for the timer is known. -/
theorem transfer
    (books : Books timer? sends promised before) (uneventful : Uneventful before after)
    (tallied : after.Tallied)
    (completions : ∀ (task : Nat) (found : TaskState Frame), before.tasks[task]? = some found →
      ∃ later : TaskState Frame, after.tasks[task]? = some later ∧
        later.completion = found.completion)
    (ungrouped : ∀ promise, before.IsUngrouped promise → after.IsUngrouped promise)
    (sent : ∀ (task : Nat) (found : TaskState Frame), after.tasks[task]? = some found →
      after.outcome? found.completion = none → IsTimerSend found.stack → task ∈ sends) :
    Books timer? sends promised after where
  tallied
  ungrouped := fun promise member => ungrouped promise (books.ungrouped promise member)
  debounce := books.debounce.keeps uneventful.carries (fun _ _ => id) uneventful.timers
    uneventful.timersArmed
  ends := books.ends.keeps uneventful.carries completions
  known := fun task member => by
    obtain ⟨_, later, _⟩ := completions task _ (List.getElem?_eq_getElem (books.known task member))
    exact (List.getElem?_eq_some_iff.mp later).1
  sent

/-- Tasks that stand still send as before. -/
theorem sent_of_advances
    {cancels : Prop} {settles : Nat → Outcome Reply → Prop} {task : Nat} {found : TaskState Frame}
    (books : Books timer? sends promised before) (advances : before.Advances cancels settles after)
    (entry : after.tasks[task]? = some found) (unended : after.outcome? found.completion = none)
    (timed : IsTimerSend found.stack) : task ∈ sends ∨ before.nextTask ≤ task := by
  rcases advances.task_cases entry with
    ⟨earlier, earlierEntry, sameStack, _, sameCompletion, _⟩ | ⟨isNew, _⟩
  · have isCompletion : earlier.completion ∈ before.completions :=
      List.mem_map.mpr ⟨earlier, List.mem_of_getElem? earlierEntry, rfl⟩
    rw [sameCompletion, advances.completions _ isCompletion] at unended
    exact Or.inl (books.sent task earlier earlierEntry unended (sameStack ▸ timed))
  · exact Or.inr isNew

/-- Nobody begins to send for the timer. -/
theorem keeps
    {cancels : Prop} {settles : Nat → Outcome Reply → Prop}
    (books : Books timer? sends promised before) (uneventful : Uneventful before after)
    (tallied : after.Tallied) (advances : before.Advances cancels settles after)
    (others : ∀ (task : Nat) (found : TaskState Frame), before.nextTask ≤ task →
      after.tasks[task]? = some found → ¬ IsTimerSend found.stack) :
    Books timer? sends promised after := by
  refine books.transfer uneventful tallied (fun task found entry => ?_) advances.ungrouped ?_
  · obtain ⟨_, later, _⟩ := advances.tasks task found entry
    exact ⟨_, later, rfl⟩
  · intro task found entry unended timed
    exact (books.sent_of_advances advances entry unended timed).resolve_right fun isNew =>
      others task found isNew entry timed

theorem arm
    {action : Action} (books : Books timer? sends promised loop) (delay : Delay)
    (numbered : action = .debounce 0 → timer? = some loop.timersArmed) :
    Books timer? sends promised (loop.arm delay action) where
  tallied := books.tallied.keeps (loop.arm_keepsGroups delay action)
  ungrouped := books.ungrouped
  debounce := books.debounce.arm delay numbered
  ends := ⟨books.ends.ready, books.ends.waiting⟩
  known := books.known
  sent := books.sent

theorem of_disarm
    {later : Option Nat} {timer : Nat} (books : Books timer? sends promised loop)
    (debounce : HasDebounce later (loop.disarm timer)) :
    Books later sends promised (loop.disarm timer) where
  tallied := books.tallied.keeps (loop.disarm_keepsGroups timer)
  ungrouped := books.ungrouped
  debounce
  ends := books.ends.keeps (loop.disarm_continues timer trivial).toCarries fun _ found entry =>
    ⟨found, entry, rfl⟩
  known := books.known
  sent := books.sent

theorem moveClock (books : Books timer? sends promised loop) (moment : Rat) :
    Books timer? sends promised (loop.moveClock moment) where
  tallied := books.tallied.keeps (loop.moveClock_keepsGroups moment)
  ungrouped := books.ungrouped
  debounce := {
    prompt := books.debounce.prompt
    distinct := books.debounce.distinct
    below := books.debounce.below
    waiting := books.debounce.waiting
    due := books.debounce.due }
  ends := ⟨books.ends.ready, books.ends.waiting⟩
  known := books.known
  sent := books.sent

/-- A send that has ended need not be known any more. -/
theorem endSend
    {task : Nat} (books : Books timer? sends promised loop) (isOver : loop.IsOver task) :
    Books timer? (sends.filter fun other => other ≠ task) promised loop :=
  { books with
    known := fun other member => books.known other (List.mem_filter.mp member).1
    sent := fun other found entry unended timed => by
      refine List.mem_filter.mpr ⟨books.sent other found entry unended timed, decide_eq_true ?_⟩
      rintro rfl
      obtain ⟨state, stateEntry, ended⟩ := isOver
      rw [entry] at stateEntry
      exact ended (Option.some.inj stateEntry ▸ unended) }

end Books

/-! ## Turns -/

/-- What is known of a callback that runs next. -/
structure Due (callback : Callback Action) (timer? : Option Nat) (loop : ClientLoop) : Prop where
  noted : ∀ promise, callback = .memberEnded promise →
    ∀ group, loop.groupOf? promise = some group → loop.outcome? promise = none →
      loop.notes promise < group.remaining
  fired : ∀ timer, callback = .fire timer (.debounce 0) →
    timer? = some timer ∧ HasDebounce none loop
  told : ∀ task, callback = .act (.sendEnded 0 task) → loop.IsOver task

theorem isUngrouped_settle
    {promise other : Nat} {outcome : Outcome Reply} {loop : ClientLoop}
    (ungrouped : loop.IsUngrouped other) : (loop.settle promise outcome).IsUngrouped other := by
  unfold Scheduler.IsUngrouped
  rw [Scheduler.settle_groups]
  exact ungrouped

theorem isUngrouped_whenSettled
    {promise other : Nat} {callback : Callback Action} {loop : ClientLoop}
    (ungrouped : loop.IsUngrouped other) :
    (loop.whenSettled promise callback).IsUngrouped other := by
  unfold Scheduler.IsUngrouped
  rw [Scheduler.whenSettled_groups]
  exact ungrouped

theorem isUngrouped_suspend
    {task promise other : Nat} {stack : List Frame} {loop : ClientLoop}
    (ungrouped : loop.IsUngrouped other) :
    (loop.suspend task stack promise).IsUngrouped other := by
  have left (change : TaskState Frame → TaskState Frame) :
      (loop.modifyTask task change).IsUngrouped other := ungrouped
  exact isUngrouped_whenSettled (left _)

theorem groupOf?_of_isUngrouped
    {promise : Nat} {loop : ClientLoop} (ungrouped : loop.IsUngrouped promise) :
    loop.groupOf? promise = none :=
  congrArg Option.join ungrouped

namespace Books

variable {timer? : Option Nat} {sends promised : List Nat} {before after loop : ClientLoop}

theorem taken
    {rest : ClientLoop} {callback : Callback Action} (books : Books timer? sends promised loop)
    (next : loop.next? = some (callback, rest)) :
    Books timer? sends promised rest ∧ Due callback timer? rest := by
  have taken := Scheduler.taken_of_next? next
  obtain ⟨tallied, noted⟩ := books.tallied.taken next
  obtain ⟨debounce, fired⟩ := books.debounce.taken next
  obtain ⟨ends, told⟩ := books.ends.taken next
  refine ⟨?_, ⟨noted, fired, told⟩⟩
  exact {
    tallied
    ungrouped := fun promise member => taken.isUngrouped (books.ungrouped promise member)
    debounce
    ends
    known := by
      rw [Scheduler.nextTask, taken.tasks]
      exact books.known
    sent := fun task found entry unended => by
      rw [taken.tasks] at entry
      rw [taken.outcome?_eq] at unended
      exact books.sent task found entry unended }

/-- The end of a task that has not ended is to be told. -/
theorem tellEnd
    {task : Nat} {found : TaskState Frame} (books : Books timer? sends promised loop)
    (entry : loop.tasks[task]? = some found) (unended : loop.outcome? found.completion = none) :
    Books timer? sends promised
      (loop.whenSettled found.completion (.act (.sendEnded 0 task))) where
  tallied := books.tallied.keeps (loop.whenSettled_keepsGroups _ rfl)
  ungrouped := fun promise member => isUngrouped_whenSettled (books.ungrouped promise member)
  debounce := by
    have carries : Scheduler.Carries (fun callback => callback = .act (.sendEnded 0 task)) loop
        (loop.whenSettled found.completion (.act (.sendEnded 0 task))) :=
      loop.whenSettled_carries found.completion rfl
    exact books.debounce.keeps carries (fun _ _ => nofun) (loop.whenSettled_keepsTimers _ rfl)
      (loop.whenSettled_untimed _ _).timersArmed
  ends := books.ends.whenSettled entry unended
  known := by
    rw [Scheduler.nextTask, Scheduler.whenSettled_tasks]
    exact books.known
  sent := fun other state stateEntry stateUnended => by
    rw [Scheduler.whenSettled_tasks] at stateEntry
    rw [Scheduler.whenSettled_outcome?] at stateUnended
    exact books.sent other state stateEntry stateUnended

/-- Somebody begins to send for the timer. -/
theorem startSend (books : Books timer? sends promised loop) :
    Books timer? (sends ++ [loop.nextTask]) promised (loop.spawn [.begin (.sendDebounced 0)]) := by
  have uneventful : Uneventful loop (loop.spawn [.begin (.sendDebounced 0)]) := .spawn loop _
  have groups := loop.spawn_keepsGroups [.begin (.sendDebounced 0)]
  have advances : loop.Advances False (fun _ _ => False) (loop.spawn [.begin (.sendDebounced 0)]) :=
    loop.spawn_advances _
  have longer : (loop.spawn [.begin (.sendDebounced 0)]).nextTask = loop.nextTask + 1 :=
    List.length_append
  exact {
    tallied := books.tallied.keeps groups
    ungrouped := fun promise member => advances.ungrouped promise (books.ungrouped promise member)
    debounce := books.debounce.keeps uneventful.carries (fun _ _ => id) uneventful.timers
      uneventful.timersArmed
    ends := books.ends.keeps uneventful.carries groups.completions
    known := fun task member => by
      rw [longer]
      rcases List.mem_append.mp member with earlier | isNew
      · exact Nat.lt_succ_of_lt (books.known task earlier)
      · exact Nat.lt_succ_of_le (Nat.le_of_eq (List.mem_singleton.mp isNew))
    sent := fun task found entry unended timed => by
      refine List.mem_append.mpr
        ((books.sent_of_advances advances entry unended timed).imp_right fun isNew => ?_)
      have inside : task < (loop.spawn [.begin (.sendDebounced 0)]).nextTask :=
        (List.getElem?_eq_some_iff.mp entry).1
      rw [longer] at inside
      exact List.mem_singleton.mpr (Nat.le_antisymm (Nat.le_of_lt_succ inside) isNew) }

/-- A task that goes on has no frames until it is left. -/
theorem clearTask (books : Books timer? sends promised loop) (task : Nat) :
    Books timer? sends promised (loop.clearTask task) := by
  have groups : Scheduler.KeepsGroups loop (loop.clearTask task) :=
    loop.modifyTask_keepsGroups task fun _ => rfl
  refine books.transfer (.modifyTask loop task _) (books.tallied.keeps groups) groups.completions
    (fun _ => id) fun other found entry unended timed => ?_
  by_cases same : other = task
  · subst same
    obtain ⟨state, stateEntry⟩ : ∃ state, loop.tasks[other]? = some state := by
      have inside := (List.getElem?_eq_some_iff.mp entry).1
      rw [Scheduler.clearTask, Scheduler.modifyTask, List.length_modify] at inside
      exact ⟨_, List.getElem?_eq_getElem inside⟩
    rw [Scheduler.clearTask_self stateEntry] at entry
    obtain rfl := Option.some.inj entry
    rcases timed with begins | sends
    · cases begins
    · cases sends
  · rw [Scheduler.clearTask_other loop same] at entry
    exact books.sent other found entry unended timed

/-- A task ends. -/
theorem settle
    (books : Books timer? sends promised loop) {promise : Nat} {outcome : Outcome Reply}
    (regular : (∀ reply, outcome ≠ .returned reply) ∨ loop.IsUngrouped promise) :
    Books timer? sends promised (loop.settle promise outcome) := by
  have groups : Scheduler.KeepsGroups loop (loop.settle promise outcome) := by
    refine loop.settle_keepsGroups fun group reply isGroup returned => ?_
    rcases regular with unreturned | ungrouped
    · exact (unreturned reply returned).elim
    · rw [groupOf?_of_isUngrouped ungrouped] at isGroup
      cases isGroup
  refine books.transfer (.settle loop promise outcome) (books.tallied.keeps groups)
    groups.completions (fun _ => isUngrouped_settle) fun task found entry unended => ?_
  rw [Scheduler.settle_tasks] at entry
  exact books.sent task found entry (groups.unsettled unended)

/-- A task is left waiting. -/
theorem suspend
    {task : Nat} {stack : List Frame} (books : Books timer? sends promised loop) (promise : Nat)
    (sent : IsTimerSend stack → task ∈ sends) :
    Books timer? sends promised (loop.suspend task stack promise) := by
  have groups := loop.suspend_keepsGroups task stack promise
  refine books.transfer (.suspend loop task stack promise) (books.tallied.keeps groups)
    groups.completions (fun _ => isUngrouped_suspend) fun other found entry unended timed => ?_
  by_cases same : other = task
  · subst same
    obtain ⟨state, stateEntry⟩ : ∃ state, loop.tasks[other]? = some state := by
      have inside := (List.getElem?_eq_some_iff.mp entry).1
      simp only [Scheduler.suspend, Scheduler.whenSettled_tasks, Scheduler.modifyTask,
        List.length_modify] at inside
      exact ⟨_, List.getElem?_eq_getElem inside⟩
    rw [Scheduler.suspend_tasks_self stack promise stateEntry] at entry
    obtain rfl := Option.some.inj entry
    exact sent timed
  · rw [Scheduler.suspend_tasks_of_ne stack promise loop same] at entry
    exact books.sent other found entry (groups.unsettled unended) timed

/-- A task is started that does not send for the timer. -/
theorem spawn
    {call : Call} (books : Books timer? sends promised loop) (other : call ≠ .sendDebounced 0) :
    Books timer? sends promised (loop.spawn [.begin call]) := by
  have advances : loop.Advances False (fun _ _ => False) (loop.spawn [.begin call]) :=
    loop.spawn_advances _
  refine books.keeps (.spawn loop _) (books.tallied.keeps (loop.spawn_keepsGroups _)) advances ?_
  intro task found isNew entry timed
  have added : (loop.tasks ++ [_])[task]? = some found := entry
  rw [List.getElem?_append_right isNew] at added
  obtain rfl := List.mem_singleton.mp (List.mem_of_getElem? added)
  rcases timed with begins | sends
  · exact other (Frame.begin.inj (List.cons.inj begins).1)
  · cases List.mem_singleton.mp sends

end Books

end LanguageClient.Client
