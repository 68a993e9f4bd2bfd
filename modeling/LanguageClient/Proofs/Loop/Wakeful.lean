import LanguageClient.Proofs.Loop.Steady
import LanguageClient.Proofs.Loop.TaskTurn

/-!
# Wakeful schedulers

No callback is lost: what waits for a promise becomes ready when the promise is settled, and what is
ready stays ready until it runs. It follows that a task that has not ended either goes on soon or
awaits a promise that is not settled.
-/

namespace LanguageClient.Loop

open LanguageClient.Number

variable {Frame Action Result : Type}

/-- Whether a callback is that of a timer. Only such a callback can be taken back. -/
def Callback.isTimed : Callback Action → Bool
  | .fire _ _ => true
  | .resume _ | .memberEnded _ | .act _ | .skipped => false

namespace Scheduler

/-- A callback waits for a promise that is not settled. -/
def WaitsFor
    (loop : Scheduler Frame Action Result) (promise : Nat) (callback : Callback Action) : Prop :=
  ∃ entry, loop.promises[promise]? = some entry ∧ entry.outcome = none ∧
    callback ∈ entry.callbacks

/-- A scheduler comes from another one without losing a callback. The predicate tells which callbacks
may have been added. -/
structure Carries
    (added : Callback Action → Prop) (before after : Scheduler Frame Action Result) : Prop where
  kept : ∀ promise outcome,
    before.outcome? promise = some outcome → after.outcome? promise = some outcome
  ready : ∀ callback ∈ before.ready, callback.isTimed = false → callback ∈ after.ready
  waiting : ∀ promise callback, before.WaitsFor promise callback → callback.isTimed = false →
    after.WaitsFor promise callback ∨
      after.outcome? promise ≠ none ∧ callback ∈ after.ready
  readySource : ∀ callback ∈ after.ready, callback ∈ before.ready ∨ added callback ∨
    ∃ promise, before.WaitsFor promise callback ∧ after.outcome? promise ≠ none
  waitingSource : ∀ promise callback, after.WaitsFor promise callback →
    before.WaitsFor promise callback ∨ added callback

/-- A scheduler comes from another one without losing a callback and without any task going on: the
tasks await what they awaited, and those that were started go on soon. -/
structure Continues
    (added : Callback Action → Prop) (before after : Scheduler Frame Action Result) : Prop
    extends Carries added before after where
  tasks : ∀ (task : Nat) (found : TaskState Frame), before.tasks[task]? = some found →
    ∃ later : TaskState Frame, after.tasks[task]? = some later ∧
      later.awaiting = found.awaiting ∧ later.completion = found.completion
  started : ∀ task, before.nextTask ≤ task → task < after.nextTask → .resume task ∈ after.ready

variable {added : Callback Action → Prop} {before middle after : Scheduler Frame Action Result}

theorem WaitsFor.unsettled
    {promise : Nat} {callback : Callback Action} (waits : before.WaitsFor promise callback) :
    before.outcome? promise = none := by
  obtain ⟨entry, found, unsettled, _⟩ := waits
  simp [outcome?, found, unsettled]

theorem WaitsFor.of_promises
    {promise : Nat} {callback : Callback Action} (waits : before.WaitsFor promise callback)
    (same : after.promises = before.promises) :
    after.WaitsFor promise callback := by
  unfold WaitsFor
  rw [same]
  exact waits

namespace Carries

theorem settled
    (carries : Carries added before after) {promise : Nat}
    (isSettled : before.outcome? promise ≠ none) :
    after.outcome? promise ≠ none := by
  obtain ⟨outcome, found⟩ := Option.ne_none_iff_exists'.mp isSettled
  rw [carries.kept promise outcome found]
  exact Option.some_ne_none outcome

theorem trans (first : Carries added before middle) (second : Carries added middle after) :
    Carries added before after where
  kept := fun promise outcome found =>
    second.kept promise outcome (first.kept promise outcome found)
  ready := fun callback member untimed =>
    second.ready callback (first.ready callback member untimed) untimed
  waiting := fun promise callback waits untimed => by
    rcases first.waiting promise callback waits untimed with still | ⟨isSettled, isReady⟩
    · exact second.waiting promise callback still untimed
    · exact Or.inr ⟨second.settled isSettled, second.ready callback isReady untimed⟩
  readySource := fun callback member => by
    rcases second.readySource callback member with earlier | isAdded | ⟨promise, waits, isSettled⟩
    · rcases first.readySource callback earlier with first' | isAdded | ⟨promise, waits, isSettled⟩
      · exact Or.inl first'
      · exact Or.inr (Or.inl isAdded)
      · exact Or.inr (Or.inr ⟨promise, waits, second.settled isSettled⟩)
    · exact Or.inr (Or.inl isAdded)
    · rcases first.waitingSource promise callback waits with earlier | isAdded
      · exact Or.inr (Or.inr ⟨promise, earlier, isSettled⟩)
      · exact Or.inr (Or.inl isAdded)
  waitingSource := fun promise callback waits => by
    rcases second.waitingSource promise callback waits with earlier | isAdded
    · exact first.waitingSource promise callback earlier
    · exact Or.inr isAdded

theorem mono
    {wider : Callback Action → Prop} (carries : Carries added before after)
    (within : ∀ callback, added callback → wider callback) :
    Carries wider before after :=
  { carries with
    readySource := fun callback member =>
      (carries.readySource callback member).imp id (Or.imp (within callback) id)
    waitingSource := fun promise callback waits =>
      (carries.waitingSource promise callback waits).imp id (within callback) }

/-- Nothing happens to the promises. -/
theorem of_promises
    (promises : after.promises = before.promises)
    (ready : ∀ callback ∈ before.ready, callback.isTimed = false → callback ∈ after.ready)
    (source : ∀ callback ∈ after.ready, callback ∈ before.ready ∨ added callback) :
    Carries added before after where
  kept := fun promise outcome found => by
    simpa only [outcome?, promises] using found
  ready
  waiting := fun promise callback waits _ => Or.inl (waits.of_promises promises)
  readySource := fun callback member => (source callback member).imp id Or.inl
  waitingSource := fun promise callback waits => Or.inl (waits.of_promises promises.symm)

/-- Nothing happens to the tasks. -/
theorem continues
    (carries : Carries added before after) (tasks : after.tasks = before.tasks) :
    Continues added before after where
  toCarries := carries
  tasks := fun task found entry => ⟨found, by rw [tasks, entry], rfl, rfl⟩
  started := fun task new known => by
    simp only [nextTask, tasks] at known
    exact absurd known (Nat.not_lt.mpr new)

end Carries

namespace Continues

theorem grown (continues : Continues added before after) : before.nextTask ≤ after.nextTask := by
  rcases Nat.eq_zero_or_pos before.nextTask with none | some
  · rw [none]
    exact Nat.zero_le _
  · have inside : before.nextTask - 1 < before.tasks.length := Nat.sub_one_lt_of_lt some
    obtain ⟨_, later, _⟩ := continues.tasks _ _ (List.getElem?_eq_getElem inside)
    have known : before.nextTask - 1 < after.nextTask := (List.getElem?_eq_some_iff.mp later).1
    omega

theorem trans (first : Continues added before middle) (second : Continues added middle after) :
    Continues added before after where
  toCarries := first.toCarries.trans second.toCarries
  tasks := fun task found entry => by
    obtain ⟨between, betweenEntry, sameAwaiting, sameCompletion⟩ := first.tasks task found entry
    obtain ⟨later, laterEntry, awaiting, completion⟩ := second.tasks task between betweenEntry
    exact ⟨later, laterEntry, awaiting.trans sameAwaiting, completion.trans sameCompletion⟩
  started := fun task new known => by
    rcases Nat.lt_or_ge task middle.nextTask with inside | outside
    · exact second.ready _ (first.started task new inside) rfl
    · exact second.started task outside known

theorem mono
    {wider : Callback Action → Prop} (continues : Continues added before after)
    (within : ∀ callback, added callback → wider callback) :
    Continues wider before after :=
  { continues with toCarries := continues.toCarries.mono within }

end Continues

/-! ## One operation -/

section Operations

variable (loop : Scheduler Frame Action Result)

theorem continues_refl : Continues added loop loop :=
  (Carries.of_promises rfl (fun _ member _ => member) fun _ => Or.inl).continues rfl

theorem enqueue_continues
    {callbacks : List (Callback Action)} (allowed : ∀ callback ∈ callbacks, added callback) :
    Continues added loop (loop.enqueue callbacks) := by
  refine Carries.continues ?_ rfl
  refine .of_promises rfl (fun _ member _ => List.mem_append_left _ member) ?_
  intro callback member
  exact (List.mem_append.mp member).imp id (allowed callback)

theorem arm_continues (delay : Delay) (action : Action) :
    Continues added loop (loop.arm delay action) := by
  refine Carries.continues ?_ rfl
  exact .of_promises rfl (fun _ member _ => member) fun _ => Or.inl

theorem moveClock_continues (moment : Rat) : Continues added loop (loop.moveClock moment) := by
  refine Carries.continues ?_ rfl
  exact .of_promises rfl (fun _ member _ => member) fun _ => Or.inl

theorem withoutTimer_of_untimed
    (timer : Nat) {callback : Callback Action} (untimed : callback.isTimed = false) :
    withoutTimer timer callback = callback := by
  cases callback with
  | fire _ _ => cases untimed
  | resume _ => rfl
  | memberEnded _ => rfl
  | act _ => rfl
  | skipped => rfl

theorem withoutTimer_cases (timer : Nat) (callback : Callback Action) :
    withoutTimer timer callback = callback ∨ withoutTimer timer callback = .skipped := by
  cases callback with
  | fire other action =>
      by_cases same : other = timer
      · exact Or.inr (by simp [withoutTimer, same])
      · exact Or.inl (by simp [withoutTimer, same])
  | resume _ => exact Or.inl rfl
  | memberEnded _ => exact Or.inl rfl
  | act _ => exact Or.inl rfl
  | skipped => exact Or.inl rfl

theorem disarm_continues (timer : Nat) (allowed : added .skipped) :
    Continues added loop (loop.disarm timer) := by
  refine Carries.continues ?_ rfl
  refine .of_promises rfl ?_ ?_
  · intro callback member untimed
    exact List.mem_map.mpr ⟨callback, member, withoutTimer_of_untimed timer untimed⟩
  · intro callback member
    obtain ⟨earlier, earlierMember, rfl⟩ := List.mem_map.mp member
    rcases withoutTimer_cases timer earlier with same | skipped
    · rw [same]
      exact Or.inl earlierMember
    · rw [skipped]
      exact Or.inr allowed

theorem addPromise_waitsFor
    {entry : Promise Action Result} (free : entry.callbacks = []) (promise : Nat)
    (callback : Callback Action) :
    (loop.addPromise entry).WaitsFor promise callback ↔ loop.WaitsFor promise callback := by
  unfold WaitsFor
  simp only [addPromise]
  rcases Nat.lt_or_ge promise loop.promises.length with known | unknown
  · rw [List.getElem?_append_left known]
  · rw [List.getElem?_append_right unknown, List.getElem?_eq_none unknown]
    constructor
    · rintro ⟨found, isEntry, _, member⟩
      rw [List.mem_singleton.mp (List.mem_of_getElem? isEntry), free] at member
      cases member
    · rintro ⟨_, nothing, _⟩
      cases nothing

theorem addPromise_carries {entry : Promise Action Result} (free : entry.callbacks = []) :
    Carries added loop (loop.addPromise entry) where
  kept := fun promise outcome found => by
    rw [addPromise_outcome?_of_lt entry (lt_nextPromise_of_outcome? found)]
    exact found
  ready := fun _ member _ => member
  waiting := fun promise callback waits _ =>
    Or.inl ((loop.addPromise_waitsFor free promise callback).mpr waits)
  readySource := fun _ => Or.inl
  waitingSource := fun promise callback waits =>
    Or.inl ((loop.addPromise_waitsFor free promise callback).mp waits)

theorem settle_carries (promise : Nat) (outcome : Outcome Result) :
    Carries added loop (loop.settle promise outcome) := by
  rcases loop.settle_cases promise outcome with same | ⟨entry, entryFound, isOpen, settled⟩
  · rw [same]
    exact loop.continues_refl.toCarries
  · have known : promise < loop.promises.length := (List.getElem?_eq_some_iff.mp entryFound).1
    have isSettled : (loop.settle promise outcome).outcome? promise ≠ none := by
      rw [settle_outcome?_self outcome known (outcome?_eq_none_of_open entryFound isOpen)]
      exact Option.some_ne_none outcome
    have readyEq : (loop.settle promise outcome).ready = loop.ready ++ entry.callbacks := by
      rw [settled]
      rfl
    have promisesEq : (loop.settle promise outcome).promises =
        loop.promises.set promise { entry with outcome := some outcome, callbacks := [] } := by
      rw [settled]
      rfl
    exact {
      kept := fun other found settled => settle_outcome?_of_some outcome settled
      ready := fun callback member _ => by
        rw [readyEq]
        exact List.mem_append_left _ member
      waiting := fun other callback waits _ => by
        obtain ⟨found, otherFound, unsettled, member⟩ := waits
        by_cases same : other = promise
        · subst same
          rw [entryFound] at otherFound
          obtain rfl := Option.some.inj otherFound
          rw [readyEq]
          exact Or.inr ⟨isSettled, List.mem_append_right _ member⟩
        · left
          refine ⟨found, ?_, unsettled, member⟩
          rw [promisesEq, List.getElem?_set_ne (Ne.symm same)]
          exact otherFound
      readySource := fun callback member => by
        rw [readyEq] at member
        rcases List.mem_append.mp member with earlier | released
        · exact Or.inl earlier
        · exact Or.inr (Or.inr ⟨promise, ⟨entry, entryFound, isOpen, released⟩, isSettled⟩)
      waitingSource := fun other callback waits => by
        obtain ⟨found, otherFound, unsettled, member⟩ := waits
        rw [promisesEq] at otherFound
        by_cases same : other = promise
        · subst same
          rw [List.getElem?_set_self known] at otherFound
          rw [← Option.some.inj otherFound] at member
          cases member
        · rw [List.getElem?_set_ne (Ne.symm same)] at otherFound
          exact Or.inl ⟨found, otherFound, unsettled, member⟩ }

theorem settle_continues (promise : Nat) (outcome : Outcome Result) :
    Continues added loop (loop.settle promise outcome) :=
  (loop.settle_carries promise outcome).continues (settle_tasks promise outcome loop)

/-- Whoever begins to wait for a promise waits for it, or goes on at once if it is settled. -/
theorem whenSettled_self
    {promise : Nat} (known : promise < loop.nextPromise) (callback : Callback Action) :
    (loop.whenSettled promise callback).WaitsFor promise callback ∨
      loop.outcome? promise ≠ none ∧ callback ∈ (loop.whenSettled promise callback).ready := by
  rcases loop.whenSettled_cases promise callback with
    ⟨missing, _⟩ | ⟨isSettled, same⟩ | ⟨entry, _, isOpen, waits⟩
  · rw [List.getElem?_eq_getElem known] at missing
    cases missing
  · right
    rw [same]
    exact ⟨isSettled, List.mem_append_right _ (List.mem_singleton.mpr rfl)⟩
  · left
    rw [waits]
    exact ⟨_, List.getElem?_set_self known, isOpen,
      List.mem_append_right _ (List.mem_singleton.mpr rfl)⟩

theorem whenSettled_ready
    {promise : Nat} (callback : Callback Action) (unsettled : loop.outcome? promise = none) :
    (loop.whenSettled promise callback).ready = loop.ready := by
  rcases loop.whenSettled_cases promise callback with
    ⟨_, same⟩ | ⟨isSettled, _⟩ | ⟨_, _, _, waits⟩
  · rw [same]
  · exact (isSettled unsettled).elim
  · rw [waits]

theorem whenSettled_waitsFor
    {promise other : Nat} {callback waiter : Callback Action}
    (waits : (loop.whenSettled promise callback).WaitsFor other waiter) :
    loop.WaitsFor other waiter ∨ other = promise ∧ waiter = callback := by
  rcases loop.whenSettled_cases promise callback with
    ⟨_, same⟩ | ⟨_, same⟩ | ⟨found, entryFound, isOpen, same⟩
  · rw [same] at waits
    exact Or.inl waits
  · rw [same] at waits
    exact Or.inl waits
  · rw [same] at waits
    obtain ⟨entry, otherFound, unsettled, member⟩ := waits
    by_cases same : other = promise
    · subst same
      rw [List.getElem?_set_self (List.getElem?_eq_some_iff.mp entryFound).1] at otherFound
      rw [← Option.some.inj otherFound] at member
      rcases List.mem_append.mp member with earlier | isNew
      · exact Or.inl ⟨found, entryFound, isOpen, earlier⟩
      · exact Or.inr ⟨rfl, List.mem_singleton.mp isNew⟩
    · rw [List.getElem?_set_ne (Ne.symm same)] at otherFound
      exact Or.inl ⟨entry, otherFound, unsettled, member⟩

theorem whenSettled_waitsFor_of
    {promise other : Nat} {waiter : Callback Action} (callback : Callback Action)
    (waits : loop.WaitsFor other waiter) :
    (loop.whenSettled promise callback).WaitsFor other waiter := by
  rcases loop.whenSettled_cases promise callback with
    ⟨_, same⟩ | ⟨_, same⟩ | ⟨found, entryFound, _, same⟩
  · rw [same]
    exact waits
  · rw [same]
    exact waits
  · rw [same]
    obtain ⟨entry, otherFound, unsettled, member⟩ := waits
    by_cases same : other = promise
    · subst same
      rw [entryFound] at otherFound
      obtain rfl := Option.some.inj otherFound
      exact ⟨_, List.getElem?_set_self (List.getElem?_eq_some_iff.mp entryFound).1, unsettled,
        List.mem_append_left _ member⟩
    · refine ⟨entry, ?_, unsettled, member⟩
      rw [← otherFound]
      exact List.getElem?_set_ne (Ne.symm same)

theorem whenSettled_carries
    (promise : Nat) {callback : Callback Action} (allowed : added callback) :
    Carries added loop (loop.whenSettled promise callback) where
  kept := fun other found settled => by
    rw [whenSettled_outcome?]
    exact settled
  ready := fun other member _ => (loop.whenSettled_steady promise callback).ready other member
  waiting := fun other waiter waits _ => Or.inl (loop.whenSettled_waitsFor_of callback waits)
  readySource := fun other member => by
    rcases mem_whenSettled_ready member with earlier | rfl
    · exact Or.inl earlier
    · exact Or.inr (Or.inl allowed)
  waitingSource := fun other waiter waits => by
    rcases loop.whenSettled_waitsFor waits with earlier | ⟨_, rfl⟩
    · exact Or.inl earlier
    · exact Or.inr allowed

theorem whenSettled_continues
    (promise : Nat) {callback : Callback Action} (allowed : added callback) :
    Continues added loop (loop.whenSettled promise callback) :=
  (loop.whenSettled_carries promise allowed).continues (whenSettled_tasks promise callback loop)

theorem spawn_continues (stack : List Frame) (allowed : added (.resume loop.nextTask)) :
    Continues added loop (loop.spawn stack) where
  toCarries := {
    kept := fun promise outcome found => by
      rw [spawn_outcome?]
      exact found
    ready := fun _ member _ => List.mem_append_left _ member
    waiting := fun promise callback waits _ =>
      Or.inl ((loop.addPromise_waitsFor rfl promise callback).mpr waits)
    readySource := fun callback member => by
      rcases List.mem_append.mp member with earlier | isNew
      · exact Or.inl earlier
      · rw [List.mem_singleton.mp isNew]
        exact Or.inr (Or.inl allowed)
    waitingSource := fun promise callback waits =>
      Or.inl ((loop.addPromise_waitsFor rfl promise callback).mp waits) }
  tasks := fun task found entry => by
    have inside : task < loop.tasks.length := (List.getElem?_eq_some_iff.mp entry).1
    refine ⟨found, ?_, rfl, rfl⟩
    simp only [spawn, enqueue]
    rw [List.getElem?_append_left inside, entry]
  started := fun task new known => by
    have isNew : task = loop.nextTask := by
      simp only [nextTask, spawn, enqueue, List.length_append, List.length_singleton] at known new ⊢
      omega
    rw [isNew]
    exact List.mem_append_right _ (List.mem_singleton.mpr rfl)

theorem modifyTask_carries (task : Nat) (change : TaskState Frame → TaskState Frame) :
    Carries added loop (loop.modifyTask task change) :=
  .of_promises rfl (fun _ member _ => member) fun _ => Or.inl

theorem requestCancel_continues (task : Nat) : Continues added loop (loop.requestCancel task) where
  toCarries := loop.modifyTask_carries task _
  tasks := fun other found entry => by
    by_cases same : task = other
    · exact ⟨{ found with cancelRequested := true },
        by simp [requestCancel, modifyTask, same, entry], rfl, rfl⟩
    · exact ⟨found, by simp [requestCancel, modifyTask, same, entry], rfl, rfl⟩
  started := fun other new known => by
    simp only [nextTask, requestCancel, modifyTask, List.length_modify] at known
    exact absurd known (Nat.not_lt.mpr new)

theorem cancelMember_continues (task : Nat) : Continues added loop (loop.cancelMember task) := by
  unfold cancelMember
  split
  · exact loop.continues_refl
  · split
    · exact loop.requestCancel_continues task
    · split
      · exact loop.requestCancel_continues task
      · exact loop.settle_continues _ .cancelled

theorem modifyGroup_waitsFor
    (promise other : Nat) (change : Group → Group) (callback : Callback Action) :
    (loop.modifyGroup promise change).WaitsFor other callback ↔ loop.WaitsFor other callback := by
  unfold WaitsFor
  simp only [modifyGroup, List.getElem?_modify]
  cases loop.promises[other]? with
  | none => simp
  | some found =>
      by_cases same : promise = other
      · simp [same]
      · simp [same]

theorem modifyGroup_carries (promise : Nat) (change : Group → Group) :
    Carries added loop (loop.modifyGroup promise change) where
  kept := fun other outcome found => by
    rw [modifyGroup_outcome?]
    exact found
  ready := fun _ member _ => member
  waiting := fun other callback waits _ =>
    Or.inl ((loop.modifyGroup_waitsFor promise other change callback).mpr waits)
  readySource := fun _ => Or.inl
  waitingSource := fun other callback waits =>
    Or.inl ((loop.modifyGroup_waitsFor promise other change callback).mp waits)

theorem cancel_continues (task : Nat) : Continues added loop (loop.cancel task) := by
  have members : ∀ (tasks : List Nat) (current : Scheduler Frame Action Result),
      Continues added current (tasks.foldl cancelMember current) := by
    intro tasks
    induction tasks with
    | nil =>
        exact fun current => current.continues_refl
    | cons head others inductionHypothesis =>
        intro current
        exact (current.cancelMember_continues head).trans (inductionHypothesis _)
  unfold cancel
  split
  · exact loop.cancelMember_continues task
  · split
    · exact loop.requestCancel_continues task
    · exact (members _ loop).trans ((modifyGroup_carries _ _ _).continues rfl)

end Operations

/-! ## Tasks that have not ended -/

/-- A task that has not ended and is not running goes on soon, or awaits a promise that is not
settled and lets it go on then. -/
def Wakeful (running : Option Nat) (loop : Scheduler Frame Action Result) : Prop :=
  ∀ (task : Nat) (found : TaskState Frame), loop.tasks[task]? = some found →
    running ≠ some task → loop.outcome? found.completion = none →
      .resume task ∈ loop.ready ∨
        ∃ promise, found.awaiting = some promise ∧ loop.WaitsFor promise (.resume task)

namespace Wakeful

variable {running : Option Nat} {loop rest : Scheduler Frame Action Result}

theorem of_empty (tasks : loop.tasks = []) : loop.Wakeful running := by
  intro task found entry
  simp [tasks] at entry

theorem continues (wakeful : before.Wakeful running) (continues : Continues added before after) :
    after.Wakeful running := by
  intro task found entry notRunning unended
  have known : task < after.nextTask := (List.getElem?_eq_some_iff.mp entry).1
  rcases Nat.lt_or_ge task before.nextTask with inside | new
  · obtain ⟨later, laterEntry, awaiting, completion⟩ :=
      continues.tasks task _ (List.getElem?_eq_getElem inside)
    rw [entry] at laterEntry
    obtain rfl := Option.some.inj laterEntry
    have unendedBefore : before.outcome? found.completion = none := by
      by_cases stillOpen : before.outcome? found.completion = none
      · exact stillOpen
      · exact (continues.settled stillOpen unended).elim
    rw [completion] at unendedBefore
    rcases wakeful task _ (List.getElem?_eq_getElem inside) notRunning unendedBefore with
      isReady | ⟨promise, awaits, waits⟩
    · exact Or.inl (continues.ready _ isReady rfl)
    · rcases continues.waiting promise _ waits rfl with still | ⟨_, isReady⟩
      · exact Or.inr ⟨promise, awaiting.trans awaits, still⟩
      · exact Or.inl isReady
  · exact Or.inl (continues.started task new known)

/-- When a callback is taken, the task that it lets go on is running. -/
theorem taken
    {callback : Callback Action} (wakeful : loop.Wakeful none) (taken : Taken loop callback rest) :
    rest.Wakeful callback.resumed? := by
  intro task found entry notRunning unended
  rw [taken.tasks] at entry
  rw [taken.outcome?_eq] at unended
  rcases wakeful task found entry (by simp) unended with isReady | ⟨promise, awaits, waits⟩
  · rcases taken.readyKept _ isReady with rfl | still
    · exact (notRunning rfl).elim
    · exact Or.inl still
  · exact Or.inr ⟨promise, awaits, waits.of_promises taken.promises⟩

theorem stop
    {task : Nat} (wakeful : loop.Wakeful (some task))
    (ended : ∀ found, loop.tasks[task]? = some found → loop.outcome? found.completion ≠ none) :
    loop.Wakeful none := by
  intro other found entry _ unended
  refine wakeful other found entry ?_ unended
  intro same
  obtain rfl := Option.some.inj same
  exact ended found entry unended

theorem run
    {task : Nat} (wakeful : loop.Wakeful (some task)) : (loop.clearTask task).Wakeful (some task) := by
  intro other found entry notRunning unended
  have different : other ≠ task := fun same => notRunning (congrArg some same.symm)
  rw [clearTask_other loop different] at entry
  exact wakeful other found entry notRunning unended

/-- A task that is suspended goes on when the promise is settled that it awaits then. -/
theorem suspend
    {task promise : Nat} (wakeful : loop.Wakeful (some task)) (stack : List Frame)
    (known : promise < loop.nextPromise) :
    (loop.suspend task stack promise).Wakeful none := by
  intro other found entry _ unended
  generalize modifiedEq : loop.modifyTask task (fun found =>
    { found with stack, awaiting := some promise }) = modified
  have isSuspended : loop.suspend task stack promise =
      modified.whenSettled promise (.resume task) := by
    rw [← modifiedEq]
    rfl
  rw [isSuspended, whenSettled_tasks] at entry
  rw [isSuspended, whenSettled_outcome?] at unended
  rw [isSuspended]
  by_cases same : other = task
  · subst same
    have knownLater : promise < modified.nextPromise := by
      rw [← modifiedEq]
      exact known
    rcases modified.whenSettled_self knownLater (.resume other) with waits | ⟨_, isReady⟩
    · refine Or.inr ⟨promise, ?_, waits⟩
      rw [← modifiedEq] at entry
      simp only [modifyTask, List.getElem?_modify, if_true] at entry
      obtain ⟨earlier, _, rfl⟩ := Option.map_eq_some_iff.mp entry
      rfl
    · exact Or.inl isReady
  · have earlierEntry : loop.tasks[other]? = some found := by
      rw [← modifiedEq] at entry
      simpa [modifyTask, Ne.symm same] using entry
    have earlierUnended : loop.outcome? found.completion = none := by
      rw [← modifiedEq] at unended
      exact unended
    have waitsBefore := wakeful other found earlierEntry
      (fun running => same (Option.some.inj running).symm) earlierUnended
    have carries : Carries (fun _ => True) modified
        (modified.whenSettled promise (.resume task)) := modified.whenSettled_carries promise trivial
    have samePromises : modified.promises = loop.promises := by
      rw [← modifiedEq]
      rfl
    rcases waitsBefore with isReady | ⟨place, awaits, waits⟩
    · left
      refine carries.ready _ ?_ rfl
      rw [← modifiedEq]
      exact isReady
    · rcases carries.waiting place _ (waits.of_promises samePromises) rfl with
        still | ⟨_, isReady⟩
      · exact Or.inr ⟨place, awaits, still⟩
      · exact Or.inl isReady

theorem finish
    {task : Nat} {found : TaskState Frame} (wakeful : loop.Wakeful (some task))
    (entry : loop.tasks[task]? = some found) (known : found.completion < loop.nextPromise)
    (outcome : Outcome Result) :
    (loop.settle found.completion outcome).Wakeful none := by
  have settled : Continues (fun _ => True) loop (loop.settle found.completion outcome) :=
    loop.settle_continues _ outcome
  refine (wakeful.continues settled).stop ?_
  intro state stateEntry unended
  rw [settle_tasks, entry] at stateEntry
  obtain rfl := Option.some.inj stateEntry
  cases before : loop.outcome? found.completion with
  | none =>
      rw [settle_outcome?_self outcome known before] at unended
      cases unended
  | some earlier =>
      rw [settle_outcome?_of_some outcome before] at unended
      cases unended

/-- When nothing is ready, a task that has not ended awaits a promise that is not settled. -/
theorem awaits
    {task : Nat} {found : TaskState Frame} (wakeful : loop.Wakeful none) (idle : loop.ready = [])
    (entry : loop.tasks[task]? = some found) (unended : loop.outcome? found.completion = none) :
    ∃ promise, found.awaiting = some promise ∧ loop.outcome? promise = none := by
  rcases wakeful task found entry (by simp) unended with isReady | ⟨promise, awaits, waits⟩
  · rw [idle] at isReady
    cases isReady
  · exact ⟨promise, awaits, waits.unsettled⟩

end Wakeful

/-! ## Operations without timers -/

/-- A scheduler comes from another one while the timers stay as they are, and so do those that were
due. -/
structure Untimed (before after : Scheduler Frame Action Result) : Prop where
  timers : after.timers = before.timers
  timersArmed : after.timersArmed = before.timersArmed
  ready : ∀ callback ∈ before.ready, callback ∈ after.ready

theorem Untimed.trans (first : Untimed before middle) (second : Untimed middle after) :
    Untimed before after :=
  ⟨second.timers.trans first.timers, second.timersArmed.trans first.timersArmed,
    fun callback member => second.ready callback (first.ready callback member)⟩

section Untimed

variable (loop : Scheduler Frame Action Result)

theorem untimed_refl : Untimed loop loop := ⟨rfl, rfl, fun _ => id⟩

theorem settle_untimed (promise : Nat) (outcome : Outcome Result) :
    Untimed loop (loop.settle promise outcome) :=
  ⟨settle_timers promise outcome loop, by rw [settle_eq],
    (loop.settle_steady promise outcome).ready⟩

theorem whenSettled_untimed (promise : Nat) (callback : Callback Action) :
    Untimed loop (loop.whenSettled promise callback) :=
  ⟨whenSettled_timers promise callback loop, by rw [whenSettled_eq],
    (loop.whenSettled_steady promise callback).ready⟩

theorem cancelMember_untimed (task : Nat) : Untimed loop (loop.cancelMember task) := by
  unfold cancelMember
  split
  · exact loop.untimed_refl
  · split
    · exact ⟨rfl, rfl, fun _ => id⟩
    · split
      · exact ⟨rfl, rfl, fun _ => id⟩
      · exact loop.settle_untimed _ .cancelled

theorem cancel_untimed (task : Nat) : Untimed loop (loop.cancel task) := by
  have members : ∀ (tasks : List Nat) (current : Scheduler Frame Action Result),
      Untimed current (tasks.foldl cancelMember current) := by
    intro tasks
    induction tasks with
    | nil =>
        exact fun current => current.untimed_refl
    | cons head others inductionHypothesis =>
        intro current
        exact (current.cancelMember_untimed head).trans (inductionHypothesis _)
  unfold cancel
  split
  · exact loop.cancelMember_untimed task
  · split
    · exact ⟨rfl, rfl, fun _ => id⟩
    · exact (members _ loop).trans ⟨rfl, rfl, fun _ => id⟩

end Untimed

/-- The timers that are left when a callback is taken are those that were not due, in order. -/
theorem timers_of_next?
    {loop rest : Scheduler Frame Action Result} {callback : Callback Action}
    (next : loop.next? = some (callback, rest)) :
    rest.timers.Sublist loop.timers ∧ rest.timersArmed = loop.timersArmed := by
  unfold next? at next
  by_cases fresh : loop.round = 0
  · simp only [fresh, if_true] at next
    split at next
    · cases next
    · simp only [Option.some.injEq, Prod.mk.injEq] at next
      obtain ⟨_, rfl⟩ := next
      exact ⟨List.filter_sublist, rfl⟩
  · simp only [fresh, if_false] at next
    split at next
    · cases next
    · simp only [Option.some.injEq, Prod.mk.injEq] at next
      obtain ⟨_, rfl⟩ := next
      exact ⟨List.Sublist.refl _, rfl⟩

end Scheduler

end LanguageClient.Loop
