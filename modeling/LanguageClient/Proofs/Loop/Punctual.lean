import LanguageClient.Proofs.Loop.Advance

/-!
# Punctual schedulers

An invariant of the queue: a task is let go on at most once for each wait, and only after the promise
that it awaits is settled. The task that is running is neither ready nor waiting.
-/

namespace LanguageClient.Loop

open LanguageClient.Number

variable {Frame Action Result : Type}

namespace Scheduler

/-- The invariant, where some task may be running. -/
structure Punctual (running : Option Nat) (loop : Scheduler Frame Action Result) : Prop where
  readyOnce : (resumed loop.ready).Nodup
  waitingOnce : ∀ entry ∈ loop.promises, (resumed entry.callbacks).Nodup
  waiting : ∀ (promise : Nat) (entry : Promise Action Result),
    loop.promises[promise]? = some entry → ∀ task ∈ resumed entry.callbacks,
      entry.outcome = none ∧
        ∃ found : TaskState Frame, loop.tasks[task]? = some found ∧ found.awaiting = some promise
  ready : ∀ task ∈ resumed loop.ready,
    ∃ found : TaskState Frame, loop.tasks[task]? = some found ∧
      ∀ promise, found.awaiting = some promise → loop.outcome? promise ≠ none
  notRunning : ∀ task, running = some task →
    task ∉ resumed loop.ready ∧
      ∀ found : TaskState Frame, loop.tasks[task]? = some found → found.awaiting = none

theorem disarm_resumed (timer : Nat) (loop : Scheduler Frame Action Result) :
    resumed (loop.disarm timer).ready = resumed loop.ready := by
  simp only [resumed, Scheduler.disarm, List.filterMap_map]
  congr 1
  funext callback
  cases callback with
  | fire other action =>
      simp only [Function.comp, withoutTimer]
      split <;> rfl
  | resume _ => rfl
  | memberEnded _ => rfl
  | act _ => rfl
  | skipped => rfl

namespace Punctual

variable {running : Option Nat} {loop rest : Scheduler Frame Action Result}

theorem of_empty
    (promises : loop.promises = []) (tasks : loop.tasks = []) (ready : loop.ready = []) :
    loop.Punctual running := by
  constructor <;> simp [promises, tasks, ready, resumed]

theorem not_ready_of_waiting
    (punctual : loop.Punctual running) {promise task : Nat} {entry : Promise Action Result}
    (found : loop.promises[promise]? = some entry) (waits : task ∈ resumed entry.callbacks) :
    task ∉ resumed loop.ready := by
  intro isReady
  obtain ⟨unsettled, state, stateFound, awaits⟩ := punctual.waiting promise entry found task waits
  obtain ⟨other, otherFound, settled⟩ := punctual.ready task isReady
  have same : other = state := Option.some.inj (otherFound.symm.trans stateFound)
  subst same
  apply settled promise awaits
  simp [outcome?, found, unsettled]

/-- The task that is running waits for no promise. -/
theorem not_waiting
    {promise task : Nat} {entry : Promise Action Result} (punctual : loop.Punctual running)
    (isRunning : running = some task) (found : loop.promises[promise]? = some entry) :
    task ∉ resumed entry.callbacks := by
  intro waits
  obtain ⟨_, state, stateFound, awaits⟩ := punctual.waiting promise entry found task waits
  rw [(punctual.notRunning task isRunning).2 state stateFound] at awaits
  cases awaits

/-- What is known of a ready task stays known while it is kept and promises stay settled. -/
theorem ready_of_kept
    {later : Scheduler Frame Action Result} {task : Nat} (punctual : loop.Punctual running)
    (isReady : task ∈ resumed loop.ready)
    (kept : ∀ found, loop.tasks[task]? = some found → later.tasks[task]? = some found)
    (settled : ∀ promise outcome, loop.outcome? promise = some outcome →
      later.outcome? promise = some outcome) :
    ∃ found : TaskState Frame, later.tasks[task]? = some found ∧
      ∀ promise, found.awaiting = some promise → later.outcome? promise ≠ none := by
  obtain ⟨found, entry, known⟩ := punctual.ready task isReady
  refine ⟨found, kept found entry, fun promise awaits => ?_⟩
  obtain ⟨outcome, before⟩ := Option.ne_none_iff_exists'.mp (known promise awaits)
  rw [settled promise outcome before]
  exact Option.some_ne_none outcome

theorem enqueue
    {callbacks : List (Callback Action)} (punctual : loop.Punctual running)
    (others : ∀ callback ∈ callbacks, callback.resumed? = none) :
    (loop.enqueue callbacks).Punctual running := by
  have same : resumed (loop.enqueue callbacks).ready = resumed loop.ready := by
    simp only [Scheduler.enqueue, resumed_append, resumed_eq_nil others, List.append_nil]
  exact { punctual with
    readyOnce := same ▸ punctual.readyOnce
    ready := fun task member => punctual.ready task (same ▸ member)
    notRunning := fun task isRunning => by
      rw [same]
      exact punctual.notRunning task isRunning }

theorem addPromise
    (punctual : loop.Punctual running) (entry : Promise Action Result)
    (free : entry.callbacks = []) :
    (loop.addPromise entry).Punctual running where
  readyOnce := punctual.readyOnce
  waitingOnce := fun other member => by
    rcases List.mem_append.mp member with earlier | added
    · exact punctual.waitingOnce other earlier
    · rw [List.mem_singleton.mp added, free]
      exact List.nodup_nil
  waiting := fun promise other found task waits => by
    simp only [Scheduler.addPromise] at found
    rcases getElem?_append_singleton_cases found with earlier | ⟨_, rfl⟩
    · exact punctual.waiting promise other earlier task waits
    · rw [free] at waits
      cases waits
  ready := fun task member => punctual.ready_of_kept member (fun _ => id)
    fun promise outcome before => by
      rw [addPromise_outcome?_of_lt entry (lt_nextPromise_of_outcome? before)]
      exact before
  notRunning := punctual.notRunning

theorem settle
    (punctual : loop.Punctual running) (promise : Nat) (outcome : Outcome Result) :
    (loop.settle promise outcome).Punctual running := by
  rcases loop.settle_cases promise outcome with same | ⟨entry, entryFound, isOpen, settled⟩
  · rw [same]
    exact punctual
  · have known : promise < loop.promises.length := (List.getElem?_eq_some_iff.mp entryFound).1
    have isSettled : (loop.settle promise outcome).outcome? promise = some outcome :=
      settle_outcome?_self outcome known (outcome?_eq_none_of_open entryFound isOpen)
    have readyEq : resumed (loop.settle promise outcome).ready =
        resumed loop.ready ++ resumed entry.callbacks := by
      rw [settled]
      exact resumed_append _ _
    have promisesEq : (loop.settle promise outcome).promises =
        loop.promises.set promise { entry with outcome := some outcome, callbacks := [] } := by
      rw [settled]
      rfl
    exact {
      readyOnce := by
        rw [readyEq]
        refine List.nodup_append.mpr ⟨punctual.readyOnce,
          punctual.waitingOnce entry (List.mem_of_getElem? entryFound), ?_⟩
        rintro task isReady _ waits rfl
        exact punctual.not_ready_of_waiting entryFound waits isReady
      waitingOnce := fun other member => by
        rw [promisesEq] at member
        rcases List.mem_or_eq_of_mem_set member with earlier | rfl
        · exact punctual.waitingOnce other earlier
        · exact List.nodup_nil
      waiting := fun place other found task waits => by
        rw [promisesEq] at found
        rw [settle_tasks]
        by_cases same : place = promise
        · subst same
          rw [List.getElem?_set_self known] at found
          rw [← Option.some.inj found] at waits
          cases waits
        · rw [List.getElem?_set_ne (Ne.symm same)] at found
          exact punctual.waiting place other found task waits
      ready := fun task member => by
        rw [readyEq] at member
        rcases List.mem_append.mp member with earlier | released
        · refine punctual.ready_of_kept earlier (fun found before => ?_) fun _ _ before =>
            settle_outcome?_of_some outcome before
          rw [settle_tasks]
          exact before
        · obtain ⟨_, found, taskFound, awaits⟩ :=
            punctual.waiting promise entry entryFound task released
          rw [settle_tasks]
          refine ⟨found, taskFound, fun place awaitsPlace => ?_⟩
          rw [awaits] at awaitsPlace
          rw [← Option.some.inj awaitsPlace, isSettled]
          exact Option.some_ne_none outcome
      notRunning := fun task isRunning => by
        obtain ⟨notReady, idle⟩ := punctual.notRunning task isRunning
        rw [readyEq, settle_tasks]
        refine ⟨fun member => ?_, idle⟩
        rcases List.mem_append.mp member with earlier | released
        · exact notReady earlier
        · exact punctual.not_waiting isRunning entryFound released }

theorem whenSettled
    {callback : Callback Action} (punctual : loop.Punctual running) (promise : Nat)
    (other : callback.resumed? = none) :
    (loop.whenSettled promise callback).Punctual running := by
  rcases loop.whenSettled_cases promise callback with
    ⟨_, same⟩ | ⟨_, same⟩ | ⟨entry, entryFound, _, waits⟩
  · rw [same]
    exact punctual
  · rw [same]
    exact punctual.enqueue fun found member => by
      rw [List.mem_singleton.mp member]
      exact other
  · have noneResumed : resumed [callback] = [] := resumed_eq_nil fun found member => by
      rw [List.mem_singleton.mp member]
      exact other
    have sameResumed : resumed (entry.callbacks ++ [callback]) = resumed entry.callbacks := by
      rw [resumed_append, noneResumed, List.append_nil]
    have ready := punctual.ready
    rw [waits]
    exact { punctual with
      waitingOnce := fun found member => by
        rcases List.mem_or_eq_of_mem_set member with earlier | rfl
        · exact punctual.waitingOnce found earlier
        · rw [sameResumed]
          exact punctual.waitingOnce entry (List.mem_of_getElem? entryFound)
      waiting := fun place found entryAtPlace task waiting => by
        by_cases same : place = promise
        · subst same
          rw [List.getElem?_set_self (List.getElem?_eq_some_iff.mp entryFound).1] at entryAtPlace
          rw [← Option.some.inj entryAtPlace] at waiting ⊢
          rw [sameResumed] at waiting
          exact punctual.waiting place entry entryFound task waiting
        · rw [List.getElem?_set_ne (Ne.symm same)] at entryAtPlace
          exact punctual.waiting place found entryAtPlace task waiting
      ready := fun task member => punctual.ready_of_kept member (fun _ => id)
        fun place outcome before => by
          rw [← waits, whenSettled_outcome?]
          exact before }

theorem modifyTask
    {task : Nat} {change : TaskState Frame → TaskState Frame} (punctual : loop.Punctual running)
    (keeps : ∀ found, (change found).awaiting = found.awaiting) :
    (loop.modifyTask task change).Punctual running := by
  have sameAwaiting : ∀ (other : Nat) (found : TaskState Frame), loop.tasks[other]? = some found →
      ∃ later : TaskState Frame,
        (loop.modifyTask task change).tasks[other]? = some later ∧
          later.awaiting = found.awaiting := by
    intro other found entry
    by_cases same : task = other
    · exact ⟨change found, by simp [Scheduler.modifyTask, same, entry], keeps found⟩
    · exact ⟨found, by simp [Scheduler.modifyTask, same, entry], rfl⟩
  exact {
    readyOnce := punctual.readyOnce
    waitingOnce := punctual.waitingOnce
    waiting := fun promise entry entryFound other waits => by
      obtain ⟨unsettled, found, taskFound, awaits⟩ :=
        punctual.waiting promise entry entryFound other waits
      obtain ⟨later, laterFound, same⟩ := sameAwaiting other found taskFound
      exact ⟨unsettled, later, laterFound, same.trans awaits⟩
    ready := fun other member => by
      obtain ⟨found, taskFound, settled⟩ := punctual.ready other member
      obtain ⟨later, laterFound, same⟩ := sameAwaiting other found taskFound
      exact ⟨later, laterFound, fun promise awaits => settled promise (same ▸ awaits)⟩
    notRunning := fun other isRunning => by
      obtain ⟨notReady, idle⟩ := punctual.notRunning other isRunning
      refine ⟨notReady, fun later laterFound => ?_⟩
      cases entry : loop.tasks[other]? with
      | none =>
          simp [Scheduler.modifyTask, List.getElem?_modify, entry] at laterFound
      | some found =>
          obtain ⟨same, sameFound, awaits⟩ := sameAwaiting other found entry
          rw [laterFound] at sameFound
          rw [Option.some.inj sameFound, awaits, idle found entry] }

theorem requestCancel (punctual : loop.Punctual running) (task : Nat) :
    (loop.requestCancel task).Punctual running :=
  punctual.modifyTask fun _ => rfl

theorem cancelMember (punctual : loop.Punctual running) (task : Nat) :
    (loop.cancelMember task).Punctual running := by
  unfold Scheduler.cancelMember
  split
  · exact punctual
  · split
    · exact punctual.requestCancel task
    · split
      · exact punctual.requestCancel task
      · exact punctual.settle _ .cancelled

theorem modifyGroup
    (punctual : loop.Punctual running) (promise : Nat) (change : Group → Group) :
    (loop.modifyGroup promise change).Punctual running := by
  have sameOutcome : ∀ other,
      (loop.modifyGroup promise change).outcome? other = loop.outcome? other :=
    modifyGroup_outcome? promise change
  exact {
    readyOnce := punctual.readyOnce
    waitingOnce := fun entry member => by
      rcases mem_modify member with earlier | ⟨found, entryFound, rfl⟩
      · exact punctual.waitingOnce entry earlier
      · exact punctual.waitingOnce found (List.mem_of_getElem? entryFound)
    waiting := fun place entry entryFound task waits => by
      simp only [Scheduler.modifyGroup, List.getElem?_modify] at entryFound
      obtain ⟨earlier, earlierFound, rfl⟩ := Option.map_eq_some_iff.mp entryFound
      by_cases same : promise = place
      · rw [if_pos same] at waits ⊢
        exact punctual.waiting place earlier earlierFound task waits
      · rw [if_neg same] at waits ⊢
        exact punctual.waiting place earlier earlierFound task waits
    ready := fun task member => punctual.ready_of_kept member (fun _ => id)
      fun other outcome before => (sameOutcome other).trans before
    notRunning := punctual.notRunning }

theorem cancel (punctual : loop.Punctual running) (task : Nat) :
    (loop.cancel task).Punctual running := by
  have members : ∀ (tasks : List Nat) (current : Scheduler Frame Action Result),
      current.Punctual running → (tasks.foldl Scheduler.cancelMember current).Punctual running := by
    intro tasks
    induction tasks with
    | nil =>
        exact fun _ currentPunctual => currentPunctual
    | cons head others inductionHypothesis =>
        intro current currentPunctual
        exact inductionHypothesis _ (currentPunctual.cancelMember head)
  unfold Scheduler.cancel
  split
  · exact punctual.cancelMember task
  · split
    · exact punctual.requestCancel task
    · exact (members _ _ punctual).modifyGroup _ _

theorem arm (punctual : loop.Punctual running) (delay : Delay) (action : Action) :
    (loop.arm delay action).Punctual running :=
  { punctual with }

theorem disarm (punctual : loop.Punctual running) (timer : Nat) :
    (loop.disarm timer).Punctual running := by
  have same := disarm_resumed timer loop
  exact { punctual with
    readyOnce := same ▸ punctual.readyOnce
    ready := fun task member => punctual.ready task (same ▸ member)
    notRunning := fun task isRunning => by
      rw [same]
      exact punctual.notRunning task isRunning }

theorem moveClock (punctual : loop.Punctual running) (moment : Rat) :
    (loop.moveClock moment).Punctual running :=
  { punctual with }

theorem spawn
    (punctual : loop.Punctual running) (runs : ∀ task, running = some task → task < loop.nextTask)
    (stack : List Frame) :
    (loop.spawn stack).Punctual running := by
  have added := punctual.addPromise {} rfl
  have keptTask : ∀ (task : Nat) (found : TaskState Frame), loop.tasks[task]? = some found →
      (loop.spawn stack).tasks[task]? = some found := by
    intro task found taskFound
    have inside : task < loop.tasks.length := (List.getElem?_eq_some_iff.mp taskFound).1
    simp only [Scheduler.spawn, Scheduler.enqueue]
    rw [List.getElem?_append_left inside, taskFound]
  have newTask : (loop.spawn stack).tasks[loop.nextTask]? = some
      { stack, awaiting := none, cancelRequested := false, completion := loop.nextPromise } := by
    simp [Scheduler.spawn, Scheduler.enqueue, nextTask]
  have readyEq : resumed (loop.spawn stack).ready = resumed loop.ready ++ [loop.nextTask] := by
    simp only [Scheduler.spawn, Scheduler.enqueue, Scheduler.addPromise, resumed_append]
    rfl
  exact {
    readyOnce := by
      rw [readyEq]
      refine nodup_append_singleton punctual.readyOnce fun isReady => ?_
      obtain ⟨found, taskFound, _⟩ := punctual.ready loop.nextTask isReady
      exact Nat.lt_irrefl _ (List.getElem?_eq_some_iff.mp taskFound).1
    waitingOnce := added.waitingOnce
    waiting := fun promise entry entryFound task waits => by
      obtain ⟨unsettled, found, taskFound, awaits⟩ :=
        added.waiting promise entry entryFound task waits
      exact ⟨unsettled, found, keptTask task found taskFound, awaits⟩
    ready := fun task member => by
      rw [readyEq] at member
      rcases List.mem_append.mp member with earlier | isNew
      · exact punctual.ready_of_kept earlier (keptTask task) fun promise outcome before => by
          rw [spawn_outcome?]
          exact before
      · rw [List.mem_singleton.mp isNew]
        exact ⟨_, newTask, fun promise awaits => by cases awaits⟩
    notRunning := fun task isRunning => by
      obtain ⟨notReady, idle⟩ := punctual.notRunning task isRunning
      have inside := runs task isRunning
      rw [readyEq]
      constructor
      · intro member
        rcases List.mem_append.mp member with earlier | isNew
        · exact notReady earlier
        · rw [List.mem_singleton.mp isNew] at inside
          exact Nat.lt_irrefl _ inside
      · intro found taskFound
        have known : loop.tasks[task]? = some loop.tasks[task] := List.getElem?_eq_getElem inside
        rw [keptTask task _ known] at taskFound
        rw [← Option.some.inj taskFound]
        exact idle _ known }

/-! ## A task goes on -/

/-- When a callback is taken, the task that it lets go on may run, once its wait is cleared. -/
theorem taken
    {callback : Callback Action} (punctual : loop.Punctual none) (taken : Taken loop callback rest) :
    rest.Punctual none ∧ ∀ task, callback = .resume task → task ∉ resumed rest.ready := by
  have once : (resumed (callback :: rest.ready)).Nodup := taken.resumed ▸ punctual.readyOnce
  have within : ∀ task ∈ resumed rest.ready, task ∈ resumed loop.ready := by
    intro task member
    rw [← taken.resumed, mem_resumed]
    exact List.mem_cons_of_mem callback (mem_resumed.mp member)
  constructor
  · exact {
      readyOnce := (List.sublist_cons_self callback rest.ready).filterMap _ |>.nodup once
      waitingOnce := by
        rw [taken.promises]
        exact punctual.waitingOnce
      waiting := by
        rw [taken.promises, taken.tasks]
        exact punctual.waiting
      ready := fun task member => by
        refine punctual.ready_of_kept (within task member) (fun found before => ?_)
          fun promise outcome before => ?_
        · rw [taken.tasks]
          exact before
        · rw [taken.outcome?_eq]
          exact before
      notRunning := fun _ isRunning => by cases isRunning }
  · rintro task rfl
    exact (List.nodup_cons.mp once).1

/-- A task that is let go on has been told how its wait ended. -/
theorem resumed_of_taken
    {task : Nat} (punctual : loop.Punctual none) (taken : Taken loop (.resume task) rest) :
    task ∉ resumed rest.ready ∧
      ∀ found : TaskState Frame, rest.tasks[task]? = some found →
        ∀ promise, found.awaiting = some promise → rest.outcome? promise ≠ none := by
  obtain ⟨_, notReady⟩ := punctual.taken taken
  refine ⟨notReady task rfl, fun found entry promise awaits => ?_⟩
  have isReady : task ∈ resumed loop.ready := by
    rw [← taken.resumed]
    exact List.mem_cons_self
  obtain ⟨same, sameEntry, settled⟩ := punctual.ready task isReady
  rw [taken.tasks, sameEntry] at entry
  obtain rfl := Option.some.inj entry
  rw [taken.outcome?_eq]
  exact settled promise awaits

/-- A task that was let go on and waits for nothing any more is running. -/
theorem run
    {task : Nat} {change : TaskState Frame → TaskState Frame} (punctual : loop.Punctual none)
    (notReady : task ∉ resumed loop.ready)
    (settled : ∀ found, loop.tasks[task]? = some found → ∀ promise,
      found.awaiting = some promise → loop.outcome? promise ≠ none)
    (clears : ∀ found, (change found).awaiting = none) :
    (loop.modifyTask task change).Punctual (some task) where
  readyOnce := punctual.readyOnce
  waitingOnce := punctual.waitingOnce
  waiting := fun promise entry entryFound other waits => by
    obtain ⟨unsettled, found, taskFound, awaits⟩ :=
      punctual.waiting promise entry entryFound other waits
    have different : task ≠ other := by
      rintro rfl
      apply settled found taskFound promise awaits
      simp [outcome?, show loop.promises[promise]? = some entry from entryFound, unsettled]
    exact ⟨unsettled, found, by simp [Scheduler.modifyTask, different, taskFound], awaits⟩
  ready := fun other member => by
    have different : task ≠ other := by
      rintro rfl
      exact notReady member
    obtain ⟨found, taskFound, otherSettled⟩ := punctual.ready other member
    exact ⟨found, by simp [Scheduler.modifyTask, different, taskFound], otherSettled⟩
  notRunning := fun other isRunning => by
    obtain rfl := Option.some.inj isRunning
    refine ⟨notReady, fun later laterFound => ?_⟩
    simp only [Scheduler.modifyTask, List.getElem?_modify] at laterFound
    obtain ⟨found, _, rfl⟩ := Option.map_eq_some_iff.mp laterFound
    rw [if_pos trivial]
    exact clears found

theorem stop {running : Option Nat} (punctual : loop.Punctual running) : loop.Punctual none :=
  { punctual with notRunning := fun _ isRunning => by cases isRunning }

section Suspend

variable {task promise other : Nat} (stack : List Frame)

variable (punctual : loop.Punctual (some task))

include punctual

theorem waiting_of_suspend
    {place : Nat} {entry : Promise Action Result}
    (found : loop.promises[place]? = some entry) (waits : other ∈ resumed entry.callbacks) :
    entry.outcome = none ∧ ∃ state : TaskState Frame,
      (loop.suspend task stack promise).tasks[other]? = some state ∧
        state.awaiting = some place := by
  have different : other ≠ task := by
    rintro rfl
    exact punctual.not_waiting rfl found waits
  rw [suspend_tasks_of_ne stack promise loop different]
  exact punctual.waiting place entry found other waits

theorem ready_of_suspend (isReady : other ∈ resumed loop.ready) :
    ∃ state : TaskState Frame, (loop.suspend task stack promise).tasks[other]? = some state ∧
      ∀ place, state.awaiting = some place →
        (loop.suspend task stack promise).outcome? place ≠ none := by
  have different : other ≠ task := by
    rintro rfl
    exact (punctual.notRunning other rfl).1 isReady
  refine punctual.ready_of_kept isReady (fun state before => ?_) fun place outcome before => ?_
  · rw [suspend_tasks_of_ne stack promise loop different]
    exact before
  · rw [suspend_outcome?]
    exact before

/-- A task that awaits a settled promise is ready again. -/
theorem suspend_of_settled
    (inside : task < loop.nextTask) (settled : loop.outcome? promise ≠ none)
    (same : loop.suspend task stack promise = (loop.modifyTask task fun found =>
      { found with stack, awaiting := some promise }).enqueue [.resume task]) :
    (loop.suspend task stack promise).Punctual none := by
  have promisesEq : (loop.suspend task stack promise).promises = loop.promises := by
    rw [same]
    rfl
  have readyEq : resumed (loop.suspend task stack promise).ready =
      resumed loop.ready ++ [task] := by
    rw [same]
    exact resumed_append _ _
  exact {
    readyOnce := by
      rw [readyEq]
      exact nodup_append_singleton punctual.readyOnce (punctual.notRunning task rfl).1
    waitingOnce := promisesEq ▸ punctual.waitingOnce
    waiting := fun place entry found other waits =>
      punctual.waiting_of_suspend stack (promisesEq ▸ found) waits
    ready := fun other member => by
      rw [readyEq] at member
      rcases List.mem_append.mp member with before | added
      · exact punctual.ready_of_suspend stack before
      · rw [List.mem_singleton.mp added]
        refine ⟨_, suspend_tasks_self stack promise (List.getElem?_eq_getElem inside),
          fun place awaits => ?_⟩
        rw [suspend_outcome?, ← Option.some.inj awaits]
        exact settled
    notRunning := nofun }

/-- A task that awaits an open promise is kept by it. -/
theorem suspend_of_open
    {entry : Promise Action Result} (inside : task < loop.nextTask)
    (entryFound : loop.promises[promise]? = some entry) (isOpen : entry.outcome = none)
    (promisesEq : (loop.suspend task stack promise).promises = loop.promises.set promise
      { entry with callbacks := entry.callbacks ++ [.resume task] })
    (readyEq : (loop.suspend task stack promise).ready = loop.ready) :
    (loop.suspend task stack promise).Punctual none := by
  have resumedEq : resumed (entry.callbacks ++ [.resume task]) =
      resumed entry.callbacks ++ [task] :=
    resumed_append _ _
  exact {
    readyOnce := readyEq ▸ punctual.readyOnce
    waitingOnce := fun found member => by
      rw [promisesEq] at member
      rcases List.mem_or_eq_of_mem_set member with earlier | rfl
      · exact punctual.waitingOnce found earlier
      · rw [resumedEq]
        exact nodup_append_singleton
          (punctual.waitingOnce entry (List.mem_of_getElem? entryFound))
          (punctual.not_waiting rfl entryFound)
    waiting := fun place found foundAtPlace other waits => by
      rw [promisesEq] at foundAtPlace
      by_cases same : place = promise
      · subst same
        rw [List.getElem?_set_self (List.getElem?_eq_some_iff.mp entryFound).1] at foundAtPlace
        rw [← Option.some.inj foundAtPlace] at waits ⊢
        rw [resumedEq] at waits
        rcases List.mem_append.mp waits with before | added
        · exact ⟨isOpen, (punctual.waiting_of_suspend stack entryFound before).2⟩
        · rw [List.mem_singleton.mp added]
          exact ⟨isOpen, _,
            suspend_tasks_self stack place (List.getElem?_eq_getElem inside), rfl⟩
      · rw [List.getElem?_set_ne (Ne.symm same)] at foundAtPlace
        exact punctual.waiting_of_suspend stack foundAtPlace waits
    ready := fun other member => punctual.ready_of_suspend stack (readyEq ▸ member)
    notRunning := nofun }

theorem suspend (inside : task < loop.nextTask) (known : promise < loop.nextPromise) :
    (loop.suspend task stack promise).Punctual none := by
  rcases (loop.modifyTask task fun found =>
      { found with stack, awaiting := some promise }).whenSettled_cases promise (.resume task) with
    ⟨missing, _⟩ | ⟨settled, same⟩ | ⟨entry, entryFound, isOpen, same⟩
  · have found : loop.promises[promise]? = some loop.promises[promise] :=
      List.getElem?_eq_getElem known
    cases found.symm.trans missing
  · exact punctual.suspend_of_settled stack inside settled same
  · refine punctual.suspend_of_open stack inside entryFound isOpen ?_ ?_
    · rw [Scheduler.suspend, same]
      rfl
    · rw [Scheduler.suspend, same]
      rfl

end Suspend

end Punctual

end Scheduler

end LanguageClient.Loop
