import LanguageClient.Proofs.Synchronizer.Tasks

/-!
# The turns of tasks

The invariant holds again when a task that went on is suspended or has ended. Of the other tasks
none has moved, and whoever sent a change under the lock still does.
-/

namespace LanguageClient.Client

open LanguageClient.Json LanguageClient.Loop LanguageClient.Protocol

section Start

variable {calm : Prop} {uri : String} {holder : Option (Nat × Change)}
  {synchronizer : Synchronizer} {system : System} {task : Nat} {found : TaskState Frame}

/-- The client without the frames of a task that goes on. -/
def System.cleared (system : System) (task : Nat) : System := system.onLoop (·.clearTask task)

theorem cleared_parts
    (parts : SyncParts uri synchronizer system) (task : Nat) :
    SyncParts uri synchronizer (system.cleared task) :=
  { parts with
    lock := parts.lock.of_plain
      (fun _ plain =>
        plain.of_le (Scheduler.clearTask_completions task system.loop) (Nat.le_refl _))
      (fun _ => id) fun _ _ => rfl }

theorem SyncWorld.start_task
    (world : SyncWorld calm uri holder synchronizer system)
    (entry : system.loop.tasks[task]? = some found) (notReady : task ∉ resumed system.loop.ready)
    (settled : ∀ promise, found.awaiting = some promise → system.loop.outcome? promise ≠ none) :
    SyncPassage calm uri (some task) (system.cleared task) synchronizer (system.cleared task) where
  parts := cleared_parts world.parts task
  loop := Scheduler.Passage.start world.orderly world.punctual entry notReady settled .idle

/-- A task that is told of a result awaits a promise with that result, if it awaits one. -/
theorem outcome?_of_signalOf
    {promise : Nat} {reply : Reply} (awaits : found.awaiting = some promise)
    (settled : system.loop.outcome? promise ≠ none)
    (returned : system.signalOf found = .returned reply) :
    system.loop.outcome? promise = some (.returned reply) := by
  obtain ⟨outcome, isOutcome⟩ := Option.ne_none_iff_exists'.mp settled
  cases cancelled : found.cancelRequested with
  | true =>
      rw [System.signalOf_of_cancel cancelled] at returned
      cases returned
  | false =>
      rw [System.signalOf_of_awaiting cancelled awaits isOutcome] at returned
      rw [isOutcome, returned]

theorem SyncWorld.runTask
    (world : SyncWorld calm uri holder synchronizer system)
    (entry : system.loop.tasks[task]? = some found) (notReady : task ∉ resumed system.loop.ready)
    (settled : ∀ promise, found.awaiting = some promise → system.loop.outcome? promise ≠ none) :
    ∃ later laterHolder,
      TaskRun calm uri task (system.cleared task) synchronizer holder found
        (system.signalOf found)
        ((system.cleared task).resumeStack (system.signalOf found) found.stack) later
        laterHolder := by
  have start := world.start_task entry notReady settled
  have ledger : Ledger (holder.map (·.2)) synchronizer ((system.cleared task).deliveries uri) :=
    world.ledger
  have shape := world.orderly.tasks found (List.mem_of_getElem? entry)
  generalize stackEq : found.stack = stack, awaitsEq : found.awaiting = awaited at shape
  rw [← stackEq]
  cases shape with
  | idle =>
      rw [stackEq]
      refine ⟨_, _, .quiet synchronizer (Or.inl ?_) ?_ (.ended start (system.signalOf found))⟩
      · rw [stackEq]
        intro text carries
        generalize emptyEq : ([] : List Frame) = empty at carries
        cases carries <;> cases emptyEq
      · rw [stackEq]
        nofun
  | begins call allowed =>
      exact begin_run allowed stackEq start ledger
  | locks promise force caller allowed =>
      exact locks_run allowed stackEq awaitsEq
        (world.places.locks task found promise force caller entry stackEq)
        (fun reply returned => outcome?_of_signalOf awaitsEq (settled promise awaitsEq) returned)
        start ledger
  | changes link change promise caller allowed =>
      exact changes_run allowed stackEq
        (world.places.changes task found link change caller entry stackEq) start ledger
  | settles promise =>
      exact settles_run stackEq start
  | closes link frame subject promise nothing =>
      exact closes_run nothing stackEq start
  | answers link frame subject promise nothing =>
      exact answers_run nothing stackEq start

end Start

/-! ## Where a task is left -/

theorem changeFrames_inj
    {uri : String} {link other : Nat} {change otherChange : Change}
    {caller otherCaller : List Frame}
    (same : changeFrames uri link change ++ caller =
      changeFrames uri other otherChange ++ otherCaller) :
    change = otherChange := by
  simp only [changeFrames, List.cons_append, List.cons.injEq, Frame.sending.injEq,
    Frame.changing.injEq, true_and] at same
  obtain ⟨⟨_, sameFrame⟩, ⟨sameVersion, sameDirty⟩, _⟩ := same
  have sameDelivery := congrArg (delivery? uri) sameFrame
  rw [delivery?_changeFrame, delivery?_changeFrame] at sameDelivery
  obtain ⟨_, sameText⟩ := Delivery.changed.inj (Option.some.inj sameDelivery)
  cases change
  cases otherChange
  simp_all

/-- A task is left waiting at a place of the world. -/
structure LeftAt
    (uri : String) (task : Nat) (system after : System) (later : Synchronizer)
    (laterHolder : Option (Nat × Change)) (frames : List Frame) (promise : Nat) :
    Prop where
  new : system.nextPromise ≤ promise
  plain : after.loop.IsPlain promise
  shape : TaskShape uri frames (some promise)
  locks : ∀ other force caller, frames = .locking 0 other force :: caller →
    other ∈ later.lock.waiters
  changes : ∀ link change caller, frames = changeFrames uri link change ++ caller →
    laterHolder = some (task, change)
  ungrouped : frames ≠ [.settlingSends 0] → after.loop.IsUngrouped promise

/-- What the invariant needs to know of what a task does. -/
structure TaskStep
    (calm : Prop) (uri : String) (task : Nat) (system : System) (synchronizer : Synchronizer)
    (holder : Option (Nat × Change)) (awaited : Option Nat) (result : Step)
    (later : Synchronizer) (laterHolder : Option (Nat × Change)) :
    Prop where
  passage : SyncPassage calm uri (some task) system later result.1
  ledger : Ledger (laterHolder.map (·.2)) later (result.1.deliveries uri)
  tasks : result.1.loop.tasks = system.loop.tasks
  waiters : ∀ promise ∈ synchronizer.lock.waiters, awaited ≠ some promise →
    promise ∈ later.lock.waiters
  holder : ∀ other change, holder = some (other, change) → other ≠ task →
    laterHolder = some (other, change)
  suspended : ∀ frames promise, result.2 = .suspended frames promise →
    LeftAt uri task system result.1 later laterHolder frames promise

section Steps

variable {calm : Prop} {uri : String} {task : Nat} {system : System}
  {synchronizer later : Synchronizer} {holder laterHolder : Option (Nat × Change)}
  {found : TaskState Frame} {signal : Outcome Reply} {result : Step}

theorem QuietStep.taskStep
    {started : System} {startedSynchronizer later : Synchronizer}
    (step : QuietStep calm uri (some task) system startedSynchronizer started result later)
    (ledger : Ledger (holder.map (·.2)) startedSynchronizer (started.deliveries uri))
    (tasks : started.loop.tasks = system.loop.tasks)
    (promises : started.nextPromise = system.nextPromise)
    (lock : startedSynchronizer.lock = synchronizer.lock) (awaited : Option Nat) :
    TaskStep calm uri task system synchronizer holder awaited result later holder where
  passage := step.passage
  ledger := by
    rw [step.deliveries]
    exact ledger.of_same (by rw [step.lock]) step.version step.dirty step.text
  tasks := step.loop.tasks.trans tasks
  waiters := fun promise member _ => by
    rw [step.lock, lock]
    exact member
  holder := fun _ _ same _ => same
  suspended := fun frames promise suspends => by
    obtain ⟨new, plain, place⟩ := step.suspended frames promise suspends
    rw [promises] at new
    cases place with
    | settles =>
        exact ⟨new, plain, .settles promise, nofun, nofun, fun other => (other rfl).elim⟩
    | closes link frame subject nothing ungrouped =>
        exact ⟨new, plain, .closes link frame subject promise nothing, nofun, nofun,
          fun _ => ungrouped⟩
    | answers link frame subject nothing ungrouped =>
        exact ⟨new, plain, .answers link frame subject promise nothing, nofun, nofun,
          fun _ => ungrouped⟩

theorem SendStep.taskStep
    {started : System} {startedSynchronizer later : Synchronizer} {caller : List Frame}
    {change? : Option Change} (allowed : IsCaller caller)
    (step : SendStep calm uri (some task) system caller startedSynchronizer (holder.map (·.2))
      started result later change?)
    (tasks : started.loop.tasks = system.loop.tasks)
    (promises : started.nextPromise = system.nextPromise) (awaited : Option Nat)
    (waiters : ∀ promise ∈ synchronizer.lock.waiters, awaited ≠ some promise →
      promise ∈ startedSynchronizer.lock.waiters) :
    TaskStep calm uri task system synchronizer holder awaited result later
      (holderAfter holder task change?) where
  passage := step.passage
  ledger := by
    cases holder with
    | none =>
        rw [holderAfter_none]
        exact step.ledger
    | some holding =>
        have same := step.others holding.2 rfl
        rw [same] at step
        exact step.ledger
  tasks := step.steady.loop.tasks.trans tasks
  waiters := fun promise member other =>
    step.waiters promise (waiters promise member other)
  holder := fun other change same _ => by
    rw [same]
    rfl
  suspended := fun frames promise suspends => by
    obtain ⟨fresh, place⟩ := step.suspended frames promise suspends
    have new : system.nextPromise ≤ promise := promises ▸ fresh.new
    rcases place with ⟨link, change, free, taken, _, framesEq⟩ | ⟨force, _, waits, framesEq⟩
    · subst framesEq
      refine ⟨new, fresh.plain, .changes link change promise caller allowed, nofun, ?_,
        fun _ => fresh.ungrouped⟩
      intro other otherChange otherCaller same
      rw [← changeFrames_inj same, taken, Option.map_eq_none_iff.mp free]
      rfl
    · subst framesEq
      refine ⟨new, fresh.plain, .locks promise force caller allowed, ?_, nofun,
        fun _ => fresh.ungrouped⟩
      intro other otherForce otherCaller same
      injection same with sameFrame _
      injection sameFrame with _ samePromise _
      rw [← samePromise]
      exact waits

/-- The task that sent a change under the lock has ended and has given the lock back. -/
theorem TaskStep.of_end
    {change : Change} {ending : Outcome Reply} {awaited : Option Nat}
    (isHolder : holder = some (task, change)) (ends : result.2 = .ended ending)
    (passage : SyncPassage calm uri (some task) system later result.1)
    (ledger : Ledger none later (result.1.deliveries uri)) (steady : system.Steady result.1)
    (waiters : later.lock.waiters = synchronizer.lock.waiters) :
    TaskStep calm uri task system synchronizer holder awaited result later none where
  passage
  ledger
  tasks := steady.loop.tasks
  waiters := fun promise member _ => by
    rw [waiters]
    exact member
  holder := fun other otherChange same different => by
    rw [isHolder] at same
    exact (different (Prod.mk.inj (Option.some.inj same)).1.symm).elim
  suspended := fun frames promise suspends => by
    rw [ends] at suspends
    cases suspends

theorem TaskRun.taskStep
    (start : SyncPassage calm uri (some task) system synchronizer system)
    (ledger : Ledger (holder.map (·.2)) synchronizer (system.deliveries uri))
    (run : TaskRun calm uri task system synchronizer holder found signal result later
      laterHolder) :
    TaskStep calm uri task system synchronizer holder found.awaiting result later laterHolder := by
  obtain ⟨_, cancelTasks, cancelPromises, _⟩ := cancelTimer_passage start
  have cancelNext : (system.cancelTimer 0).nextPromise = system.nextPromise := by
    simp only [System.nextPromise, Scheduler.nextPromise, cancelPromises]
  cases run with
  | quiet _ _ _ step =>
      exact step.taskStep ledger rfl rfl rfl _
  | closes _ _ step _ =>
      have cancelled : Ledger (holder.map (·.2)) { synchronizer with timer := none }
          ((system.cancelTimer 0).deliveries uri) := by
        rw [System.cancelTimer_deliveries]
        exact ledger.of_same rfl rfl rfl rfl
      have sameLock : ({ synchronizer with timer := none } : Synchronizer).lock =
          synchronizer.lock := rfl
      exact step.taskStep cancelled cancelTasks cancelNext sameLock _
  | flushes _ _ _ step =>
      exact step.taskStep (Or.inl rfl) cancelTasks cancelNext _ fun _ member _ => member
  | sends _ _ _ step =>
      exact step.taskStep (Or.inr rfl) rfl rfl _ fun _ member _ => member
  | takes promise _ _ _ _ _ allowed awaits free step =>
      subst free
      refine step.taskStep allowed rfl rfl _ fun other member different => ?_
      rw [awaits] at different
      exact List.mem_filter.mpr
        ⟨member, decide_eq_true fun same => different (congrArg some same.symm)⟩
  | givesUp promise _ _ _ _ awaits _ ends passage deliveries steady =>
      exact {
        passage
        ledger := by
          rw [deliveries]
          exact ledger.of_same rfl rfl rfl rfl
        tasks := steady.loop.tasks
        waiters := fun other member different => by
          rw [awaits] at different
          exact List.mem_filter.mpr
            ⟨member, decide_eq_true fun same => different (congrArg some same.symm)⟩
        holder := fun _ _ same _ => same
        suspended := fun _ _ suspends => by
          rw [ends] at suspends
          cases suspends }
  | delivers _ _ _ _ _ isHolder _ ends passage laterLedger steady =>
      exact .of_end isHolder ends passage laterLedger steady rfl
  | restores _ _ _ _ _ isHolder _ ends passage laterLedger steady =>
      exact .of_end isHolder ends passage laterLedger steady rfl

end Steps

/-! ## The invariant after the turn of a task -/

theorem settleTask_plain
    {result : Step} {task completion promise : Nat} (plain : result.1.loop.IsPlain promise) :
    (System.settleTask task completion result).loop.IsPlain promise := by
  obtain ⟨current, outcome | ⟨frames, waited⟩⟩ := result
  · have settled : (current.loop.settle completion outcome).IsPlain promise :=
      plain.of_le (by simp) (by simp)
    exact settled
  · have suspended : (current.loop.suspend task frames waited).IsPlain promise :=
      plain.of_le (by simp) (by simp)
    exact suspended

/-- The end of a turn settles at most the completion of the task, for which no lock waits. -/
theorem LockParts.settleTask
    {lock : Lock} {detained : List Nat} {result : Step} {task completion : Nat}
    (parts : LockParts lock detained result.1.loop)
    (isCompletion : completion ∈ result.1.loop.completions) :
    LockParts lock detained (System.settleTask task completion result).loop := by
  have plain (promise : Nat) (isPlain : result.1.loop.IsPlain promise) :=
    @settleTask_plain result task completion promise isPlain
  obtain ⟨current, outcome | ⟨frames, waited⟩⟩ := result
  · exact parts.of_plain plain
      (fun promise ungrouped => (Scheduler.settle_groups _ _ _ _).trans ungrouped)
      fun promise isPlain => Scheduler.settle_outcome?_of_ne _ _ fun same =>
        isPlain.noCompletion (same ▸ isCompletion)
  · exact parts.of_plain plain
      (fun promise ungrouped => (Scheduler.whenSettled_groups _ _ _ _).trans ungrouped)
      fun promise _ => Scheduler.suspend_outcome? _ _ _ _ _

section Ends

variable {calm : Prop} {uri : String} {holder laterHolder : Option (Nat × Change)}
  {synchronizer later : Synchronizer} {system : System} {task : Nat} {found : TaskState Frame}

/-- Another task that waits for the lock does not wait for the promise of this task. -/
theorem SyncWorld.other_lock
    {other promise : Nat} {otherFound : TaskState Frame} {force : Bool} {caller : List Frame}
    (world : SyncWorld calm uri holder synchronizer system)
    (entry : system.loop.tasks[task]? = some found) (different : other ≠ task)
    (otherEntry : system.loop.tasks[other]? = some otherFound)
    (stack : otherFound.stack = .locking 0 promise force :: caller) :
    promise ∈ synchronizer.lock.waiters ∧ found.awaiting ≠ some promise := by
  refine ⟨world.places.locks other otherFound promise force caller otherEntry stack, ?_⟩
  intro awaits
  have shape := world.orderly.tasks otherFound (List.mem_of_getElem? otherEntry)
  rw [stack] at shape
  generalize awaitsEq : otherFound.awaiting = awaited at shape
  cases shape
  exact different (world.places.awaitsOnce other task otherFound found promise otherEntry entry
    awaitsEq awaits)

/-- What another task awaits is older than all promises that are added now. -/
theorem SyncWorld.not_new_of_awaiting
    {other promise : Nat} {otherFound : TaskState Frame}
    (world : SyncWorld calm uri holder synchronizer system)
    (otherEntry : system.loop.tasks[other]? = some otherFound)
    (awaits : otherFound.awaiting = some promise) :
    ¬ system.nextPromise ≤ promise :=
  Nat.not_le_of_lt (world.orderly.awaited otherFound (List.mem_of_getElem? otherEntry) promise
    awaits).known

theorem TaskPlaces.of_turn
    {loop : ClientLoop} {left : TaskState Frame}
    (world : SyncWorld calm uri holder synchronizer system)
    (entry : system.loop.tasks[task]? = some found)
    (others : ∀ other, other ≠ task → loop.tasks[other]? = system.loop.tasks[other]?)
    (mine : loop.tasks[task]? = some left)
    (waiters : ∀ promise ∈ synchronizer.lock.waiters, found.awaiting ≠ some promise →
      promise ∈ later.lock.waiters)
    (holds : ∀ other change, holder = some (other, change) → other ≠ task →
      laterHolder = some (other, change))
    (ungrouped : ∀ promise, system.loop.IsUngrouped promise → loop.IsUngrouped promise)
    (locks : ∀ promise force caller, left.stack = .locking 0 promise force :: caller →
      promise ∈ later.lock.waiters)
    (changes : ∀ link change caller, left.stack = changeFrames uri link change ++ caller →
      laterHolder = some (task, change))
    (new : ∀ promise, left.awaiting = some promise →
      system.nextPromise ≤ promise ∧
        (left.stack ≠ [.settlingSends 0] → loop.IsUngrouped promise)) :
    TaskPlaces uri laterHolder later.lock.waiters loop := by
  have isMine : ∀ other, loop.tasks[task]? = some other → other = left := by
    intro other otherEntry
    rw [mine] at otherEntry
    exact (Option.some.inj otherEntry).symm
  exact {
    locks := fun other otherFound promise force caller otherEntry stack => by
      by_cases same : other = task
      · subst same
        rw [isMine otherFound otherEntry] at stack
        exact locks promise force caller stack
      · rw [others other same] at otherEntry
        obtain ⟨member, notMine⟩ := world.other_lock entry same otherEntry stack
        exact waiters promise member notMine
    changes := fun other otherFound link change caller otherEntry stack => by
      by_cases same : other = task
      · subst same
        rw [isMine otherFound otherEntry] at stack
        exact changes link change caller stack
      · rw [others other same] at otherEntry
        exact holds other change
          (world.places.changes other otherFound link change caller otherEntry stack) same
    awaitsOnce := fun first second firstFound secondFound promise firstEntry secondEntry
        firstAwaits secondAwaits => by
      by_cases firstSame : first = task
      · by_cases secondSame : second = task
        · exact firstSame.trans secondSame.symm
        · subst firstSame
          rw [isMine firstFound firstEntry] at firstAwaits
          rw [others second secondSame] at secondEntry
          exact (world.not_new_of_awaiting secondEntry secondAwaits (new promise firstAwaits).1).elim
      · rw [others first firstSame] at firstEntry
        by_cases secondSame : second = task
        · subst secondSame
          rw [isMine secondFound secondEntry] at secondAwaits
          exact (world.not_new_of_awaiting firstEntry firstAwaits (new promise secondAwaits).1).elim
        · rw [others second secondSame] at secondEntry
          exact world.places.awaitsOnce first second firstFound secondFound promise firstEntry
            secondEntry firstAwaits secondAwaits
    ungrouped := fun other otherFound promise otherEntry awaits notSettling => by
      by_cases same : other = task
      · subst same
        rw [isMine otherFound otherEntry] at awaits notSettling
        exact (new promise awaits).2 notSettling
      · rw [others other same] at otherEntry
        exact ungrouped promise
          (world.places.ungrouped other otherFound promise otherEntry awaits notSettling) }

/-- A task as its turn leaves it. -/
def leftTask (found : TaskState Frame) : Progress → TaskState Frame
  | .ended _ => { found with stack := [], awaiting := none, cancelRequested := false }
  | .suspended frames promise =>
    { found with stack := frames, awaiting := some promise, cancelRequested := false }

theorem settleTask_tasks
    {result : Step} (entry : system.loop.tasks[task]? = some found)
    (tasks : result.1.loop.tasks = (system.cleared task).loop.tasks) :
    (System.settleTask task found.completion result).loop.tasks[task]? =
        some (leftTask found result.2) ∧
      ∀ other, other ≠ task →
        (System.settleTask task found.completion result).loop.tasks[other]? =
          system.loop.tasks[other]? := by
  obtain ⟨current, progress⟩ := result
  have clearedEntry : (system.cleared task).loop.tasks[task]? =
      some { found with stack := [], awaiting := none, cancelRequested := false } :=
    Scheduler.clearTask_self entry
  have clearedOthers : ∀ other, other ≠ task →
      (system.cleared task).loop.tasks[other]? = system.loop.tasks[other]? :=
    fun other different => Scheduler.clearTask_other system.loop different
  simp only at tasks
  cases progress with
  | ended outcome =>
      have sameTasks : (System.settleTask task found.completion
          (current, .ended outcome)).loop.tasks = current.loop.tasks :=
        Scheduler.settle_tasks _ _ _
      rw [sameTasks, tasks]
      exact ⟨clearedEntry, clearedOthers⟩
  | suspended frames promise =>
      have sameTasks : (System.settleTask task found.completion
          (current, .suspended frames promise)).loop.tasks =
            (current.loop.modifyTask task fun found =>
              { found with stack := frames, awaiting := some promise }).tasks :=
        Scheduler.whenSettled_tasks _ _ _
      rw [sameTasks]
      simp only [Scheduler.modifyTask, tasks]
      refine ⟨?_, fun other different => ?_⟩
      · rw [List.getElem?_modify_eq, clearedEntry]
        rfl
      · simp only [List.getElem?_modify, if_neg (Ne.symm different)]
        simpa using clearedOthers other different

theorem SyncWorld.settleTask
    {result : Step} (world : SyncWorld calm uri holder synchronizer system)
    (entry : system.loop.tasks[task]? = some found)
    (step : TaskStep calm uri task (system.cleared task) synchronizer holder found.awaiting result
      later laterHolder) :
    SyncWorld calm uri laterHolder later (System.settleTask task found.completion result) ∧
      Scheduler.TaskTurn (¬ calm) (Spares calm) task system.loop
        (System.settleTask task found.completion result).loop := by
  obtain ⟨mine, others⟩ := settleTask_tasks entry step.tasks
  have isCompletion : found.completion ∈ result.1.loop.completions :=
    step.passage.loop.advances.completion_mem (List.mem_map.mpr
      ⟨_, List.mem_of_getElem? (Scheduler.clearTask_self entry), rfl⟩)
  have parts := step.passage.parts
  have lock := @LockParts.settleTask _ _ result task found.completion parts.lock isCompletion
  obtain ⟨current, progress⟩ := result
  cases progress with
  | ended outcome =>
      obtain ⟨orderly, punctual, turn, _⟩ := step.passage.loop.finish outcome entry
      have same : (System.settleTask task found.completion
          (current, .ended outcome)).deliveries uri = current.deliveries uri :=
        current.note_deliveries uri nofun
      refine ⟨?_, turn⟩
      exact {
        parts := { parts with lock }
        ledger := by
          rw [same]
          exact step.ledger
        places := .of_turn world entry others mine step.waiters step.holder turn.ungrouped nofun
          nofun nofun
        orderly
        punctual }
  | suspended frames promise =>
      have leftAt := step.suspended frames promise rfl
      obtain ⟨orderly, punctual, turn, _⟩ :=
        step.passage.loop.suspend entry leftAt.shape leftAt.plain trivial
      refine ⟨?_, turn⟩
      exact {
        parts := { parts with lock }
        ledger := step.ledger
        places := by
          refine .of_turn world entry others mine step.waiters step.holder turn.ungrouped
            leftAt.locks leftAt.changes fun other awaits => ?_
          obtain rfl : promise = other := Option.some.inj awaits
          exact ⟨leftAt.new, fun notSettling =>
            (Scheduler.whenSettled_groups _ _ _ _).trans (leftAt.ungrouped notSettling)⟩
        orderly
        punctual }

theorem SyncWorld.resumeTask
    (world : SyncWorld calm uri holder synchronizer system)
    (notReady : task ∉ resumed system.loop.ready)
    (settled : ∀ found : TaskState Frame, system.loop.tasks[task]? = some found →
      ∀ promise, found.awaiting = some promise → system.loop.outcome? promise ≠ none) :
    ∃ laterHolder later, SyncWorld calm uri laterHolder later (system.resumeTask task) := by
  unfold System.resumeTask
  split
  · exact ⟨holder, synchronizer, world⟩
  · rename_i found entry
    split
    · exact ⟨holder, synchronizer, world⟩
    · obtain ⟨later, laterHolder, run⟩ := world.runTask entry notReady (settled found entry)
      have step := run.taskStep (world.start_task entry notReady (settled found entry)) world.ledger
      exact ⟨laterHolder, later, (world.settleTask entry step).1⟩

end Ends

end LanguageClient.Client
