import LanguageClient.Proofs.Synchronizer.Runs

/-!
# Who sends an unsent edit

An edit that is not sent yet is covered while the timer is armed, or while some task is on its way
to hand the text over. Every event keeps it covered, except for three that strand it: the last such
task is cancelled, the change under way ends without it, or no clock can count the wait.

A world in which the host cancels nothing but flushes. The tasks that close the synchronizer then
wait until its sends have ended, and no event takes an edit away from those who will send it.
-/

namespace LanguageClient.Client

open LanguageClient.Json LanguageClient.Loop LanguageClient.Number LanguageClient.Protocol

/-! ## Coverage -/

namespace System

/-- A task will hand a text over: it has not ended, and nobody has cancelled it. -/
def Transmits (uri text : String) (system : System) (task : Nat) : Prop :=
  ∃ found : TaskState Frame, system.loop.tasks[task]? = some found ∧
    system.loop.outcome? found.completion = none ∧
    (∃ reply, system.signalOf found = .returned reply) ∧ Carries uri text found.stack

/-- Somebody closes the synchronizer and waits for its sends. -/
def IsClosing (system : System) : Prop :=
  ∃ found ∈ system.loop.tasks, found.stack = [.settlingSends 0]

/-- The timer of the synchronizer is armed. -/
def IsArmed (system : System) : Prop :=
  ∃ found ∈ system.synchronizers, ∃ timer, found.timer = some timer ∧ system.HasTimer timer

/-- A document that is open and not being closed has an edit that is not sent yet. -/
structure Owes (system : System) (text : String) : Prop where
  ready : system.isReady 0 = true
  notClosing : ¬ system.IsClosing
  unsent : ∃ found ∈ system.synchronizers, found.dirty = true ∧ found.text = text

/-- No edit is left with nothing that would send it. -/
def Covers (uri : String) (system : System) : Prop :=
  ∀ text, system.Owes text → system.IsArmed ∨ ∃ task, system.Transmits uri text task

end System

/-! ## Stranded edits -/

/-- When a task goes on, the change that it sends ends and leaves an edit unsent that nobody else
will send: one that was made meanwhile, or its own, because it was cancelled. -/
def System.Abandons (uri : String) (system : System) (task : Nat) : Prop :=
  ∃ (found : TaskState Frame) (link : Nat) (change : Change) (caller : List Frame)
    (synchronizer : Synchronizer),
    system.loop.tasks[task]? = some found ∧ system.loop.outcome? found.completion = none ∧
      found.stack = changeFrames uri link change ++ caller ∧
      system.synchronizers = [synchronizer] ∧ system.isReady 0 = true ∧ ¬ system.IsClosing ∧
      (synchronizer.dirty = true ∨
        change.wasDirty = true ∧ ∀ reply, system.signalOf found ≠ .returned reply) ∧
      ¬ system.IsArmed ∧
      ∀ other, system.Transmits uri synchronizer.text other → other = task

/-- An input leaves an edit with nothing that would send it. -/
inductive System.Strands (uri : String) (system : System) : Input → Prop where
  /-- The only task that would hand the text over is cancelled. -/
  | cancels (task : Nat) (text : String) (owes : system.Owes text) (disarmed : ¬ system.IsArmed)
      (transmits : system.Transmits uri text task)
      (only : ∀ other, system.Transmits uri text other → other = task) :
    System.Strands uri system (.cancel task)
  /-- The change under way ends without the edit. -/
  | ends (task : Nat) (goesOn : system.comingCallback? = some (.resume task))
      (abandons : system.Abandons uri task) :
    System.Strands uri system .turn
  /-- No clock can count the wait after an edit. -/
  | uncounted (text : String) (synchronizer : Synchronizer)
      (isOnly : system.synchronizers = [synchronizer]) (ready : system.isReady 0 = true)
      (notClosing : ¬ system.IsClosing) (endless : synchronizer.debounce.delay? = none)
      (nobody : ∀ task, ¬ system.Transmits uri text task) :
    System.Strands uri system (.edit 0 text)

/-! ## Signals -/

section Signals

variable {uri text : String} {system after : System} {found later : TaskState Frame} {task : Nat}

theorem signalOf_of_same
    (promises : after.loop.promises = system.loop.promises) (found : TaskState Frame) :
    after.signalOf found = system.signalOf found := by
  simp only [System.signalOf, Scheduler.outcome?, promises]

/-- Whether a task is told of a result depends on its flag and on the promise that it awaits. -/
theorem signalOf_returned_iff
    (flag : later.cancelRequested = found.cancelRequested)
    (awaiting : later.awaiting = found.awaiting)
    (kept : ∀ promise outcome, found.awaiting = some promise →
      system.loop.outcome? promise = some outcome → after.loop.outcome? promise = some outcome)
    (gained : ∀ promise outcome, found.awaiting = some promise →
      system.loop.outcome? promise = none → after.loop.outcome? promise = some outcome →
        ∃ reply, outcome = .returned reply) :
    (∃ reply, after.signalOf later = .returned reply) ↔
      ∃ reply, system.signalOf found = .returned reply := by
  unfold System.signalOf
  rw [flag, awaiting]
  cases found.cancelRequested with
  | true => simp
  | false =>
      cases awaits : found.awaiting with
      | none => simp
      | some promise =>
          cases earlier : system.loop.outcome? promise with
          | some outcome =>
              simp [earlier, kept promise outcome awaits earlier]
          | none =>
              cases settled : after.loop.outcome? promise with
              | none => simp [earlier, settled]
              | some outcome =>
                  obtain ⟨reply, rfl⟩ := gained promise outcome awaits earlier settled
                  simp [earlier, settled]

theorem transmits_iff
    (same : after.loop.tasks[task]? = system.loop.tasks[task]?)
    (completion : ∀ found, system.loop.tasks[task]? = some found →
      after.loop.outcome? found.completion = system.loop.outcome? found.completion)
    (signal : ∀ found, system.loop.tasks[task]? = some found →
      ((∃ reply, after.signalOf found = .returned reply) ↔
        ∃ reply, system.signalOf found = .returned reply)) :
    after.Transmits uri text task ↔ system.Transmits uri text task := by
  unfold System.Transmits
  rw [same]
  refine exists_congr fun found => and_congr_right fun entry => ?_
  rw [completion found entry, signal found entry]

theorem transmits_of_same
    (tasks : after.loop.tasks = system.loop.tasks)
    (promises : after.loop.promises = system.loop.promises) :
    after.Transmits uri text task ↔ system.Transmits uri text task := by
  refine transmits_iff (by rw [tasks]) (fun found _ => ?_) fun found _ => ?_
  · simp only [Scheduler.outcome?, promises]
  · rw [signalOf_of_same promises]

theorem isClosing_of_same (tasks : after.loop.tasks = system.loop.tasks) :
    after.IsClosing ↔ system.IsClosing := by
  simp only [System.IsClosing, tasks]

end Signals

/-! ## Calm worlds -/

/-- Whoever closes the synchronizer is not cancelled while it waits. -/
def System.SettlesCalmly (system : System) : Prop :=
  ∀ (task : Nat) (found : TaskState Frame), system.loop.tasks[task]? = some found →
    found.stack = [.settlingSends 0] → ∃ reply, system.signalOf found = .returned reply

/-- The invariant of a world in which only flushes are cancelled. -/
structure CalmWorld
    (uri : String) (holder : Option (Nat × Change)) (synchronizer : Synchronizer)
    (system : System) :
    Prop where
  world : SyncWorld True uri holder synchronizer system
  settles : system.SettlesCalmly
  timer : ∀ timer, synchronizer.timer = some timer → system.HasTimer timer

section Worlds

variable {uri text : String} {holder : Option (Nat × Change)}
  {synchronizer later : Synchronizer} {system after : System} {task : Nat}

/-! ## Coverage in a calm world -/

theorem CalmWorld.isArmed_iff (calm : CalmWorld uri holder synchronizer system) :
    system.IsArmed ↔ synchronizer.timer ≠ none := by
  constructor
  · rintro ⟨found, member, timer, armed, _⟩
    rw [calm.world.parts.synchronizers] at member
    rw [← List.mem_singleton.mp member, armed]
    nofun
  · intro armed
    obtain ⟨timer, isTimer⟩ := Option.ne_none_iff_exists'.mp armed
    refine ⟨synchronizer, ?_, timer, isTimer, calm.timer timer isTimer⟩
    rw [calm.world.parts.synchronizers]
    exact List.mem_cons_self

theorem SyncParts.owes_iff (parts : SyncParts uri synchronizer system) :
    system.Owes text ↔
      system.isReady 0 = true ∧ ¬ system.IsClosing ∧ synchronizer.dirty = true ∧
        synchronizer.text = text := by
  constructor
  · rintro ⟨ready, notClosing, found, member, dirty, same⟩
    rw [parts.synchronizers] at member
    obtain rfl := List.mem_singleton.mp member
    exact ⟨ready, notClosing, dirty, same⟩
  · rintro ⟨ready, notClosing, dirty, same⟩
    refine ⟨ready, notClosing, synchronizer, ?_, dirty, same⟩
    rw [parts.synchronizers]
    exact List.mem_cons_self

theorem CalmWorld.covers_iff (calm : CalmWorld uri holder synchronizer system) :
    system.Covers uri ↔
      (system.isReady 0 = true → ¬ system.IsClosing → synchronizer.dirty = true →
        synchronizer.timer ≠ none ∨ ∃ task, system.Transmits uri synchronizer.text task) := by
  simp only [System.Covers, calm.world.parts.owes_iff, calm.isArmed_iff]
  constructor
  · intro covers ready notClosing dirty
    exact covers synchronizer.text ⟨ready, notClosing, dirty, rfl⟩
  · rintro covers text ⟨ready, notClosing, dirty, rfl⟩
    exact covers ready notClosing dirty

theorem settlesCalmly_of_same
    (tasks : after.loop.tasks = system.loop.tasks)
    (promises : after.loop.promises = system.loop.promises) (settles : system.SettlesCalmly) :
    after.SettlesCalmly := by
  intro task found entry stack
  rw [tasks] at entry
  rw [signalOf_of_same promises]
  exact settles task found entry stack

/-! ## What goes on through an advance -/

section Advances

variable (advances : system.loop.Advances (¬ True) (Spares True) after.loop)

include advances

/-- A task stays where it is and learns no more of a cancellation than before. -/
theorem task_of_advances
    {found : TaskState Frame} (entry : system.loop.tasks[task]? = some found) :
    after.loop.tasks[task]? = some found ∧
      after.loop.outcome? found.completion = system.loop.outcome? found.completion ∧
      ((∃ reply, after.signalOf found = .returned reply) ↔
        ∃ reply, system.signalOf found = .returned reply) := by
  obtain ⟨flag, laterEntry, same | impossible⟩ := advances.tasks task found entry
  · subst same
    refine ⟨laterEntry, ?_, ?_⟩
    · exact advances.completions _ (List.mem_map.mpr ⟨found, List.mem_of_getElem? entry, rfl⟩)
    · exact signalOf_returned_iff rfl rfl (fun promise outcome _ => advances.kept promise outcome)
        fun promise outcome _ unsettled settled =>
          advances.gained promise outcome unsettled settled trivial
  · exact (impossible trivial).elim

theorem transmits_of_advances
    (transmits : system.Transmits uri text task) :
    after.Transmits uri text task := by
  obtain ⟨found, entry, _⟩ := id transmits
  obtain ⟨laterEntry, _⟩ := task_of_advances advances entry
  refine (transmits_iff (laterEntry.trans entry.symm) ?_ ?_).mpr transmits
  · exact fun state stateEntry => (task_of_advances advances stateEntry).2.1
  · exact fun state stateEntry => (task_of_advances advances stateEntry).2.2

theorem isClosing_of_advances (closing : system.IsClosing) : after.IsClosing := by
  obtain ⟨found, member, settles⟩ := closing
  obtain ⟨task, entry⟩ := List.mem_iff_getElem?.mp member
  obtain ⟨laterEntry, _⟩ := task_of_advances advances entry
  exact ⟨found, List.mem_of_getElem? laterEntry, settles⟩

theorem settlesCalmly_of_advances
    (orderly : after.loop.Orderly (syncScope uri True)) (settles : system.SettlesCalmly) :
    after.SettlesCalmly := by
  intro task found entry stack
  rcases advances.task_cases entry with ⟨earlier, earlierEntry, sameStack, _⟩ | ⟨_, idle⟩
  · obtain ⟨laterEntry, _, signal⟩ := task_of_advances advances earlierEntry
    rw [entry] at laterEntry
    obtain rfl := Option.some.inj laterEntry
    exact signal.mpr (settles task found earlierEntry stack)
  · have shape := orderly.tasks found (List.mem_of_getElem? entry)
    rw [stack, idle] at shape
    cases shape

end Advances

/-! ## Events -/

/-- An event that leaves the text and the timer as they are keeps the invariant and takes no edit
away from those who will send it. -/
theorem CalmWorld.of_event
    {sends : List Nat} (calm : CalmWorld uri holder synchronizer system)
    (event : SyncEvent True uri system { synchronizer with sends } after) :
    CalmWorld uri holder { synchronizer with sends } after ∧
      (system.Covers uri → after.Covers uri) := by
  have advances := event.passage.loop.advances
  have later : CalmWorld uri holder { synchronizer with sends } after := {
    world := event.world calm.world rfl rfl rfl rfl
    settles := settlesCalmly_of_advances advances event.passage.loop.orderly calm.settles
    timer := fun timer armed =>
      (calm.timer timer armed).of_same event.keeps.timers event.keeps.ready }
  refine ⟨later, fun covers => later.covers_iff.mpr fun ready notClosing dirty => ?_⟩
  have readyBefore : system.isReady 0 = true := by
    rw [isReady_iff event.passage, event.keeps.isOpen] at ready
    exact (isReady_iff calm.world.start.passage).mpr ready
  rcases calm.covers_iff.mp covers readyBefore
      (fun closing => notClosing (isClosing_of_advances advances closing)) dirty with
    armed | ⟨task, transmits⟩
  · exact Or.inl armed
  · exact Or.inr ⟨task, transmits_of_advances advances transmits⟩

/-! ## Callbacks -/

section Taken

variable {callback : Callback Action} {rest : ClientLoop}
  (taken : Scheduler.Taken system.loop callback rest)

include taken

/-- Unless a timer fires, taking a callback keeps the invariant. -/
theorem CalmWorld.of_taken
    (calm : CalmWorld uri holder synchronizer system)
    (noTimer : ∀ timer action, callback ≠ .fire timer action) :
    CalmWorld uri holder synchronizer { system with loop := rest } where
  world := (calm.world.taken taken).1
  settles := settlesCalmly_of_same taken.tasks taken.promises calm.settles
  timer := fun timer armed => by
    rcases calm.timer timer armed with ⟨found, member, rfl, isDebounce⟩ | ready
    · rcases taken.timersKept found member with kept | fires | ready
      · exact Or.inl ⟨found, kept, rfl, isDebounce⟩
      · exact (noTimer _ _ fires.symm).elim
      · rw [isDebounce] at ready
        exact Or.inr ready
    · rcases taken.readyKept _ ready with fires | kept
      · exact (noTimer _ _ fires.symm).elim
      · exact Or.inr kept

end Taken

theorem debounce_transmits (system : System) :
    (system.debounce 0).Transmits uri text system.nextTask := by
  let started : TaskState Frame := {
    stack := [.begin (.sendDebounced 0)]
    awaiting := none
    cancelRequested := false
    completion := system.nextPromise }
  have spawned : (system.spawn (.sendDebounced 0)).loop.tasks[system.nextTask]? = some started :=
    List.getElem?_concat_length
  have unended : (system.spawn (.sendDebounced 0)).loop.outcome? started.completion = none :=
    (Scheduler.spawn_outcome? _ _ _).trans (Scheduler.outcome?_eq_none_of_le (Nat.le_refl _))
  have noted : (system.spawn (.sendDebounced 0)).whenEnded system.nextTask
      (.sendEnded 0 system.nextTask) =
        (system.spawn (.sendDebounced 0)).onLoop
          (·.whenSettled started.completion (.act (.sendEnded 0 system.nextTask))) := by
    simp only [System.whenEnded, spawned]
  refine ⟨started, ?_, ?_, ⟨.nothing, System.signalOf_of_idle rfl rfl⟩, .debounced⟩
  · simp only [System.debounce, noted]
    exact (congrArg (·[system.nextTask]?) (Scheduler.whenSettled_tasks _ _ _)).trans spawned
  · simp only [System.debounce, noted]
    exact (Scheduler.whenSettled_outcome? _ _ _ _).trans unended

/-- A timer that fires hands an unsent edit on to a new send. -/
theorem CalmWorld.of_fire
    {timer : Nat} {action : Action} (calm : SyncWorld True uri holder synchronizer system)
    (settles : system.SettlesCalmly)
    (allowed : (syncScope uri True).callback (.fire timer action)) :
    ∃ later, CalmWorld uri holder later (system.runCallback (.fire timer action)) ∧
      (system.runCallback (.fire timer action)).Covers uri := by
  obtain ⟨sends, event⟩ := fire_event calm allowed
  obtain rfl : action = .debounce 0 := allowed
  have later : CalmWorld uri holder { synchronizer with timer := none, sends }
      (system.runCallback (.fire timer (.debounce 0))) := {
    world := event.world calm rfl rfl rfl rfl
    settles := settlesCalmly_of_advances event.passage.loop.advances event.passage.loop.orderly
      settles
    timer := nofun }
  exact ⟨_, later, fun text _ => Or.inr ⟨_, debounce_transmits system⟩⟩

end Worlds

end LanguageClient.Client
