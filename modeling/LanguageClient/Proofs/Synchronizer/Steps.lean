import LanguageClient.Proofs.Synchronizer.Events

/-!
# The steps of a synchronizer

Every input of a run with one synchronizer keeps the invariant: an event leaves the tasks at their
places, a turn of a task moves that task alone, and an edit only marks the text as unsent.
-/

namespace LanguageClient.Client

open LanguageClient.Json LanguageClient.Loop LanguageClient.Number LanguageClient.Protocol

/-- What may happen to a client with one synchronizer. The host edits the text, starts flushes,
closes the synchronizer and cancels tasks; it leaves the file to the synchronizer. -/
def Input.OnSynchronizer : Input → Prop
  | .call (.flush synchronizer _) | .call (.closeSynchronizer synchronizer)
  | .edit synchronizer _ => synchronizer = 0
  | .call _ | .listen _ _ | .attach _ _ _ | .editText _ _ => False
  | .cancel _ | .receive _ _ | .drop _ | .behave _ | .release _ | .releaseClose _ | .tick _
  | .turn => True

section Events

variable {calm : Prop} {uri : String} {holder : Option (Nat × Change)}
  {synchronizer later : Synchronizer} {system after : System}

/-! ## Places after an event -/

theorem TaskShape.of_idle
    {stack : List Frame} (shape : TaskShape uri stack none) :
    stack = [] ∨ ∃ call : Call, call.AtSynchronizer ∧ stack = [.begin call] := by
  cases shape with
  | idle => exact Or.inl rfl
  | begins call allowed => exact Or.inr ⟨call, allowed, rfl⟩

theorem TaskPlaces.of_advances
    {waiters : List Nat} {loop laterLoop : ClientLoop} {cancels : Prop}
    {settles : Nat → Outcome Reply → Prop} (places : TaskPlaces uri holder waiters loop)
    (advances : loop.Advances cancels settles laterLoop)
    (orderly : laterLoop.Orderly (syncScope uri calm)) :
    TaskPlaces uri holder waiters laterLoop where
  locks := fun task found promise force caller entry stack => by
    rcases advances.task_cases entry with ⟨earlier, earlierEntry, sameStack, _⟩ | ⟨_, idle⟩
    · rw [sameStack] at stack
      exact places.locks task earlier promise force caller earlierEntry stack
    · have shape := orderly.tasks found (List.mem_of_getElem? entry)
      rw [stack, idle] at shape
      rcases shape.of_idle with impossible | ⟨_, _, impossible⟩ <;> cases impossible
  changes := fun task found link change caller entry stack => by
    rcases advances.task_cases entry with ⟨earlier, earlierEntry, sameStack, _⟩ | ⟨_, idle⟩
    · rw [sameStack] at stack
      exact places.changes task earlier link change caller earlierEntry stack
    · have shape := orderly.tasks found (List.mem_of_getElem? entry)
      rw [stack, idle] at shape
      rcases shape.of_idle with impossible | ⟨_, _, impossible⟩ <;> cases impossible
  awaitsOnce := fun task other found otherFound promise entry otherEntry awaits otherAwaits => by
    rcases advances.task_cases entry with ⟨earlier, earlierEntry, _, same, _⟩ | ⟨_, idle⟩
    · rcases advances.task_cases otherEntry with
        ⟨otherEarlier, otherEarlierEntry, _, otherSame, _⟩ | ⟨_, otherIdle⟩
      · rw [same] at awaits
        rw [otherSame] at otherAwaits
        exact places.awaitsOnce task other earlier otherEarlier promise earlierEntry
          otherEarlierEntry awaits otherAwaits
      · rw [otherIdle] at otherAwaits
        cases otherAwaits
    · rw [idle] at awaits
      cases awaits
  ungrouped := fun task found promise entry awaits notSettling => by
    rcases advances.task_cases entry with ⟨earlier, earlierEntry, sameStack, same, _⟩ | ⟨_, idle⟩
    · rw [same] at awaits
      rw [sameStack] at notSettling
      exact advances.ungrouped promise
        (places.ungrouped task earlier promise earlierEntry awaits notSettling)
    · rw [idle] at awaits
      cases awaits

theorem SyncPassage.world
    (passage : SyncPassage calm uri none system later after)
    (world : SyncWorld calm uri holder synchronizer system)
    (ledger : Ledger (holder.map (·.2)) later (after.deliveries uri))
    (lock : later.lock = synchronizer.lock) :
    SyncWorld calm uri holder later after where
  parts := passage.parts
  ledger
  places := by
    rw [lock]
    exact world.places.of_advances passage.loop.advances passage.loop.orderly
  orderly := passage.loop.orderly
  punctual := passage.loop.punctual

theorem SyncEvent.world
    (event : SyncEvent calm uri system later after)
    (world : SyncWorld calm uri holder synchronizer system)
    (lock : later.lock = synchronizer.lock) (version : later.version = synchronizer.version)
    (dirty : later.dirty = synchronizer.dirty) (text : later.text = synchronizer.text) :
    SyncWorld calm uri holder later after := by
  refine event.passage.world world ?_ lock
  rw [event.keeps.deliveries]
  exact world.ledger.of_same (by rw [lock]) version dirty text

/-- Taking a callback keeps the invariant, and the callback is one that may run. -/
theorem SyncWorld.taken
    {callback : Callback Action} {rest : ClientLoop}
    (world : SyncWorld calm uri holder synchronizer system)
    (taken : Scheduler.Taken system.loop callback rest) :
    SyncWorld calm uri holder synchronizer { system with loop := rest } ∧
      (syncScope uri calm).callback callback := by
  obtain ⟨orderly, allowed⟩ := world.orderly.taken taken fun timer isDebounce _ => isDebounce
  have plain : ∀ promise, system.loop.IsPlain promise → rest.IsPlain promise :=
    fun _ => taken.isPlain
  have ungrouped : ∀ promise, system.loop.IsUngrouped promise → rest.IsUngrouped promise :=
    fun _ => taken.isUngrouped
  have outcomes : ∀ promise, system.loop.IsPlain promise →
      rest.outcome? promise = system.loop.outcome? promise := fun promise _ => taken.outcome?_eq promise
  refine ⟨?_, allowed⟩
  exact {
    parts := { world.parts with lock := world.parts.lock.of_plain plain ungrouped outcomes }
    ledger := world.ledger
    places := by
      have places := world.places
      exact {
        locks := by
          rw [taken.tasks]
          exact places.locks
        changes := by
          rw [taken.tasks]
          exact places.changes
        awaitsOnce := by
          rw [taken.tasks]
          exact places.awaitsOnce
        ungrouped := by
          rw [taken.tasks]
          exact fun task found promise entry awaits notSettling =>
            ungrouped promise (places.ungrouped task found promise entry awaits notSettling) }
    orderly
    punctual := (world.punctual.taken taken).1 }

/-! ## Callbacks -/

/-- A callback that lets no task go on and is no timer leaves the text and the timer as they are. -/
theorem callback_event
    {callback : Callback Action} (world : SyncWorld calm uri holder synchronizer system)
    (allowed : (syncScope uri calm).callback callback) (noTask : ∀ task, callback ≠ .resume task)
    (noTimer : ∀ timer action, callback ≠ .fire timer action) :
    ∃ sends, SyncEvent calm uri system { synchronizer with sends }
      (system.runCallback callback) := by
  have start := world.start
  cases callback with
  | resume task => exact (noTask task rfl).elim
  | memberEnded group => exact ⟨synchronizer.sends, start.endMember group⟩
  | fire timer action => exact (noTimer timer action rfl).elim
  | skipped => exact ⟨synchronizer.sends, start⟩
  | act action =>
      cases action with
      | answerEnded session task => exact ⟨synchronizer.sends, start.endAnswer session task⟩
      | deliver link text => exact ⟨synchronizer.sends, start.receive link text⟩
      | sendEnded other task =>
          obtain rfl : other = 0 := allowed
          exact ⟨_, start.endSend task⟩
      | _ => exact allowed.elim

/-- A timer that fires starts a send. -/
theorem fire_event
    {timer : Nat} {action : Action} (world : SyncWorld calm uri holder synchronizer system)
    (allowed : (syncScope uri calm).callback (.fire timer action)) :
    ∃ sends, SyncEvent calm uri system { synchronizer with timer := none, sends }
      (system.runCallback (.fire timer action)) := by
  obtain rfl : action = .debounce 0 := allowed
  exact ⟨_, world.start.debounce⟩

theorem callback_world
    {callback : Callback Action} {rest : ClientLoop}
    (world : SyncWorld calm uri holder synchronizer system)
    (taken : Scheduler.Taken system.loop callback rest) :
    ∃ laterHolder later, SyncWorld calm uri laterHolder later
      (({ system with loop := rest } : System).runCallback callback) := by
  obtain ⟨restWorld, allowed⟩ := world.taken taken
  by_cases task : ∃ task, callback = .resume task
  · obtain ⟨task, rfl⟩ := task
    obtain ⟨notReady, settled⟩ := world.punctual.resumed_of_taken taken
    exact restWorld.resumeTask notReady settled
  · by_cases timer : ∃ timer action, callback = .fire timer action
    · obtain ⟨timer, action, rfl⟩ := timer
      obtain ⟨sends, event⟩ := fire_event restWorld allowed
      exact ⟨holder, _, event.world restWorld rfl rfl rfl rfl⟩
    · obtain ⟨sends, event⟩ := callback_event restWorld allowed
        (fun other same => task ⟨other, same⟩) fun other action same => timer ⟨other, action, same⟩
      exact ⟨holder, _, event.world restWorld rfl rfl rfl rfl⟩

/-! ## The other inputs -/

theorem SyncWorld.edit
    (world : SyncWorld calm uri holder synchronizer system) (text : String) :
    ∃ edited, SyncWorld calm uri holder edited (System.noteEscaped (system.edit 0 text)) := by
  obtain ⟨timer?, passage, same, _⟩ := edit_passage world.start.passage text
  refine ⟨_, passage.world world ?_ rfl⟩
  rw [same.deliveries]
  exact world.ledger.edit rfl rfl rfl

/-- Somebody cancels a task. In a calm world that is no task that waits for a group of others. -/
theorem SyncWorld.cancel
    {task : Nat} (world : SyncWorld calm uri holder synchronizer system)
    (alone : calm → system.loop.awaitedGroup? task = none) :
    SyncWorld calm uri holder synchronizer (system.onLoop (·.cancel task)) := by
  have advances : system.loop.Advances True (fun _ outcome => Outcome.cancelled = outcome)
      (system.loop.cancel task) :=
    Scheduler.cancel_advances world.orderly trivial (fun _ => rfl) task
  have orderly : (system.loop.cancel task).Orderly (syncScope uri calm) := by
    by_cases isCalm : calm
    · have isMember : system.loop.cancel task = system.loop.cancelMember task := by
        simp only [Scheduler.cancel, alone isCalm]
      rw [isMember]
      exact world.orderly.cancelMember task
    · exact world.orderly.cancel task fun _ _ impossible => (isCalm impossible).elim
  exact {
    parts := { world.parts with
      lock := world.parts.lock.of_advances advances fun promise outcome cancelled _ reply => by
        rw [← cancelled]
        nofun }
    ledger := world.ledger
    places := world.places.of_advances advances orderly
    orderly
    punctual := world.punctual.cancel task }

theorem SyncWorld.tick
    (world : SyncWorld calm uri holder synchronizer system) (moment : Rat) :
    SyncWorld calm uri holder synchronizer (system.onLoop (·.moveClock moment)) where
  parts := { world.parts with
    lock := world.parts.lock.of_plain
      (fun _ plain => plain.of_le rfl (Nat.le_refl _)) (fun _ => id) fun _ _ => rfl }
  ledger := world.ledger
  places := { world.places with }
  orderly := world.orderly.moveClock moment
  punctual := world.punctual.moveClock moment

/-- An input that is no turn, no edit, no cancellation and no tick leaves the synchronizer as it
is. -/
theorem input_event
    {input : Input} (world : SyncWorld calm uri holder synchronizer system)
    (allowed : input.OnSynchronizer) (noTurn : input ≠ .turn)
    (noEdit : ∀ other text, input ≠ .edit other text) (noCancel : ∀ task, input ≠ .cancel task)
    (noTick : ∀ moment, input ≠ .tick moment) :
    SyncEvent calm uri system synchronizer (system.step input) := by
  have start := world.start
  cases input with
  | call call =>
      refine start.spawn ?_
      cases call with
      | flush other force => exact allowed
      | closeSynchronizer other => exact allowed
      | _ => exact allowed.elim
  | cancel task => exact (noCancel task rfl).elim
  | edit other text => exact (noEdit other text rfl).elim
  | receive link text => exact start.receive link text
  | drop link => exact start.drop link
  | behave peer =>
      exact start.withPeer { peer with
        held := system.peer.held
        heldCloses := system.peer.heldCloses } fun _ => id
  | release place => exact start.releases (system.releaseFrame_releases place)
  | releaseClose place => exact start.releases (system.releaseClosing_releases place)
  | tick moment => exact (noTick moment rfl).elim
  | turn => exact (noTurn rfl).elim
  | _ => exact allowed.elim

/-- Every input keeps the invariant. -/
theorem SyncWorld.step
    {input : Input} (world : SyncWorld calm uri holder synchronizer system)
    (allowed : input.OnSynchronizer)
    (alone : ∀ task, input = .cancel task → calm → system.loop.awaitedGroup? task = none) :
    ∃ laterHolder later, SyncWorld calm uri laterHolder later (system.step input) := by
  cases input with
  | turn =>
      rcases system.step_turn_cases with ⟨_, same⟩ | ⟨callback, rest, next, runs⟩
      · rw [same]
        exact ⟨holder, synchronizer, world⟩
      · rw [runs]
        exact callback_world world (Scheduler.taken_of_next? next)
  | edit other text =>
      obtain rfl : other = 0 := allowed
      obtain ⟨edited, later⟩ := world.edit text
      exact ⟨holder, edited, later⟩
  | cancel task => exact ⟨holder, synchronizer, world.cancel (alone task rfl)⟩
  | tick moment => exact ⟨holder, synchronizer, world.tick moment⟩
  | _ =>
      exact ⟨holder, synchronizer,
        (input_event world allowed nofun nofun nofun nofun).world world rfl rfl rfl rfl⟩

end Events

end LanguageClient.Client
