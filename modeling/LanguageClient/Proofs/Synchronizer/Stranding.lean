import LanguageClient.Proofs.Synchronizer.CalmTurns

/-!
# Stranded edits

While the host cancels nothing but flushes and every other send succeeds, an unsent edit is covered
until an input strands it, and each of the inputs that are said to strand an edit does so.
-/

namespace LanguageClient.Client

open LanguageClient.Json LanguageClient.Loop LanguageClient.Number LanguageClient.Protocol

/-! ## Cancelled flushes -/

/-- The frames of a flush: it has not begun, it waits for the lock, it has the lock and its frame is
held back, or it has ended. -/
inductive IsFlush (uri : String) : List Frame → Prop where
  | begins (force : Bool) : IsFlush uri [.begin (.flush 0 force)]
  | locks (promise : Nat) (force : Bool) : IsFlush uri [.locking 0 promise force]
  | changes (link : Nat) (change : Change) : IsFlush uri (changeFrames uri link change)
  | ended : IsFlush uri []

/-- A task is a flush that somebody has called. -/
def System.Flushes (uri : String) (system : System) (task : Nat) : Prop :=
  ∃ found : TaskState Frame, system.loop.tasks[task]? = some found ∧ IsFlush uri found.stack

section Inputs

variable {uri text : String} {holder : Option (Nat × Change)} {synchronizer : Synchronizer}
  {system : System} {task : Nat}

theorem IsFlush.notSettling {stack : List Frame} (flush : IsFlush uri stack) :
    stack ≠ [.settlingSends 0] := by
  cases flush <;> nofun

theorem awaitedGroup?_of_flush
    (world : SyncWorld True uri holder synchronizer system) (flushes : system.Flushes uri task) :
    system.loop.awaitedGroup? task = none := by
  obtain ⟨found, entry, flush⟩ := flushes
  cases awaits : found.awaiting with
  | none =>
      simp [Scheduler.awaitedGroup?, entry, awaits]
  | some promise =>
      have ungrouped := world.places.ungrouped task found promise entry awaits flush.notSettling
      have closed : system.loop.openGroup? promise = none := by
        unfold Scheduler.openGroup?
        unfold Scheduler.IsUngrouped at ungrouped
        split
        · rfl
        · rename_i state stateEntry
          rw [stateEntry] at ungrouped
          split
          · rfl
          · exact Option.some.inj ungrouped
      simp [Scheduler.awaitedGroup?, entry, awaits, closed]

/-- What is left of a client when a flush is cancelled. -/
structure CancelledFlush (uri : String) (system : System) (task : Nat) (after : System) : Prop where
  others : ∀ other, other ≠ task → after.loop.tasks[other]? = system.loop.tasks[other]?
  completions : ∀ (other : Nat) (state : TaskState Frame), system.loop.tasks[other]? = some state →
    after.loop.outcome? state.completion = system.loop.outcome? state.completion
  signals : ∀ (other : Nat) (state : TaskState Frame), other ≠ task →
    system.loop.tasks[other]? = some state →
      ((∃ reply, after.signalOf state = .returned reply) ↔
        ∃ reply, system.signalOf state = .returned reply)
  mine : ∃ (found later : TaskState Frame), system.loop.tasks[task]? = some found ∧
    after.loop.tasks[task]? = some later ∧ later.stack = found.stack ∧
      (after.loop.outcome? later.completion ≠ none ∨ after.signalOf later = .cancelled)
  timers : after.loop.timers = system.loop.timers
  ready : ∀ callback ∈ system.loop.ready, callback ∈ after.loop.ready

/-- A flush that awaits nothing unsettled is told when it goes on. -/
theorem cancelledFlush_of_request
    {found : TaskState Frame} (entry : system.loop.tasks[task]? = some found) :
    CancelledFlush uri system task (system.onLoop (·.requestCancel task)) where
  others := fun other different => by
    simp only [System.onLoop, Scheduler.requestCancel, Scheduler.modifyTask, List.getElem?_modify,
      if_neg (Ne.symm different)]
    simp
  completions := fun _ _ _ => rfl
  signals := fun _ _ _ _ => Iff.rfl
  mine := by
    refine ⟨found, { found with cancelRequested := true }, entry, ?_, rfl, Or.inr ?_⟩
    · simp [System.onLoop, Scheduler.requestCancel, Scheduler.modifyTask, entry]
    · simp [System.signalOf]
  timers := rfl
  ready := fun _ => id

/-- A flush that waits is told by the promise that it awaits, which nobody else does. -/
theorem cancelledFlush_of_settle
    {found : TaskState Frame} {promise : Nat}
    (world : SyncWorld True uri holder synchronizer system)
    (entry : system.loop.tasks[task]? = some found) (awaits : found.awaiting = some promise)
    (unsettled : system.loop.outcome? promise = none) :
    CancelledFlush uri system task (system.settle promise .cancelled) := by
  have plain := world.orderly.awaited found (List.mem_of_getElem? entry) promise awaits
  have settled : (system.settle promise .cancelled).loop.outcome? promise = some .cancelled :=
    Scheduler.settle_outcome?_self _ plain.known unsettled
  exact {
    others := fun other _ => congrArg (·[other]?) (Scheduler.settle_tasks _ _ _)
    completions := fun other state stateEntry => by
      apply Scheduler.settle_outcome?_of_ne
      intro same
      apply plain.noCompletion
      rw [← same]
      exact List.mem_map.mpr ⟨state, List.mem_of_getElem? stateEntry, rfl⟩
    signals := fun other state different stateEntry => by
      refine signalOf_returned_iff rfl rfl ?_ ?_
      · intro awaited outcome _ earlier
        exact Scheduler.settle_outcome?_of_some _ earlier
      · intro awaited outcome otherAwaits earlier later
        rcases Scheduler.settle_outcome?_cases later with before | ⟨_, rfl, _⟩
        · rw [earlier] at before
          cases before
        · exact (different (world.places.awaitsOnce other task state found awaited stateEntry
            entry otherAwaits awaits)).elim
    mine := by
      refine ⟨found, found, entry, ?_, rfl, Or.inr ?_⟩
      · exact (congrArg (·[task]?) (Scheduler.settle_tasks _ _ _)).trans entry
      · simp [System.signalOf, awaits, settled]
    timers := Scheduler.settle_timers _ _ _
    ready := (system.loop.settle_steady promise .cancelled).ready }

theorem cancelledFlush
    (world : SyncWorld True uri holder synchronizer system) (flushes : system.Flushes uri task) :
    CancelledFlush uri system task (system.onLoop (·.cancel task)) := by
  obtain ⟨found, entry, _⟩ := id flushes
  have isMember : system.onLoop (·.cancel task) = system.onLoop (·.cancelMember task) := by
    simp only [System.onLoop, Scheduler.cancel, awaitedGroup?_of_flush world flushes]
  rw [isMember]
  cases ended : system.loop.hasEnded task with
  | true =>
      have nothing : system.onLoop (·.cancelMember task) = system := by
        simp only [System.onLoop, Scheduler.cancelMember, ended, if_true]
      rw [nothing]
      exact {
        others := fun _ _ => rfl
        completions := fun _ _ _ => rfl
        signals := fun _ _ _ _ => Iff.rfl
        mine := by
          refine ⟨found, found, entry, entry, rfl, Or.inl fun unended => ?_⟩
          simp [Scheduler.hasEnded, entry, Scheduler.isSettled, unended] at ended
        timers := rfl
        ready := fun _ => id }
  | false =>
      cases awaits : found.awaiting with
      | none =>
          have requested : system.onLoop (·.cancelMember task) =
              system.onLoop (·.requestCancel task) := by
            simp [System.onLoop, Scheduler.cancelMember, ended, entry, awaits]
          rw [requested]
          exact cancelledFlush_of_request entry
      | some promise =>
          cases outcome : system.loop.outcome? promise with
          | some _ =>
              have requested : system.onLoop (·.cancelMember task) =
                  system.onLoop (·.requestCancel task) := by
                simp [System.onLoop, Scheduler.cancelMember, ended, entry, awaits,
                  Scheduler.isSettled, outcome]
              rw [requested]
              exact cancelledFlush_of_request entry
          | none =>
              have settles : system.onLoop (·.cancelMember task) =
                  system.settle promise .cancelled := by
                simp [System.onLoop, Scheduler.cancelMember, ended, entry, awaits,
                  Scheduler.isSettled, outcome, System.settle]
              rw [settles]
              exact cancelledFlush_of_settle world entry awaits outcome

namespace CancelledFlush

variable {after : System} (cancelled : CancelledFlush uri system task after)

include cancelled

theorem not_transmits : ¬ after.Transmits uri text task := by
  rintro ⟨state, entry, unended, ⟨reply, returned⟩, _⟩
  obtain ⟨_, later, _, laterEntry, _, told⟩ := cancelled.mine
  rw [entry] at laterEntry
  obtain rfl := Option.some.inj laterEntry
  rcases told with ended | isCancelled
  · exact ended unended
  · rw [isCancelled] at returned
    cases returned

theorem transmits_other {other : Nat} (different : other ≠ task) :
    after.Transmits uri text other ↔ system.Transmits uri text other :=
  transmits_iff (cancelled.others other different) (cancelled.completions other)
    fun state entry => cancelled.signals other state different entry

theorem closing_entry
    (flushes : system.Flushes uri task) {other : Nat} {state : TaskState Frame}
    (stack : state.stack = [.settlingSends 0]) :
    after.loop.tasks[other]? = some state ↔ system.loop.tasks[other]? = some state := by
  by_cases same : other = task
  · subst same
    obtain ⟨found, later, entry, laterEntry, sameStack, _⟩ := cancelled.mine
    obtain ⟨flushed, flushEntry, flush⟩ := flushes
    rw [entry] at flushEntry
    obtain rfl := Option.some.inj flushEntry
    constructor
    · intro stateEntry
      rw [laterEntry] at stateEntry
      rw [← Option.some.inj stateEntry, sameStack] at stack
      exact (flush.notSettling stack).elim
    · intro stateEntry
      rw [entry] at stateEntry
      rw [← Option.some.inj stateEntry] at stack
      exact (flush.notSettling stack).elim
  · rw [cancelled.others other same]

theorem isClosing_iff (flushes : system.Flushes uri task) :
    after.IsClosing ↔ system.IsClosing := by
  constructor
  · rintro ⟨state, member, stack⟩
    obtain ⟨other, entry⟩ := List.mem_iff_getElem?.mp member
    exact ⟨state, List.mem_of_getElem? ((cancelled.closing_entry flushes stack).mp entry), stack⟩
  · rintro ⟨state, member, stack⟩
    obtain ⟨other, entry⟩ := List.mem_iff_getElem?.mp member
    exact ⟨state, List.mem_of_getElem? ((cancelled.closing_entry flushes stack).mpr entry), stack⟩

end CancelledFlush

/-- A cancelled flush strands an edit that nobody else would send, and no other edit. -/
theorem CalmWorld.cancel
    (calm : CalmWorld uri holder synchronizer system) (flushes : system.Flushes uri task) :
    let after := system.onLoop (·.cancel task)
    CalmWorld uri holder synchronizer after ∧
      (system.Covers uri → (after.Covers uri ↔ ¬ system.Strands uri (.cancel task))) := by
  intro after
  have cancelled : CancelledFlush uri system task after := cancelledFlush calm.world flushes
  have later : CalmWorld uri holder synchronizer after := {
    world := calm.world.cancel fun _ => awaitedGroup?_of_flush calm.world flushes
    settles := fun other state entry stack => by
      have earlier := (cancelled.closing_entry flushes stack).mp entry
      have different : other ≠ task := by
        rintro rfl
        obtain ⟨flushed, flushEntry, flush⟩ := flushes
        rw [earlier] at flushEntry
        rw [Option.some.inj flushEntry] at stack
        exact flush.notSettling stack
      exact (cancelled.signals other state different earlier).mpr
        (calm.settles other state earlier stack)
    timer := fun timer armed =>
      (calm.timer timer armed).of_same cancelled.timers cancelled.ready }
  have sameReady : after.isReady 0 = system.isReady 0 := rfl
  refine ⟨later, fun covers => ?_⟩
  rw [later.covers_iff, sameReady, cancelled.isClosing_iff flushes]
  constructor
  · rintro laterCovers ⟨_, text, owes, disarmed, transmits, only⟩
    obtain ⟨ready, notClosing, dirty, rfl⟩ := calm.world.parts.owes_iff.mp owes
    rcases laterCovers ready notClosing dirty with armed | ⟨other, otherTransmits⟩
    · exact disarmed (calm.isArmed_iff.mpr armed)
    · have different : other ≠ task := by
        rintro rfl
        exact cancelled.not_transmits otherTransmits
      exact different (only other ((cancelled.transmits_other different).mp otherTransmits))
  · intro kept ready notClosing dirty
    by_cases somebody : ∃ other, after.Transmits uri synchronizer.text other
    · exact Or.inr somebody
    · have only : ∀ other, system.Transmits uri synchronizer.text other → other = task := by
        intro other transmits
        by_cases same : other = task
        · exact same
        · exact (somebody ⟨other, (cancelled.transmits_other same).mpr transmits⟩).elim
      rcases calm.covers_iff.mp covers ready notClosing dirty with armed | ⟨other, transmits⟩
      · exact Or.inl armed
      · obtain rfl := only other transmits
        refine Or.inl fun disarmed => kept (.cancels other synchronizer.text ?_ ?_ transmits only)
        · exact calm.world.parts.owes_iff.mpr ⟨ready, notClosing, dirty, rfl⟩
        · exact fun armed => calm.isArmed_iff.mp armed disarmed

/-! ## The same work -/

section Same

variable {after : System} (calm : CalmWorld uri holder synchronizer system)
  (later : CalmWorld uri holder synchronizer after)
  (tasks : after.loop.tasks = system.loop.tasks)
  (promises : after.loop.promises = system.loop.promises)
  (ready : after.isReady 0 = system.isReady 0)

include calm later tasks promises ready

theorem CalmWorld.covers_of_same : after.Covers uri ↔ system.Covers uri := by
  rw [later.covers_iff, calm.covers_iff, ready, isClosing_of_same tasks]
  simp only [transmits_of_same tasks promises]

theorem CalmWorld.abandons_of_same : after.Abandons uri task ↔ system.Abandons uri task := by
  have sameOutcome : ∀ promise, after.loop.outcome? promise = system.loop.outcome? promise := by
    intro promise
    simp only [Scheduler.outcome?, promises]
  have sameSynchronizers : after.synchronizers = system.synchronizers :=
    later.world.parts.synchronizers.trans calm.world.parts.synchronizers.symm
  simp only [System.Abandons, later.isArmed_iff, calm.isArmed_iff, isClosing_of_same tasks,
    transmits_of_same tasks promises, signalOf_of_same promises, sameOutcome, sameSynchronizers,
    ready, tasks]

end Same

/-! ## Edits and the clock -/

/-- An edit is stranded at once if no clock can count the wait and nobody sends the same text. -/
theorem CalmWorld.edit
    (calm : CalmWorld uri holder synchronizer system) :
    let after := System.noteEscaped (system.edit 0 text)
    ∃ later, CalmWorld uri holder later after ∧
      (after.Covers uri ↔ ¬ system.Strands uri (.edit 0 text)) := by
  intro after
  obtain ⟨timer?, passage, sameWork, armed⟩ := edit_passage calm.world.start.passage text
  have same : system.SameWork uri after := sameWork
  have later : CalmWorld uri holder { synchronizer with text, dirty := true, timer := timer? }
      after := {
    world := passage.world calm.world (same.deliveries ▸ calm.world.ledger.edit rfl rfl rfl) rfl
    settles := settlesCalmly_of_same same.tasks same.promises calm.settles
    timer := fun timer isTimer => by
      rcases armed with ⟨_, _, hasTimer⟩ | ⟨_, unchanged, sameLoop⟩
      · exact hasTimer timer isTimer
      · have hasTimer := calm.timer timer (unchanged.symm.trans isTimer)
        unfold System.HasTimer at hasTimer ⊢
        rw [sameLoop]
        exact hasTimer }
  have sameReady : after.isReady 0 = system.isReady 0 := by
    rw [Bool.eq_iff_iff, isReady_iff passage, isReady_iff calm.world.start.passage, same.isOpen]
  have covered : after.Covers uri ↔ (system.isReady 0 = true → ¬ system.IsClosing →
      timer? ≠ none ∨ ∃ task, system.Transmits uri text task) := by
    rw [later.covers_iff, sameReady, isClosing_of_same same.tasks]
    simp only [transmits_of_same same.tasks same.promises, forall_const]
  refine ⟨_, later, covered.trans ⟨?_, ?_⟩⟩
  · rintro covers (_ | _ | ⟨_, _, isOnly, ready, notClosing, endless, nobody⟩)
    rw [calm.world.parts.synchronizers] at isOnly
    obtain rfl := List.singleton_inj.mp isOnly
    rcases covers ready notClosing with isArmed | ⟨other, transmits⟩
    · rcases armed with ⟨_, counted, _⟩ | ⟨unready, _⟩
      · rw [endless, Option.isSome_none, Option.isSome_eq_false_iff, Option.isNone_iff_eq_none]
          at counted
        exact isArmed counted
      · rw [ready] at unready
        cases unready
    · exact nobody other transmits
  · intro kept ready notClosing
    rcases armed with ⟨_, counted, _⟩ | ⟨unready, _⟩
    · by_cases somebody : ∃ other, system.Transmits uri text other
      · exact Or.inr somebody
      · refine Or.inl fun disarmed => kept (.uncounted text synchronizer
          calm.world.parts.synchronizers ready notClosing ?_ fun other transmits =>
            somebody ⟨other, transmits⟩)
        rw [disarmed, Option.isSome_none] at counted
        rw [← Option.isNone_iff_eq_none, ← Option.isSome_eq_false_iff]
        exact counted.symm
    · rw [ready] at unready
      cases unready

/-- The clock keeps everything as it is until a timer is due. -/
theorem CalmWorld.tick
    (calm : CalmWorld uri holder synchronizer system) (moment : Rat) :
    let after := system.onLoop (·.moveClock moment)
    CalmWorld uri holder synchronizer after ∧ (after.Covers uri ↔ system.Covers uri) := by
  intro after
  have same : system.SameWork uri after := ⟨rfl, rfl, rfl, rfl, rfl⟩
  have later : CalmWorld uri holder synchronizer after := {
    world := calm.world.tick moment
    settles := settlesCalmly_of_same same.tasks same.promises calm.settles
    timer := calm.timer }
  exact ⟨later, calm.covers_of_same later same.tasks same.promises rfl⟩

/-! ## Turns -/

/-- A task that goes on abandons an edit or leaves none uncovered. -/
theorem CalmWorld.resumeTask
    (calm : CalmWorld uri holder synchronizer system)
    (notReady : task ∉ resumed system.loop.ready)
    (settled : ∀ found : TaskState Frame, system.loop.tasks[task]? = some found →
      ∀ promise, found.awaiting = some promise → system.loop.outcome? promise ≠ none)
    (succeed : system.SendsSucceed uri) :
    ∃ laterHolder later, CalmWorld uri laterHolder later (system.resumeTask task) ∧
      (system.Covers uri →
        ((system.resumeTask task).Covers uri ↔ ¬ system.Abandons uri task)) := by
  unfold System.resumeTask
  split
  · rename_i absent
    refine ⟨holder, synchronizer, calm, fun covers => ⟨fun _ => ?_, fun _ => covers⟩⟩
    rintro ⟨_, _, _, _, _, entry, _⟩
    rw [absent] at entry
    cases entry
  · rename_i found entry
    split
    · rename_i ended
      refine ⟨holder, synchronizer, calm, fun covers => ⟨fun _ => ?_, fun _ => covers⟩⟩
      rintro ⟨state, _, _, _, _, stateEntry, unended, _⟩
      simp [Scheduler.hasEnded, stateEntry, Scheduler.isSettled, unended] at ended
    · rename_i unended
      obtain ⟨later, laterHolder, run⟩ := calm.world.runTask entry notReady (settled found entry)
      have turn : CalmTurn uri holder synchronizer system task found _ later laterHolder := {
        calm
        entry
        unended := by
          simpa [Scheduler.hasEnded, entry, Scheduler.isSettled] using unended
        start := calm.world.start_task entry notReady (settled found entry)
        run }
      exact ⟨laterHolder, later, turn.calmWorld, turn.covers_iff succeed⟩

/-- A turn strands an edit only if a task that goes on abandons it. -/
theorem CalmWorld.turn
    (calm : CalmWorld uri holder synchronizer system) (succeed : system.SendsSucceed uri) :
    let after := system.step .turn
    ∃ laterHolder later, CalmWorld uri laterHolder later after ∧
      (system.Covers uri → (after.Covers uri ↔ ¬ system.Strands uri .turn)) := by
  intro after
  rcases system.step_turn_cases with ⟨idle, same⟩ | ⟨callback, rest, next, runs⟩
  · have isAfter : after = system := same
    rw [isAfter]
    refine ⟨holder, synchronizer, calm, fun covers => ⟨fun _ => ?_, fun _ => covers⟩⟩
    rintro (_ | ⟨_, goesOn, _⟩)
    simp [System.comingCallback?, idle] at goesOn
  · have coming : system.comingCallback? = some callback := by
      simp only [System.comingCallback?, next, Option.map_some]
    have taken := Scheduler.taken_of_next? next
    have restWorld := calm.world.taken taken
    have notStrands (noTask : ∀ task, callback ≠ .resume task) : ¬ system.Strands uri .turn := by
      rintro (_ | ⟨task, goesOn, _⟩)
      rw [coming] at goesOn
      exact noTask task (Option.some.inj goesOn)
    have isAfter : after =
      ({ system with loop := rest } : System).runCallback callback := runs
    rw [isAfter]
    cases callback with
    | resume task =>
        obtain ⟨notReady, settled⟩ := calm.world.punctual.resumed_of_taken taken
        have restCalm := calm.of_taken taken nofun
        obtain ⟨laterHolder, later, laterCalm, covers⟩ :=
          restCalm.resumeTask notReady settled fun found member text =>
            have takes := succeed found member text
            ⟨takes.inSession, takes.inRange, takes.unrefused⟩
        refine ⟨laterHolder, later, laterCalm, fun before => ?_⟩
        have restCovers :=
          (calm.covers_of_same restCalm taken.tasks taken.promises rfl).mpr before
        refine (covers restCovers).trans ?_
        rw [calm.abandons_of_same restCalm taken.tasks taken.promises rfl]
        refine not_congr ⟨fun abandons => .ends task coming abandons, ?_⟩
        rintro (_ | ⟨other, goesOn, abandons⟩)
        rw [coming] at goesOn
        obtain rfl : task = other := by simpa using goesOn
        exact abandons
    | fire timer action =>
        have settles : ({ system with loop := rest } : System).SettlesCalmly :=
          settlesCalmly_of_same taken.tasks taken.promises calm.settles
        obtain ⟨later, laterCalm, covers⟩ := CalmWorld.of_fire restWorld.1 settles restWorld.2
        exact ⟨holder, later, laterCalm, fun _ => ⟨fun _ => notStrands nofun, fun _ => covers⟩⟩
    | _ =>
        have restCalm := calm.of_taken taken nofun
        obtain ⟨sends, event⟩ := callback_event restWorld.1 restWorld.2 nofun nofun
        obtain ⟨laterCalm, covers⟩ := restCalm.of_event event
        refine ⟨holder, _, laterCalm, fun before => ⟨fun _ => notStrands nofun, fun _ => ?_⟩⟩
        exact covers ((calm.covers_of_same restCalm taken.tasks taken.promises rfl).mpr before)

end Inputs

end LanguageClient.Client
