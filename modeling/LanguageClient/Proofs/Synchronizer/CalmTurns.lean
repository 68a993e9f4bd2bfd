import LanguageClient.Proofs.Synchronizer.Coverage

/-!
# Turns in calm worlds

A task that goes on hands over the text, waits to do so, or leaves an unsent edit to the timer and to
other tasks. Only the end of a change can leave an edit to nobody.
-/

namespace LanguageClient.Client

open LanguageClient.Json LanguageClient.Loop LanguageClient.Number LanguageClient.Protocol

/-- No send that goes on now would fail. -/
def System.SendsSucceed (uri : String) (system : System) : Prop :=
  ∀ found ∈ system.synchronizers, ∀ text, system.Takes uri (found.version + 1 : Nat) text

theorem sendsSucceed_of_unrefused
    {uri : String} {system : System} (sessions : ∀ session ∈ system.sessions, session.closed = false)
    (versions : ∀ found ∈ system.synchronizers, isVersion (found.version + 1 : Nat) = true)
    (refusal : system.peer.refusal = none) : system.SendsSucceed uri :=
  fun found member _ => {
    inSession := sessions
    inRange := versions found member
    unrefused := by rw [Peer.refusalOf?, refusal] }

theorem not_carries_nil (uri text : String) : ¬ Carries uri text [] := by
  intro carries
  generalize emptyEq : ([] : List Frame) = empty at carries
  cases carries <;> cases emptyEq

theorem System.Takes.cancelTimer
    {uri text : String} {version : Int} {system : System} (takes : system.Takes uri version text) :
    (system.cancelTimer 0).Takes uri version text := by
  unfold System.cancelTimer
  split
  · exact takes
  · exact ⟨takes.inSession, takes.inRange, takes.unrefused⟩

section Turns

/-! ## The other tasks -/

variable {uri text : String} {system after : System} {task : Nat}
  (turn : Scheduler.TaskTurn (¬ True) (Spares True) task system.loop after.loop)
  (orderly : system.loop.Orderly (syncScope uri True))
  (others : ∀ other, other ≠ task → after.loop.tasks[other]? = system.loop.tasks[other]?)

include turn orderly

/-- A task that does not go on learns no more of a cancellation than before. -/
theorem signal_of_turn
    {other : Nat} {state : TaskState Frame} (entry : system.loop.tasks[other]? = some state) :
    (∃ reply, after.signalOf state = .returned reply) ↔
      ∃ reply, system.signalOf state = .returned reply := by
  refine signalOf_returned_iff rfl rfl (fun promise outcome _ => turn.kept promise outcome) ?_
  intro promise outcome awaits unsettled settled
  have plain := orderly.awaited state (List.mem_of_getElem? entry) promise awaits
  exact turn.gained promise outcome plain.noCompletion unsettled settled trivial

include others

theorem transmits_of_turn
    {other : Nat} (different : other ≠ task) :
    after.Transmits uri text other ↔ system.Transmits uri text other :=
  transmits_iff (others other different)
    (fun state entry => (turn.others other state different entry).2)
    fun _ entry => signal_of_turn turn orderly entry

end Turns

/-! ## The task that goes on -/

/-- A task goes on in a calm world. -/
structure CalmTurn
    (uri : String) (holder : Option (Nat × Change)) (synchronizer : Synchronizer)
    (system : System) (task : Nat) (found : TaskState Frame) (result : Step)
    (later : Synchronizer) (laterHolder : Option (Nat × Change)) :
    Prop where
  calm : CalmWorld uri holder synchronizer system
  entry : system.loop.tasks[task]? = some found
  unended : system.loop.outcome? found.completion = none
  start : SyncPassage True uri (some task) (system.cleared task) synchronizer (system.cleared task)
  run : TaskRun True uri task (system.cleared task) synchronizer holder found
    (system.signalOf found) result later laterHolder

/-- The client after a task has gone on. -/
def turned (task : Nat) (found : TaskState Frame) (result : Step) : System :=
  System.settleTask task found.completion result

theorem turned_isReady (task : Nat) (found : TaskState Frame) (result : Step) :
    (turned task found result).isReady 0 = result.1.isReady 0 := by
  obtain ⟨current, outcome | ⟨frames, promise⟩⟩ := result
  · rfl
  · rfl

namespace CalmTurn

variable {uri text : String} {holder laterHolder : Option (Nat × Change)}
  {synchronizer later : Synchronizer} {system : System} {task : Nat}
  {found : TaskState Frame} {result : Step}
  (turn : CalmTurn uri holder synchronizer system task found result later laterHolder)

include turn

theorem step :
    TaskStep True uri task (system.cleared task) synchronizer holder found.awaiting result later
      laterHolder :=
  turn.run.taskStep turn.start turn.calm.world.ledger

theorem world : SyncWorld True uri laterHolder later (turned task found result) :=
  (turn.calm.world.settleTask turn.entry turn.step).1

theorem taskTurn :
    Scheduler.TaskTurn (¬ True) (Spares True) task system.loop (turned task found result).loop :=
  (turn.calm.world.settleTask turn.entry turn.step).2

theorem mine :
    (turned task found result).loop.tasks[task]? = some (leftTask found result.2) :=
  (settleTask_tasks turn.entry turn.step.tasks).1

theorem others {other : Nat} (different : other ≠ task) :
    (turned task found result).loop.tasks[other]? = system.loop.tasks[other]? :=
  (settleTask_tasks turn.entry turn.step.tasks).2 other different

theorem transmits_other {other : Nat} (different : other ≠ task) :
    (turned task found result).Transmits uri text other ↔ system.Transmits uri text other :=
  transmits_of_turn turn.taskTurn turn.calm.world.orderly (fun _ => turn.others) different

/-- A task that waits again is told of a result when it goes on, unless it is cancelled. -/
theorem signal_of_suspended
    {frames : List Frame} {promise : Nat} (suspends : result.2 = .suspended frames promise) :
    ∃ reply, (turned task found result).signalOf (leftTask found result.2) = .returned reply := by
  have isNew : system.nextPromise ≤ promise := (turn.step.suspended frames promise suspends).new
  have noCompletion : promise ∉ system.loop.completions := fun member =>
    Nat.lt_irrefl _ (Nat.lt_of_lt_of_le
      (turn.calm.world.orderly.completionsKnown promise member) isNew)
  rw [suspends]
  cases settled : (turned task found result).loop.outcome? promise with
  | none =>
      exact ⟨.nothing, by simp [System.signalOf, leftTask, settled]⟩
  | some outcome =>
      obtain ⟨reply, rfl⟩ := turn.taskTurn.gained promise outcome noCompletion
        (Scheduler.outcome?_eq_none_of_le isNew) settled trivial
      exact ⟨reply, by simp [System.signalOf, leftTask, settled]⟩

theorem unended_of_suspended
    {frames : List Frame} {promise : Nat} (suspends : result.2 = .suspended frames promise) :
    (turned task found result).loop.outcome? found.completion = none := by
  have cleared : found.completion ∈ (system.cleared task).loop.completions :=
    List.mem_map.mpr ⟨_, List.mem_of_getElem? (Scheduler.clearTask_self turn.entry), rfl⟩
  have kept := turn.step.passage.loop.advances.completions _ cleared
  obtain ⟨current, progress⟩ := result
  simp only at suspends
  subst suspends
  exact (Scheduler.suspend_outcome? _ _ _ _ _).trans (kept.trans turn.unended)

theorem transmits_of_suspended
    {frames : List Frame} {promise : Nat} (suspends : result.2 = .suspended frames promise)
    (carries : Carries uri text frames) :
    (turned task found result).Transmits uri text task := by
  refine ⟨_, turn.mine, ?_, turn.signal_of_suspended suspends, ?_⟩
  · have sameCompletion : (leftTask found result.2).completion = found.completion := by
      rw [suspends]
      rfl
    rw [sameCompletion]
    exact turn.unended_of_suspended suspends
  · rw [suspends]
    exact carries

theorem not_transmits_of_ended
    {outcome : Outcome Reply} (ends : result.2 = .ended outcome) :
    ¬ (turned task found result).Transmits uri text task := by
  rintro ⟨state, entry, _, _, carries⟩
  rw [turn.mine, ends] at entry
  rw [← Option.some.inj entry] at carries
  exact not_carries_nil uri text carries

theorem settles : (turned task found result).SettlesCalmly := by
  intro other state entry stack
  by_cases same : other = task
  · subst same
    rw [turn.mine] at entry
    obtain rfl := Option.some.inj entry
    cases progress : result.2 with
    | ended outcome =>
        rw [progress] at stack
        cases stack
    | suspended frames promise =>
        rw [← progress]
        exact turn.signal_of_suspended progress
  · rw [turn.others same] at entry
    exact (signal_of_turn turn.taskTurn turn.calm.world.orderly entry).mpr
      (turn.calm.settles other state entry stack)

/-! ## The timer, the document and those who close it -/

theorem hasTimer
    {timer : Nat} (hasTimer : result.1.HasTimer timer) :
    (turned task found result).HasTimer timer := by
  have steady : result.1.loop.timers = (turned task found result).loop.timers ∧
      ∀ callback ∈ result.1.loop.ready, callback ∈ (turned task found result).loop.ready := by
    obtain ⟨current, outcome | ⟨frames, promise⟩⟩ := result
    · have settled := current.loop.settle_steady found.completion outcome
      exact ⟨settled.timers.symm, settled.ready⟩
    · have noted := (current.loop.modifyTask task fun found =>
        { found with stack := frames, awaiting := some promise }).whenSettled_steady promise
          (.resume task)
      exact ⟨noted.timers.symm, noted.ready⟩
  exact hasTimer.of_same steady.1.symm steady.2

theorem isClosing_other
    (closing : system.IsClosing) (mine : found.stack ≠ [.settlingSends 0]) :
    (turned task found result).IsClosing := by
  obtain ⟨state, member, stack⟩ := closing
  obtain ⟨other, entry⟩ := List.mem_iff_getElem?.mp member
  by_cases same : other = task
  · subst same
    rw [turn.entry] at entry
    rw [← Option.some.inj entry] at stack
    exact (mine stack).elim
  · exact ⟨state, List.mem_of_getElem? ((turn.others same).trans entry), stack⟩

theorem timer_of_steady
    (loop : (system.cleared task).loop.Steady result.1.loop)
    (same : later.timer = synchronizer.timer) :
    ∀ timer, later.timer = some timer → (turned task found result).HasTimer timer := by
  intro timer armed
  rw [same] at armed
  exact turn.hasTimer ((turn.calm.timer timer armed).of_same loop.timers loop.ready)

theorem calmWorld : CalmWorld uri laterHolder later (turned task found result) where
  world := turn.world
  settles := turn.settles
  timer := by
    cases turn.run with
    | quiet _ _ _ step => exact turn.timer_of_steady step.loop step.timer
    | closes _ _ step _ =>
        rw [step.timer]
        nofun
    | flushes _ _ _ step =>
        rw [step.timer]
        nofun
    | sends _ _ _ step => exact turn.timer_of_steady step.steady.loop step.timer
    | takes _ _ _ _ _ _ _ _ _ step => exact turn.timer_of_steady step.steady.loop step.timer
    | givesUp _ _ _ _ _ _ _ _ _ _ steady => exact turn.timer_of_steady steady.loop rfl
    | delivers _ _ _ _ _ _ _ _ _ _ steady => exact turn.timer_of_steady steady.loop rfl
    | restores _ _ _ _ _ _ _ _ _ _ steady => exact turn.timer_of_steady steady.loop rfl

/-! ## Coverage after a turn -/

theorem not_abandons
    (other : ∀ link change caller, found.stack ≠ changeFrames uri link change ++ caller) :
    ¬ system.Abandons uri task := by
  rintro ⟨state, link, change, caller, _, entry, _, stack, _⟩
  rw [turn.entry] at entry
  rw [← Option.some.inj entry] at stack
  exact other link change caller stack

/-- A task that sends nothing leaves the edit to those who would send it before. -/
theorem covers_of_idle
    (idle : ¬ system.Transmits uri synchronizer.text task)
    (timer : later.timer = synchronizer.timer) (sameText : later.text = synchronizer.text)
    (dirty : later.dirty = synchronizer.dirty)
    (ready : result.1.isReady 0 = true →
      system.isReady 0 = true ∧ (system.IsClosing → (turned task found result).IsClosing))
    (covers : system.Covers uri) :
    (turned task found result).Covers uri := by
  refine turn.calmWorld.covers_iff.mpr fun isReady notClosing unsent => ?_
  rw [turned_isReady] at isReady
  obtain ⟨readyBefore, closing⟩ := ready isReady
  rw [dirty] at unsent
  rcases turn.calm.covers_iff.mp covers readyBefore (fun closes => notClosing (closing closes))
      unsent with armed | ⟨other, transmits⟩
  · exact Or.inl (timer.symm ▸ armed)
  · have different : other ≠ task := by
      rintro rfl
      exact idle transmits
    rw [sameText]
    exact Or.inr ⟨other, (turn.transmits_other different).mpr transmits⟩

/-- A send that goes on hands the text over, or waits to do so. -/
theorem covers_of_send
    {started : System} {actual startedSynchronizer : Synchronizer} {caller : List Frame}
    {change? laterChange? : Option Change}
    (step : SendStep True uri (some task) (system.cleared task) caller startedSynchronizer change?
      started result later laterChange?)
    (passage : SyncPassage True uri (some task) (system.cleared task) actual started)
    (file : startedSynchronizer.file = actual.file)
    (takes : started.Takes uri (startedSynchronizer.version + 1 : Nat) startedSynchronizer.text) :
    (turned task found result).Covers uri := by
  refine turn.calmWorld.covers_iff.mpr fun isReady _ unsent => Or.inr ⟨task, ?_⟩
  rw [turned_isReady] at isReady
  cases progress : result.2 with
  | ended outcome =>
      have startedReady : started.isReady 0 = true := by
        rw [← isReady_of_steady passage step.passage step.steady (step.file.trans file)]
        exact isReady
      rw [step.ended outcome progress startedReady takes] at unsent
      cases unsent
  | suspended frames promise =>
      apply turn.transmits_of_suspended progress
      obtain ⟨_, place⟩ := step.suspended frames promise progress
      rcases place with ⟨link, change, _, _, sameText, framesEq⟩ | ⟨force, _, _, framesEq⟩
      · rw [framesEq]
        exact .changes link change caller (sameText.trans step.text.symm)
      · rw [framesEq]
        exact .locks promise force caller

/-- When a change ends, an unsent edit is left to the timer and the other tasks. -/
theorem covers_of_end
    {link : Nat} {change : Change} {caller : List Frame} {outcome : Outcome Reply}
    (changes : found.stack = changeFrames uri link change ++ caller)
    (ends : result.2 = .ended outcome) (timer : later.timer = synchronizer.timer)
    (sameText : later.text = synchronizer.text)
    (ready : result.1.isReady 0 = system.isReady 0)
    (dirty : later.dirty = true ↔ synchronizer.dirty = true ∨
      change.wasDirty = true ∧ ∀ reply, system.signalOf found ≠ .returned reply) :
    (turned task found result).Covers uri ↔ ¬ system.Abandons uri task := by
  have notMine : ∀ text, ¬ (turned task found result).Transmits uri text task :=
    fun text => turn.not_transmits_of_ended ends
  have notSettling : found.stack ≠ [.settlingSends 0] := by
    rw [changes]
    nofun
  have closing : (turned task found result).IsClosing ↔ system.IsClosing := by
    constructor
    · rintro ⟨state, member, stack⟩
      obtain ⟨other, entry⟩ := List.mem_iff_getElem?.mp member
      by_cases same : other = task
      · subst same
        rw [turn.mine, ends] at entry
        rw [← Option.some.inj entry] at stack
        cases stack
      · rw [turn.others same] at entry
        exact ⟨state, List.mem_of_getElem? entry, stack⟩
    · exact fun closes => turn.isClosing_other closes notSettling
  rw [turn.calmWorld.covers_iff, turned_isReady, ready, closing, dirty, timer, sameText]
  constructor
  · rintro covers ⟨state, otherLink, otherChange, otherCaller, same, entry, _, stack, isOnly, isReady,
      notClosing, unsent, disarmed, only⟩
    rw [turn.entry] at entry
    obtain rfl := Option.some.inj entry
    rw [turn.calm.world.parts.synchronizers] at isOnly
    obtain rfl := List.singleton_inj.mp isOnly
    rw [changes] at stack
    obtain rfl := changeFrames_inj stack
    rcases covers isReady notClosing unsent with armed | ⟨other, transmits⟩
    · exact disarmed (turn.calm.isArmed_iff.mpr armed)
    · have different : other ≠ task := by
        rintro rfl
        exact notMine _ transmits
      exact different (only other ((turn.transmits_other different).mp transmits))
  · intro kept isReady notClosing unsent
    by_cases disarmed : synchronizer.timer = none
    · by_cases somebody : ∃ other, (turned task found result).Transmits uri synchronizer.text other
      · exact Or.inr somebody
      · refine (kept ⟨found, link, change, caller, synchronizer, turn.entry, turn.unended, changes,
          turn.calm.world.parts.synchronizers, isReady, notClosing, unsent, ?_, ?_⟩).elim
        · intro armed
          exact turn.calm.isArmed_iff.mp armed disarmed
        · intro other transmits
          by_cases same : other = task
          · exact same
          · exact (somebody ⟨other, (turn.transmits_other same).mpr transmits⟩).elim
    · exact Or.inl disarmed

/-- The peer takes the next change of the task that goes on. -/
theorem takes (succeed : system.SendsSucceed uri) (text : String) :
    (system.cleared task).Takes uri (synchronizer.version + 1 : Nat) text := by
  have isOnly : synchronizer ∈ system.synchronizers := by
    rw [turn.calm.world.parts.synchronizers]
    exact List.mem_cons_self
  have allowed := succeed synchronizer isOnly text
  exact ⟨allowed.inSession, allowed.inRange, allowed.unrefused⟩

/-- A task transmits nothing if it carries no text or has not been told of a result. -/
theorem not_transmits
    (idle : (∀ text, ¬ Carries uri text found.stack) ∨
      ∀ reply, system.signalOf found ≠ .returned reply) :
    ¬ system.Transmits uri text task := by
  rintro ⟨state, entry, _, ⟨reply, returned⟩, carries⟩
  rw [turn.entry] at entry
  obtain rfl := Option.some.inj entry
  rcases idle with notCarries | unreturned
  · exact notCarries _ carries
  · exact unreturned reply returned

/-- After a turn the edits are covered unless the turn abandons one. -/
theorem covers_iff
    (succeed : system.SendsSucceed uri) (covers : system.Covers uri) :
    (turned task found result).Covers uri ↔ ¬ system.Abandons uri task := by
  have notSending (other : ∀ text, ¬ Carries uri text found.stack) (link : Nat) (change : Change)
      (caller : List Frame) : found.stack ≠ changeFrames uri link change ++ caller := by
    intro stack
    apply other change.text
    rw [stack]
    exact .changes link change caller rfl
  cases turn.run with
  | quiet _ other closing step =>
      have notAbandons : ¬ system.Abandons uri task := by
        apply turn.not_abandons
        rcases other with notCarries | ⟨⟨call, begins⟩, _⟩
        · exact notSending notCarries
        · rw [begins]
          nofun
      refine ⟨fun _ => notAbandons, fun _ => turn.covers_of_idle
        (turn.not_transmits (other.imp_right And.right)) step.timer step.text step.dirty
        (fun ready => ⟨step.ready ready, fun closes => ?_⟩) covers⟩
      refine turn.isClosing_other closes fun settling => ?_
      rw [closing settling (turn.calm.settles task found turn.entry settling)] at ready
      cases ready
  | closes _ other step ends =>
      refine ⟨fun _ => turn.not_abandons (notSending other), fun _ => ?_⟩
      refine turn.calmWorld.covers_iff.mpr fun ready notClosing _ => ?_
      rcases ends with unready | ⟨promise, suspends⟩
      · rw [turned_isReady, unready] at ready
        cases ready
      · refine (notClosing ⟨_, List.mem_of_getElem? turn.mine, ?_⟩).elim
        rw [suspends]
        rfl
  | flushes _ _ other step =>
      have covered := turn.covers_of_send step (cancelTimer_passage turn.start).1 rfl
        (turn.takes succeed _).cancelTimer
      exact ⟨fun _ => turn.not_abandons (notSending other), fun _ => covered⟩
  | sends _ _ begins step =>
      have covered := turn.covers_of_send step turn.start rfl (turn.takes succeed _)
      refine ⟨fun _ => turn.not_abandons ?_, fun _ => covered⟩
      rw [begins]
      nofun
  | takes promise force caller _ _ locks _ _ _ step =>
      have covered := turn.covers_of_send step turn.start rfl (turn.takes succeed _)
      refine ⟨fun _ => turn.not_abandons ?_, fun _ => covered⟩
      rw [locks]
      nofun
  | givesUp promise force caller _ locks _ unreturned _ passage _ steady =>
      have notSettling : found.stack ≠ [.settlingSends 0] := by
        rw [locks]
        nofun
      have ready := isReady_of_steady turn.start passage steady rfl
      refine ⟨fun _ => turn.not_abandons ?_, fun _ => turn.covers_of_idle
        (turn.not_transmits (Or.inr unreturned)) rfl rfl rfl
        (fun isReady => ⟨ready.symm.trans isReady,
          fun closes => turn.isClosing_other closes notSettling⟩) covers⟩
      rw [locks]
      nofun
  | delivers link change caller _ changes _ returned ends passage _ steady =>
      have ready := isReady_of_steady turn.start passage steady rfl
      refine turn.covers_of_end changes ends rfl rfl ready ⟨Or.inl, ?_⟩
      rintro (dirty | ⟨_, unreturned⟩)
      · exact dirty
      · obtain ⟨reply, same⟩ := returned
        exact (unreturned reply same).elim
  | restores link change caller _ changes isHolder undelivered ends passage _ steady =>
      have isNext : change.version = synchronizer.version + 1 :=
        turn.calm.world.ledger.next change (by rw [isHolder]; rfl)
      have unreturned : ∀ reply, system.signalOf found ≠ .returned reply := by
        intro reply returned
        apply undelivered ⟨reply, returned⟩
        rw [isNext]
        exact turn.takes succeed _
      have ready := isReady_of_steady turn.start passage steady rfl
      refine turn.covers_of_end changes ends rfl rfl ready ?_
      simp only [Bool.or_eq_true]
      exact or_congr_right (and_iff_left unreturned).symm

end CalmTurn

end LanguageClient.Client
