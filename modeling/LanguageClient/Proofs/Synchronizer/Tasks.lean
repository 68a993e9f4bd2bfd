import LanguageClient.Proofs.Loop.TaskTurn
import LanguageClient.Proofs.Synchronizer.Closing

/-!
# What a task does when it goes on

A task that goes on asks for the lock, goes on under the lock, gives up, ends a change, or does
something that sends no change. The kinds follow the places where a task can be.
-/

namespace LanguageClient.Client

open LanguageClient.Json LanguageClient.Loop LanguageClient.Protocol

/-- The frames of a send that hands over a text: the timer has started it, it waits for the lock, or
it has the lock and its frame with the text is held back. -/
inductive Carries (uri text : String) : List Frame → Prop where
  | debounced : Carries uri text [.begin (.sendDebounced 0)]
  | locks (promise : Nat) (force : Bool) (caller : List Frame) :
    Carries uri text (.locking 0 promise force :: caller)
  | changes (link : Nat) (change : Change) (caller : List Frame) (same : change.text = text) :
    Carries uri text (changeFrames uri link change ++ caller)

/-- A synchronizer whose lock somebody no longer waits for. -/
def Synchronizer.without (synchronizer : Synchronizer) (promise : Nat) : Synchronizer :=
  { synchronizer with
    lock := { synchronizer.lock with
      waiters := synchronizer.lock.waiters.filter fun other => other ≠ promise } }

/-- Who sends a change after a send of a task: the one who did so before, or the task. -/
def holderAfter (holder : Option (Nat × Change)) (task : Nat) (change? : Option Change) :
    Option (Nat × Change) :=
  match holder with
  | some holding => some holding
  | none => change?.map fun change => (task, change)

theorem holderAfter_none (task : Nat) (change? : Option Change) :
    (holderAfter none task change?).map (·.2) = change? := by
  cases change? <;> rfl

/-- What a task does with its frames when it is told how its wait has ended. -/
inductive TaskRun
    (calm : Prop) (uri : String) (task : Nat) (system : System) (synchronizer : Synchronizer)
    (holder : Option (Nat × Change)) (found : TaskState Frame) (signal : Outcome Reply)
    (result : Step) :
    Synchronizer → Option (Nat × Change) → Prop where
  /-- It sends no change. -/
  | quiet (later : Synchronizer)
      (other : (∀ text, ¬ Carries uri text found.stack) ∨
        (∃ call, found.stack = [.begin call]) ∧ ∀ reply, signal ≠ .returned reply)
      (closing : found.stack = [.settlingSends 0] → (∃ reply, signal = .returned reply) →
        result.1.isReady 0 = false)
      (step : QuietStep calm uri (some task) system synchronizer system result later) :
    TaskRun calm uri task system synchronizer holder found signal result later holder
  /-- It begins to close the synchronizer. -/
  | closes (later : Synchronizer) (other : ∀ text, ¬ Carries uri text found.stack)
      (step : QuietStep calm uri (some task) system { synchronizer with timer := none }
        (system.cancelTimer 0) result later)
      (ends : result.1.isReady 0 = false ∨
        ∃ promise, result.2 = .suspended [.settlingSends 0] promise) :
    TaskRun calm uri task system synchronizer holder found signal result later holder
  /-- It begins a flush. -/
  | flushes (later : Synchronizer) (change? : Option Change)
      (other : ∀ text, ¬ Carries uri text found.stack)
      (step : SendStep calm uri (some task) system [] { synchronizer with timer := none }
        (holder.map (·.2)) (system.cancelTimer 0) result later change?) :
    TaskRun calm uri task system synchronizer holder found signal result later
      (holderAfter holder task change?)
  /-- It begins a send that the timer started. -/
  | sends (later : Synchronizer) (change? : Option Change)
      (begins : found.stack = [.begin (.sendDebounced 0)])
      (step : SendStep calm uri (some task) system [.sendingDebounced 0] synchronizer
        (holder.map (·.2)) system result later change?) :
    TaskRun calm uri task system synchronizer holder found signal result later
      (holderAfter holder task change?)
  /-- It has waited for the lock and takes it. -/
  | takes (promise : Nat) (force : Bool) (caller : List Frame) (later : Synchronizer)
      (change? : Option Change) (locks : found.stack = .locking 0 promise force :: caller)
      (allowed : IsCaller caller) (awaits : found.awaiting = some promise) (free : holder = none)
      (step : SendStep calm uri (some task) system caller (synchronizer.without promise) none system
        result later change?) :
    TaskRun calm uri task system synchronizer holder found signal result later
      (holderAfter holder task change?)
  /-- It no longer waits for the lock. -/
  | givesUp (promise : Nat) (force : Bool) (caller : List Frame) (ending : Outcome Reply)
      (locks : found.stack = .locking 0 promise force :: caller)
      (awaits : found.awaiting = some promise)
      (unreturned : ∀ reply, signal ≠ .returned reply) (ends : result.2 = .ended ending)
      (passage : SyncPassage calm uri (some task) system (synchronizer.without promise) result.1)
      (deliveries : result.1.deliveries uri = system.deliveries uri)
      (steady : system.Steady result.1)
      (goesUnreturned : caller = [] → ∀ reply, ending ≠ .returned reply) :
    TaskRun calm uri task system synchronizer holder found signal result
      (synchronizer.without promise) holder
  /-- Its change was delivered. -/
  | delivers (link : Nat) (change : Change) (caller : List Frame) (ending : Outcome Reply)
      (changes : found.stack = changeFrames uri link change ++ caller)
      (isHolder : holder = some (task, change))
      (returned : ∃ reply, signal = .returned reply) (ends : result.2 = .ended ending)
      (passage : SyncPassage calm uri (some task) system
        { synchronizer with
          version := change.version
          lock := { synchronizer.lock with held := false } } result.1)
      (ledger : Ledger none
        { synchronizer with
          version := change.version
          lock := { synchronizer.lock with held := false } } (result.1.deliveries uri))
      (steady : system.Steady result.1)
      (delivered : result.1.deliveredText? uri = some change.text) :
    TaskRun calm uri task system synchronizer holder found signal result
      { synchronizer with
        version := change.version
        lock := { synchronizer.lock with held := false } } none
  /-- Its change was not delivered. -/
  | restores (link : Nat) (change : Change) (caller : List Frame) (ending : Outcome Reply)
      (changes : found.stack = changeFrames uri link change ++ caller)
      (isHolder : holder = some (task, change))
      (undelivered : (∃ reply, signal = .returned reply) →
        ¬ system.Takes uri change.version change.text)
      (ends : result.2 = .ended ending)
      (passage : SyncPassage calm uri (some task) system
        { synchronizer with
          dirty := synchronizer.dirty || change.wasDirty
          lock := { synchronizer.lock with held := false } } result.1)
      (ledger : Ledger none
        { synchronizer with
          dirty := synchronizer.dirty || change.wasDirty
          lock := { synchronizer.lock with held := false } } (result.1.deliveries uri))
      (steady : system.Steady result.1)
      (unreturned : caller = [] → ∀ reply, ending ≠ .returned reply) :
    TaskRun calm uri task system synchronizer holder found signal result
      { synchronizer with
        dirty := synchronizer.dirty || change.wasDirty
        lock := { synchronizer.lock with held := false } } none

section Runs

variable {calm : Prop} {uri : String} {task : Nat} {system : System}
  {synchronizer : Synchronizer} {holder : Option (Nat × Change)} {found : TaskState Frame}
  {signal : Outcome Reply}

theorem begin_run
    {call : Call} (allowed : call.AtSynchronizer) (stack : found.stack = [.begin call])
    (passage : SyncPassage calm uri (some task) system synchronizer system)
    (ledger : Ledger (holder.map (·.2)) synchronizer (system.deliveries uri)) :
    ∃ later laterHolder,
      TaskRun calm uri task system synchronizer holder found signal
        (system.resumeStack signal found.stack) later laterHolder := by
  rw [stack]
  by_cases returned : ∃ reply, signal = .returned reply
  · obtain ⟨reply, rfl⟩ := returned
    rw [System.resumeStack_begin]
    cases call with
    | flush other force =>
        obtain rfl : other = 0 := allowed
        obtain ⟨later, change?, step⟩ := flush_step force passage ledger
        refine ⟨_, _, .flushes later change? ?_ step⟩
        rw [stack]
        nofun
    | sendDebounced other =>
        obtain rfl : other = 0 := allowed
        obtain ⟨later, change?, step⟩ := sendDebounced_step passage ledger
        exact ⟨_, _, .sends later change? stack step⟩
    | closeSynchronizer other =>
        obtain rfl : other = 0 := allowed
        obtain ⟨later, step, ends⟩ := closeSynchronizer_step passage
        refine ⟨_, _, .closes later ?_ step ends⟩
        rw [stack]
        nofun
    | answer session id =>
        refine ⟨_, _, .quiet synchronizer (Or.inl ?_) ?_ (answer_step passage session id)⟩
        · rw [stack]
          nofun
        · rw [stack]
          nofun
    | _ => exact allowed.elim
  · have unreturned : ∀ reply, signal ≠ .returned reply := fun reply same => returned ⟨reply, same⟩
    rw [System.resumeStack_not_begin _ _ unreturned]
    have notSettling : found.stack ≠ [.settlingSends 0] := by
      rw [stack]
      nofun
    exact ⟨_, _, .quiet synchronizer (Or.inr ⟨⟨call, stack⟩, unreturned⟩)
      (fun isSettling => (notSettling isSettling).elim) (.ended passage signal)⟩

theorem locks_run
    {promise : Nat} {force : Bool} {caller : List Frame} (allowed : IsCaller caller)
    (stack : found.stack = .locking 0 promise force :: caller)
    (awaits : found.awaiting = some promise)
    (waits : promise ∈ synchronizer.lock.waiters)
    (granted : ∀ reply, signal = .returned reply →
      system.loop.outcome? promise = some (.returned reply))
    (passage : SyncPassage calm uri (some task) system synchronizer system)
    (ledger : Ledger (holder.map (·.2)) synchronizer (system.deliveries uri)) :
    ∃ later laterHolder,
      TaskRun calm uri task system synchronizer holder found signal
        (system.resumeStack signal found.stack) later laterHolder := by
  rw [stack, resumeStack_cons]
  by_cases returned : ∃ reply, signal = .returned reply
  · obtain ⟨reply, rfl⟩ := returned
    obtain ⟨free, later, change?, step⟩ :=
      resumeLocking_granted force passage ledger waits (granted reply rfl)
    exact ⟨_, _, .takes promise force caller later change? stack allowed awaits
      (Option.map_eq_none_iff.mp free) (step.goOn allowed)⟩
  · have unreturned : ∀ reply, signal ≠ .returned reply := fun reply same => returned ⟨reply, same⟩
    obtain ⟨after, result, left, deliveries, steady⟩ :=
      resumeLocking_givesUp promise force passage unreturned
    have resultEq : System.resumeFrame (.locking 0 promise force) system signal =
        (after, .ended signal) := result
    rw [resultEq]
    obtain ⟨called, ending, calledResult, calledEq⟩ := resumeStack_caller allowed after signal
    have goOnEq : Step.goOn (after, .ended signal) caller = (called, .ended ending) := calledResult
    have calledUnreturned : caller = [] → ∀ reply, ending ≠ .returned reply := by
      rintro rfl
      injection calledResult with _ sameEnding
      rw [← Progress.ended.inj sameEnding]
      exact unreturned
    rw [goOnEq]
    rcases calledEq with rfl | ⟨text, rfl⟩
    · exact ⟨_, _, .givesUp promise force caller ending stack awaits unreturned rfl left deliveries
        steady calledUnreturned⟩
    · exact ⟨_, _, .givesUp promise force caller ending stack awaits unreturned rfl (left.log _ _ _)
        ((after.log_deliveries _ _ _ uri).trans deliveries) (steady.trans (after.note_steady _))
        calledUnreturned⟩

theorem changes_run
    {link : Nat} {change : Change} {caller : List Frame} (allowed : IsCaller caller)
    (stack : found.stack = changeFrames uri link change ++ caller)
    (isHolder : holder = some (task, change))
    (passage : SyncPassage calm uri (some task) system synchronizer system)
    (ledger : Ledger (holder.map (·.2)) synchronizer (system.deliveries uri)) :
    ∃ later laterHolder,
      TaskRun calm uri task system synchronizer holder found signal
        (system.resumeStack signal found.stack) later laterHolder := by
  have isChange : Ledger (some change) synchronizer (system.deliveries uri) := by
    rw [isHolder] at ledger
    exact ledger
  have framesEq : found.stack = .sending link (changeFrame uri change.version change.text) ::
      .writing Method.didChange ::
        (.changing 0 change.version change.wasDirty :: caller) := stack
  rw [framesEq]
  rcases System.resumeStack_sending system link (changeFrame uri change.version change.text)
      Method.didChange (.changing 0 change.version change.wasDirty :: caller) signal with
    ⟨reply, returned, _, result⟩ | ⟨ending, unreturned, refused, result⟩
  · rw [result, resumeStack_cons]
    obtain ⟨committed, committedLedger, steady⟩ := commitChange_passage passage isChange link
    have resultEq : System.resumeFrame (.changing 0 change.version change.wasDirty)
        (system.accept link (changeFrame uri change.version change.text)) (.returned .nothing) = _ :=
      resumeChanging_returned change.version change.wasDirty _ .nothing
    rw [resultEq]
    obtain ⟨called, ending, calledResult, calledEq⟩ := resumeStack_caller allowed
      ((system.accept link (changeFrame uri change.version change.text)).commitChange
        change.version) (.returned .nothing)
    have delivered : ((system.accept link (changeFrame uri change.version change.text)).commitChange
        change.version).deliveredText? uri = some change.text := by
      rw [System.deliveredText?, commitChange_deliveries, List.getLast?_concat]
      rfl
    simp only [Step.goOn, calledResult]
    rcases calledEq with rfl | ⟨text, rfl⟩
    · exact ⟨_, _, .delivers link change caller ending stack isHolder ⟨reply, returned⟩ rfl committed
        committedLedger steady delivered⟩
    · refine ⟨_, _, .delivers link change caller ending stack isHolder ⟨reply, returned⟩ rfl
        (committed.log _ _ _) ?_ (steady.trans (System.note_steady _ _)) ?_⟩
      · rw [System.log_deliveries]
        exact committedLedger
      · rw [System.deliveredText?, System.log_deliveries]
        exact delivered
  · rw [result, resumeStack_cons]
    have undelivered : (∃ reply, signal = .returned reply) →
        ¬ system.Takes uri change.version change.text :=
      fun returned takes => refused returned takes.unrefused
    obtain ⟨restored, restoredLedger, steady⟩ := restoreChange_passage passage isChange
    have resultEq : System.resumeFrame (.changing 0 change.version change.wasDirty) system ending =
        _ := resumeChanging_not_returned change.version change.wasDirty system unreturned
    rw [resultEq]
    obtain ⟨called, calledEnding, calledResult, calledEq⟩ := resumeStack_caller allowed
      (system.restoreChange change.wasDirty) ending
    have calledUnreturned : caller = [] → ∀ reply, calledEnding ≠ .returned reply := by
      rintro rfl
      injection calledResult with _ sameEnding
      rw [← Progress.ended.inj sameEnding]
      exact unreturned
    simp only [Step.goOn, calledResult]
    rcases calledEq with rfl | ⟨text, rfl⟩
    · exact ⟨_, _, .restores link change caller calledEnding stack isHolder undelivered rfl restored
        restoredLedger steady calledUnreturned⟩
    · refine ⟨_, _, .restores link change caller calledEnding stack isHolder undelivered rfl
        (restored.log _ _ _) ?_ (steady.trans (System.note_steady _ _)) calledUnreturned⟩
      rw [System.log_deliveries]
      exact restoredLedger

theorem settles_run
    (stack : found.stack = [.settlingSends 0])
    (passage : SyncPassage calm uri (some task) system synchronizer system) :
    ∃ later laterHolder,
      TaskRun calm uri task system synchronizer holder found signal
        (system.resumeStack signal found.stack) later laterHolder := by
  have other : ∀ text, ¬ Carries uri text found.stack := by
    rw [stack]
    nofun
  by_cases returned : ∃ reply, signal = .returned reply
  · obtain ⟨reply, rfl⟩ := returned
    obtain ⟨later, step, unready⟩ := closeAttached_step passage
    have result : system.resumeStack (.returned reply) found.stack = system.closeAttached 0 := by
      rw [stack]
      exact System.resumeStack_singleton system (.returned reply) (.settlingSends 0)
    rw [result]
    exact ⟨_, _, .quiet later (Or.inl other) (fun _ _ => unready) step⟩
  · have result : system.resumeStack signal found.stack = (system, .ended signal) := by
      rw [stack, System.resumeStack_singleton]
      cases signal with
      | returned reply => exact (returned ⟨reply, rfl⟩).elim
      | failed _ => rfl
      | cancelled => rfl
    rw [result]
    exact ⟨_, _, .quiet synchronizer (Or.inl other)
      (fun _ isReturned => (returned isReturned).elim) (.ended passage signal)⟩

theorem quiet_sending
    {frame : Value} (link : Nat) (subject : String) (outer : List Frame) (signal : Outcome Reply)
    (passage : SyncPassage calm uri (some task) system synchronizer system)
    (nothing : delivery? uri frame = none) :
    ∃ current outcome,
      system.resumeStack signal (.sending link frame :: .writing subject :: outer) =
        current.resumeStack outcome outer ∧
      SyncPassage calm uri (some task) system synchronizer current ∧
      current.deliveries uri = system.deliveries uri ∧ system.Steady current := by
  rcases System.resumeStack_sending system link frame subject outer signal with
    ⟨reply, _, _, result⟩ | ⟨ending, _, _, result⟩
  · refine ⟨_, _, result, passage.accept link frame, ?_, system.accept_steady link frame⟩
    rw [System.accept_deliveries, nothing]
    exact List.append_nil _
  · exact ⟨system, ending, result, passage, rfl, .refl system⟩

theorem closes_run
    {link : Nat} {frame : Value} {subject : String} (nothing : delivery? uri frame = none)
    (stack : found.stack =
      [.sending link frame, .writing subject, .closingFile uri, .detaching 0])
    (passage : SyncPassage calm uri (some task) system synchronizer system) :
    ∃ later laterHolder,
      TaskRun calm uri task system synchronizer holder found signal
        (system.resumeStack signal found.stack) later laterHolder := by
  have other : ∀ text, ¬ Carries uri text found.stack := by
    rw [stack]
    nofun
  have notSettling : found.stack ≠ [.settlingSends 0] := by
    rw [stack]
    nofun
  obtain ⟨current, outcome, result, currentPassage, deliveries, steady⟩ :=
    quiet_sending link subject [.closingFile uri, .detaching 0] signal passage nothing
  obtain ⟨after, ending, later, detached, step, _⟩ := resumeStack_detaching currentPassage outcome
  have resultEq : system.resumeStack signal found.stack = (after, .ended ending) := by
    rw [stack, result, detached]
  rw [resultEq]
  refine ⟨_, _, .quiet later (Or.inl other) (fun isSettling => (notSettling isSettling).elim)
    (step.of_later steady.loop deliveries rfl rfl rfl rfl rfl fun isReady => ?_)⟩
  rw [← isReady_of_steady passage currentPassage steady rfl]
  exact isReady

theorem answers_run
    {link : Nat} {frame : Value} {subject : String} (nothing : delivery? uri frame = none)
    (stack : found.stack = [.sending link frame, .writing subject])
    (passage : SyncPassage calm uri (some task) system synchronizer system) :
    ∃ later laterHolder,
      TaskRun calm uri task system synchronizer holder found signal
        (system.resumeStack signal found.stack) later laterHolder := by
  have other : ∀ text, ¬ Carries uri text found.stack := by
    rw [stack]
    nofun
  have notSettling : found.stack ≠ [.settlingSends 0] := by
    rw [stack]
    nofun
  obtain ⟨current, outcome, result, currentPassage, deliveries, steady⟩ :=
    quiet_sending link subject [] signal passage nothing
  have resultEq : system.resumeStack signal found.stack = (current, .ended outcome) := by
    rw [stack, result]
    rfl
  rw [resultEq]
  refine ⟨_, _, .quiet synchronizer (Or.inl other) (fun isSettling => (notSettling isSettling).elim)
    ((QuietStep.ended currentPassage outcome).of_later steady.loop deliveries rfl rfl rfl rfl rfl
      fun isReady => ?_)⟩
  rw [← isReady_of_steady passage currentPassage steady rfl]
  exact isReady

end Runs

end LanguageClient.Client
