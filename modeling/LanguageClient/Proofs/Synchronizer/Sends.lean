import LanguageClient.Proofs.Synchronizer.Changes

/-!
# Sends

What a send does from the moment at which it asks for the lock: it ends, it waits for the lock, or
its frame is held back while it has the lock. In each case the ledger of the document is right.
-/

namespace LanguageClient.Client

open LanguageClient.Json LanguageClient.Loop LanguageClient.Protocol

/-- A promise that nobody but the one who waits for it knows so far. -/
structure IsFresh (before after : System) (promise : Nat) : Prop where
  new : before.nextPromise ≤ promise
  plain : after.loop.IsPlain promise
  ungrouped : after.loop.IsUngrouped promise
  unsettled : after.loop.outcome? promise = none

/-- What a send does. The change that is in progress under the lock is given for the time before and
after; a send does not touch the change of another one. A send that ends with the document open and
nothing in the way leaves no edit unsent, and one that returns to nobody leaves its text delivered.
The frames of the caller stay behind those of the send. -/
structure SendStep
    (calm : Prop) (uri : String) (running : Option Nat) (before : System) (caller : List Frame)
    (synchronizer : Synchronizer) (change? : Option Change) (system : System) (result : Step)
    (later : Synchronizer) (laterChange? : Option Change) :
    Prop where
  passage : SyncPassage calm uri running before later result.1
  ledger : Ledger laterChange? later (result.1.deliveries uri)
  steady : system.Steady result.1
  text : later.text = synchronizer.text
  file : later.file = synchronizer.file
  timer : later.timer = synchronizer.timer
  waiters : ∀ promise ∈ synchronizer.lock.waiters, promise ∈ later.lock.waiters
  others : ∀ change, change? = some change → laterChange? = some change
  ended : ∀ outcome, result.2 = .ended outcome → system.isReady 0 = true →
    system.Takes uri (synchronizer.version + 1 : Nat) synchronizer.text → later.dirty = false
  returned : caller = [] → ∀ reply, result.2 = .ended (.returned reply) →
    result.1.isReady 0 = true → result.1.deliveredText? uri = some synchronizer.text
  suspended : ∀ frames promise, result.2 = .suspended frames promise →
    IsFresh system result.1 promise ∧
      ((∃ link change, change? = none ∧ laterChange? = some change ∧
          change.text = synchronizer.text ∧ frames = changeFrames uri link change ++ caller) ∨
        ∃ force, laterChange? = change? ∧ promise ∈ later.lock.waiters ∧
          frames = .locking 0 promise force :: caller)

theorem IsFresh.of_orderly
    {scope : Scope Frame Action} {before after : System} (orderly : before.loop.Orderly scope)
    (loop : after.loop = before.loop.addPromise {}) :
    IsFresh before after before.nextPromise where
  new := Nat.le_refl _
  plain := by
    rw [loop]
    exact orderly.addPromise_isPlain {}
  ungrouped := by
    rw [loop]
    exact Scheduler.addPromise_isUngrouped_new rfl
  unsettled := by
    rw [loop]
    exact Scheduler.addPromise_outcome?_new {} before.loop

section Sends

variable {calm : Prop} {uri : String} {running : Option Nat} {before system : System}
  {synchronizer : Synchronizer}

theorem isReady_iff (passage : SyncPassage calm uri running before synchronizer system) :
    system.isReady 0 = true ↔ synchronizer.file = some 0 ∧ system.isOpen 0 = true := by
  simp only [System.isReady, passage.parts.synchronizers, List.getElem?_cons_zero,
    Option.bind_some]
  cases attached : synchronizer.file with
  | none =>
      simp
  | some file =>
      obtain rfl := passage.parts.attached file attached
      simp

theorem heldChange_step
    (link : Nat) {change : Change}
    (passage : SyncPassage calm uri running before synchronizer system)
    (ledger : Ledger (some change) synchronizer (system.deliveries uri)) :
    let after := (system.note (.handed link (changeFrame uri change.version change.text))).holdBack
    SyncPassage calm uri running before synchronizer after ∧
      Ledger (some change) synchronizer (after.deliveries uri) ∧
      system.Steady after ∧ IsFresh system after system.nextPromise := by
  intro after
  have noted := passage.note (.handed link (changeFrame uri change.version change.text))
  have same : after.deliveries uri = system.deliveries uri :=
    system.note_deliveries uri (by simp)
  refine ⟨noted.holdBack, ?_, (system.note_steady _).trans (System.holdBack_steady _),
    .of_orderly passage.loop.orderly rfl⟩
  rw [same]
  exact ledger

theorem SendStep.of_later
    {caller : List Frame} {change? laterChange? : Option Change} {started : System} {result : Step}
    {startedSynchronizer later : Synchronizer}
    (step : SendStep calm uri running before caller startedSynchronizer change? started result later
      laterChange?)
    (steady : system.Steady started) (text : startedSynchronizer.text = synchronizer.text)
    (file : startedSynchronizer.file = synchronizer.file)
    (timer : startedSynchronizer.timer = synchronizer.timer)
    (waiters : ∀ promise ∈ synchronizer.lock.waiters, promise ∈ startedSynchronizer.lock.waiters)
    (version : startedSynchronizer.version = synchronizer.version)
    (ready : system.isReady 0 = true → started.isReady 0 = true)
    (takes : ∀ number text, system.Takes uri number text → started.Takes uri number text) :
    SendStep calm uri running before caller synchronizer change? system result later
      laterChange? where
  passage := step.passage
  ledger := step.ledger
  steady := steady.trans step.steady
  text := step.text.trans text
  file := step.file.trans file
  timer := step.timer.trans timer
  waiters := fun promise member => step.waiters promise (waiters promise member)
  others := step.others
  ended := fun outcome ends => by
    have cleans := step.ended outcome ends
    rw [version, text] at cleans
    exact fun isReady allowed => cleans (ready isReady) (takes _ _ allowed)
  returned := text ▸ step.returned
  suspended := fun frames promise suspends => by
    obtain ⟨fresh, place⟩ := step.suspended frames promise suspends
    rw [text] at place
    exact ⟨{ fresh with new := Nat.le_trans steady.loop.grown fresh.new }, place⟩

theorem handChange_step
    {change : Change} (passage : SyncPassage calm uri running before synchronizer system)
    (ledger : Ledger (some change) synchronizer (system.deliveries uri))
    (isOpen : system.isOpen 0 = true) (clean : synchronizer.dirty = false) :
    ∃ later laterChange?,
      SendStep calm uri running before [] synchronizer none system
        (Step.andThen (system.changeFile 0 change.version change.text)
          (.changing 0 change.version change.wasDirty)
          (System.resumeChanging 0 change.version change.wasDirty)) later laterChange? := by
  have sameText : synchronizer.text = change.text := ledger.current change rfl clean
  have isNext : change.version = synchronizer.version + 1 := ledger.next change rfl
  rcases changeFile_cases passage.parts isOpen change.version change.text with
    ⟨failure, handed, refused, handedEq, result⟩ | ⟨link, _, result⟩ | ⟨link, result⟩
  · have handedPassage : SyncPassage calm uri running before synchronizer handed ∧
        handed.deliveries uri = system.deliveries uri ∧ system.Steady handed := by
      rcases handedEq with rfl | ⟨link, rfl⟩
      · exact ⟨passage, rfl, .refl _⟩
      · exact ⟨passage.note _, system.note_deliveries uri (by simp), system.note_steady _⟩
    obtain ⟨handedPassage, sameDeliveries, handedSteady⟩ := handedPassage
    obtain ⟨restored, restoredLedger, restoredSteady⟩ :=
      restoreChange_passage handedPassage (sameDeliveries ▸ ledger)
    have notReturned : ∀ reply : Reply, Outcome.failed failure ≠ .returned reply := by simp
    rw [result]
    simp only [Step.andThen, resumeChanging_not_returned _ _ _ notReturned]
    exact ⟨_, none, {
      passage := restored
      ledger := restoredLedger
      steady := handedSteady.trans restoredSteady
      text := rfl
      file := rfl
      timer := rfl
      waiters := fun _ => id
      others := fun _ => (by simp)
      ended := fun _ _ _ takes => by
        rw [← isNext, sameText] at takes
        exact (refused takes).elim
      returned := fun _ _ returns => by cases returns
      suspended := fun _ _ => by simp }⟩
  · obtain ⟨held, heldLedger, heldSteady, fresh⟩ := heldChange_step link passage ledger
    rw [result]
    simp only [Step.andThen]
    exact ⟨synchronizer, some change, {
      passage := held
      ledger := heldLedger
      steady := heldSteady
      text := rfl
      file := rfl
      timer := rfl
      waiters := fun _ => id
      others := fun _ => (by simp)
      ended := fun _ => (by simp)
      returned := fun _ _ returns => by cases returns
      suspended := fun frames promise suspends => by
        obtain ⟨rfl, rfl⟩ := Progress.suspended.inj suspends
        exact ⟨fresh, Or.inl ⟨link, change, rfl, rfl, sameText.symm, rfl⟩⟩ }⟩
  · have noted := passage.note (.handed link (changeFrame uri change.version change.text))
    have sameDeliveries : (system.note (.handed link
        (changeFrame uri change.version change.text))).deliveries uri = system.deliveries uri :=
      system.note_deliveries uri (by simp)
    obtain ⟨committed, committedLedger, committedSteady⟩ :=
      commitChange_passage noted (sameDeliveries ▸ ledger) link
    rw [result]
    simp only [Step.andThen, resumeChanging_returned]
    exact ⟨_, none, {
      passage := committed
      ledger := committedLedger
      steady := (system.note_steady _).trans committedSteady
      text := rfl
      file := rfl
      timer := rfl
      waiters := fun _ => id
      others := fun _ => (by simp)
      ended := fun _ _ _ _ => clean
      returned := fun _ _ _ _ => committedLedger.settled rfl clean
      suspended := fun _ _ => by simp }⟩

/-- Whoever has taken the lock and sends nothing gives it back at once. -/
theorem idle_step
    (passage : SyncPassage calm uri running before
      { synchronizer with lock := { synchronizer.lock with held := true } } system)
    (ledger : Ledger none synchronizer (system.deliveries uri))
    (isClean : system.isReady 0 = true → synchronizer.dirty = false) :
    ∃ later laterChange?, SendStep calm uri running before [] synchronizer none system
      (.returned (system.release 0) .nothing) later laterChange? := by
  refine ⟨_, none, {
    passage := passage.release
    ledger := ?_
    steady := system.release_steady 0
    text := rfl
    file := rfl
    timer := rfl
    waiters := fun _ => id
    others := fun _ => nofun
    ended := fun _ _ isReady _ => isClean isReady
    returned := fun _ _ _ isReady => ?_
    suspended := fun _ _ => nofun }⟩
  · simp only [Step.returned, System.release_deliveries]
    exact ledger.of_same ledger.held.symm rfl rfl rfl
  · -- The document was open before, since giving the lock back opens nothing.
    have attached := (isReady_iff passage.release).mp isReady
    have wasReady := (isReady_iff passage).mpr
      ⟨attached.1, ((system.release_steady 0).isOpen 0).symm.trans attached.2⟩
    rw [System.deliveredText?, Step.returned, System.release_deliveries]
    exact ledger.settled rfl (isClean wasReady)

/-- What is done under the lock, by somebody who has just taken it. -/
theorem changeLocked_step
    (force : Bool)
    (passage : SyncPassage calm uri running before
      { synchronizer with lock := { synchronizer.lock with held := true } } system)
    (ledger : Ledger none synchronizer (system.deliveries uri)) :
    ∃ later laterChange?,
      SendStep calm uri running before [] synchronizer none system (system.changeLocked 0 force)
        later laterChange? := by
  have found : system.synchronizers[0]? =
      some { synchronizer with lock := { synchronizer.lock with held := true } } := by
    rw [passage.parts.synchronizers]
    rfl
  simp only [System.changeLocked, found]
  cases attached : synchronizer.file with
  | none =>
      refine idle_step passage ledger fun isReady => ?_
      rw [((isReady_iff passage).mp isReady).1] at attached
      cases attached
  | some file =>
      obtain rfl : file = 0 := passage.parts.attached file attached
      simp only
      split
      · rename_i idle
        refine idle_step passage ledger fun isReady => ?_
        have isOpen := ((isReady_iff passage).mp isReady).2
        simp only [isOpen, Bool.not_true, Bool.false_or, Bool.not_eq_true',
          Bool.or_eq_false_iff] at idle
        exact idle.1
      · rename_i busy
        have isOpen : system.isOpen 0 = true := by
          simp only [Bool.or_eq_true, not_or, Bool.not_eq_true', Bool.not_eq_false] at busy
          exact busy.1
        -- The text is taken: it counts as sent until the change has ended.
        have taken := passage.modifySynchronizer
          (fun found => { found with dirty := false }) rfl passage.parts.attached
        have steady := system.modifySynchronizer_steady 0 fun found => { found with dirty := false }
        have takenLedger : Ledger
            (some ⟨synchronizer.version + 1, synchronizer.text, synchronizer.dirty⟩)
            { synchronizer with
              lock := { synchronizer.lock with held := true }
              dirty := false } (system.deliveries uri) :=
          ledger.take rfl rfl rfl
        obtain ⟨later, laterChange?, step⟩ :=
          handChange_step taken takenLedger ((steady.isOpen 0).trans isOpen) rfl
        exact ⟨later, laterChange?, step.of_later steady rfl rfl rfl (fun _ => id) rfl
          (fun isReady => (isReady_iff taken).mpr ⟨attached, (steady.isOpen 0).trans isOpen⟩)
          fun _ _ allowed => ⟨allowed.inSession, allowed.inRange, allowed.unrefused⟩⟩

/-! ## Asking for the lock -/

/-- A send takes the lock at once, or waits for it behind all others. -/
theorem sendChange_step
    {change? : Option Change} (force : Bool)
    (passage : SyncPassage calm uri running before synchronizer system)
    (ledger : Ledger change? synchronizer (system.deliveries uri)) :
    ∃ later laterChange?,
      SendStep calm uri running before [] synchronizer change? system (system.sendChange 0 force)
        later laterChange? := by
  simp only [System.sendChange, passage.lockOf]
  split
  · rename_i isFree
    simp only [Bool.and_eq_true, Bool.not_eq_true', List.all_eq_true] at isFree
    obtain ⟨free, cancelled⟩ := isFree
    obtain rfl := ledger.change?_of_free free
    have taken := passage.modifyLock (fun lock => { lock with held := true })
      (passage.parts.lock.take (noneGranted_of_cancelled cancelled))
    have steady := modifyLock_steady system fun lock => { lock with held := true }
    obtain ⟨later, laterChange?, step⟩ := changeLocked_step force taken ledger
    refine ⟨later, laterChange?, step.of_later steady rfl rfl rfl (fun _ => id) rfl ?_
      fun _ _ allowed => ⟨allowed.inSession, allowed.inRange, allowed.unrefused⟩⟩
    intro isReady
    obtain ⟨attached, isOpen⟩ := (isReady_iff passage).mp isReady
    exact (isReady_iff taken).mpr ⟨attached, (steady.isOpen 0).trans isOpen⟩
  · have unsettled : (system.addPromise.modifyLock 0 fun lock =>
        { lock with waiters := lock.waiters ++ [system.nextPromise] }).loop.outcome?
          system.nextPromise = none :=
      Scheduler.addPromise_outcome?_new {} system.loop
    rw [System.await_of_unsettled unsettled]
    exact ⟨_, change?, {
      passage := passage.join
      ledger := ledger.of_same rfl rfl rfl rfl
      steady := system.addPromise_steady.trans (modifyLock_steady system.addPromise fun lock =>
        { lock with waiters := lock.waiters ++ [system.nextPromise] })
      text := rfl
      file := rfl
      timer := rfl
      waiters := fun promise member => List.mem_append_left _ member
      others := fun _ => id
      ended := fun _ => nofun
      returned := fun _ _ returns => by cases returns
      suspended := fun frames promise suspends => by
        obtain ⟨rfl, rfl⟩ := Progress.suspended.inj suspends
        exact ⟨.of_orderly passage.loop.orderly rfl,
          Or.inr ⟨force, rfl, List.mem_append_right _ List.mem_cons_self, rfl⟩⟩ }⟩

theorem resumeLocking_granted
    {change? : Option Change} {promise : Nat} {reply : Reply} (force : Bool)
    (passage : SyncPassage calm uri running before synchronizer system)
    (ledger : Ledger change? synchronizer (system.deliveries uri))
    (waits : promise ∈ synchronizer.lock.waiters)
    (granted : system.loop.outcome? promise = some (.returned reply)) :
    change? = none ∧ ∃ later laterChange?,
      SendStep calm uri running before []
        { synchronizer with
          lock := { synchronizer.lock with
            waiters := synchronizer.lock.waiters.filter fun other => other ≠ promise } }
        none system (System.resumeLocking 0 promise force system (.returned reply))
        later laterChange? := by
  have free : synchronizer.lock.held = false :=
    (passage.parts.lock.granted promise waits reply granted).1
  obtain rfl := ledger.change?_of_free free
  refine ⟨rfl, ?_⟩
  have left := passage.modifyLock
    (fun lock => { lock with waiters := lock.waiters.filter fun other => other ≠ promise })
    (passage.parts.lock.leave promise)
  have taken := left.modifyLock (fun lock => { lock with held := true })
    (left.parts.lock.take (passage.parts.lock.noneGranted_of_granted waits granted))
  have steady := (modifyLock_steady system fun lock =>
    { lock with waiters := lock.waiters.filter fun other => other ≠ promise }).trans
      (modifyLock_steady _ fun lock => { lock with held := true })
  obtain ⟨later, laterChange?, step⟩ := changeLocked_step force taken
    (ledger.of_same rfl rfl rfl rfl)
  refine ⟨later, laterChange?, step.of_later steady rfl rfl rfl (fun _ => id) rfl ?_
    fun _ _ allowed => ⟨allowed.inSession, allowed.inRange, allowed.unrefused⟩⟩
  intro isReady
  obtain ⟨attached, isOpen⟩ := (isReady_iff passage).mp isReady
  exact (isReady_iff taken).mpr ⟨attached, (steady.isOpen 0).trans isOpen⟩

/-- Whoever no longer waits for the lock leaves the others in their order. -/
theorem resumeLocking_givesUp
    {ending : Outcome Reply} (promise : Nat) (force : Bool)
    (passage : SyncPassage calm uri running before synchronizer system)
    (notReturned : ∀ reply, ending ≠ .returned reply) :
    ∃ after, System.resumeLocking 0 promise force system ending = (after, .ended ending) ∧
      SyncPassage calm uri running before
        { synchronizer with
          lock := { synchronizer.lock with
            waiters := synchronizer.lock.waiters.filter fun other => other ≠ promise } } after ∧
      after.deliveries uri = system.deliveries uri ∧ system.Steady after := by
  have left := passage.modifyLock
    (fun lock => { lock with waiters := lock.waiters.filter fun other => other ≠ promise })
    (passage.parts.lock.leave promise)
  have steady := modifyLock_steady system fun lock =>
    { lock with waiters := lock.waiters.filter fun other => other ≠ promise }
  rw [resumeLocking_not_returned promise force system notReturned]
  simp only [left.lockOf]
  refine ⟨_, rfl, ?_⟩
  by_cases held : synchronizer.lock.held = true
  · rw [if_pos held]
    exact ⟨left, rfl, steady⟩
  · rw [if_neg held]
    exact ⟨left.wakeFirst (eq_false_of_ne_true held),
      System.deliveries_of_journal uri (System.wakeFirst_journal _ 0),
      steady.trans (System.wakeFirst_steady _ 0)⟩

/-! ## The caller of a send -/

theorem resumeStack_caller
    {caller : List Frame} (allowed : IsCaller caller) (system : System) (outcome : Outcome Reply) :
    ∃ after ending, system.resumeStack outcome caller = (after, .ended ending) ∧
      (after = system ∨ ∃ text, after = system.log .error .document text) := by
  rcases allowed with rfl | rfl
  · exact ⟨system, outcome, rfl, Or.inl rfl⟩
  · rw [System.resumeStack_singleton]
    cases outcome with
    | returned reply => exact ⟨system, _, rfl, Or.inl rfl⟩
    | failed failure => exact ⟨_, _, rfl, Or.inr ⟨_, rfl⟩⟩
    | cancelled => exact ⟨system, _, rfl, Or.inl rfl⟩

/-- Goes on with the caller of a send when the send has ended. -/
def Step.goOn (step : Step) (caller : List Frame) : Step :=
  match step with
  | (system, .ended outcome) => system.resumeStack outcome caller
  | (system, .suspended frames promise) => (system, .suspended (frames ++ caller) promise)

theorem resumeStack_cons
    (system : System) (outcome : Outcome Reply) (frame : Frame) (outer : List Frame) :
    system.resumeStack outcome (frame :: outer) =
      (System.resumeFrame frame system outcome).goOn outer := by
  rfl

theorem andThen_eq_goOn (step : Step) (frame : Frame) :
    Step.andThen step frame (System.resumeFrame frame) = step.goOn [frame] := by
  rcases step with ⟨system, outcome | ⟨frames, promise⟩⟩
  · exact (System.resumeStack_singleton system outcome frame).symm
  · rfl

theorem SendStep.goOn
    {caller : List Frame} {change? laterChange? : Option Change} {result : Step}
    {later : Synchronizer}
    (step : SendStep calm uri running before [] synchronizer change? system result later
      laterChange?) (allowed : IsCaller caller) :
    SendStep calm uri running before caller synchronizer change? system (result.goOn caller) later
      laterChange? := by
  rcases result with ⟨after, outcome | ⟨frames, promise⟩⟩
  · obtain ⟨called, ending, result, calledEq⟩ := resumeStack_caller allowed after outcome
    have resultEq : Step.goOn (after, .ended outcome) caller = (called, .ended ending) := result
    rw [resultEq]
    have ended := step.ended outcome rfl
    rcases calledEq with rfl | ⟨text, rfl⟩
    · exact { step with
        ended := fun _ _ => ended
        returned := fun isLast => by
          subst isLast
          injection result with _ sameEnding
          exact sameEnding ▸ step.returned rfl
        suspended := fun _ _ => nofun }
    · exact { step with
        passage := step.passage.log _ _ _
        ledger := by
          rw [System.log_deliveries]
          exact step.ledger
        steady := step.steady.trans (after.note_steady _)
        ended := fun _ _ => ended
        returned := fun isLast => by
          subst isLast
          injection result with sameSystem sameEnding
          exact sameSystem ▸ sameEnding ▸ step.returned rfl
        suspended := fun _ _ => nofun }
  · exact { step with
      ended := fun _ => nofun
      returned := fun _ _ returns => by cases returns
      suspended := fun _ _ suspends => by
        obtain ⟨rfl, rfl⟩ := Progress.suspended.inj suspends
        obtain ⟨fresh, place⟩ := step.suspended frames promise rfl
        refine ⟨fresh, ?_⟩
        rcases place with ⟨link, change, free, taken, text, framesEq⟩ | ⟨force, same, waits, framesEq⟩
        · exact Or.inl ⟨link, change, free, taken, text, by rw [framesEq, List.append_nil]⟩
        · exact Or.inr ⟨force, same, waits, by rw [framesEq]; rfl⟩ }

theorem cancelTimer_passage
    (passage : SyncPassage calm uri running before synchronizer system) :
    SyncPassage calm uri running before { synchronizer with timer := none }
        (system.cancelTimer 0) ∧
      (system.cancelTimer 0).loop.tasks = system.loop.tasks ∧
      (system.cancelTimer 0).loop.promises = system.loop.promises ∧
      ∀ file, (system.cancelTimer 0).isOpen file = system.isOpen file := by
  simp only [System.cancelTimer, passage.parts.synchronizers, List.getElem?_cons_zero,
    Option.bind_some]
  cases armed : synchronizer.timer with
  | none =>
      have same : { synchronizer with timer := none } = synchronizer := by
        rw [← armed]
      rw [same]
      exact ⟨passage, rfl, rfl, fun _ => rfl⟩
  | some timer =>
      exact ⟨(passage.disarm timer).modifySynchronizer
        (fun found => { found with timer := none })
          rfl passage.parts.attached, rfl, rfl,
        fun _ => rfl⟩

theorem System.cancelTimer_deliveries (system : System) (uri : String) :
    (system.cancelTimer 0).deliveries uri = system.deliveries uri := by
  unfold System.cancelTimer
  split <;> rfl

theorem flush_step
    {change? : Option Change} (force : Bool)
    (passage : SyncPassage calm uri running before synchronizer system)
    (ledger : Ledger change? synchronizer (system.deliveries uri)) :
    ∃ later laterChange?,
      SendStep calm uri running before [] { synchronizer with timer := none } change?
        (system.cancelTimer 0) (system.flush 0 force) later laterChange? := by
  obtain ⟨cancelled, _, _, _⟩ := cancelTimer_passage passage
  have cancelledLedger : Ledger change? { synchronizer with timer := none }
      ((system.cancelTimer 0).deliveries uri) := by
    rw [System.cancelTimer_deliveries]
    exact ledger.of_same rfl rfl rfl rfl
  simp only [System.flush]
  cases ready : (system.cancelTimer 0).isReady 0 with
  | true =>
      exact sendChange_step force cancelled cancelledLedger
  | false =>
      exact ⟨_, change?, {
        passage := cancelled
        ledger := cancelledLedger
        steady := .refl _
        text := rfl
        file := rfl
        timer := rfl
        waiters := fun _ => id
        others := fun _ => id
        ended := fun _ _ isReady => by
          rw [ready] at isReady
          cases isReady
        returned := fun _ _ _ isReady => by
          have opened : (system.cancelTimer 0).isReady 0 = true := isReady
          rw [ready] at opened
          cases opened
        suspended := fun _ _ => nofun }⟩

theorem sendDebounced_step
    {change? : Option Change}
    (passage : SyncPassage calm uri running before synchronizer system)
    (ledger : Ledger change? synchronizer (system.deliveries uri)) :
    ∃ later laterChange?,
      SendStep calm uri running before [.sendingDebounced 0] synchronizer change? system
        (system.sendDebounced 0) later laterChange? := by
  obtain ⟨later, laterChange?, step⟩ := sendChange_step false passage ledger
  refine ⟨later, laterChange?, ?_⟩
  have sent : system.sendDebounced 0 =
      (system.sendChange 0 false).goOn [.sendingDebounced 0] :=
    andThen_eq_goOn _ (.sendingDebounced 0)
  rw [sent]
  exact step.goOn (Or.inr rfl)

end Sends

end LanguageClient.Client
