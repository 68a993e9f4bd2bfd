import LanguageClient.Proofs.Editor.Frames

/-!
# Sends of an editor

What a send does from the moment at which it asks for the lock: it ends, it waits for the lock, or
its frame is held back while it has the lock. A send that returns while the document is open has
brought the text of the editor to the peer, or has found it there.
-/

namespace LanguageClient.Client

open LanguageClient.Json LanguageClient.Loop LanguageClient.Number LanguageClient.Protocol

/-! ## The lock -/

/-- The view with another lock. -/
def View.withLock (view : View) (lock : Lock) : View :=
  { view with synchronizer := { view.synchronizer with lock } }

/-- The view after the lock was given back. -/
def View.released (view : View) : View :=
  view.withLock { view.synchronizer.lock with held := false }

namespace EditorPassage

variable {uri : String} {running : Option Nat} {before system : System} {view : View}

theorem wakeFirst
    (passage : EditorPassage uri running before view system)
    (free : view.synchronizer.lock.held = false) :
    EditorPassage uri running before view (system.wakeFirst 0) := by
  unfold System.wakeFirst
  rw [passage.lockOf]
  split
  · exact passage
  · rename_i promise others waitersEq
    have member : promise ∈ view.synchronizer.lock.waiters := by
      rw [waitersEq]
      exact List.mem_cons_self
    have plain := (passage.parts.lock.waiters promise member).1
    have step : Scheduler.Passage (editorScope uri) running True (fun _ _ => True) system.loop
        (system.loop.settle promise (.returned .nothing)) :=
      (passage.here fun _ _ => True).settle plain.noCompletion trivial
    exact {
      parts := { passage.parts with
        lock := passage.parts.lock.grantFirst free waitersEq _ }
      loop := {
        orderly := step.orderly
        punctual := step.punctual
        advances := passage.loop.advances.trans step.advances
        runs := passage.loop.runs }
      spawned := by
        rw [System.settle, System.onLoop, Scheduler.settle_tasks]
        exact passage.spawned }

theorem release (passage : EditorPassage uri running before view system) :
    EditorPassage uri running before view.released (system.release 0) :=
  (passage.modifyLock (fun lock => { lock with held := false })
    passage.parts.lock.giveBack).wakeFirst rfl

theorem join (passage : EditorPassage uri running before view system) :
    EditorPassage uri running before
      (view.withLock { view.synchronizer.lock with
        waiters := view.synchronizer.lock.waiters ++ [system.nextPromise] })
      (system.addPromise.modifyLock 0 fun lock =>
        { lock with waiters := lock.waiters ++ [system.nextPromise] }) := by
  refine passage.addPromise.modifyLock
    (fun lock => { lock with waiters := lock.waiters ++ [system.nextPromise] })
    (passage.addPromise.parts.lock.join ?_ ?_ ?_ ?_)
  · exact passage.loop.orderly.addPromise_isPlain {}
  · exact Scheduler.addPromise_isUngrouped_new rfl
  · intro promised
    exact Nat.lt_irrefl _ (passage.parts.lock.detained _ promised).1.known
  · exact Scheduler.addPromise_outcome?_new {} system.loop

theorem leave (passage : EditorPassage uri running before view system) (promise : Nat) :
    EditorPassage uri running before
      (view.withLock { view.synchronizer.lock with
        waiters := view.synchronizer.lock.waiters.filter fun other => other ≠ promise })
      (system.modifyLock 0 fun lock =>
        { lock with waiters := lock.waiters.filter fun other => other ≠ promise }) :=
  passage.modifyLock
    (fun lock => { lock with waiters := lock.waiters.filter fun other => other ≠ promise })
    (passage.parts.lock.leave promise)

theorem isReady_iff (passage : EditorPassage uri running before view system) :
    system.isReady 0 = true ↔
      ∃ file, view.synchronizer.file = some file ∧ system.isOpen file = true := by
  simp only [System.isReady, passage.parts.synchronizers, List.getElem?_cons_zero,
    Option.bind_some]
  cases view.synchronizer.file with
  | none => simp
  | some file => simp

theorem isReady_of_detached
    (passage : EditorPassage uri running before view system)
    (detached : view.synchronizer.file = none) :
    system.isReady 0 = false := by
  refine eq_false_of_ne_true fun isReady => ?_
  obtain ⟨file, attached, _⟩ := passage.isReady_iff.mp isReady
  rw [detached] at attached
  cases attached

theorem isReady_of_attached
    {file : Nat} (passage : EditorPassage uri running before view system)
    (attached : view.synchronizer.file = some file) :
    system.isReady 0 = system.isOpen file := by
  rw [Bool.eq_iff_iff, passage.isReady_iff, attached]
  simp

theorem isReady_of_steady
    {after : System} {later : View} (passage : EditorPassage uri running before view system)
    (laterPassage : EditorPassage uri running before later after) (steady : system.Steady after)
    (file : later.synchronizer.file = view.synchronizer.file) :
    after.isReady 0 = system.isReady 0 := by
  rw [Bool.eq_iff_iff, passage.isReady_iff, laterPassage.isReady_iff, file]
  simp only [steady.isOpen]

theorem deliveredText? (passage : EditorPassage uri running before view system) :
    system.deliveredText? uri = view.delivered.getLast?.map Delivery.text := by
  rw [System.deliveredText?, passage.parts.delivered]

end EditorPassage

/-! ## Changes under the lock -/

/-- The view after a change was delivered and the lock was given back. -/
def View.committed (view : View) (change : Change) : View where
  synchronizer := { view.synchronizer with
    version := change.version
    lock := { view.synchronizer.lock with held := false } }
  delivered := view.delivered ++ [.changed change.version change.text]
  asked := view.asked

/-- The view after a change was not delivered and the lock was given back. -/
def View.restored (view : View) (change : Change) : View :=
  { view with
    synchronizer := { view.synchronizer with
      dirty := view.synchronizer.dirty || change.wasDirty
      lock := { view.synchronizer.lock with held := false } } }

section Changes

variable {uri : String} {running : Option Nat} {before system : System} {view : View}
  {change : Change}

theorem isQuery_changeFrame (uri : String) (version : Int) (text : String) :
    isQuery (changeFrame uri version text) = false := by
  simp [isQuery, changeFrame, notificationMessage, methodOf?, messageVersion, Value.get?, member?,
    Method.didChange, Method.hover, Method.completion]

/-- A change fails for a reason, or is held back, or is accepted. -/
theorem changeFile_runs
    (passage : EditorPassage uri running before view system) (file : Nat) (version : Int)
    (text : String) :
    (∃ failure later,
      (later = system ∨ ∃ link, later = system.note (.handed link (changeFrame uri version text))) ∧
      system.changeFile file version text = (later, .ended (.failed failure))) ∨
    (∃ link, system.changeFile file version text =
      ((system.note (.handed link (changeFrame uri version text))).holdBack,
        .suspended [.sending link (changeFrame uri version text), .writing Method.didChange]
          system.nextPromise)) ∨
    ∃ link, system.changeFile file version text =
      ((system.note (.handed link (changeFrame uri version text))).accept link
        (changeFrame uri version text), .ended (.returned .nothing)) := by
  unfold System.changeFile
  split
  · exact Or.inl ⟨.missing, system, Or.inl rfl, rfl⟩
  · rename_i found entry
    rw [passage.parts.files found (List.mem_of_getElem? entry)]
    split
    · exact Or.inl ⟨_, system, Or.inl rfl, rfl⟩
    · split
      · exact Or.inl ⟨_, system, Or.inl rfl, rfl⟩
      · unfold System.notifyIn
        split
        · exact Or.inl ⟨.missing, system, Or.inl rfl, rfl⟩
        · unfold System.notify
          split
          · exact Or.inl ⟨.missing, system, Or.inl rfl, rfl⟩
          · rename_i session sessionFound
            split
            · exact Or.inl ⟨_, system, Or.inl rfl, rfl⟩
            · have writable : (some (didChangeParams uri version text)).all isWritable = true :=
                isWritable_didChangeParams uri version text
              rw [if_pos writable]
              rcases System.write_cases Method.didChange (changeFrame uri version text)
                sessionFound with ⟨failure, _, result⟩ | result | result
              · exact Or.inl ⟨_, _, Or.inr ⟨session.link, rfl⟩, result⟩
              · exact Or.inr (Or.inl ⟨session.link, result⟩)
              · exact Or.inr (Or.inr ⟨session.link, result⟩)

theorem commitChange_run
    (passage : EditorPassage uri running before view system)
    (ledger : Ledger (some change) view.synchronizer view.delivered) (link : Nat) :
    let after := (system.accept link
      (changeFrame uri change.version change.text)).commitChange change.version
    EditorPassage uri running before (view.committed change) after ∧
      Account true none (view.committed change) ∧ system.Steady after ∧
      after.deliveredText? uri = some change.text := by
  intro after
  have accepted := passage.accept link (changeFrame uri change.version change.text)
  have changed := accepted.modifySynchronizer
    (fun found => { found with version := change.version }) rfl
  have released := changed.release
  have sameView : View.released { view.accepting uri (changeFrame uri change.version change.text) with
      synchronizer := { view.synchronizer with version := change.version } } =
        view.committed change := by
    simp [View.released, View.withLock, View.accepting, View.committed]
  have committed : EditorPassage uri running before (view.committed change) after := by
    rw [← sameView]
    exact released
  refine ⟨committed, .opened (ledger.deliver rfl rfl rfl rfl), ?_, ?_⟩
  · exact ((system.accept_steady link _).trans (System.modifySynchronizer_steady _ 0 _)).trans
      (System.release_steady _ 0)
  · rw [committed.deliveredText?, View.committed, List.getLast?_concat]
    rfl

theorem restoreChange_run
    (passage : EditorPassage uri running before view system)
    (ledger : Ledger (some change) view.synchronizer view.delivered) :
    EditorPassage uri running before (view.restored change)
        (system.restoreChange change.wasDirty) ∧
      Account true none (view.restored change) :=
  ⟨(passage.modifySynchronizer
    (fun found => { found with dirty := found.dirty || change.wasDirty }) rfl).release,
    .opened (ledger.restore rfl rfl rfl rfl)⟩

end Changes

/-! ## Asking for the lock -/

/-- What a send does. The change that is in progress under the lock is given for the time before and
after. -/
structure SendRun
    (uri : String) (running : Option Nat) (before : System) (opened : Bool) (view : View)
    (change? : Option Change) (result : Step) (later : View) (laterChange? : Option Change) :
    Prop where
  passage : EditorPassage uri running before later result.1
  account : Account opened laterChange? later
  text : later.synchronizer.text = view.synchronizer.text
  asked : later.asked = view.asked
  waiters : ∀ promise ∈ view.synchronizer.lock.waiters,
    promise ∈ later.synchronizer.lock.waiters
  others : ∀ change, change? = some change → laterChange? = some change
  returned : ∀ reply, result.2 = .ended (.returned reply) → result.1.isReady 0 = true →
    result.1.deliveredText? uri = some view.synchronizer.text
  suspended : ∀ frames promise, result.2 = .suspended frames promise →
    result.1.loop.IsPlain promise ∧
      ((∃ link change, change? = none ∧ laterChange? = some change ∧
          change.text = view.synchronizer.text ∧ frames = changeFrames uri link change) ∨
        ∃ force, promise ∈ later.synchronizer.lock.waiters ∧
          promise ∉ view.synchronizer.lock.waiters ∧ frames = [.locking 0 promise force])

section Sends

variable {uri : String} {running : Option Nat} {before system : System} {opened : Bool}
  {view : View} {change? : Option Change}

theorem SendRun.of_view
    {started later : View} {laterChange? : Option Change} {result : Step}
    (run : SendRun uri running before opened started change? result later laterChange?)
    (text : started.synchronizer.text = view.synchronizer.text) (asked : started.asked = view.asked)
    (waiters : started.synchronizer.lock.waiters = view.synchronizer.lock.waiters) :
    SendRun uri running before opened view change? result later laterChange? where
  passage := run.passage
  account := run.account
  text := run.text.trans text
  asked := run.asked.trans asked
  waiters := waiters ▸ run.waiters
  others := run.others
  returned := text ▸ run.returned
  suspended := text ▸ waiters ▸ run.suspended

/-- The text is handed to the connection by somebody who has taken the lock. -/
theorem handChange_run
    {change : Change} (file : Nat) (passage : EditorPassage uri running before view system)
    (ledger : Ledger (some change) view.synchronizer view.delivered)
    (clean : view.synchronizer.dirty = false) :
    ∃ later laterChange?,
      SendRun uri running before true view none
        (Step.andThen (system.changeFile file change.version change.text)
          (.changing 0 change.version change.wasDirty)
          (System.resumeChanging 0 change.version change.wasDirty)) later laterChange? := by
  have sameText : view.synchronizer.text = change.text := ledger.current change rfl clean
  have handed (link : Nat) := passage.hand link (changeFrame uri change.version change.text)
  rw [view.handing_of_other (isQuery_changeFrame uri change.version change.text)] at handed
  rcases changeFile_runs passage file change.version change.text with
    ⟨failure, failed, failedEq, result⟩ | ⟨link, result⟩ | ⟨link, result⟩
  · have failedPassage : EditorPassage uri running before view failed := by
      rcases failedEq with rfl | ⟨link, rfl⟩
      · exact passage
      · exact handed link
    obtain ⟨restored, account⟩ := restoreChange_run failedPassage ledger
    have unreturned : ∀ reply : Reply, Outcome.failed failure ≠ .returned reply := by simp
    rw [result]
    simp only [Step.andThen, resumeChanging_not_returned _ _ _ unreturned]
    exact ⟨_, none, {
      passage := restored
      account
      text := rfl
      asked := rfl
      waiters := fun _ => id
      others := by simp
      returned := by simp
      suspended := by simp }⟩
  · rw [result]
    simp only [Step.andThen]
    exact ⟨view, some change, {
      passage := (handed link).holdBack
      account := .opened ledger
      text := rfl
      asked := rfl
      waiters := fun _ => id
      others := by simp
      returned := by simp
      suspended := fun frames promise suspends => by
        obtain ⟨rfl, rfl⟩ := Progress.suspended.inj suspends
        exact ⟨(handed link).loop.orderly.addPromise_isPlain {},
          Or.inl ⟨link, change, rfl, rfl, sameText.symm, rfl⟩⟩ }⟩
  · obtain ⟨committed, account, _, delivered⟩ := commitChange_run (handed link) ledger link
    rw [result]
    simp only [Step.andThen, resumeChanging_returned]
    exact ⟨_, none, {
      passage := committed
      account
      text := rfl
      asked := rfl
      waiters := fun _ => id
      others := by simp
      returned := fun _ _ _ => by
        rw [sameText]
        exact delivered
      suspended := by simp }⟩

/-- Whoever has taken the lock and sends nothing gives it back at once. -/
theorem idle_run
    (passage : EditorPassage uri running before
      (view.withLock { view.synchronizer.lock with held := true }) system)
    (account : Account opened none view)
    (isClean : system.isReady 0 = true → view.synchronizer.dirty = false) :
    ∃ later laterChange?, SendRun uri running before opened view none
      (.returned (system.release 0) .nothing) later laterChange? := by
  have released := passage.release
  have releasedAccount : Account opened none (View.released
      (view.withLock { view.synchronizer.lock with held := true })) := by
    cases account with
    | unopened nothing detached _ => exact .unopened nothing detached rfl
    | opened ledger => exact .opened (ledger.of_same ledger.held.symm rfl rfl rfl)
  refine ⟨_, none, {
    passage := released
    account := releasedAccount
    text := rfl
    asked := rfl
    waiters := fun _ => id
    others := nofun
    returned := fun _ _ isReady => ?_
    suspended := nofun }⟩
  have wasReady : system.isReady 0 = true := by
    rw [← passage.isReady_of_steady released (system.release_steady 0) rfl]
    exact isReady
  cases account with
  | unopened _ detached _ =>
      rw [passage.isReady_of_detached detached] at wasReady
      cases wasReady
  | opened ledger =>
      rw [Step.returned, released.deliveredText?]
      exact ledger.settled rfl (isClean wasReady)

/-- What is done under the lock, by somebody who has just taken it. -/
theorem changeLocked_run
    (force : Bool)
    (passage : EditorPassage uri running before
      (view.withLock { view.synchronizer.lock with held := true }) system)
    (account : Account opened none view) :
    ∃ later laterChange?,
      SendRun uri running before opened view none (system.changeLocked 0 force) later
        laterChange? := by
  have found : system.synchronizers[0]? =
      some { view.synchronizer with lock := { view.synchronizer.lock with held := true } } := by
    rw [passage.parts.synchronizers]
    rfl
  simp only [System.changeLocked, found]
  cases attached : view.synchronizer.file with
  | none =>
      refine idle_run passage account fun isReady => ?_
      rw [passage.isReady_of_detached attached] at isReady
      cases isReady
  | some file =>
      simp only
      split
      · rename_i idle
        refine idle_run passage account fun isReady => ?_
        rw [passage.isReady_of_attached attached] at isReady
        simp only [isReady, Bool.not_true, Bool.false_or, Bool.not_eq_true',
          Bool.or_eq_false_iff] at idle
        exact idle.1
      · -- The text is taken: it counts as sent until the change has ended.
        cases account with
        | unopened _ detached _ =>
            rw [detached] at attached
            cases attached
        | opened ledger =>
            have taken := passage.modifySynchronizer
              (fun found => { found with dirty := false }) rfl
            have takenLedger : Ledger (some ⟨view.synchronizer.version + 1, view.synchronizer.text,
                view.synchronizer.dirty⟩)
                { view.synchronizer with
                  lock := { view.synchronizer.lock with held := true }
                  dirty := false } view.delivered :=
              ledger.take rfl rfl rfl
            obtain ⟨later, laterChange?, run⟩ := handChange_run file taken takenLedger rfl
            exact ⟨later, laterChange?, run.of_view rfl rfl rfl⟩

theorem Account.change?_of_free
    (account : Account opened change? view) (free : view.synchronizer.lock.held = false) :
    change? = none := by
  cases account with
  | unopened => rfl
  | opened ledger => exact ledger.change?_of_free free

theorem Account.withWaiters (account : Account opened change? view) (waiters : List Nat) :
    Account opened change? (view.withLock { view.synchronizer.lock with waiters }) := by
  cases account with
  | unopened nothing detached free => exact .unopened nothing detached free
  | opened ledger => exact .opened (ledger.of_same rfl rfl rfl rfl)

/-- A send takes the lock at once, or waits for it behind all others. -/
theorem sendChange_run
    (force : Bool) (passage : EditorPassage uri running before view system)
    (account : Account opened change? view) :
    ∃ later laterChange?,
      SendRun uri running before opened view change? (system.sendChange 0 force) later
        laterChange? := by
  simp only [System.sendChange, passage.lockOf]
  split
  · rename_i isFree
    simp only [Bool.and_eq_true, Bool.not_eq_true', List.all_eq_true] at isFree
    obtain ⟨free, cancelled⟩ := isFree
    obtain rfl := account.change?_of_free free
    have taken := passage.modifyLock (fun lock => { lock with held := true })
      (passage.parts.lock.take (noneGranted_of_cancelled cancelled))
    exact changeLocked_run force taken account
  · have unsettled : (system.addPromise.modifyLock 0 fun lock =>
        { lock with waiters := lock.waiters ++ [system.nextPromise] }).loop.outcome?
          system.nextPromise = none :=
      Scheduler.addPromise_outcome?_new {} system.loop
    rw [System.await_of_unsettled unsettled]
    exact ⟨_, change?, {
      passage := passage.join
      account := account.withWaiters _
      text := rfl
      asked := rfl
      waiters := fun promise member => List.mem_append_left _ member
      others := fun _ => id
      returned := fun _ returns => by cases returns
      suspended := fun frames promise suspends => by
        obtain ⟨rfl, rfl⟩ := Progress.suspended.inj suspends
        exact ⟨passage.loop.orderly.addPromise_isPlain {}, Or.inr ⟨force,
          List.mem_append_right _ List.mem_cons_self, passage.nextPromise_not_waiter, rfl⟩⟩ }⟩

/-- The view without one of those who wait for the lock. -/
def View.without (view : View) (promise : Nat) : View :=
  view.withLock { view.synchronizer.lock with
    waiters := view.synchronizer.lock.waiters.filter fun other => other ≠ promise }

/-- Whoever is granted the lock finds it free and sends the text. -/
theorem resumeLocking_granted_run
    {promise : Nat} {reply : Reply} (force : Bool)
    (passage : EditorPassage uri running before view system)
    (account : Account opened change? view) (waits : promise ∈ view.synchronizer.lock.waiters)
    (granted : system.loop.outcome? promise = some (.returned reply)) :
    change? = none ∧ ∃ later laterChange?,
      SendRun uri running before opened (view.without promise) none
        (System.resumeLocking 0 promise force system (.returned reply)) later laterChange? := by
  have free := (passage.parts.lock.granted promise waits reply granted).1
  obtain rfl := account.change?_of_free free
  have left := passage.leave promise
  have taken := left.modifyLock (fun lock => { lock with held := true })
    (left.parts.lock.take (passage.parts.lock.noneGranted_of_granted waits granted))
  exact ⟨rfl, changeLocked_run force taken (account.withWaiters _)⟩

/-- Whoever no longer waits for the lock leaves the others in their order. -/
theorem resumeLocking_givesUp_run
    {ending : Outcome Reply} (promise : Nat) (force : Bool)
    (passage : EditorPassage uri running before view system)
    (unreturned : ∀ reply, ending ≠ .returned reply) :
    ∃ after, System.resumeLocking 0 promise force system ending = (after, .ended ending) ∧
      EditorPassage uri running before (view.without promise) after := by
  have left := passage.leave promise
  rw [resumeLocking_not_returned promise force system unreturned]
  simp only [left.lockOf]
  refine ⟨_, rfl, ?_⟩
  split
  · exact left
  · rename_i free
    exact left.wakeFirst (eq_false_of_ne_true free)

theorem flush_run
    (force : Bool) (passage : EditorPassage uri running before view system)
    (account : Account opened change? view) :
    ∃ later laterChange?,
      SendRun uri running before opened view change? (system.flush 0 force) later
        laterChange? := by
  have cancelled := passage.cancelTimer
  have cancelledAccount := account.of_keeps view.untimed_keeps
  simp only [System.flush]
  cases ready : (system.cancelTimer 0).isReady 0 with
  | true =>
      obtain ⟨later, laterChange?, run⟩ := sendChange_run force cancelled cancelledAccount
      exact ⟨later, laterChange?, run.of_view rfl rfl rfl⟩
  | false =>
      exact ⟨_, change?, {
        passage := cancelled
        account := cancelledAccount
        text := rfl
        asked := rfl
        waiters := fun _ => id
        others := fun _ => id
        returned := fun _ _ isReady => by
          have unready : (system.cancelTimer 0).isReady 0 = true := isReady
          rw [ready] at unready
          cases unready
        suspended := fun _ _ suspends => by cases suspends }⟩

end Sends

end LanguageClient.Client
