import LanguageClient.Proofs.Tenure.Asides

/-!
# Sends of a synchronizer that changes its document

What a send does from the moment at which it asks for the lock: it ends, it waits for the lock, or its
frame is held back while it has the lock. Seen from outside, each turn of it is one of a few moves.
-/

namespace LanguageClient.Client

open LanguageClient.Json LanguageClient.Loop LanguageClient.Number LanguageClient.Protocol

/-! ## Moves -/

/-- A synchronizer comes from another one without an edit and without a new attachment or a new
timer. -/
structure Synchronizer.Follows (before after : Synchronizer) : Prop where
  text : after.text = before.text
  file : after.file = before.file ∨ after.file = none
  timer : after.timer = before.timer ∨ after.timer = none

namespace Synchronizer.Follows

variable {before middle after : Synchronizer}

theorem refl (synchronizer : Synchronizer) : synchronizer.Follows synchronizer :=
  ⟨rfl, Or.inl rfl, Or.inl rfl⟩

theorem of_leaves (leaves : before.Leaves after) : before.Follows after :=
  ⟨leaves.text, leaves.file, leaves.timer⟩

theorem of_same
    (text : after.text = before.text) (file : after.file = before.file)
    (timer : after.timer = before.timer) :
    before.Follows after :=
  ⟨text, Or.inl file, Or.inl timer⟩

end Synchronizer.Follows

/-- The change that a synchronizer hands over next. -/
def Synchronizer.nextChange (synchronizer : Synchronizer) : Change :=
  ⟨synchronizer.version + 1, synchronizer.text, synchronizer.dirty⟩

/-- What a turn of a task does to a synchronizer, to the holder of its lock and to the changes on
their way. A change is handed over only by somebody who finds the lock free, the document attached, and
the text unsent unless he sends it in any case. -/
inductive Handling
    (task : Nat) (forced : Bool) (before : Synchronizer) (holder : Option (Nat × Consignment)) :
    Synchronizer → Option (Nat × Consignment) → List Occurrence → Prop where
  | rests (after : Synchronizer) (dirty : after.dirty = before.dirty)
      (version : after.version = before.version) :
    Handling task forced before holder after holder []
  | isRefused (after : Synchronizer) (consignment : Consignment) (free : holder = none)
      (attached : before.file ≠ none) (due : before.dirty = true ∨ forced = true)
      (isNext : consignment.change = before.nextChange) (dirty : after.dirty = before.dirty)
      (version : after.version = before.version) :
    Handling task forced before holder after none [consignment.handing]
  | hands (after : Synchronizer) (consignment : Consignment) (free : holder = none)
      (attached : before.file ≠ none) (due : before.dirty = true ∨ forced = true)
      (isNext : consignment.change = before.nextChange) (dirty : after.dirty = false)
      (version : after.version = before.version) :
    Handling task forced before holder after (some (task, consignment)) [consignment.handing]
  | sends (after : Synchronizer) (consignment : Consignment) (free : holder = none)
      (attached : before.file ≠ none) (due : before.dirty = true ∨ forced = true)
      (isNext : consignment.change = before.nextChange) (dirty : after.dirty = false)
      (version : after.version = consignment.change.version) :
    Handling task forced before holder after none [consignment.handing, consignment.acceptance]
  | delivers (after : Synchronizer) (consignment : Consignment)
      (holds : holder = some (task, consignment)) (dirty : after.dirty = before.dirty)
      (version : after.version = consignment.change.version) :
    Handling task forced before holder after none [consignment.acceptance]
  | restores (after : Synchronizer) (consignment : Consignment)
      (holds : holder = some (task, consignment))
      (dirty : after.dirty = (before.dirty || consignment.change.wasDirty))
      (version : after.version = before.version) :
    Handling task forced before holder after none []

/-- A move does not depend on the timer and the lock that the synchronizer has before. -/
theorem Handling.of_before
    {task : Nat} {forced : Bool} {before started after : Synchronizer}
    {holder laterHolder : Option (Nat × Consignment)} {added : List Occurrence}
    (move : Handling task forced started holder after laterHolder added)
    (text : started.text = before.text) (dirty : started.dirty = before.dirty)
    (version : started.version = before.version) (file : started.file = before.file) :
    Handling task forced before holder after laterHolder added := by
  have nextChange : started.nextChange = before.nextChange := by
    simp only [Synchronizer.nextChange, text, dirty, version]
  cases move with
  | rests sameDirty sameVersion =>
      exact .rests after (sameDirty.trans dirty) (sameVersion.trans version)
  | isRefused consignment free attached due isNext sameDirty sameVersion =>
      exact .isRefused after consignment free (file ▸ attached) (dirty ▸ due)
        (isNext.trans nextChange) (sameDirty.trans dirty) (sameVersion.trans version)
  | hands consignment free attached due isNext clean sameVersion =>
      exact .hands after consignment free (file ▸ attached) (dirty ▸ due)
        (isNext.trans nextChange) clean (sameVersion.trans version)
  | sends consignment free attached due isNext clean laterVersion =>
      exact .sends after consignment free (file ▸ attached) (dirty ▸ due)
        (isNext.trans nextChange) clean laterVersion
  | delivers consignment holds sameDirty laterVersion =>
      exact .delivers after consignment holds (sameDirty.trans dirty) laterVersion
  | restores consignment holds laterDirty sameVersion =>
      exact .restores after consignment holds (dirty ▸ laterDirty) (sameVersion.trans version)

/-! ## The lock -/

/-- A synchronizer whose lock is given back. -/
def Synchronizer.released (synchronizer : Synchronizer) : Synchronizer :=
  { synchronizer with lock := { synchronizer.lock with held := false } }

/-- A synchronizer for whose lock somebody waits behind all others. -/
def Synchronizer.joined (synchronizer : Synchronizer) (promise : Nat) : Synchronizer :=
  { synchronizer with
    lock := { synchronizer.lock with waiters := synchronizer.lock.waiters ++ [promise] } }

namespace TenurePassage

variable {running : Option Nat} {before system : System} {synchronizer : Synchronizer}
  {changes : List Occurrence}

theorem wakeFirst
    (passage : TenurePassage running before synchronizer changes system)
    (free : synchronizer.lock.held = false) :
    TenurePassage running before synchronizer changes (system.wakeFirst 0) := by
  unfold System.wakeFirst
  rw [passage.lockOf]
  split
  · exact passage
  · rename_i promise others waitersEq
    have member : promise ∈ synchronizer.lock.waiters := by
      rw [waitersEq]
      exact List.mem_cons_self
    obtain ⟨plain, ungrouped⟩ := passage.parts.lock.waiters promise member
    have step : Scheduler.Passage tenureScope running True (fun _ _ => True) system.loop
        (system.loop.settle promise (.returned .nothing)) :=
      (passage.here fun _ _ => True).settle plain.noCompletion trivial
    exact {
      parts := { passage.parts with
        lock := passage.parts.lock.grantFirst free waitersEq _
        books := passage.parts.books.settle (Or.inr ungrouped) }
      loop := {
        orderly := step.orderly
        punctual := step.punctual
        advances := passage.loop.advances.trans step.advances
        runs := passage.loop.runs }
      members := passage.members.trans
        (.of_same fun other => system.loop.settle_groupOf? promise other _)
      spawned := by
        rw [System.settle, System.onLoop, Scheduler.settle_tasks]
        exact passage.spawned }

theorem release (passage : TenurePassage running before synchronizer changes system) :
    TenurePassage running before synchronizer.released changes (system.release 0) :=
  (passage.modifyLock (fun lock => { lock with held := false })
    passage.parts.lock.giveBack).wakeFirst rfl

theorem join (passage : TenurePassage running before synchronizer changes system) :
    TenurePassage running before (synchronizer.joined system.nextPromise) changes
      (system.addPromise.modifyLock 0 fun lock =>
        { lock with waiters := lock.waiters ++ [system.nextPromise] }) := by
  refine passage.addPromise.modifyLock
    (fun lock => { lock with waiters := lock.waiters ++ [system.nextPromise] })
    (passage.addPromise.parts.lock.join ?_ ?_ ?_ ?_)
  · exact passage.loop.orderly.addPromise_isPlain {}
  · exact Scheduler.addPromise_isUngrouped_new rfl
  · intro promised
    exact Nat.lt_irrefl _ (passage.parts.lock.detained _ promised).1.known
  · exact Scheduler.addPromise_outcome?_new {} system.loop

theorem leave
    (passage : TenurePassage running before synchronizer changes system) (promise : Nat) :
    TenurePassage running before (synchronizer.without promise) changes
      (system.modifyLock 0 fun lock =>
        { lock with waiters := lock.waiters.filter fun other => other ≠ promise }) :=
  passage.modifyLock
    (fun lock => { lock with waiters := lock.waiters.filter fun other => other ≠ promise })
    (passage.parts.lock.leave promise)

end TenurePassage

/-! ## Asking for the lock -/

/-- A change is written, held back, refused or accepted; without a session it is not even handed to a
connection. -/
theorem changeFile_runs_freely
    (system : System) (file : Nat) (version : Int) (text : String) :
    (∃ failure, system.changeFile file version text = (system, .ended (.failed failure))) ∨
    ∃ uri link,
      (∃ failure, system.changeFile file version text =
        (system.note (.handed link (changeFrame uri version text)), .ended (.failed failure))) ∨
      system.changeFile file version text =
        ((system.note (.handed link (changeFrame uri version text))).holdBack,
          .suspended [.sending link (changeFrame uri version text), .writing Method.didChange]
            system.nextPromise) ∨
      system.changeFile file version text =
        ((system.note (.handed link (changeFrame uri version text))).accept link
          (changeFrame uri version text), .ended (.returned .nothing)) := by
  unfold System.changeFile
  split
  · exact Or.inl ⟨.missing, rfl⟩
  · rename_i found _
    split
    · exact Or.inl ⟨_, rfl⟩
    · split
      · exact Or.inl ⟨_, rfl⟩
      · unfold System.notifyIn
        split
        · exact Or.inl ⟨.missing, rfl⟩
        · unfold System.notify
          split
          · exact Or.inl ⟨.missing, rfl⟩
          · rename_i session sessionFound
            split
            · exact Or.inl ⟨_, rfl⟩
            · have writable : (some (didChangeParams found.uri version text)).all isWritable = true :=
                isWritable_didChangeParams found.uri version text
              rw [if_pos writable]
              refine Or.inr ⟨found.uri, session.link, ?_⟩
              rcases System.write_cases Method.didChange (changeFrame found.uri version text)
                sessionFound with ⟨failure, _, result⟩ | result | result
              · exact Or.inl ⟨_, result⟩
              · exact Or.inr (Or.inl result)
              · exact Or.inr (Or.inr result)

/-- What a send of a task does. The holder of the lock is given for the time before and after. -/
structure TenureSend
    (task : Nat) (forced : Bool) (before : System) (synchronizer : Synchronizer)
    (holder : Option (Nat × Consignment)) (changes : List Occurrence) (result : Step)
    (later : Synchronizer) (laterHolder : Option (Nat × Consignment)) (added : List Occurrence) :
    Prop where
  passage : TenurePassage (some task) before later (changes ++ added) result.1
  held : later.lock.held = laterHolder.isSome
  follows : synchronizer.Follows later
  sends : later.sends = synchronizer.sends
  move : Handling task forced synchronizer holder later laterHolder added
  waiters : ∀ promise ∈ synchronizer.lock.waiters, promise ∈ later.lock.waiters
  suspended : ∀ frames promise, result.2 = .suspended frames promise →
    result.1.loop.IsPlain promise ∧
      ((∃ consignment, holder = none ∧ laterHolder = some (task, consignment) ∧
          frames = consignment.frames) ∨
        laterHolder = holder ∧ promise ∈ later.lock.waiters ∧
          promise ∉ synchronizer.lock.waiters ∧ frames = [.locking 0 promise forced])
  ended : ∀ outcome, result.2 = .ended outcome → laterHolder = holder

section Sends

variable {task : Nat} {forced : Bool} {before system : System} {synchronizer : Synchronizer}
  {holder : Option (Nat × Consignment)} {changes : List Occurrence}

/-- A change that was handed over has not reached the peer: all is as before. -/
theorem restoreChange_tenure
    (passage : TenurePassage (some task) before
      { synchronizer with lock := { synchronizer.lock with held := true }, dirty := false }
      changes system) :
    TenurePassage (some task) before synchronizer.released changes
      (system.restoreChange synchronizer.dirty) :=
  (passage.modifySynchronizer
    (fun found => { found with dirty := found.dirty || synchronizer.dirty }) rfl
    passage.parts.books).release

/-- The text is handed to the connection by somebody who has taken the lock and the unsent edit. -/
theorem handChange_tenure
    (file : Nat) (attached : synchronizer.file ≠ none)
    (due : synchronizer.dirty = true ∨ forced = true)
    (passage : TenurePassage (some task) before
      { synchronizer with lock := { synchronizer.lock with held := true }, dirty := false }
      changes system) :
    ∃ later laterHolder added, TenureSend task forced before synchronizer none changes
      (Step.andThen (system.changeFile file (synchronizer.version + 1 : Nat) synchronizer.text)
        (.changing 0 (synchronizer.version + 1) synchronizer.dirty)
        (System.resumeChanging 0 (synchronizer.version + 1) synchronizer.dirty))
      later laterHolder added := by
  have unreturned (failure : Failure) : ∀ reply : Reply, Outcome.failed failure ≠ .returned reply :=
    fun _ returned => by cases returned
  rcases changeFile_runs_freely system file (synchronizer.version + 1 : Nat) synchronizer.text with
    ⟨failure, result⟩ | ⟨uri, link, written⟩
  · rw [result]
    simp only [Step.andThen, resumeChanging_not_returned _ _ _ (unreturned failure)]
    refine ⟨synchronizer.released, none, [], {
      passage := by
        rw [List.append_nil]
        exact restoreChange_tenure passage
      held := rfl
      follows := .of_same rfl rfl rfl
      sends := rfl
      move := .rests _ rfl rfl
      waiters := fun _ => id
      suspended := fun _ _ suspends => by cases suspends
      ended := fun _ _ => rfl }⟩
  · let consignment : Consignment := ⟨uri, link, synchronizer.nextChange⟩
    have handed : TenurePassage (some task) before _ (changes ++ [consignment.handing])
        (system.note (.handed link (changeFrame uri (synchronizer.version + 1 : Nat)
          synchronizer.text))) :=
      passage.noteChange (isChange_changeFrame _ _ _)
    rcases written with ⟨failure, result⟩ | result | result
    · rw [result]
      simp only [Step.andThen, resumeChanging_not_returned _ _ _ (unreturned failure)]
      exact ⟨synchronizer.released, none, [consignment.handing], {
        passage := restoreChange_tenure handed
        held := rfl
        follows := .of_same rfl rfl rfl
        sends := rfl
        move := .isRefused _ consignment rfl attached due rfl rfl rfl
        waiters := fun _ => id
        suspended := fun _ _ suspends => by cases suspends
        ended := fun _ _ => rfl }⟩
    · rw [result]
      simp only [Step.andThen]
      exact ⟨_, some (task, consignment), [consignment.handing], {
        passage := handed.holdBack
        held := rfl
        follows := .of_same rfl rfl rfl
        sends := rfl
        move := .hands _ consignment rfl attached due rfl rfl rfl
        waiters := fun _ => id
        suspended := fun frames promise suspends => by
          obtain ⟨rfl, rfl⟩ := Progress.suspended.inj suspends
          exact ⟨handed.loop.orderly.addPromise_isPlain {}, Or.inl ⟨consignment, rfl, rfl, rfl⟩⟩
        ended := fun _ ends => by cases ends }⟩
    · rw [result]
      simp only [Step.andThen, resumeChanging_returned]
      have accepted := handed.accept link
        (changeFrame uri (synchronizer.version + 1 : Nat) synchronizer.text)
      rw [if_pos (isChange_changeFrame _ _ _), List.append_assoc] at accepted
      exact ⟨_, none, [consignment.handing, consignment.acceptance], {
        passage := (accepted.modifySynchronizer
          (fun found => { found with version := synchronizer.version + 1 }) rfl
          accepted.parts.books).release
        held := rfl
        follows := .of_same rfl rfl rfl
        sends := rfl
        move := .sends _ consignment rfl attached due rfl rfl rfl
        waiters := fun _ => id
        suspended := fun _ _ suspends => by cases suspends
        ended := fun _ _ => rfl }⟩

/-- What is done under the lock, by somebody who has just taken it. -/
theorem changeLocked_tenure
    (passage : TenurePassage (some task) before
      { synchronizer with lock := { synchronizer.lock with held := true } } changes system) :
    ∃ later laterHolder added, TenureSend task forced before synchronizer none changes
      (system.changeLocked 0 forced) later laterHolder added := by
  have found : system.synchronizers[0]? =
      some { synchronizer with lock := { synchronizer.lock with held := true } } := by
    rw [passage.parts.synchronizers]
    rfl
  have idle : TenureSend task forced before synchronizer none changes
      (.returned (system.release 0) .nothing) synchronizer.released none [] := {
    passage := by
      rw [List.append_nil]
      exact passage.release
    held := rfl
    follows := .of_same rfl rfl rfl
    sends := rfl
    move := .rests _ rfl rfl
    waiters := fun _ => id
    suspended := fun _ _ suspends => by cases suspends
    ended := fun _ _ => rfl }
  simp only [System.changeLocked, found]
  cases attached : synchronizer.file with
  | none => exact ⟨_, _, _, idle⟩
  | some file =>
      simp only
      split
      · exact ⟨_, _, _, idle⟩
      · rename_i notIdle
        simp only [Bool.or_eq_true, Bool.not_eq_true', not_or, Bool.not_eq_false] at notIdle
        -- The text is taken: it counts as sent until the change has ended.
        have taken := passage.modifySynchronizer (fun found => { found with dirty := false }) rfl
          passage.parts.books
        exact handChange_tenure file (by simp [attached]) notIdle.2 taken

/-- A send takes the lock at once, or waits for it behind all others. -/
theorem sendChange_tenure
    (forced : Bool) (passage : TenurePassage (some task) before synchronizer changes system)
    (held : synchronizer.lock.held = holder.isSome) :
    ∃ later laterHolder added, TenureSend task forced before synchronizer holder changes
      (system.sendChange 0 forced) later laterHolder added := by
  simp only [System.sendChange, passage.lockOf]
  split
  · rename_i isFree
    simp only [Bool.and_eq_true, Bool.not_eq_true', List.all_eq_true] at isFree
    obtain ⟨free, cancelled⟩ := isFree
    rw [held] at free
    obtain rfl := Option.isNone_iff_eq_none.mp (Option.isSome_eq_false_iff.mp free)
    exact changeLocked_tenure (passage.modifyLock (fun lock => { lock with held := true })
      (passage.parts.lock.take (noneGranted_of_cancelled cancelled)))
  · have unsettled : (system.addPromise.modifyLock 0 fun lock =>
        { lock with waiters := lock.waiters ++ [system.nextPromise] }).loop.outcome?
          system.nextPromise = none :=
      Scheduler.addPromise_outcome?_new {} system.loop
    rw [System.await_of_unsettled unsettled]
    exact ⟨synchronizer.joined system.nextPromise, holder, [], {
      passage := by
        rw [List.append_nil]
        exact passage.join
      held := held
      follows := .of_same rfl rfl rfl
      sends := rfl
      move := .rests _ rfl rfl
      waiters := fun promise member => List.mem_append_left _ member
      suspended := fun frames promise suspends => by
        obtain ⟨rfl, rfl⟩ := Progress.suspended.inj suspends
        exact ⟨passage.loop.orderly.addPromise_isPlain {}, Or.inr ⟨rfl,
          List.mem_append_right _ List.mem_cons_self, passage.nextPromise_not_waiter, rfl⟩⟩
      ended := fun _ _ => rfl }⟩

/-- Whoever is granted the lock finds it free and sends the text. -/
theorem resumeLocking_granted_tenure
    {promise : Nat} {reply : Reply} (forced : Bool)
    (passage : TenurePassage (some task) before synchronizer changes system)
    (held : synchronizer.lock.held = holder.isSome) (waits : promise ∈ synchronizer.lock.waiters)
    (granted : system.loop.outcome? promise = some (.returned reply)) :
    holder = none ∧ ∃ later laterHolder added,
      TenureSend task forced before (synchronizer.without promise) none changes
        (System.resumeLocking 0 promise forced system (.returned reply)) later laterHolder added := by
  have free := (passage.parts.lock.granted promise waits reply granted).1
  rw [held] at free
  refine ⟨Option.isNone_iff_eq_none.mp (Option.isSome_eq_false_iff.mp free), ?_⟩
  have left := passage.leave promise
  exact changeLocked_tenure (left.modifyLock (fun lock => { lock with held := true })
    (left.parts.lock.take (passage.parts.lock.noneGranted_of_granted waits granted)))

/-- Whoever no longer waits for the lock leaves the others in their order. -/
theorem resumeLocking_givesUp_tenure
    {ending : Outcome Reply} (promise : Nat) (forced : Bool)
    (passage : TenurePassage (some task) before synchronizer changes system)
    (unreturned : ∀ reply, ending ≠ .returned reply) :
    ∃ after, System.resumeLocking 0 promise forced system ending = (after, .ended ending) ∧
      TenurePassage (some task) before (synchronizer.without promise) changes after := by
  have left := passage.leave promise
  rw [resumeLocking_not_returned promise forced system unreturned]
  simp only [left.lockOf]
  refine ⟨_, rfl, ?_⟩
  split
  · exact left
  · rename_i free
    exact left.wakeFirst (eq_false_of_ne_true free)

theorem flush_tenure
    (forced : Bool) (passage : TenurePassage (some task) before synchronizer changes system)
    (held : synchronizer.lock.held = holder.isSome) :
    ∃ later laterHolder added, TenureSend task forced before synchronizer holder changes
      (system.flush 0 forced) later laterHolder added := by
  have cancelled := passage.cancelTimer
  simp only [System.flush]
  split
  · obtain ⟨later, laterHolder, added, send⟩ :=
      sendChange_tenure forced cancelled held
    exact ⟨later, laterHolder, added, { send with
      follows := { send.follows with
        timer := Or.inr (send.follows.timer.elim id id) }
      move := send.move.of_before rfl rfl rfl rfl }⟩
  · exact ⟨{ synchronizer with timer := none }, holder, [], {
      passage := by
        rw [List.append_nil]
        exact cancelled
      held := held
      follows := ⟨rfl, Or.inl rfl, Or.inr rfl⟩
      sends := rfl
      move := .rests _ rfl rfl
      waiters := fun _ => id
      suspended := fun _ _ suspends => by cases suspends
      ended := fun _ _ => rfl }⟩

end Sends

end LanguageClient.Client
