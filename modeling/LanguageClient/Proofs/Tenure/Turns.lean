import LanguageClient.Proofs.Tenure.Sends

/-!
# Turns of a client whose synchronizer changes its document

A task goes on from one of a few places, makes one move and is left at such a place again. All other
tasks stand where they stood, except for those that the client has started meanwhile.
-/

namespace LanguageClient.Client

open LanguageClient.Json LanguageClient.Loop LanguageClient.Number LanguageClient.Protocol

/-- Whether a frame sends the text in any case. -/
def Frame.forces : Frame → Bool
  | .begin (.flush _ force) | .locking _ _ force => force
  | _ => false

/-- Whether a task with some frames sends the text in any case. -/
def forces (stack : List Frame) : Bool := stack.any Frame.forces

theorem forces_locking
    {caller : List Frame} (synchronizer promise : Nat) (force : Bool) (allowed : IsCaller caller) :
    forces (.locking synchronizer promise force :: caller) = force := by
  rcases allowed with rfl | rfl
  · simp [forces, Frame.forces]
  · simp [forces, Frame.forces]

/-! ## Where a task is left -/

/-- A task that went on from some frames is left waiting. A new promise of the lock is nobody
else's. -/
inductive TenureLeft
    (task : Nat) (synchronizer later : Synchronizer) (holder : Option (Nat × Consignment))
    (stack : List Frame) (after : System) (promise : Nat) : List Frame → Prop where
  | aside (frames : List Frame) (wait : AsideWait after frames promise) :
    TenureLeft task synchronizer later holder stack after promise frames
  | locks (force : Bool) (caller : List Frame) (allowed : IsCaller caller)
      (plain : after.loop.IsPlain promise) (waits : promise ∈ later.lock.waiters)
      (own : promise ∈ synchronizer.lock.waiters →
        ∃ earlier outer, stack = .locking 0 promise earlier :: outer)
      (timed : .sendingDebounced 0 ∈ caller → IsTimerSend stack) :
    TenureLeft task synchronizer later holder stack after promise
      (.locking 0 promise force :: caller)
  | changes (consignment : Consignment) (caller : List Frame) (allowed : IsCaller caller)
      (plain : after.loop.IsPlain promise) (isHolder : holder = some (task, consignment))
      (timed : .sendingDebounced 0 ∈ caller → IsTimerSend stack) :
    TenureLeft task synchronizer later holder stack after promise (consignment.frames ++ caller)

/-- Who holds the lock after a turn of a task that is left with some frames: whoever held it before,
or nobody after the task gave it back, or the task after it took it. -/
inductive HolderAfter
    (task : Nat) (holder : Option (Nat × Consignment)) (frames : List Frame) :
    Option (Nat × Consignment) → Prop where
  | same (foreign : ∀ consignment, holder ≠ some (task, consignment)) :
    HolderAfter task holder frames holder
  | gaveBack (consignment : Consignment) (held : holder = some (task, consignment)) :
    HolderAfter task holder frames none
  | took (consignment : Consignment) (caller : List Frame) (free : holder = none)
      (isLeft : frames = consignment.frames ++ caller) :
    HolderAfter task holder frames (some (task, consignment))

/-- What a task does with its frames. -/
structure TenureRun
    (task : Nat) (system : System) (synchronizer : Synchronizer)
    (holder : Option (Nat × Consignment)) (stack : List Frame) (result : Step)
    (later : Synchronizer) (laterHolder : Option (Nat × Consignment)) (added : List Occurrence) :
    Prop where
  passage : TenurePassage (some task) system later (system.changes ++ added) result.1
  held : later.lock.held = laterHolder.isSome
  follows : synchronizer.Follows later
  sends : later.sends = synchronizer.sends
  move : Handling task (forces stack) synchronizer holder later laterHolder added
  waiters : ∀ promise ∈ synchronizer.lock.waiters, promise ∈ later.lock.waiters ∨
    ∃ force outer, stack = .locking 0 promise force :: outer
  holders : HolderAfter task holder result.2.frames laterHolder
  suspended : ∀ frames promise, result.2 = .suspended frames promise →
    TenureLeft task synchronizer later laterHolder stack result.1 promise frames

section Runs

variable {task : Nat} {system : System} {synchronizer : Synchronizer}
  {holder : Option (Nat × Consignment)} {stack : List Frame}

/-! ## Tasks that change no document -/

theorem AsideRun.tenureRun
    {started : Synchronizer} {result : Step} (stack : List Frame)
    (run : AsideRun (some task) system started system.changes result)
    (leaves : synchronizer.Leaves started) (held : synchronizer.lock.held = holder.isSome)
    (foreign : ∀ consignment, holder ≠ some (task, consignment)) :
    ∃ later, TenureRun task system synchronizer holder stack result later holder [] := by
  obtain ⟨⟨later, laterLeaves, passage⟩, suspended⟩ := run
  have whole := leaves.trans laterLeaves
  exact ⟨later, {
    passage := by
      rw [List.append_nil]
      exact passage
    held := by
      rw [whole.lock]
      exact held
    follows := .of_leaves whole
    sends := whole.sends
    move := .rests later whole.dirty whole.version
    waiters := fun promise member => by
      rw [whole.lock]
      exact Or.inl member
    holders := .same foreign
    suspended := fun frames promise suspends => .aside frames (suspended frames promise suspends) }⟩

/-! ## Tasks that send -/

/-- When the send of a task has ended, its caller goes on in the same turn. -/
theorem resumeCaller_tenure
    {before after : System} {caller : List Frame} {changes : List Occurrence}
    (allowed : IsCaller caller) (outcome : Outcome Reply)
    (passage : TenurePassage (some task) before synchronizer changes after) :
    ∃ last ending, after.resumeStack outcome caller = (last, .ended ending) ∧
      TenurePassage (some task) before synchronizer changes last := by
  obtain ⟨last, ending, result, same | ⟨text, same⟩⟩ := resumeStack_caller allowed after outcome
  · exact ⟨last, ending, result, same ▸ passage⟩
  · exact ⟨last, ending, result, same ▸ passage.log _ _ text⟩

/-- The send of a task, with the caller behind it. The waiters of the lock are those before, apart from
the task itself. -/
theorem TenureSend.tenureRun
    {forced : Bool} {started later : Synchronizer} {step : Step} {caller : List Frame}
    {laterHolder : Option (Nat × Consignment)} {added : List Occurrence}
    (send : TenureSend task forced system started holder system.changes step later laterHolder added)
    (isForced : forces stack = forced) (allowed : IsCaller caller)
    (timed : .sendingDebounced 0 ∈ caller → IsTimerSend stack)
    (follows : synchronizer.Follows later) (sends : started.sends = synchronizer.sends)
    (move : Handling task forced synchronizer holder later laterHolder added)
    (foreign : ∀ consignment, holder ≠ some (task, consignment))
    (waiters : ∀ promise ∈ synchronizer.lock.waiters, promise ∈ started.lock.waiters ∨
      ∃ force outer, stack = .locking 0 promise force :: outer) :
    TenureRun task system synchronizer holder stack (step.goOn caller) later laterHolder added := by
  subst isForced
  have laterWaiters : ∀ promise ∈ synchronizer.lock.waiters, promise ∈ later.lock.waiters ∨
      ∃ force outer, stack = .locking 0 promise force :: outer :=
    fun promise member => (waiters promise member).imp_left (send.waiters promise)
  obtain ⟨current, outcome | ⟨frames, promise⟩⟩ := step
  · obtain ⟨last, ending, result, passage⟩ := resumeCaller_tenure allowed outcome send.passage
    have ends : Step.goOn (current, .ended outcome) caller = (last, .ended ending) := result
    obtain rfl := send.ended outcome rfl
    rw [ends]
    exact {
      passage
      held := send.held
      follows
      sends := send.sends.trans sends
      move
      waiters := laterWaiters
      holders := .same foreign
      suspended := nofun }
  · have waits : Step.goOn (current, .suspended frames promise) caller =
        (current, .suspended (frames ++ caller) promise) := rfl
    obtain ⟨plain, ⟨consignment, free, takes, framesEq⟩ | ⟨keeps, member, new, framesEq⟩⟩ :=
      send.suspended frames promise rfl
    · rw [waits]
      exact {
        passage := send.passage
        held := send.held
        follows
        sends := send.sends.trans sends
        move
        waiters := laterWaiters
        holders := by
          rw [takes]
          exact .took consignment caller free (by rw [framesEq]; rfl)
        suspended := fun others other suspends => by
          obtain ⟨rfl, rfl⟩ := Progress.suspended.inj suspends
          rw [framesEq]
          exact .changes consignment caller allowed plain takes timed }
    · rw [waits]
      exact {
        passage := send.passage
        held := send.held
        follows
        sends := send.sends.trans sends
        move
        waiters := laterWaiters
        holders := by
          rw [keeps]
          exact .same foreign
        suspended := fun others other suspends => by
          obtain ⟨rfl, rfl⟩ := Progress.suspended.inj suspends
          rw [framesEq]
          exact .locks (forces stack) caller allowed plain member (fun earlier =>
            (waiters promise earlier).resolve_left new) timed }

/-- A task that has waited for the lock takes it, or no longer waits. -/
theorem locks_tenureRun
    {promise : Nat} {force : Bool} {caller : List Frame} {signal : Outcome Reply}
    (allowed : IsCaller caller) (waits : promise ∈ synchronizer.lock.waiters)
    (granted : ∀ reply, signal = .returned reply →
      system.loop.outcome? promise = some (.returned reply))
    (passage : TenurePassage (some task) system synchronizer system.changes system)
    (held : synchronizer.lock.held = holder.isSome)
    (foreign : ∀ consignment, holder ≠ some (task, consignment)) :
    ∃ later laterHolder added, TenureRun task system synchronizer holder
      (.locking 0 promise force :: caller)
      (system.resumeStack signal (.locking 0 promise force :: caller)) later laterHolder added := by
  have remains : ∀ other ∈ synchronizer.lock.waiters,
      other ∈ (synchronizer.without promise).lock.waiters ∨
        ∃ earlier outer, Frame.locking 0 promise force :: caller =
          .locking 0 other earlier :: outer := by
    intro other member
    by_cases same : other = promise
    · exact Or.inr ⟨force, caller, by rw [same]⟩
    · exact Or.inl (List.mem_filter.mpr ⟨member, decide_eq_true same⟩)
  rw [resumeStack_cons]
  by_cases returned : ∃ reply, signal = .returned reply
  · obtain ⟨reply, rfl⟩ := returned
    obtain ⟨rfl, later, laterHolder, added, send⟩ :=
      resumeLocking_granted_tenure force passage held waits (granted reply rfl)
    exact ⟨later, laterHolder, added, send.tenureRun (forces_locking 0 promise force allowed)
      allowed (fun member => Or.inr (List.mem_cons_of_mem _ member))
      ⟨send.follows.text, send.follows.file, send.follows.timer⟩ rfl
      (send.move.of_before rfl rfl rfl rfl) foreign remains⟩
  · have unreturned : ∀ reply, signal ≠ .returned reply := fun reply same => returned ⟨reply, same⟩
    obtain ⟨after, result, left⟩ :=
      resumeLocking_givesUp_tenure promise force passage unreturned
    obtain ⟨last, ending, ends, lastPassage⟩ := resumeCaller_tenure allowed signal left
    have resultEq : (System.resumeFrame (.locking 0 promise force) system signal).goOn caller =
        (last, .ended ending) := by
      have isResult : System.resumeFrame (.locking 0 promise force) system signal =
          (after, .ended signal) := result
      rw [isResult]
      exact ends
    rw [resultEq]
    exact ⟨synchronizer.without promise, holder, [], {
      passage := by
        rw [List.append_nil]
        exact lastPassage
      held := held
      follows := .of_same rfl rfl rfl
      sends := rfl
      move := .rests _ rfl rfl
      waiters := remains
      holders := .same foreign
      suspended := nofun }⟩

/-- A change that was held back is delivered now, or its edit counts as unsent again. -/
theorem changes_tenureRun
    (consignment : Consignment) {caller : List Frame} (allowed : IsCaller caller)
    (signal : Outcome Reply)
    (passage : TenurePassage (some task) system synchronizer system.changes system) :
    ∃ later added, TenureRun task system synchronizer (some (task, consignment))
      (consignment.frames ++ caller) (system.resumeStack signal (consignment.frames ++ caller)) later
      none added := by
  have framesEq : consignment.frames ++ caller =
      .sending consignment.link consignment.frame :: .writing Method.didChange ::
        (.changing 0 consignment.change.version consignment.change.wasDirty :: caller) := rfl
  have given (frames : List Frame) :
      HolderAfter task (some (task, consignment)) frames none := .gaveBack consignment rfl
  rcases System.resumeStack_sending system consignment.link consignment.frame Method.didChange
      (.changing 0 consignment.change.version consignment.change.wasDirty :: caller) signal with
    ⟨reply, _, _, result⟩ | ⟨ending, unreturned, _, result⟩
  · have accepted := passage.accept consignment.link consignment.frame
    rw [if_pos consignment.isChange_frame] at accepted
    have committed := (accepted.modifySynchronizer
      (fun found => { found with version := consignment.change.version }) rfl
      accepted.parts.books).release
    have commits : System.resumeFrame
        (.changing 0 consignment.change.version consignment.change.wasDirty)
        (system.accept consignment.link consignment.frame) (.returned .nothing) = _ :=
      resumeChanging_returned consignment.change.version consignment.change.wasDirty _ .nothing
    obtain ⟨last, lastEnding, ends, lastPassage⟩ :=
      resumeCaller_tenure allowed (.returned .nothing) committed
    rw [framesEq, result, System.resumeStack_of_ended _ commits, System.commitChange, ends]
    exact ⟨_, [consignment.acceptance], {
      passage := lastPassage
      held := rfl
      follows := .of_same rfl rfl rfl
      sends := rfl
      move := .delivers _ consignment rfl rfl rfl
      waiters := fun _ => Or.inl
      holders := given _
      suspended := nofun }⟩
  · have restored := (passage.modifySynchronizer
      (fun found => { found with dirty := found.dirty || consignment.change.wasDirty }) rfl
      passage.parts.books).release
    have restores : System.resumeFrame
        (.changing 0 consignment.change.version consignment.change.wasDirty) system ending = _ :=
      resumeChanging_not_returned consignment.change.version consignment.change.wasDirty system
        unreturned
    obtain ⟨last, lastEnding, ends, lastPassage⟩ := resumeCaller_tenure allowed ending restored
    rw [framesEq, result, System.resumeStack_of_ended _ restores, System.restoreChange, ends]
    exact ⟨Synchronizer.released { synchronizer with
        dirty := synchronizer.dirty || consignment.change.wasDirty }, [], {
      passage := by
        rw [List.append_nil]
        exact lastPassage
      held := rfl
      follows := .of_same rfl rfl rfl
      sends := rfl
      move := .restores _ consignment rfl rfl rfl
      waiters := fun _ => Or.inl
      holders := given _
      suspended := nofun }⟩

/-! ## Calls -/

theorem goOn_nil (step : Step) : step.goOn [] = step := by
  obtain ⟨system, outcome | ⟨frames, promise⟩⟩ := step
  · rfl
  · simp only [Step.goOn, List.append_nil]

/-- A call that begins, unless it was cancelled before. -/
theorem begin_tenureRun
    {call : Call} (allowed : call.AtTenure) (signal : Outcome Reply)
    (passage : TenurePassage (some task) system synchronizer system.changes system)
    (held : synchronizer.lock.held = holder.isSome)
    (foreign : ∀ consignment, holder ≠ some (task, consignment)) :
    ∃ later laterHolder added, TenureRun task system synchronizer holder [.begin call]
      (system.resumeStack signal [.begin call]) later laterHolder added := by
  have asides {started : Synchronizer} {result : Step} (leaves : synchronizer.Leaves started)
      (run : AsideRun (some task) system started system.changes result) :
      ∃ later laterHolder added, TenureRun task system synchronizer holder [.begin call] result later
        laterHolder added := by
    obtain ⟨later, tenureRun⟩ := run.tenureRun [.begin call] leaves held foreign
    exact ⟨later, holder, [], tenureRun⟩
  have aside {result : Step} (run : AsideRun (some task) system synchronizer system.changes result) :=
    asides (.refl synchronizer) run
  by_cases returned : ∃ reply, signal = .returned reply
  · obtain ⟨reply, rfl⟩ := returned
    rw [System.resumeStack_begin]
    cases call with
    | request session method params timeout =>
        exact aside (request_aside passage session params timeout allowed)
    | notify session method params => exact aside (notify_aside passage session params allowed)
    | closeSession session => exact aside (closeSession_aside passage session)
    | answer session id => exact aside (answer_aside passage session id)
    | createWorkspace request => exact aside (createWorkspace_aside passage request)
    | openFile workspace uri languageId text listeners =>
        exact aside (openFile_aside passage workspace uri languageId text listeners)
    | closeFile file => exact aside (closeFile_aside passage file)
    | closeWorkspace workspace => exact aside (closeWorkspace_aside passage workspace)
    | closeSynchronizer other =>
        obtain rfl : other = 0 := allowed
        exact asides synchronizer.untimed_leaves (closeSynchronizer_aside passage)
    | flush other force =>
        obtain rfl : other = 0 := allowed
        obtain ⟨later, laterHolder, added, send⟩ := flush_tenure force passage held
        have isForced : forces [.begin (.flush 0 force)] = force := by simp [forces, Frame.forces]
        have run := send.tenureRun isForced (Or.inl rfl) nofun send.follows rfl send.move foreign
          fun _ => Or.inl
        rw [goOn_nil] at run
        exact ⟨later, laterHolder, added, run⟩
    | sendDebounced other =>
        obtain rfl : other = 0 := allowed
        obtain ⟨later, laterHolder, added, send⟩ := sendChange_tenure false passage held
        have isForced : forces [.begin (.sendDebounced 0)] = false := rfl
        have run := send.tenureRun isForced (Or.inr rfl) (fun _ => Or.inl rfl) send.follows rfl
          send.move foreign fun _ => Or.inl
        rw [← andThen_eq_goOn] at run
        exact ⟨later, laterHolder, added, run⟩
    | _ => exact allowed.elim
  · have unreturned : ∀ reply, signal ≠ .returned reply := fun reply same => returned ⟨reply, same⟩
    rw [System.resumeStack_not_begin _ _ unreturned]
    exact aside (.ended passage signal)

end Runs

/-! ## The places of tasks that stand still -/

/-- Every task is still known, with the frames that it had. -/
def KeepsStacks (loop later : ClientLoop) : Prop :=
  ∀ (task : Nat) (found : TaskState Frame), loop.tasks[task]? = some found →
    ∃ laterFound : TaskState Frame, later.tasks[task]? = some laterFound ∧
      laterFound.stack = found.stack

theorem keepsStacks_of_advances
    {loop later : ClientLoop} {cancels : Prop} {settles : Nat → Outcome Reply → Prop}
    (advances : loop.Advances cancels settles later) : KeepsStacks loop later := by
  intro task found entry
  obtain ⟨cancelRequested, laterEntry, _⟩ := advances.tasks task found entry
  exact ⟨_, laterEntry, rfl⟩

theorem TenurePlaces.of_still
    {holder : Option (Nat × Consignment)} {waiters : List Nat} {loop laterLoop : ClientLoop}
    (places : TenurePlaces holder waiters loop)
    (still : ∀ task found, laterLoop.tasks[task]? = some found → StandsOrBegins loop task found)
    (kept : KeepsStacks loop laterLoop)
    (plain : ∀ promise, loop.IsPlain promise → laterLoop.IsPlain promise) :
    TenurePlaces holder waiters laterLoop where
  locks := fun task found promise force outer entry stack => by
    obtain ⟨earlier, earlierEntry, earlierStack⟩ :=
      (still task found entry).earlier_cons stack fun _ => nofun
    exact places.locks task earlier promise force outer earlierEntry earlierStack
  locksOnce := fun first second firstFound secondFound promise force otherForce outer otherOuter
      firstEntry secondEntry firstStack secondStack => by
    obtain ⟨firstEarlier, firstEarlierEntry, firstEarlierStack⟩ :=
      (still first firstFound firstEntry).earlier_cons firstStack fun _ => nofun
    obtain ⟨secondEarlier, secondEarlierEntry, secondEarlierStack⟩ :=
      (still second secondFound secondEntry).earlier_cons secondStack fun _ => nofun
    exact places.locksOnce first second firstEarlier secondEarlier promise force otherForce outer
      otherOuter firstEarlierEntry secondEarlierEntry firstEarlierStack secondEarlierStack
  changes := fun task found consignment outer entry stack => by
    obtain ⟨earlier, earlierEntry, earlierStack⟩ :=
      (still task found entry).earlier_cons stack fun _ => nofun
    exact places.changes task earlier consignment outer earlierEntry earlierStack
  holds := fun task consignment held => by
    obtain ⟨found, caller, entry, stack⟩ := places.holds task consignment held
    obtain ⟨laterFound, laterEntry, same⟩ := kept task found entry
    exact ⟨laterFound, caller, laterEntry, same.trans stack⟩
  requests := fun task found promise entry member => by
    obtain ⟨earlier, earlierEntry, same⟩ := (still task found entry).earlier member fun _ => nofun
    rw [same] at member
    exact plain promise (places.requests task earlier promise earlierEntry member)

/-! ## Where frames of a kind can be -/

theorem Consignment.frames_inj
    {consignment other : Consignment} {caller otherCaller : List Frame}
    (same : consignment.frames ++ caller = other.frames ++ otherCaller) : consignment = other := by
  obtain ⟨uri, link, version, text, wasDirty⟩ := consignment
  obtain ⟨otherUri, otherLink, otherVersion, otherText, otherWasDirty⟩ := other
  simp only [Consignment.frames, changeFrames, changeFrame, notificationMessage, paramsMember,
    didChangeParams, List.cons_append, List.cons.injEq, Frame.sending.injEq, Frame.changing.injEq,
    Value.object.injEq, true_and] at same
  simp_all

theorem not_frames_of_aside
    {consignment : Consignment} {frames caller : List Frame}
    (aside : ∀ frame ∈ frames, frame.IsAside) : frames ≠ consignment.frames ++ caller := by
  rintro rfl
  have isOther : isChange consignment.frame = false :=
    aside (.sending consignment.link consignment.frame) List.mem_cons_self
  rw [consignment.isChange_frame] at isOther
  cases isOther

theorem not_locking_of_aside
    {promise : Nat} {force : Bool} {frames caller : List Frame}
    (aside : ∀ frame ∈ frames, frame.IsAside) : frames ≠ .locking 0 promise force :: caller := by
  rintro rfl
  exact aside _ List.mem_cons_self

namespace TenureLeft

variable {task promise : Nat} {synchronizer later : Synchronizer}
  {holder : Option (Nat × Consignment)} {stack frames : List Frame} {after : System}

theorem shape (left : TenureLeft task synchronizer later holder stack after promise frames) :
    TenureShape frames (some promise) := by
  cases left with
  | aside frames wait => exact .aside frames promise wait.aside
  | locks force caller allowed => exact .locks promise force caller allowed
  | changes consignment caller allowed => exact .changes consignment promise caller allowed

theorem plain (left : TenureLeft task synchronizer later holder stack after promise frames) :
    after.loop.IsPlain promise := by
  cases left with
  | aside frames wait => exact wait.plain
  | locks force caller allowed plain => exact plain
  | changes consignment caller allowed plain => exact plain

theorem locks_of
    {other : Nat} {force : Bool} {outer : List Frame}
    (left : TenureLeft task synchronizer later holder stack after promise frames)
    (isLocking : frames = .locking 0 other force :: outer) :
    other ∈ later.lock.waiters ∧
      (other ∈ synchronizer.lock.waiters →
        ∃ earlier others, stack = .locking 0 other earlier :: others) := by
  cases left with
  | aside frames wait => exact (not_locking_of_aside wait.aside isLocking).elim
  | locks ownForce caller allowed plain waits own =>
      cases isLocking
      exact ⟨waits, own⟩
  | changes consignment caller => cases isLocking

theorem changes_of
    {consignment : Consignment} {outer : List Frame}
    (left : TenureLeft task synchronizer later holder stack after promise frames)
    (isChange : frames = consignment.frames ++ outer) : holder = some (task, consignment) := by
  cases left with
  | aside frames wait => exact (not_frames_of_aside wait.aside isChange).elim
  | locks force caller => cases isChange
  | changes other caller allowed plain isHolder =>
      rw [← Consignment.frames_inj isChange]
      exact isHolder

theorem requests_of
    {other : Nat}
    (left : TenureLeft task synchronizer later holder stack after promise frames)
    (member : .requesting other ∈ frames) : after.loop.IsPlain other := by
  have notCaller {caller : List Frame} (allowed : IsCaller caller) :
      .requesting other ∉ caller := by
    rcases allowed with rfl | rfl
    · exact List.not_mem_nil
    · simp
  cases left with
  | aside frames wait => exact wait.requests other member
  | locks force caller allowed =>
      exact (notCaller allowed ((List.mem_cons.mp member).resolve_left nofun)).elim
  | changes consignment caller allowed =>
      simp only [Consignment.frames, changeFrames, List.cons_append, List.nil_append, List.mem_cons,
        reduceCtorEq, false_or] at member
      exact (notCaller allowed member).elim

/-- Who is left sending for the timer has sent for it before. -/
theorem timed_of
    (left : TenureLeft task synchronizer later holder stack after promise frames)
    (timed : IsTimerSend frames) : IsTimerSend stack := by
  cases left with
  | aside frames wait =>
      rcases timed with rfl | member
      · exact (wait.aside _ List.mem_cons_self).elim
      · exact (wait.aside _ member).elim
  | locks force caller allowed plain waits own isTimed =>
      rcases timed with begins | member
      · cases begins
      · exact isTimed ((List.mem_cons.mp member).resolve_left nofun)
  | changes consignment caller allowed plain isHolder isTimed =>
      rcases timed with begins | member
      · cases begins
      · simp only [Consignment.frames, changeFrames, List.cons_append, List.nil_append,
          List.mem_cons, reduceCtorEq, false_or] at member
        exact isTimed member

end TenureLeft

/-! ## The turn of a task -/

section Ends

variable {holder laterHolder : Option (Nat × Consignment)} {synchronizer later : Synchronizer}
  {system : System} {task : Nat} {found : TaskState Frame} {added : List Occurrence}

theorem cleared_tenureParts
    {changes : List Occurrence} (parts : TenureParts synchronizer changes system) (task : Nat) :
    TenureParts synchronizer changes (system.cleared task) :=
  { parts with
    lock := parts.lock.of_plain
      (fun _ plain =>
        plain.of_le (Scheduler.clearTask_completions task system.loop) (Nat.le_refl _))
      (fun _ => id) fun _ _ => rfl
    books := parts.books.clearTask task }

theorem TenureWorld.start_task
    (world : TenureWorld holder synchronizer system)
    (entry : system.loop.tasks[task]? = some found) (notReady : task ∉ resumed system.loop.ready)
    (settled : ∀ promise, found.awaiting = some promise → system.loop.outcome? promise ≠ none) :
    TenurePassage (some task) (system.cleared task) synchronizer (system.cleared task).changes
      (system.cleared task) where
  parts := cleared_tenureParts world.parts task
  loop := Scheduler.Passage.start world.orderly world.punctual entry notReady settled .idle
  members := .refl _
  spawned := fun other otherFound isNew otherEntry => by
    rw [List.getElem?_eq_none isNew] at otherEntry
    cases otherEntry

theorem TenureWorld.runTask
    (world : TenureWorld holder synchronizer system)
    (entry : system.loop.tasks[task]? = some found) (notReady : task ∉ resumed system.loop.ready)
    (settled : ∀ promise, found.awaiting = some promise → system.loop.outcome? promise ≠ none) :
    ∃ later laterHolder added,
      TenureRun task (system.cleared task) synchronizer holder found.stack
        ((system.cleared task).resumeStack (system.signalOf found) found.stack) later laterHolder
        added := by
  have start := world.start_task entry notReady settled
  have shape := world.orderly.tasks found (List.mem_of_getElem? entry)
  have requests : ∀ promise, .requesting promise ∈ found.stack →
      (system.cleared task).loop.IsPlain promise := fun promise member =>
    (world.places.requests task found promise entry member).of_le
      (Scheduler.clearTask_completions task system.loop) (Nat.le_refl _)
  -- A task that holds the lock has the frames of its change.
  have foreign
      (other : ∀ (consignment : Consignment) caller, found.stack ≠ consignment.frames ++ caller) :
      ∀ consignment, holder ≠ some (task, consignment) := by
    intro consignment held
    obtain ⟨state, caller, stateEntry, stack⟩ := world.places.holds task consignment held
    rw [entry] at stateEntry
    exact other consignment caller (Option.some.inj stateEntry ▸ stack)
  have asides
      (others : ∀ (consignment : Consignment) caller, found.stack ≠ consignment.frames ++ caller)
      {result : Step}
      (run : AsideRun (some task) (system.cleared task) synchronizer (system.cleared task).changes
        result) :
      ∃ later laterHolder added, TenureRun task (system.cleared task) synchronizer holder found.stack
        result later laterHolder added := by
    obtain ⟨later, tenureRun⟩ :=
      run.tenureRun found.stack (.refl synchronizer) world.held (foreign others)
    exact ⟨later, holder, [], tenureRun⟩
  generalize stackEq : found.stack = stack, awaitsEq : found.awaiting = awaited
    at shape requests foreign asides ⊢
  cases shape with
  | idle => exact asides (fun _ _ => nofun) (.ended start (system.signalOf found))
  | begins call allowed =>
      exact begin_tenureRun allowed _ start world.held (foreign fun _ _ => nofun)
  | aside frames promise aside =>
      exact asides (fun _ _ => not_frames_of_aside aside)
        (resumeStack_aside start aside requests (system.signalOf found))
  | locks promise force caller allowed =>
      exact locks_tenureRun allowed
        (world.places.locks task found promise force caller entry stackEq)
        (fun reply returned => outcome?_of_signalOf awaitsEq (settled promise awaitsEq) returned)
        start world.held (foreign fun _ _ => nofun)
  | changes consignment promise caller allowed =>
      obtain rfl := world.places.changes task found consignment caller entry stackEq
      obtain ⟨later, added, run⟩ :=
        changes_tenureRun consignment allowed (system.signalOf found) start
      exact ⟨later, none, added, run⟩

/-- A task that is left with frames is left waiting. -/
theorem TenureRun.left
    {result : Step}
    (run : TenureRun task (system.cleared task) synchronizer holder found.stack result later
      laterHolder added)
    (isLeft : result.2.frames ≠ []) :
    ∃ promise, TenureLeft task synchronizer later laterHolder found.stack result.1 promise
      result.2.frames := by
  obtain ⟨current, outcome | ⟨frames, promise⟩⟩ := result
  · exact (isLeft rfl).elim
  · exact ⟨promise, run.suspended frames promise rfl⟩

/-- Another task does not wait for the lock with a promise of this task. -/
theorem TenureWorld.other_lock
    {other promise : Nat} {otherFound : TaskState Frame} {force : Bool} {outer : List Frame}
    (world : TenureWorld holder synchronizer system)
    (entry : system.loop.tasks[task]? = some found) (different : other ≠ task)
    (still : StandsStill system.loop other otherFound)
    (stack : otherFound.stack = .locking 0 promise force :: outer) :
    promise ∈ synchronizer.lock.waiters ∧
      ∀ earlier others, found.stack ≠ .locking 0 promise earlier :: others := by
  obtain ⟨earlier, earlierEntry, earlierStack⟩ := still.orBegins.earlier_cons stack fun _ => nofun
  refine ⟨world.places.locks other earlier promise force outer earlierEntry earlierStack, ?_⟩
  intro ownForce others own
  exact different (world.places.locksOnce other task earlier found promise force ownForce outer
    others earlierEntry entry earlierStack own)

section Places

variable {result : Step} {other promise : Nat} {otherFound : TaskState Frame} {force : Bool}
  {outer : List Frame} (world : TenureWorld holder synchronizer system)
  (entry : system.loop.tasks[task]? = some found)
  (run : TenureRun task (system.cleared task) synchronizer holder found.stack result later
    laterHolder added)

include entry run

theorem TenureRun.cases
    (otherEntry :
      (System.settleTask task found.completion result).loop.tasks[other]? = some otherFound) :
    other = task ∧ otherFound.stack = result.2.frames ∨
      other ≠ task ∧ StandsStill system.loop other otherFound :=
  settleTask_stands entry run.passage.loop run.passage.spawned otherEntry

omit entry in
/-- A task that does not go on is still known, with its frames. -/
theorem TenureRun.kept
    {otherState : TaskState Frame} (different : other ≠ task)
    (otherEntry : system.loop.tasks[other]? = some otherState) :
    ∃ laterState : TaskState Frame,
      (System.settleTask task found.completion result).loop.tasks[other]? = some laterState ∧
        laterState.stack = otherState.stack := by
  obtain ⟨cancelRequested, currentEntry, _⟩ := run.passage.loop.advances.tasks other otherState
    ((Scheduler.clearTask_other system.loop different).trans otherEntry)
  obtain ⟨current, outcome | ⟨frames, awaited⟩⟩ := result
  · have sameTasks := Scheduler.settle_tasks found.completion outcome
      (current.note (.ended task outcome)).loop
    exact ⟨_, (congrArg (·[other]?) sameTasks).trans currentEntry, rfl⟩
  · exact ⟨_, (Scheduler.suspend_tasks_of_ne frames awaited current.loop different).trans currentEntry,
      rfl⟩

/-- The task that went on has the frames that it is left with. -/
theorem TenureRun.mine :
    ∃ state : TaskState Frame,
      (System.settleTask task found.completion result).loop.tasks[task]? = some state ∧
        state.stack = result.2.frames := by
  obtain ⟨cancelRequested, running⟩ := run.passage.loop.running_task entry
  obtain ⟨current, outcome | ⟨frames, awaited⟩⟩ := result
  · have sameTasks := Scheduler.settle_tasks found.completion outcome
      (current.note (.ended task outcome)).loop
    exact ⟨_, (congrArg (·[task]?) sameTasks).trans running, rfl⟩
  · exact ⟨_, Scheduler.suspend_tasks_self frames awaited running, rfl⟩

include world

/-- The promise with which a task is left to wait for the lock is not that of another task. -/
theorem TenureRun.own_lock
    {otherForce : Bool} {otherOuter : List Frame} (different : other ≠ task)
    (still : StandsStill system.loop other otherFound)
    (stack : otherFound.stack = .locking 0 promise otherForce :: otherOuter)
    (isLeft : result.2.frames = .locking 0 promise force :: outer) :
    False := by
  obtain ⟨waits, notOwn⟩ := world.other_lock entry different still stack
  obtain ⟨_, left⟩ := run.left (isLeft ▸ List.cons_ne_nil _ _)
  obtain ⟨earlier, others, own⟩ := (left.locks_of isLeft).2 waits
  exact notOwn earlier others own

theorem TenureRun.places_locks
    (otherEntry :
      (System.settleTask task found.completion result).loop.tasks[other]? = some otherFound)
    (stack : otherFound.stack = .locking 0 promise force :: outer) :
    promise ∈ later.lock.waiters := by
  rcases run.cases entry otherEntry with ⟨_, isLeft⟩ | ⟨different, still⟩
  · rw [isLeft] at stack
    obtain ⟨_, left⟩ := run.left (stack ▸ List.cons_ne_nil _ _)
    exact (left.locks_of stack).1
  · obtain ⟨waits, notOwn⟩ := world.other_lock entry different still stack
    refine (run.waiters promise waits).resolve_right ?_
    rintro ⟨earlier, others, own⟩
    exact notOwn earlier others own

theorem TenureRun.places_locksOnce
    {second : Nat} {secondFound : TaskState Frame} {otherForce : Bool} {otherOuter : List Frame}
    (otherEntry :
      (System.settleTask task found.completion result).loop.tasks[other]? = some otherFound)
    (secondEntry :
      (System.settleTask task found.completion result).loop.tasks[second]? = some secondFound)
    (stack : otherFound.stack = .locking 0 promise force :: outer)
    (secondStack : secondFound.stack = .locking 0 promise otherForce :: otherOuter) :
    other = second := by
  rcases run.cases entry otherEntry with ⟨same, isLeft⟩ | ⟨different, still⟩
  · rcases run.cases entry secondEntry with ⟨secondSame, _⟩ | ⟨secondDifferent, secondStill⟩
    · exact same.trans secondSame.symm
    · rw [isLeft] at stack
      exact (run.own_lock world entry secondDifferent secondStill secondStack stack).elim
  · rcases run.cases entry secondEntry with ⟨_, secondLeft⟩ | ⟨_, secondStill⟩
    · rw [secondLeft] at secondStack
      exact (run.own_lock world entry different still stack secondStack).elim
    · obtain ⟨earlier, earlierEntry, earlierStack⟩ :=
        still.orBegins.earlier_cons stack fun _ => nofun
      obtain ⟨secondEarlier, secondEarlierEntry, secondEarlierStack⟩ :=
        secondStill.orBegins.earlier_cons secondStack fun _ => nofun
      exact world.places.locksOnce other second earlier secondEarlier promise force otherForce
        outer otherOuter earlierEntry secondEarlierEntry earlierStack secondEarlierStack

theorem TenureRun.places_changes
    {consignment : Consignment}
    (otherEntry :
      (System.settleTask task found.completion result).loop.tasks[other]? = some otherFound)
    (stack : otherFound.stack = consignment.frames ++ outer) :
    laterHolder = some (other, consignment) := by
  rcases run.cases entry otherEntry with ⟨rfl, isLeft⟩ | ⟨different, still⟩
  · rw [isLeft] at stack
    obtain ⟨_, left⟩ := run.left (by rw [stack]; exact List.cons_ne_nil _ _)
    exact left.changes_of stack
  · obtain ⟨earlier, earlierEntry, earlierStack⟩ := still.orBegins.earlier_cons stack fun _ => nofun
    have held := world.places.changes other earlier consignment outer earlierEntry earlierStack
    cases run.holders with
    | same foreign => exact held
    | gaveBack own ownHeld =>
        rw [held] at ownHeld
        exact (different (Prod.mk.inj (Option.some.inj ownHeld)).1).elim
    | took own caller free =>
        rw [held] at free
        cases free

theorem TenureRun.places_holds
    {consignment : Consignment} (held : laterHolder = some (other, consignment)) :
    ∃ (state : TaskState Frame) (caller : List Frame),
      (System.settleTask task found.completion result).loop.tasks[other]? = some state ∧
        state.stack = consignment.frames ++ caller := by
  cases run.holders with
  | same foreign =>
      obtain ⟨state, caller, stateEntry, stack⟩ := world.places.holds other consignment held
      have different : other ≠ task := by
        rintro rfl
        exact foreign consignment held
      obtain ⟨laterState, laterEntry, same⟩ := run.kept different stateEntry
      exact ⟨laterState, caller, laterEntry, same.trans stack⟩
  | gaveBack own ownHeld => cases held
  | took own caller free isLeft =>
      obtain ⟨rfl, rfl⟩ := Prod.mk.inj (Option.some.inj held)
      obtain ⟨state, stateEntry, same⟩ := run.mine entry
      exact ⟨state, caller, stateEntry, same.trans isLeft⟩

theorem TenureRun.places_requests
    (otherEntry :
      (System.settleTask task found.completion result).loop.tasks[other]? = some otherFound)
    (member : .requesting promise ∈ otherFound.stack) :
    result.1.loop.IsPlain promise := by
  rcases run.cases entry otherEntry with ⟨_, isLeft⟩ | ⟨_, still⟩
  · rw [isLeft] at member
    obtain ⟨_, left⟩ := run.left (List.ne_nil_of_mem member)
    exact left.requests_of member
  · obtain ⟨earlier, earlierEntry, same⟩ := still.orBegins.earlier member fun _ => nofun
    rw [same] at member
    exact run.passage.loop.advances.plain promise
      ((world.places.requests other earlier promise earlierEntry member).of_le
        (Scheduler.clearTask_completions task system.loop) (Nat.le_refl _))

end Places

theorem TenurePlaces.of_turn
    {result : Step} (world : TenureWorld holder synchronizer system)
    (entry : system.loop.tasks[task]? = some found)
    (run : TenureRun task (system.cleared task) synchronizer holder found.stack result later
      laterHolder added) :
    TenurePlaces laterHolder later.lock.waiters
      (System.settleTask task found.completion result).loop where
  locks := fun _ _ _ _ _ otherEntry stack => run.places_locks world entry otherEntry stack
  locksOnce := fun _ _ _ _ _ _ _ _ _ firstEntry secondEntry firstStack secondStack =>
    run.places_locksOnce world entry firstEntry secondEntry firstStack secondStack
  changes := fun _ _ _ _ otherEntry stack => run.places_changes world entry otherEntry stack
  holds := fun _ _ held => run.places_holds world entry held
  requests := fun _ _ _ otherEntry member =>
    settleTask_plain (run.places_requests world entry otherEntry member)

theorem settleTask_changes (task completion : Nat) (result : Step) :
    (System.settleTask task completion result).changes = result.1.changes := by
  obtain ⟨current, outcome | ⟨frames, promise⟩⟩ := result
  · have noted := current.note_changes (.ended task outcome)
    simp only [Occurrence.isOfChange, Bool.false_eq_true, if_false, List.append_nil] at noted
    exact noted
  · rfl

theorem TenureWorld.settleTask
    {result : Step} (world : TenureWorld holder synchronizer system)
    (entry : system.loop.tasks[task]? = some found)
    (unended : system.loop.outcome? found.completion = none)
    (run : TenureRun task (system.cleared task) synchronizer holder found.stack result later
      laterHolder added) :
    TenureWorld laterHolder later (System.settleTask task found.completion result) := by
  have places := TenurePlaces.of_turn world entry run
  have isCompletion : found.completion ∈ result.1.loop.completions :=
    run.passage.loop.advances.completion_mem (List.mem_map.mpr
      ⟨_, List.mem_of_getElem? (Scheduler.clearTask_self entry), rfl⟩)
  have parts := run.passage.parts
  have lock := @LockParts.settleTask _ _ result task found.completion parts.lock isCompletion
  obtain ⟨current, progress⟩ := result
  cases progress with
  | ended outcome =>
      obtain ⟨orderly, punctual, _, _⟩ := run.passage.loop.finish outcome entry
      have ungrouped := run.passage.loop.orderly.completionsUngrouped _ isCompletion
      exact {
        parts := ⟨parts.synchronizers, rfl, lock, parts.books.settle (Or.inr ungrouped)⟩
        held := run.held
        places
        orderly
        punctual }
  | suspended frames promise =>
      have left := run.suspended frames promise rfl
      obtain ⟨orderly, punctual, _, _⟩ :=
        run.passage.loop.suspend entry left.shape left.plain trivial
      have books := parts.books.suspend promise fun timed => by
        rw [run.sends]
        exact world.parts.books.sent task found entry unended (left.timed_of timed)
      exact {
        parts := ⟨parts.synchronizers, rfl, lock, books⟩
        held := run.held
        places
        orderly
        punctual }

/-- What a turn of a task shows of the synchronizer and of the changes on their way. -/
structure TenureTurn
    (task : Nat) (stack : List Frame) (before : System) (synchronizer : Synchronizer)
    (holder : Option (Nat × Consignment)) (after : System) (later : Synchronizer)
    (laterHolder : Option (Nat × Consignment)) (added : List Occurrence) :
    Prop where
  follows : synchronizer.Follows later
  sends : later.sends = synchronizer.sends
  move : Handling task (forces stack) synchronizer holder later laterHolder added
  changes : after.changes = before.changes ++ added

theorem TenureWorld.resumeTask
    (world : TenureWorld holder synchronizer system)
    (notReady : task ∉ resumed system.loop.ready)
    (settled : ∀ found : TaskState Frame, system.loop.tasks[task]? = some found →
      ∀ promise, found.awaiting = some promise → system.loop.outcome? promise ≠ none) :
    system.resumeTask task = system ∨
      ∃ found later laterHolder added, system.loop.tasks[task]? = some found ∧
        TenureWorld laterHolder later (system.resumeTask task) ∧
        TenureTurn task found.stack system synchronizer holder (system.resumeTask task) later
          laterHolder added := by
  unfold System.resumeTask
  split
  · exact Or.inl rfl
  · rename_i found entry
    split
    · exact Or.inl rfl
    · rename_i notEnded
      have unended : system.loop.outcome? found.completion = none := by
        simpa [Scheduler.hasEnded, Scheduler.isSettled, entry] using notEnded
      obtain ⟨later, laterHolder, added, run⟩ :=
        world.runTask entry notReady (settled found entry)
      refine Or.inr
        ⟨found, later, laterHolder, added, entry, world.settleTask entry unended run, ?_⟩
      exact {
        follows := run.follows
        sends := run.sends
        move := run.move
        changes := (settleTask_changes task found.completion _).trans run.passage.parts.changes }

end Ends

end LanguageClient.Client
