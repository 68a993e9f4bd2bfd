import LanguageClient.Proofs.Synchronizer.Sends

/-!
# Steps that send no change

Answers to the peer and the closing of the document. Such a step delivers nothing of the document,
and it leaves the text, the version and the lock of the synchronizer as they are.
-/

namespace LanguageClient.Client

open LanguageClient.Json LanguageClient.Loop LanguageClient.Protocol

/-- Where a step that sends no change may be suspended. -/
inductive QuietPlace (uri : String) (after : System) (promise : Nat) : List Frame → Prop where
  | settles : QuietPlace uri after promise [.settlingSends 0]
  | closes (link : Nat) (frame : Value) (subject : String) (nothing : delivery? uri frame = none)
      (ungrouped : after.loop.IsUngrouped promise) :
    QuietPlace uri after promise
      [.sending link frame, .writing subject, .closingFile uri, .detaching 0]
  | answers (link : Nat) (frame : Value) (subject : String) (nothing : delivery? uri frame = none)
      (ungrouped : after.loop.IsUngrouped promise) :
    QuietPlace uri after promise [.sending link frame, .writing subject]

/-- A step that sends no change. -/
structure QuietStep
    (calm : Prop) (uri : String) (running : Option Nat) (before : System)
    (synchronizer : Synchronizer) (system : System) (result : Step) (later : Synchronizer) :
    Prop where
  passage : SyncPassage calm uri running before later result.1
  deliveries : result.1.deliveries uri = system.deliveries uri
  loop : system.loop.Steady result.1.loop
  lock : later.lock = synchronizer.lock
  version : later.version = synchronizer.version
  dirty : later.dirty = synchronizer.dirty
  text : later.text = synchronizer.text
  timer : later.timer = synchronizer.timer
  ready : result.1.isReady 0 = true → system.isReady 0 = true
  suspended : ∀ frames promise, result.2 = .suspended frames promise →
    system.nextPromise ≤ promise ∧ result.1.loop.IsPlain promise ∧
      QuietPlace uri result.1 promise frames

section Quiet

variable {calm : Prop} {uri : String} {running : Option Nat} {before system : System}
  {synchronizer : Synchronizer}

theorem QuietStep.ended
    (passage : SyncPassage calm uri running before synchronizer system)
    (outcome : Outcome Reply) :
    QuietStep calm uri running before synchronizer system (system, .ended outcome) synchronizer where
  passage
  deliveries := rfl
  loop := .refl _
  lock := rfl
  version := rfl
  dirty := rfl
  text := rfl
  timer := rfl
  ready := id
  suspended := fun _ _ => nofun

theorem quiet_write
    {frame : Value} (session : Nat) (subject : String)
    (passage : SyncPassage calm uri running before synchronizer system)
    (nothing : delivery? uri frame = none) :
    SyncPassage calm uri running before synchronizer (system.write session subject frame).1 ∧
      (system.write session subject frame).1.deliveries uri = system.deliveries uri ∧
      system.Steady (system.write session subject frame).1 ∧
      ((∃ outcome, (system.write session subject frame).2 = .ended outcome ∧
          outcome ≠ .cancelled) ∨
        ∃ link, IsFresh system (system.write session subject frame).1 system.nextPromise ∧
          (system.write session subject frame).2 =
            .suspended [.sending link frame, .writing subject] system.nextPromise) := by
  cases sessionFound : system.sessions[session]? with
  | none =>
      have result : system.write session subject frame = (system, .ended (.failed .missing)) := by
        simp only [System.write, sessionFound]
        rfl
      rw [result]
      exact ⟨passage, rfl, .refl _, Or.inl ⟨_, rfl, (by simp)⟩⟩
  | some found =>
      have noted := passage.note (.handed found.link frame)
      have sameDeliveries : (system.note (.handed found.link frame)).deliveries uri =
          system.deliveries uri :=
        system.note_deliveries uri (by simp)
      rcases System.write_cases subject frame sessionFound with
        ⟨failure, _, result⟩ | result | result
      · rw [result]
        exact ⟨noted, sameDeliveries, system.note_steady _, Or.inl ⟨_, rfl, (by simp)⟩⟩
      · rw [result]
        exact ⟨noted.holdBack, sameDeliveries,
          (system.note_steady _).trans (System.holdBack_steady _),
          Or.inr ⟨found.link, .of_orderly passage.loop.orderly rfl, rfl⟩⟩
      · rw [result]
        refine ⟨noted.accept _ _, ?_, (system.note_steady _).trans (System.accept_steady _ _ _),
          Or.inl ⟨_, rfl, (by simp)⟩⟩
        rw [System.accept_deliveries, nothing, sameDeliveries]
        exact List.append_nil _

theorem isReady_of_steady
    {after : System} {later : Synchronizer}
    (passage : SyncPassage calm uri running before synchronizer system)
    (laterPassage : SyncPassage calm uri running before later after)
    (steady : system.Steady after) (file : later.file = synchronizer.file) :
    after.isReady 0 = system.isReady 0 := by
  rw [Bool.eq_iff_iff, isReady_iff passage, isReady_iff laterPassage, file, steady.isOpen]

/-- A step that leaves the synchronizer and all documents alone. -/
theorem QuietStep.of_steady
    {result : Step} (passage : SyncPassage calm uri running before synchronizer system)
    (later : SyncPassage calm uri running before synchronizer result.1)
    (deliveries : result.1.deliveries uri = system.deliveries uri)
    (steady : system.Steady result.1)
    (suspended : ∀ frames promise, result.2 = .suspended frames promise →
      system.nextPromise ≤ promise ∧ result.1.loop.IsPlain promise ∧
        QuietPlace uri result.1 promise frames) :
    QuietStep calm uri running before synchronizer system result synchronizer where
  passage := later
  deliveries
  loop := steady.loop
  lock := rfl
  version := rfl
  dirty := rfl
  text := rfl
  timer := rfl
  ready := fun isReady => by
    rw [← isReady_of_steady passage later steady rfl]
    exact isReady
  suspended

theorem answer_step
    (passage : SyncPassage calm uri running before synchronizer system) (session : Nat)
    (id : Value) :
    QuietStep calm uri running before synchronizer system (system.answer session id)
      synchronizer := by
  obtain ⟨written, deliveries, steady, ends⟩ :=
    quiet_write session "response" passage (delivery?_answerMessage uri id)
  refine .of_steady passage written deliveries steady fun frames promise suspends => ?_
  rcases ends with ⟨outcome, ended, _⟩ | ⟨link, fresh, held⟩
  · rw [System.answer, ended] at suspends
    cases suspends
  · rw [System.answer, held] at suspends
    obtain ⟨rfl, rfl⟩ := Progress.suspended.inj suspends
    exact ⟨fresh.new, fresh.plain, .answers link _ _ (delivery?_answerMessage uri id)
      fresh.ungrouped⟩

/-! ## Closing the document -/

theorem goOn_goOn (step : Step) (inner outer : List Frame) :
    (step.goOn inner).goOn outer = step.goOn (inner ++ outer) := by
  rcases step with ⟨system, outcome | ⟨frames, promise⟩⟩
  · simp only [Step.goOn]
    induction inner generalizing system outcome with
    | nil =>
        rfl
    | cons frame others inductionHypothesis =>
        rw [List.cons_append, resumeStack_cons, resumeStack_cons]
        rcases System.resumeFrame frame system outcome with
          ⟨after, ending | ⟨frames, promise⟩⟩
        · exact inductionHypothesis after ending
        · simp [Step.goOn]
  · simp [Step.goOn]

theorem QuietStep.of_later
    {started : System} {result : Step} {startedSynchronizer later : Synchronizer}
    (step : QuietStep calm uri running before startedSynchronizer started result later)
    (loop : system.loop.Steady started.loop)
    (deliveries : started.deliveries uri = system.deliveries uri)
    (lock : startedSynchronizer.lock = synchronizer.lock)
    (version : startedSynchronizer.version = synchronizer.version)
    (dirty : startedSynchronizer.dirty = synchronizer.dirty)
    (text : startedSynchronizer.text = synchronizer.text)
    (timer : startedSynchronizer.timer = synchronizer.timer)
    (ready : started.isReady 0 = true → system.isReady 0 = true) :
    QuietStep calm uri running before synchronizer system result later where
  passage := step.passage
  deliveries := step.deliveries.trans deliveries
  loop := loop.trans step.loop
  lock := step.lock.trans lock
  version := step.version.trans version
  dirty := step.dirty.trans dirty
  text := step.text.trans text
  timer := step.timer.trans timer
  ready := fun isReady => ready (step.ready isReady)
  suspended := fun frames promise suspends => by
    obtain ⟨isNew, plain, place⟩ := step.suspended frames promise suspends
    exact ⟨Nat.le_trans loop.grown isNew, plain, place⟩

theorem detach_step
    (passage : SyncPassage calm uri running before synchronizer system) :
    ∃ after ending later,
      system.resumeStack (.returned .nothing) [.detaching 0] = (after, .ended ending) ∧
        QuietStep calm uri running before synchronizer system (after, .ended ending) later ∧
        after.isReady 0 = false := by
  have changed := passage.modifySynchronizer (fun found => { found with file := none }) rfl nofun
  have unready : (system.modifySynchronizer 0 fun found =>
      { found with file := none }).isReady 0 = false := by
    rw [Bool.eq_false_iff]
    intro isReady
    have attached := ((isReady_iff changed).mp isReady).1
    cases attached
  refine ⟨_, _, { synchronizer with file := none }, rfl, ?_, unready⟩
  exact {
    passage := changed
    deliveries := rfl
    loop := .refl _
    lock := rfl
    version := rfl
    dirty := rfl
    text := rfl
    timer := rfl
    ready := fun isReady => by
      rw [unready] at isReady
      cases isReady
    suspended := fun _ _ => nofun }

/-- The end of a closing: the synchronizer forgets its file, unless the closing is cancelled. -/
theorem resumeStack_detaching
    (passage : SyncPassage calm uri running before synchronizer system) (outcome : Outcome Reply) :
    ∃ after ending later,
      system.resumeStack outcome [.closingFile uri, .detaching 0] = (after, .ended ending) ∧
        QuietStep calm uri running before synchronizer system (after, .ended ending) later ∧
        (outcome ≠ .cancelled → after.isReady 0 = false) := by
  cases outcome with
  | returned reply =>
      obtain ⟨after, ending, later, result, step, unready⟩ := detach_step passage
      exact ⟨after, ending, later, result, step, fun _ => unready⟩
  | failed failure =>
      have logged := passage.log .error .workspace
        ("failed to send didClose for " ++ uri ++ ": " ++ failure.message)
      obtain ⟨after, ending, later, result, step, unready⟩ := detach_step logged
      have steady := system.note_steady (.logged ⟨.error, .workspace,
        "failed to send didClose for " ++ uri ++ ": " ++ failure.message⟩)
      refine ⟨after, ending, later, result, ?_, fun _ => unready⟩
      refine step.of_later steady.loop (system.log_deliveries _ _ _ uri)
        rfl rfl rfl rfl rfl fun isReady => ?_
      rw [← isReady_of_steady passage logged steady rfl]
      exact isReady
  | cancelled =>
      exact ⟨system, .cancelled, synchronizer, rfl, .ended passage .cancelled,
        fun notCancelled => (notCancelled rfl).elim⟩

theorem unregister_passage
    (passage : SyncPassage calm uri running before synchronizer system) :
    SyncPassage calm uri running before synchronizer (system.unregister 0 uri) ∧
      (system.unregister 0 uri).isOpen 0 = false := by
  refine ⟨passage.modifyWorkspace 0 fun _ => rfl, ?_⟩
  obtain ⟨file, files, isWorkspace, isUri⟩ := passage.parts.file
  obtain ⟨workspace, workspaces, _⟩ := passage.parts.workspace
  have absent : ∀ entries : List (String × Nat),
      (entries.filter fun entry => !decide (entry.1 = uri)).lookup uri = none := by
    intro entries
    rw [List.lookup_eq_none_iff]
    intro entry member
    have different := (List.mem_filter.mp member).2
    rw [Bool.not_eq_true', decide_eq_false_iff_not] at different
    exact bne_iff_ne.mpr (Ne.symm different)
  simp [System.isOpen, System.unregister, System.modifyWorkspace, System.openFile?, files,
    workspaces, isWorkspace, isUri, absent]

theorem unregister_unready
    (passage : SyncPassage calm uri running before synchronizer system) :
    (system.unregister 0 uri).isReady 0 = false := by
  obtain ⟨unregistered, notOpen⟩ := unregister_passage passage
  rw [Bool.eq_false_iff]
  intro isReady
  have stillOpen := ((isReady_iff unregistered).mp isReady).2
  rw [notOpen] at stillOpen
  cases stillOpen

/-- What comes of the announcement that the document is closed. -/
theorem notifyClosed_cases
    (passage : SyncPassage calm uri running before synchronizer system) :
    system.notifyIn 0 Method.didClose (didCloseParams uri) =
        (system, .ended (.failed (.sessionClosed Method.didClose))) ∨
      system.notifyIn 0 Method.didClose (didCloseParams uri) =
        system.write 0 Method.didClose
          (notificationMessage Method.didClose (some (didCloseParams uri))) := by
  obtain ⟨workspace, workspaces, isSession⟩ := passage.parts.workspace
  obtain ⟨session, sessions, _⟩ := passage.parts.session
  cases closed : session.closed with
  | true =>
      left
      simp [System.notifyIn, workspaces, isSession, System.notify, sessions, closed, Step.failed]
  | false =>
      right
      simp [System.notifyIn, workspaces, isSession, System.notify, sessions, closed,
        isWritable_didCloseParams]

/-- Closing an open document takes it out of the workspace and announces that. -/
theorem closeFile_eq
    (passage : SyncPassage calm uri running before synchronizer system)
    (isOpen : system.isOpen 0 = true) :
    (system.closeFile 0).goOn [.detaching 0] =
      ((system.unregister 0 uri).notifyIn 0 Method.didClose (didCloseParams uri)).goOn
        [.closingFile uri, .detaching 0] := by
  obtain ⟨file, files, isWorkspace, isUri⟩ := passage.parts.file
  have announced : system.closeFile 0 =
      ((system.unregister 0 uri).notifyIn 0 Method.didClose (didCloseParams uri)).goOn
        [.closingFile uri] := by
    simp only [System.closeFile, files, List.getElem?_cons_zero, isOpen, Bool.not_true,
      Bool.false_eq_true, if_false, isWorkspace, isUri]
    exact andThen_eq_goOn _ (.closingFile uri)
  rw [announced, goOn_goOn]
  rfl

/-- When the announcement has ended, the synchronizer forgets its file. -/
theorem announced_step
    {current : System} {outcome : Outcome Reply} (notCancelled : outcome ≠ .cancelled)
    (passage : SyncPassage calm uri running before synchronizer system)
    (later : SyncPassage calm uri running before synchronizer current)
    (steady : (system.unregister 0 uri).Steady current)
    (deliveries : current.deliveries uri = system.deliveries uri) :
    ∃ last,
      QuietStep calm uri running before synchronizer system
        (Step.goOn (current, .ended outcome) [.closingFile uri, .detaching 0]) last ∧
      (Step.goOn (current, .ended outcome) [.closingFile uri, .detaching 0]).1.isReady 0 =
        false := by
  obtain ⟨after, ending, last, result, step, detached⟩ := resumeStack_detaching later outcome
  have unready : current.isReady 0 = false :=
    (isReady_of_steady (unregister_passage passage).1 later steady rfl).trans
      (unregister_unready passage)
  have resultEq : Step.goOn (current, .ended outcome) [.closingFile uri, .detaching 0] =
      (after, .ended ending) := result
  rw [resultEq]
  refine ⟨last, ?_, detached notCancelled⟩
  refine step.of_later steady.loop deliveries rfl rfl rfl rfl rfl fun isReady => ?_
  rw [unready] at isReady
  cases isReady

/-- The closing of an open document is announced, and the synchronizer forgets its file when that
has been written. -/
theorem closeFile_step
    (passage : SyncPassage calm uri running before synchronizer system)
    (isOpen : system.isOpen 0 = true) :
    ∃ later,
      QuietStep calm uri running before synchronizer system
        ((system.closeFile 0).goOn [.detaching 0]) later ∧
      ((system.closeFile 0).goOn [.detaching 0]).1.isReady 0 = false := by
  have unregistered := (unregister_passage passage).1
  have unready := unregister_unready passage
  rw [closeFile_eq passage isOpen]
  rcases notifyClosed_cases unregistered with failed | written
  · rw [failed]
    exact announced_step nofun passage unregistered (.refl _) rfl
  · obtain ⟨writtenPassage, deliveries, steady, ends⟩ :=
      quiet_write 0 Method.didClose unregistered (delivery?_didClose uri uri)
    rw [written]
    generalize (system.unregister 0 uri).write 0 Method.didClose
      (notificationMessage Method.didClose (some (didCloseParams uri))) = result at *
    obtain ⟨current, progress⟩ := result
    rcases ends with ⟨outcome, ended, notCancelled⟩ | ⟨link, fresh, held⟩
    · simp only at ended
      subst ended
      exact announced_step notCancelled passage writtenPassage steady deliveries
    · simp only at held
      subst held
      have waits : QuietStep calm uri running before synchronizer (system.unregister 0 uri)
          (current, .suspended
            [.sending link (notificationMessage Method.didClose (some (didCloseParams uri))),
              .writing Method.didClose, .closingFile uri, .detaching 0]
            (system.unregister 0 uri).nextPromise) synchronizer := by
        refine .of_steady unregistered writtenPassage deliveries steady ?_
        intro frames promise suspends
        obtain ⟨rfl, rfl⟩ := Progress.suspended.inj suspends
        exact ⟨fresh.new, fresh.plain,
          .closes link _ _ (delivery?_didClose uri uri) fresh.ungrouped⟩
      refine ⟨synchronizer, waits.of_later (.refl _) rfl rfl rfl rfl rfl rfl fun isReady => ?_,
        (isReady_of_steady unregistered writtenPassage steady rfl).trans unready⟩
      rw [unready] at isReady
      cases isReady

theorem closeAttached_step
    (passage : SyncPassage calm uri running before synchronizer system) :
    ∃ later,
      QuietStep calm uri running before synchronizer system (system.closeAttached 0) later ∧
        (system.closeAttached 0).1.isReady 0 = false := by
  simp only [System.closeAttached, passage.parts.synchronizers, List.getElem?_cons_zero,
    Option.bind_some]
  cases attached : synchronizer.file with
  | none =>
      refine ⟨synchronizer, .ended passage _, ?_⟩
      rw [Bool.eq_false_iff]
      intro isReady
      have file := ((isReady_iff passage).mp isReady).1
      rw [attached] at file
      cases file
  | some file =>
      obtain rfl := passage.parts.attached file attached
      have isGoOn : Step.andThen (system.closeFile 0) (.detaching 0) (System.resumeDetaching 0) =
          (system.closeFile 0).goOn [.detaching 0] :=
        andThen_eq_goOn _ (.detaching 0)
      simp only [isGoOn]
      cases isOpen : system.isOpen 0 with
      | true =>
          exact closeFile_step passage isOpen
      | false =>
          obtain ⟨found, files, _⟩ := passage.parts.file
          have nothing : system.closeFile 0 = (system, .ended (.returned .nothing)) := by
            simp [System.closeFile, files, isOpen, Step.returned]
          obtain ⟨after, ending, later, result, step, unready⟩ := detach_step passage
          have resultEq : (system.closeFile 0).goOn [.detaching 0] = (after, .ended ending) := by
            rw [nothing]
            exact result
          rw [resultEq]
          exact ⟨later, step, unready⟩

theorem closeSynchronizer_step
    (passage : SyncPassage calm uri running before synchronizer system) :
    ∃ later,
      QuietStep calm uri running before { synchronizer with timer := none } (system.cancelTimer 0)
        (system.closeSynchronizer 0) later ∧
      ((system.closeSynchronizer 0).1.isReady 0 = false ∨
        ∃ promise, (system.closeSynchronizer 0).2 = .suspended [.settlingSends 0] promise) := by
  obtain ⟨cancelled, _, _, _⟩ := cancelTimer_passage passage
  simp only [System.closeSynchronizer]
  generalize (((system.cancelTimer 0).synchronizers[0]?).map (·.sends)).getD [] = sends
  split
  · obtain ⟨later, step, unready⟩ := closeAttached_step cancelled
    exact ⟨later, step, Or.inl unready⟩
  · have gathered := cancelled.gather sends
    have steady : (system.cancelTimer 0).Steady
        ((system.cancelTimer 0).onLoop (·.gather sends .nothing)) :=
      ⟨Scheduler.gather_steady _ sends Reply.nothing, rfl, rfl⟩
    rcases Scheduler.gather_outcome? sends Reply.nothing (system.cancelTimer 0).loop with
      unsettled | settled
    · rw [System.await_of_unsettled unsettled]
      refine ⟨{ synchronizer with timer := none }, ?_, Or.inr ⟨_, rfl⟩⟩
      refine .of_steady cancelled gathered rfl steady fun frames promise suspends => ?_
      obtain ⟨rfl, rfl⟩ := Progress.suspended.inj suspends
      exact ⟨Nat.le_refl _, Scheduler.gather_isPlain cancelled.loop.orderly sends .nothing,
        .settles⟩
    · rw [System.await_of_settled settled]
      obtain ⟨later, step, unready⟩ := closeAttached_step gathered
      refine ⟨later, step.of_later steady.loop rfl rfl rfl rfl rfl rfl fun isReady => ?_,
        Or.inl unready⟩
      rw [← isReady_of_steady cancelled gathered steady rfl]
      exact isReady

end Quiet

end LanguageClient.Client
