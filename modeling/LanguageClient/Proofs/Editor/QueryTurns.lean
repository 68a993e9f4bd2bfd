import LanguageClient.Proofs.Editor.Degrading

/-!
# The turns of a query

In its own turn a query that nobody has disturbed ends with a result, without one or with a fault, or it
waits for promises that nobody else knows. So it stays undisturbed from turn to turn.
-/

namespace LanguageClient.Client

open LanguageClient.Json LanguageClient.Loop LanguageClient.Number LanguageClient.Protocol

namespace System

variable {before system : System} {task : Nat} {rest : ClientLoop} {found : TaskState Frame}
  {call : Call} {editor : Editor}

/-! ## Stacks -/

theorem accept_signals (system : System) (link : Nat) (frame : Value) :
    (system.accept link frame).signals = system.signals := by
  have same : (system.accept link frame).peer.detained = system.peer.detained :=
    detained_accept system.peer frame
  unfold signals
  rw [same]
  rfl

/-! ## The turn -/

/-- A query of an editor goes on in a state that comes from the one before its turn. -/
structure Attended (before system : System) (editor : Editor) : Prop where
  retains : Retains before system
  exhausted : system.Exhausted → before.Exhausted
  known : before.editors[0]? = some editor
  own : editor.synchronizer = 0
  synchronizer : ∃ state, system.synchronizers[0]? = some state
  voiced : system.Voiced
  signals : ∀ promise ∈ system.signals, promise < system.nextPromise

theorem Attended.signals_of_respects
    {held : List Nat} {later : System} (attended : Attended before system editor)
    (respects : Respects held system later) :
    ∀ promise ∈ later.signals, promise < later.nextPromise := by
  intro promise member
  rcases respects.signals promise member with earlier | ⟨_, known⟩
  · exact Nat.lt_of_lt_of_le (attended.signals promise earlier) respects.loop.grown
  · exact known

section Turn

variable (attended : Attended before system editor)

include attended

theorem Attended.editors_eq : system.editors[0]? = some editor := by
  rw [attended.retains.editors, attended.known]

theorem Attended.flushes_queries
    {step : Step} {caller : Frame} {held : List Nat} (flushes : step.Flushes system)
    (ofCall : call.FlushesWith caller) (respects : Respects held system step.1) :
    (step.andThen caller (resumeFrame caller)).Queries before task call :=
  (flushes.of_retains attended.retains attended.exhausted).queries ofCall attended.known
    (attended.signals_of_respects respects)

theorem Attended.flush_queries {caller : Frame} (ofCall : call.FlushesWith caller) :
    ((system.flush 0 false).andThen caller (resumeFrame caller)).Queries before task call := by
  obtain ⟨state, known⟩ := attended.synchronizer
  exact attended.flushes_queries (flush_flushes attended.voiced known false) ofCall
    (flush_conducts (.refl [] system) 0 false).respects

/-- A query begins. -/
theorem Attended.call_queries
    (isQuery : call.IsQuery) (ofEditor : (Input.call call).OnEditor) :
    (system.call call).Queries before task call := by
  cases call with
  | hover other offset =>
      obtain rfl : other = 0 := ofEditor
      have returns := Call.ReturnsWith.hover 0 offset none
      simp only [System.call, hover, attended.editors_eq]
      split
      · exact .ends _ _ (Or.inl ⟨_, rfl, returns⟩)
      · split
        · rw [attended.own]
          exact attended.flush_queries (.hover offset)
        · exact .ends _ _ (Or.inl ⟨_, rfl, returns⟩)
  | complete other offset explicit =>
      obtain rfl : other = 0 := ofEditor
      have returns := Call.ReturnsWith.complete 0 offset explicit none
      simp only [System.call, complete, attended.editors_eq]
      split
      · exact .ends _ _ (Or.inl ⟨_, rfl, returns⟩)
      · split
        · exact .ends _ _ (Or.inl ⟨_, rfl, returns⟩)
        · rename_i query _
          rw [attended.own]
          exact attended.flush_queries (.complete offset explicit query)
  | _ => exact isQuery.elim

/-- A query has waited for the lock. -/
theorem Attended.locking_queries
    {caller : Frame} {outcome : Outcome Reply} (ofCall : call.FlushesWith caller) (promise : Nat)
    (force : Bool) (kind : IsKind outcome) :
    (system.resumeStack outcome [.locking 0 promise force, caller]).Queries before task call := by
  obtain ⟨state, known⟩ := attended.synchronizer
  have isLocking := resumeStack_concat system [.locking 0 promise force] caller outcome
  rw [resumeStack_singleton] at isLocking
  exact isLocking ▸ attended.flushes_queries
    (resumeLocking_flushes attended.voiced known promise force kind) ofCall
    (resumeLocking_conducts (.refl [] system) 0 promise force outcome).respects

/-- A query has waited until a change was sent. -/
theorem Attended.changing_queries
    {caller : Frame} {outcome : Outcome Reply} (ofCall : call.FlushesWith caller) (link : Nat)
    (frame : Value) (subject : String) (version : Nat) (wasDirty : Bool) (kind : IsKind outcome) :
    (system.resumeStack outcome
      [.sending link frame, .writing subject, .changing 0 version wasDirty, caller]).Queries before
        task call := by
  have isChanging := resumeStack_concat system
    [.sending link frame, .writing subject, .changing 0 version wasDirty] caller outcome
  have conducts : (system.resumeStack outcome
      [.sending link frame, .writing subject, .changing 0 version wasDirty]).Conducts [] system
        (courseOf _) system :=
    resumeStack_conducts (.refl [] system) (by simp [Frame.IsTracked, Frame.IsInner])
      (by simp [Frame.IsInner]) (by simp [Frame.promises]) outcome
  exact isChanging ▸ attended.flushes_queries
    (resumeStack_changing_flushes system link frame subject version wasDirty kind) ofCall
    conducts.respects

/-- A query has waited until its request was sent. Its answer may have come already. -/
theorem Attended.sending_queries
    {asker : Frame} {outcome : Outcome Reply} {promise : Nat} (asks : call.AsksWith asker)
    (link : Nat) (frame : Value) (subject : String) (kind : IsKind outcome)
    (ungrouped : system.loop.groupOf? promise = none) (noSignal : promise ∉ system.signals)
    (verdicts : ∀ verdict, system.loop.outcome? promise = some verdict → IsVerdict verdict ∧
      ∀ raw, verdict = .returned (.result raw) → before.Answered task raw) :
    (system.resumeStack outcome
      [.sending link frame, .writing subject, .requesting promise, asker]).Queries before task
        call := by
  obtain ⟨later, ending, isKind, isLater, result⟩ :=
    resumeStack_sending_kind system link frame subject [.requesting promise, asker] kind
  have promises : later.loop.promises = system.loop.promises := by
    rcases isLater with rfl | rfl <;> rfl
  have editors : later.editors[0]? = some editor := by
    rcases isLater with rfl | rfl <;> exact attended.editors_eq
  have laterNoSignal : promise ∉ later.signals := by
    rcases isLater with rfl | rfl
    · exact noSignal
    · rwa [accept_signals]
  rw [result]
  cases ending with
  | returned reply =>
      cases settled : later.loop.outcome? promise with
      | none =>
          have awaits : resumeFrame (.requesting promise) later (.returned reply) = _ :=
            await_of_unsettled settled
          have fresh : later.IsFresh promise := by
            refine ⟨settled, ?_⟩
            rw [← ungrouped, Scheduler.groupOf?, promises, Scheduler.groupOf?]
          have waits : Step.Requests before editor (later, .suspended [] promise) :=
            .waits later promise fresh laterNoSignal
          rw [resumeStack_of_suspended _ awaits]
          exact waits.queries asks attended.known
      | some verdict =>
          have awaits : resumeFrame (.requesting promise) later (.returned reply) = _ :=
            await_of_settled settled
          rw [resumeStack_of_ended _ awaits, resumeStack_singleton]
          have earlier : system.loop.outcome? promise = some verdict := by
            rw [← settled, Scheduler.outcome?, ← promises, Scheduler.outcome?]
          obtain ⟨isVerdict, answered⟩ := verdicts verdict earlier
          exact asks.verdict_queries editors isVerdict answered
  | failed failure =>
      rw [resumeStack_of_ended _ rfl, resumeStack_singleton]
      exact asks.failed_queries (Or.inl isKind)
  | cancelled => exact isKind.elim

end Turn

theorem Resumes.attended
    (resumes : Resumes before task rest found) (voiced : before.Voiced)
    (signals : ∀ promise ∈ before.signals, promise < before.nextPromise)
    (known : before.editors[0]? = some editor) (own : editor.synchronizer = 0)
    (synchronizer : ∃ state, before.synchronizers[0]? = some state) :
    Attended before (before.resumed rest task) editor where
  retains := ⟨rfl, rfl, rfl⟩
  exhausted := id
  known
  own
  synchronizer
  voiced
  signals := fun promise member => by
    rw [resumes.resumed_nextPromise]
    exact signals promise member

theorem Undisturbed.signal
    (undisturbed : Undisturbed before task found) {promise : Nat}
    (awaits : found.awaiting = some promise)
    (settled : ∀ promise, found.awaiting = some promise → before.loop.outcome? promise ≠ none) :
    ∃ outcome, before.loop.outcome? promise = some outcome ∧ before.signalOf found = outcome ∧
      IsKind outcome := by
  obtain ⟨outcome, isSettled⟩ := Option.ne_none_iff_exists'.mp (settled promise awaits)
  have holds := mem_heldPromises_of_awaits awaits
  refine ⟨outcome, isSettled, signalOf_of_awaiting undisturbed.uncancelled awaits isSettled, ?_⟩
  rcases undisturbed.kind promise holds outcome isSettled with rfl | verdict
  · trivial
  · exact verdict.isKind

theorem Undisturbed.signal_ne_cancelled
    (undisturbed : Undisturbed before task found)
    (settled : ∀ promise, found.awaiting = some promise → before.loop.outcome? promise ≠ none) :
    before.signalOf found ≠ .cancelled := by
  intro cancelled
  cases awaits : found.awaiting with
  | none =>
      rw [signalOf_of_idle undisturbed.uncancelled awaits] at cancelled
      cases cancelled
  | some promise =>
      obtain ⟨outcome, _, signal, kind⟩ := undisturbed.signal awaits settled
      rw [← signal, cancelled] at kind
      exact kind.elim

/-- The turn of a query that nobody has disturbed. -/
theorem Undisturbed.queries
    (undisturbed : Undisturbed before task found)
    (shape : QueryShape call found.stack found.awaiting) (isQuery : call.IsQuery)
    (ofEditor : (Input.call call).OnEditor) (resumes : Resumes before task rest found)
    (settled : ∀ promise, found.awaiting = some promise → before.loop.outcome? promise ≠ none)
    (attended : Attended before (before.resumed rest task) editor) :
    (before.resumption rest task found).Queries before task call := by
  have samePromises : (before.resumed rest task).loop.promises = before.loop.promises :=
    resumes.taken.promises
  have answered (promise : Nat) (holds : promise ∈ heldPromises found.stack found.awaiting)
      (outcome : Outcome Reply) (isSettled : before.loop.outcome? promise = some outcome) (raw : Value)
      (isResult : outcome = .returned (.result raw)) : before.Answered task raw :=
    ⟨found, promise, undisturbed.entry, holds, isResult ▸ isSettled⟩
  unfold resumption
  generalize stackEq : found.stack = stack at shape
  generalize awaitingEq : found.awaiting = awaiting at shape
  cases shape with
  | begins =>
      rw [signalOf_of_idle undisturbed.uncancelled awaitingEq, resumeStack_begin]
      exact attended.call_queries isQuery ofEditor
  | locks promise awaited force caller flushes =>
      obtain ⟨outcome, _, signal, kind⟩ := undisturbed.signal awaitingEq settled
      rw [signal]
      exact attended.locking_queries flushes promise force kind
  | changes link frame subject version wasDirty awaited caller flushes =>
      obtain ⟨outcome, _, signal, kind⟩ := undisturbed.signal awaitingEq settled
      rw [signal]
      exact attended.changing_queries flushes link frame subject version wasDirty kind
  | sends link frame subject promise awaited asker asks =>
      obtain ⟨outcome, _, signal, kind⟩ := undisturbed.signal awaitingEq settled
      have awaits : HoldsAnswer found.stack found.awaiting promise := by
        rw [stackEq]
        exact Or.inl (by simp)
      obtain ⟨noSignal, verdicts⟩ := undisturbed.answers promise awaits
      rw [signal]
      refine attended.sending_queries asks link frame subject kind ?_ noSignal ?_
      · rw [Scheduler.groupOf?, samePromises]
        exact undisturbed.ungrouped promise awaits.mem_held
      · intro verdict isSettled
        rw [Scheduler.outcome?, samePromises] at isSettled
        exact ⟨verdicts verdict isSettled, answered promise awaits.mem_held verdict isSettled⟩
  | asks asker promise asks =>
      obtain ⟨outcome, isSettled, signal, _⟩ := undisturbed.signal awaitingEq settled
      have awaits : HoldsAnswer found.stack found.awaiting promise :=
        Or.inr ⟨asker, stackEq, by cases asks <;> trivial, awaitingEq⟩
      obtain ⟨_, verdicts⟩ := undisturbed.answers promise awaits
      rw [signal, resumeStack_singleton]
      exact asks.verdict_queries attended.editors_eq (verdicts outcome isSettled)
        (answered promise awaits.mem_held outcome isSettled)

/-- The client does not begin to mind a task or cancel it in the task's own turn. -/
theorem Resumes.left_unminded
    {language : Language Deed} (resumes : Resumes before task rest found)
    (unminded : ¬ before.Minds task)
    (conducts : (before.resumption rest task found).Conducts
      (heldPromises found.stack found.awaiting) (before.resumed rest task) language
      (before.resumed rest task)) :
    ¬ (before.step .turn).Minds task ∧ (before.step .turn).loop.tasks[task]? = some {
      stack := (before.resumption rest task found).2.frames
      awaiting := (before.resumption rest task found).2.awaited
      cancelRequested := false
      completion := found.completion } := by
  have unmindedHere : ¬ (before.resumed rest task).Minds task := fun minds =>
    unminded (resumes.resumed_minds.mp minds)
  have cleared : (before.resumed rest task).loop.tasks[task]? = some _ :=
    Scheduler.clearTask_self resumes.restEntry
  obtain ⟨cancelRequested, leftEntry, mayCancel⟩ := resumes.leftEntry conducts
  have uncancelled : cancelRequested = false := by
    rcases mayCancel with uncancelled | minds | ⟨isNew, _⟩
    · exact uncancelled
    · exact (unmindedHere minds).elim
    · rw [resumes.resumed_nextTask] at isNew
      exact absurd (List.getElem?_eq_some_iff.mp resumes.entry).1 (Nat.not_lt.mpr isNew)
  rw [uncancelled] at leftEntry
  refine ⟨?_, leftEntry⟩
  rw [resumes.step_turn, settleTask_minds]
  exact conducts.respects.unminded cleared unmindedHere

/-- A task that waits after its turn for what nobody else knows is undisturbed. -/
theorem Resumes.undisturbed
    {language : Language Deed} {later : System} {frames : List Frame} {promise : Nat}
    (resumes : Resumes before task rest found) (unminded : ¬ before.Minds task)
    (conducts : (before.resumption rest task found).Conducts
      (heldPromises found.stack found.awaiting) (before.resumed rest task) language
      (before.resumed rest task))
    (suspends : before.resumption rest task found = (later, .suspended frames promise))
    (fresh : ∀ other ∈ heldPromises frames (some promise), later.IsFresh other)
    (foreign : ∀ other, HoldsAnswer frames (some promise) other → other ∉ later.signals) :
    ∃ left : TaskState Frame, left.stack = frames ∧ left.awaiting = some promise ∧
      Undisturbed (before.step .turn) task left := by
  obtain ⟨stillUnminded, leftEntry⟩ := resumes.left_unminded unminded conducts
  rw [suspends] at leftEntry
  have unsettled (other : Nat) (member : other ∈ heldPromises frames (some promise)) :
      (before.step .turn).loop.outcome? other = none := by
    rw [resumes.step_turn, suspends]
    exact (Scheduler.suspend_outcome? task frames promise other later.loop).trans
      (fresh other member).unsettled
  refine ⟨_, rfl, rfl, leftEntry, stillUnminded, rfl, ?_, ?_, ?_⟩
  · intro other member
    rw [resumes.step_turn, suspends, settleTask_groupOf?]
    exact (fresh other member).ungrouped
  · intro other member outcome settled
    rw [unsettled other member] at settled
    cases settled
  · intro other awaits
    refine ⟨?_, fun outcome settled => ?_⟩
    · rw [resumes.step_turn, suspends, settleTask_signals]
      exact foreign other awaits
    · rw [unsettled other awaits.mem_held] at settled
      cases settled

end System

end LanguageClient.Client
