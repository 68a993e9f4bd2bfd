import LanguageClient.Proofs.Sending

/-!
# How tasks go on

What a task learns when it goes on, and what its stack of frames does with that.
-/

namespace LanguageClient.Client

open LanguageClient.Json LanguageClient.Loop

/-- The frames that a task is left with. -/
def Progress.frames : Progress → List Frame
  | .ended _ => []
  | .suspended frames _ => frames

namespace System

variable {system : System}

/-! ## What a task learns -/

theorem signalOf_of_cancel
    {found : TaskState Frame} (cancelled : found.cancelRequested = true) :
    system.signalOf found = .cancelled := by
  simp only [signalOf, cancelled, if_true]

theorem signalOf_of_awaiting
    {found : TaskState Frame} {promise : Nat} {outcome : Outcome Reply}
    (uncancelled : found.cancelRequested = false) (awaits : found.awaiting = some promise)
    (settled : system.loop.outcome? promise = some outcome) :
    system.signalOf found = outcome := by
  simp only [signalOf, uncancelled, Bool.false_eq_true, if_false, awaits, Option.bind_some,
    settled]

theorem signalOf_of_idle
    {found : TaskState Frame} (uncancelled : found.cancelRequested = false)
    (idle : found.awaiting = none) :
    system.signalOf found = .returned .nothing := by
  simp only [signalOf, uncancelled, Bool.false_eq_true, if_false, idle, Option.bind_none]

theorem uncancelled_of_returned
    {found : TaskState Frame} {reply : Reply} (signal : system.signalOf found = .returned reply) :
    found.cancelRequested = false := by
  cases cancelled : found.cancelRequested with
  | false => rfl
  | true =>
      rw [signalOf_of_cancel cancelled] at signal
      cases signal

theorem signalOf_of_taken
    {callback : Callback Action} {rest : ClientLoop}
    (taken : Scheduler.Taken system.loop callback rest) (found : TaskState Frame) :
    ({ system with loop := rest } : System).signalOf found = system.signalOf found := by
  simp only [signalOf, taken.outcome?_eq]

/-- A task that goes on after its promise was settled learns its outcome, unless it is cancelled. -/
theorem signalOf_of_settled
    {found : TaskState Frame} {promise : Nat} (awaits : found.awaiting = some promise)
    (settled : system.loop.outcome? promise ≠ none) :
    system.signalOf found = .cancelled ∨
      system.loop.outcome? promise = some (system.signalOf found) := by
  cases cancelled : found.cancelRequested with
  | true => exact Or.inl (signalOf_of_cancel cancelled)
  | false =>
      obtain ⟨outcome, isOutcome⟩ := Option.ne_none_iff_exists'.mp settled
      right
      rw [signalOf_of_awaiting cancelled awaits isOutcome]
      exact isOutcome

/-! ## What a stack does -/

theorem resumeStack_of_ended
    {frame : Frame} {later : System} {outcome ending : Outcome Reply} (outer : List Frame)
    (ends : resumeFrame frame system outcome = (later, .ended ending)) :
    system.resumeStack outcome (frame :: outer) = later.resumeStack ending outer := by
  simp only [resumeStack, ends]

theorem resumeStack_of_suspended
    {frame : Frame} {later : System} {outcome : Outcome Reply} {frames : List Frame}
    {promise : Nat} (outer : List Frame)
    (suspends : resumeFrame frame system outcome = (later, .suspended frames promise)) :
    system.resumeStack outcome (frame :: outer) = (later, .suspended (frames ++ outer) promise) := by
  simp only [resumeStack, suspends]

theorem resumeStack_singleton (system : System) (outcome : Outcome Reply) (frame : Frame) :
    system.resumeStack outcome [frame] = resumeFrame frame system outcome := by
  rcases result : resumeFrame frame system outcome with ⟨later, ending | ⟨frames, promise⟩⟩
  · rw [resumeStack_of_ended [] result]
    rfl
  · rw [resumeStack_of_suspended [] result, List.append_nil]

/-- The outermost frame of a stack goes on after all others. -/
theorem resumeStack_concat
    (system : System) (inner : List Frame) (frame : Frame) (outcome : Outcome Reply) :
    system.resumeStack outcome (inner ++ [frame]) =
      (system.resumeStack outcome inner).andThen frame (resumeFrame frame) := by
  induction inner generalizing system outcome with
  | nil => exact resumeStack_singleton system outcome frame
  | cons first others inductionHypothesis =>
      rw [List.cons_append]
      rcases result : resumeFrame first system outcome with ⟨later, ending | ⟨frames, promise⟩⟩
      · rw [resumeStack_of_ended _ result, resumeStack_of_ended _ result, inductionHypothesis]
      · rw [resumeStack_of_suspended _ result, resumeStack_of_suspended _ result]
        simp only [Step.andThen, List.append_assoc]

theorem resumeStack_pair (system : System) (outcome : Outcome Reply) (frame outer : Frame) :
    system.resumeStack outcome [frame, outer] =
      (resumeFrame frame system outcome).andThen outer (resumeFrame outer) := by
  rw [← resumeStack_singleton]
  exact resumeStack_concat system [frame] outer outcome

theorem resumeStack_begin (system : System) (reply : Reply) (call : Call) :
    system.resumeStack (.returned reply) [.begin call] = system.call call :=
  resumeStack_singleton system (.returned reply) (.begin call)

theorem resumeStack_not_begin
    (system : System) (call : Call) {outcome : Outcome Reply}
    (notReturned : ∀ reply, outcome ≠ .returned reply) :
    system.resumeStack outcome [.begin call] = (system, .ended outcome) := by
  cases outcome with
  | returned reply => exact (notReturned reply rfl).elim
  | failed _ => rfl
  | cancelled => rfl

/-- A frame that was held back is accepted now, or whoever sent it learns why it is not. -/
theorem resumeStack_sending
    (system : System) (link : Nat) (frame : Value) (subject : String) (outer : List Frame)
    (outcome : Outcome Reply) :
    (∃ reply, outcome = .returned reply ∧ system.peer.refusalOf? frame = none ∧
      system.resumeStack outcome (.sending link frame :: .writing subject :: outer) =
        (system.accept link frame).resumeStack (.returned .nothing) outer) ∨
    ∃ ending, (∀ reply, ending ≠ .returned reply) ∧
      ((∃ reply, outcome = .returned reply) → system.peer.refusalOf? frame ≠ none) ∧
      system.resumeStack outcome (.sending link frame :: .writing subject :: outer) =
        system.resumeStack ending outer := by
  cases outcome with
  | returned reply =>
      cases refused : system.peer.refusalOf? frame with
      | none =>
          left
          have accepts : resumeFrame (.sending link frame) system (.returned reply) = _ :=
            takeFrame_of_acceptance link refused
          exact ⟨reply, rfl, rfl, by rw [resumeStack_of_ended _ accepts, resumeStack_of_ended _ rfl]⟩
      | some failure =>
          right
          have refuses : resumeFrame (.sending link frame) system (.returned reply) = _ :=
            takeFrame_of_refusal link refused
          refine ⟨.failed (writeFailure subject failure), by simp, fun _ => by simp, ?_⟩
          rw [resumeStack_of_ended _ refuses, resumeStack_of_ended _ rfl]
          rfl
  | failed failure =>
      right
      refine ⟨.failed (writeFailure subject failure), by simp, by simp, ?_⟩
      rw [resumeStack_of_ended _ rfl, resumeStack_of_ended _ rfl]
      rfl
  | cancelled =>
      right
      refine ⟨.cancelled, by simp, by simp, ?_⟩
      rw [resumeStack_of_ended _ rfl, resumeStack_of_ended _ rfl]

/-! ## The end of a turn -/

section Turn

variable {task completion : Nat} {step : Step}

/-- Only the completion of the task is settled, if it has ended. -/
theorem settleTask_outcome?_of_ne
    {promise : Nat} (different : ∀ outcome, step.2 = .ended outcome → promise ≠ completion) :
    (settleTask task completion step).loop.outcome? promise = step.1.loop.outcome? promise := by
  obtain ⟨later, outcome | ⟨frames, awaited⟩⟩ := step
  · exact Scheduler.settle_outcome?_of_ne outcome later.loop (different outcome rfl)
  · exact Scheduler.suspend_outcome? task frames awaited promise later.loop

theorem settleTask_tasks_of_ne {other : Nat} (different : other ≠ task) :
    (settleTask task completion step).loop.tasks[other]? = step.1.loop.tasks[other]? := by
  obtain ⟨later, outcome | ⟨frames, promise⟩⟩ := step
  · exact congrArg (·[other]?) (Scheduler.settle_tasks completion outcome later.loop)
  · exact Scheduler.suspend_tasks_of_ne frames promise later.loop different

end Turn

end System

end LanguageClient.Client
