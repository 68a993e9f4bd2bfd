import LanguageClient.Proofs.Loop.Passage

/-!
# The turn of a task

A task that goes on is taken off its stack, runs, and is then suspended or ends. Whatever it does in
between, the other tasks stay where they are, and of all completions only its own may be settled.
-/

namespace LanguageClient.Loop.Scheduler

variable {Frame Action Result : Type}

/-- Takes the frames off a task that goes on. -/
def clearTask (task : Nat) (loop : Scheduler Frame Action Result) :
    Scheduler Frame Action Result :=
  loop.modifyTask task fun found =>
    { found with stack := [], awaiting := none, cancelRequested := false }

@[simp]
theorem clearTask_completions (task : Nat) (loop : Scheduler Frame Action Result) :
    (loop.clearTask task).completions = loop.completions :=
  completions_modifyTask task fun _ => rfl

theorem clearTask_other
    {task other : Nat} (loop : Scheduler Frame Action Result) (different : other ≠ task) :
    (loop.clearTask task).tasks[other]? = loop.tasks[other]? := by
  simp [clearTask, modifyTask, Ne.symm different]

theorem clearTask_self
    {task : Nat} {found : TaskState Frame} {loop : Scheduler Frame Action Result}
    (entry : loop.tasks[task]? = some found) :
    (loop.clearTask task).tasks[task]? =
      some { found with stack := [], awaiting := none, cancelRequested := false } := by
  simp [clearTask, modifyTask, entry]

/-- What the turn of a task leaves of a scheduler. -/
structure TaskTurn
    (cancels : Prop) (settles : Nat → Outcome Result → Prop) (task : Nat)
    (before after : Scheduler Frame Action Result) :
    Prop where
  kept : ∀ promise outcome,
    before.outcome? promise = some outcome → after.outcome? promise = some outcome
  gained : ∀ promise outcome, promise ∉ before.completions →
    before.outcome? promise = none → after.outcome? promise = some outcome →
      settles promise outcome
  others : ∀ (other : Nat) (found : TaskState Frame), other ≠ task →
    before.tasks[other]? = some found →
      (∃ cancelRequested : Bool, after.tasks[other]? = some { found with cancelRequested } ∧
          (cancelRequested = found.cancelRequested ∨ cancels)) ∧
        after.outcome? found.completion = before.outcome? found.completion
  ungrouped : ∀ promise, before.IsUngrouped promise → after.IsUngrouped promise

variable {scope : Scope Frame Action} {cancels : Prop} {settles : Nat → Outcome Result → Prop}
  {rest loop : Scheduler Frame Action Result} {task : Nat} {found : TaskState Frame}

theorem Passage.start
    (orderly : rest.Orderly scope) (punctual : rest.Punctual none)
    (entry : rest.tasks[task]? = some found) (notReady : task ∉ resumed rest.ready)
    (settled : ∀ promise, found.awaiting = some promise → rest.outcome? promise ≠ none)
    (idle : scope.task [] none) :
    Passage scope (some task) cancels settles (rest.clearTask task) (rest.clearTask task) := by
  refine .refl ?_ ?_ ?_
  · exact orderly.modifyTask (fun _ => rfl) (fun _ _ => idle)
      fun _ _ promise awaits => by cases awaits
  · refine punctual.run notReady ?_ fun _ => rfl
    intro other otherEntry promise awaits
    rw [entry] at otherEntry
    rw [← Option.some.inj otherEntry] at awaits
    exact settled promise awaits
  · intro other same
    rw [← Option.some.inj same]
    have inside : task < rest.tasks.length := (List.getElem?_eq_some_iff.mp entry).1
    simpa [nextTask, clearTask, modifyTask] using inside

variable (passage : Passage scope (some task) cancels settles (rest.clearTask task) loop)

include passage

theorem Passage.running_task (entry : rest.tasks[task]? = some found) :
    ∃ cancelRequested : Bool, loop.tasks[task]? = some
      { found with stack := [], awaiting := none, cancelRequested } := by
  obtain ⟨cancelRequested, later, _⟩ := passage.advances.tasks task _ (clearTask_self entry)
  exact ⟨cancelRequested, later⟩

theorem Passage.suspend
    {stack : List Frame} {promise : Nat} (entry : rest.tasks[task]? = some found)
    (allowed : scope.task stack (some promise)) (plain : loop.IsPlain promise)
    (resumable : scope.callback (.resume task)) :
    (loop.suspend task stack promise).Orderly scope ∧
      (loop.suspend task stack promise).Punctual none ∧
      TaskTurn cancels settles task rest (loop.suspend task stack promise) ∧
      ∃ cancelRequested : Bool, (loop.suspend task stack promise).tasks[task]? = some
        { found with stack, awaiting := some promise, cancelRequested } := by
  have inside : task < loop.nextTask := passage.runs_later rfl
  refine ⟨passage.orderly.suspend allowed plain resumable,
    passage.punctual.suspend stack inside plain.known, ?_, ?_⟩
  · exact {
      kept := fun other outcome settled => by
        rw [suspend_outcome?]
        exact passage.advances.kept other outcome settled
      gained := fun other outcome _ unsettled settled => by
        rw [suspend_outcome?] at settled
        exact passage.advances.gained other outcome unsettled settled
      others := fun other state different otherEntry => by
        have cleared := (clearTask_other rest different).trans otherEntry
        obtain ⟨cancelRequested, later, flag⟩ := passage.advances.tasks other state cleared
        constructor
        · refine ⟨cancelRequested, ?_, flag⟩
          rw [suspend_tasks_of_ne stack promise loop different, later]
        · rw [suspend_outcome?]
          exact passage.advances.completions _
            (List.mem_map.mpr ⟨state, List.mem_of_getElem? cleared, rfl⟩)
      ungrouped := fun other ungrouped =>
        (whenSettled_groups promise other _ _).trans (passage.advances.ungrouped other ungrouped) }
  · obtain ⟨cancelRequested, running⟩ := passage.running_task entry
    exact ⟨cancelRequested, suspend_tasks_self stack promise running⟩

theorem Passage.finish
    (outcome : Outcome Result) (entry : rest.tasks[task]? = some found) :
    (loop.settle found.completion outcome).Orderly scope ∧
      (loop.settle found.completion outcome).Punctual none ∧
      TaskTurn cancels settles task rest (loop.settle found.completion outcome) ∧
      ∃ cancelRequested : Bool,
        (loop.settle found.completion outcome).tasks[task]? = some
          { found with stack := [], awaiting := none, cancelRequested } := by
  have isCompletion : found.completion ∈ rest.completions :=
    List.mem_map.mpr ⟨found, List.mem_of_getElem? entry, rfl⟩
  obtain ⟨cancelRequested, running⟩ := passage.running_task entry
  refine ⟨passage.orderly.settle _ outcome, (passage.punctual.settle _ outcome).stop, ?_,
    cancelRequested, by rw [settle_tasks, running]⟩
  exact {
    kept := fun other earlier settled =>
      settle_outcome?_of_some outcome (passage.advances.kept other earlier settled)
    gained := fun other later noCompletion unsettled settled => by
      have different : other ≠ found.completion := fun same => noCompletion (same ▸ isCompletion)
      rw [settle_outcome?_of_ne outcome loop different] at settled
      exact passage.advances.gained other later unsettled settled
    others := fun other state different otherEntry => by
      have cleared := (clearTask_other rest different).trans otherEntry
      obtain ⟨otherCancelRequested, later, flag⟩ := passage.advances.tasks other state cleared
      refine ⟨⟨otherCancelRequested, by rw [settle_tasks, later], flag⟩, ?_⟩
      have differentCompletion : state.completion ≠ found.completion := by
        intro same
        apply different
        have inside : other < loop.completions.length := by
          simpa [completions] using (List.getElem?_eq_some_iff.mp later).1
        refine (List.getElem?_inj inside passage.orderly.completionsDistinct).mp ?_
        simp [completions, later, running, same]
      rw [settle_outcome?_of_ne outcome loop differentCompletion]
      exact passage.advances.completions _
        (List.mem_map.mpr ⟨state, List.mem_of_getElem? cleared, rfl⟩)
    ungrouped := fun other ungrouped =>
      (settle_groups _ other outcome loop).trans (passage.advances.ungrouped other ungrouped) }

end LanguageClient.Loop.Scheduler
