import LanguageClient.Proofs.Conduct.Apart
import LanguageClient.Proofs.Loop.TaskTurn

/-!
# When tasks end

The end of a task comes in its own turn, and nothing else settles its completion.
-/

namespace LanguageClient.Client

open LanguageClient.Json LanguageClient.Loop LanguageClient.Number LanguageClient.Protocol

/-- How a task has ended when its turn is over, if it has. -/
def Progress.ending? : Progress → Option (Outcome Reply)
  | .ended outcome => some outcome
  | .suspended _ _ => none

theorem Progress.ending?_eq_some {progress : Progress} {outcome : Outcome Reply} :
    progress.ending? = some outcome ↔ progress = .ended outcome := by
  cases progress <;> simp [Progress.ending?]

variable {before after system : System} {task other : Nat} {rest : ClientLoop}
  {found : TaskState Frame}

open LanguageClient.Client.System

theorem ending?_of_entry (entry : system.loop.tasks[task]? = some found) :
    system.ending? task = system.loop.outcome? found.completion := by
  simp only [ending?, entry, Option.bind_some]

/-- A task that is not known has not ended. -/
theorem ending?_of_unknown (unknown : system.nextTask ≤ task) : system.ending? task = none := by
  have missing : system.loop.tasks[task]? = none := List.getElem?_eq_none unknown
  simp only [System.ending?, missing, Option.bind_none]

theorem ending?_of_unended (unended : system.loop.hasEnded task = false) :
    system.ending? task = none := by
  cases entry : system.loop.tasks[task]? with
  | none => simp only [System.ending?, entry, Option.bind_none]
  | some found =>
      rw [ending?_of_entry entry]
      simpa [Scheduler.hasEnded, entry, Scheduler.isSettled] using unended

/-- A task that has ended is known. -/
theorem known_of_ending
    {outcome : Outcome Reply} (ended : system.ending? task = some outcome) :
    task < system.nextTask := by
  refine Nat.lt_of_not_le fun unknown => ?_
  rw [ending?_of_unknown unknown] at ended
  cases ended

/-- The task that a call starts. -/
theorem spawn_task (system : System) (call : Call) :
    (system.spawn call).loop.tasks[system.nextTask]? = some {
      stack := [.begin call]
      awaiting := none
      cancelRequested := false
      completion := system.nextPromise } :=
  List.getElem?_concat_length

/-- A task stays where it is and does not end; at most it is cancelled. -/
structure System.KeepsTask (before after : System) (task : Nat) : Prop where
  ending : after.ending? task = before.ending? task
  entry : ∀ found, before.loop.tasks[task]? = some found →
    ∃ cancelRequested : Bool, after.loop.tasks[task]? = some { found with cancelRequested }

theorem System.KeepsTask.of_same
    (tasks : after.loop.tasks = before.loop.tasks)
    (promises : after.loop.promises = before.loop.promises) : before.KeepsTask after task where
  ending := by simp only [System.ending?, Scheduler.outcome?, tasks, promises]
  entry := fun found entry => ⟨found.cancelRequested, tasks ▸ entry⟩

theorem System.KeepsTask.trans
    {middle : System} (first : before.KeepsTask middle task) (second : middle.KeepsTask after task) :
    before.KeepsTask after task where
  ending := second.ending.trans first.ending
  entry := fun found entry => by
    obtain ⟨flag, middleEntry⟩ := first.entry found entry
    exact second.entry { found with cancelRequested := flag } middleEntry

theorem keepsTask_of_advances
    {cancels : Prop} {settles : Nat → Outcome Reply → Prop}
    (advances : before.loop.Advances cancels settles after.loop) (known : task < before.nextTask) :
    before.KeepsTask after task := by
  obtain ⟨found, entry⟩ : ∃ found, before.loop.tasks[task]? = some found :=
    ⟨_, List.getElem?_eq_getElem known⟩
  obtain ⟨cancelRequested, laterEntry, _⟩ := advances.tasks task found entry
  refine ⟨?_, fun other otherEntry => ⟨cancelRequested, ?_⟩⟩
  · rw [ending?_of_entry entry, ending?_of_entry laterEntry]
    exact advances.completions _ (List.mem_map.mpr ⟨found, List.mem_of_getElem? entry, rfl⟩)
  · rw [entry] at otherEntry
    rw [← Option.some.inj otherEntry]
    exact laterEntry

/-! ## The turn of a task -/

namespace System.Resumes

theorem resumed_ending? (resumes : Resumes before task rest found) (other : Nat) :
    (before.resumed rest task).ending? other = before.ending? other := by
  have tasks : (before.resumed rest task).loop.tasks[other]? =
      (rest.clearTask task).tasks[other]? := rfl
  simp only [System.ending?, tasks, resumes.resumed_outcome?, Scheduler.clearTask,
    Scheduler.modifyTask, List.getElem?_modify, resumes.taken.tasks]
  by_cases same : task = other
  · cases before.loop.tasks[other]? <;> simp [same]
  · simp [same]

variable {scope : Scope Frame Action} {cancels : Prop} {settles : Nat → Outcome Reply → Prop}
  (resumes : Resumes before task rest found)
  (passage : Scheduler.Passage scope (some task) cancels settles (before.resumed rest task).loop
    (before.resumption rest task found).1.loop)

include resumes passage

/-- Between the start and the end of a turn no completion is settled. -/
theorem resumption_ending? (known : other < before.nextTask) :
    (before.resumption rest task found).1.ending? other = before.ending? other := by
  rw [(keepsTask_of_advances passage.advances (resumes.resumed_nextTask.symm ▸ known)).ending,
    resumes.resumed_ending?]

/-- After its turn a task is where it says, and has ended as it says. -/
theorem leaves_turn :
    (∃ cancelRequested : Bool, (before.step .turn).loop.tasks[task]? = some {
        stack := (before.resumption rest task found).2.frames
        awaiting := (before.resumption rest task found).2.awaited
        cancelRequested
        completion := found.completion }) ∧
      (before.step .turn).ending? task = (before.resumption rest task found).2.ending? := by
  have known : task < before.nextTask := (List.getElem?_eq_some_iff.mp resumes.entry).1
  have unended := resumes.resumption_ending? passage known
  have entry := resumes.restEntry
  rw [ending?_of_unended resumes.unended] at unended
  rw [resumes.step_turn]
  obtain ⟨cancelRequested, running⟩ := passage.running_task entry
  generalize before.resumption rest task found = step at passage unended running ⊢
  rw [ending?_of_entry running] at unended
  obtain ⟨later, outcome | ⟨frames, promise⟩⟩ := step
  · have isCompletion : found.completion ∈ later.loop.completions :=
      List.mem_map.mpr ⟨_, List.mem_of_getElem? running, rfl⟩
    have settled := Scheduler.settle_outcome?_self outcome
      (passage.orderly.completionsKnown _ isCompletion) unended
    have left : (System.settleTask task found.completion
        (later, .ended outcome)).loop.tasks[task]? = some _ :=
      (congrArg (·[task]?) (Scheduler.settle_tasks found.completion outcome later.loop)).trans
        running
    refine ⟨⟨cancelRequested, left⟩, ?_⟩
    rw [ending?_of_entry left]
    exact settled
  · have left : (System.settleTask task found.completion
        (later, .suspended frames promise)).loop.tasks[task]? = some _ :=
      Scheduler.suspend_tasks_self frames promise running
    refine ⟨⟨cancelRequested, left⟩, ?_⟩
    rw [ending?_of_entry left]
    exact (Scheduler.suspend_outcome? task frames promise _ later.loop).trans unended

theorem ending?_turn :
    (before.step .turn).ending? task = (before.resumption rest task found).2.ending? :=
  (resumes.leaves_turn passage).2

/-- The turn of a task leaves all others where they are. -/
theorem keepsTask_turn (different : other ≠ task) (known : other < before.nextTask) :
    before.KeepsTask (before.step .turn) other := by
  have taken := resumes.taken
  have entry := resumes.restEntry
  obtain ⟨state, otherEntry⟩ : ∃ state, rest.tasks[other]? = some state := by
    rw [taken.tasks]
    exact ⟨_, List.getElem?_eq_getElem known⟩
  obtain ⟨⟨cancelRequested, left⟩, kept⟩ : (∃ cancelRequested : Bool,
      (before.step .turn).loop.tasks[other]? = some { state with cancelRequested }) ∧
        (before.step .turn).loop.outcome? state.completion = rest.outcome? state.completion := by
    rw [resumes.step_turn]
    generalize before.resumption rest task found = step at passage ⊢
    obtain ⟨later, outcome | ⟨frames, promise⟩⟩ := step
    · obtain ⟨_, _, turn, _⟩ := passage.finish outcome entry
      obtain ⟨⟨cancelRequested, left, _⟩, kept⟩ := turn.others other state different otherEntry
      exact ⟨⟨cancelRequested, left⟩, kept⟩
    · have cleared := (Scheduler.clearTask_other rest different).trans otherEntry
      obtain ⟨cancelRequested, left, _⟩ := passage.advances.tasks other state cleared
      refine ⟨⟨cancelRequested, ?_⟩, ?_⟩
      · exact (Scheduler.suspend_tasks_of_ne frames promise later.loop different).trans left
      · exact (Scheduler.suspend_outcome? task frames promise _ later.loop).trans
          (passage.advances.completions _
            (List.mem_map.mpr ⟨state, List.mem_of_getElem? cleared, rfl⟩))
  refine ⟨?_, fun found otherFound => ⟨cancelRequested, ?_⟩⟩
  · rw [ending?_of_entry left, ending?_of_entry (taken.tasks ▸ otherEntry)]
    exact kept.trans (taken.outcome?_eq _)
  · rw [← taken.tasks, otherEntry] at otherFound
    rw [← Option.some.inj otherFound]
    exact left

end System.Resumes

/-- A turn in which a task does not go on leaves it where it is, when neither the callbacks nor the
tasks that go on settle any completion. -/
theorem keepsTask_turn_of_waiting
    {scope : Scope Frame Action} {cancels : Prop} {settles : Nat → Outcome Reply → Prop}
    (events : ∀ callback rest, before.loop.next? = some (callback, rest) →
      (∀ other, callback ≠ .resume other) →
        rest.Advances cancels settles (({ before with loop := rest } : System).runCallback
          callback).loop)
    (turns : ∀ other rest found, Resumes before other rest found →
      Scheduler.Passage scope (some other) cancels settles (before.resumed rest other).loop
        (before.resumption rest other found).1.loop)
    (known : task < before.nextTask)
    (waits : ∀ rest found, ¬ Resumes before task rest found) :
    before.KeepsTask (before.step .turn) task := by
  rcases before.step_turn_cases with ⟨_, same⟩ | ⟨callback, rest, next, runs⟩
  · rw [same]
    exact .of_same rfl rfl
  · have taken := Scheduler.taken_of_next? next
    have keeps : before.KeepsTask { before with loop := rest } task :=
      .of_same taken.tasks taken.promises
    by_cases isResume : ∃ other, callback = .resume other
    · obtain ⟨other, rfl⟩ := isResume
      rcases resume_cases next with ⟨found, resumes⟩ | ⟨_, stays⟩
      · refine resumes.keepsTask_turn (turns other rest found resumes) ?_ known
        rintro rfl
        exact waits rest found resumes
      · rw [runs, stays]
        exact keeps
    · have advances := events callback rest next fun other same => isResume ⟨other, same⟩
      have restKnown : task < ({ before with loop := rest } : System).nextTask :=
        Nat.lt_of_lt_of_eq known (congrArg List.length taken.tasks).symm
      rw [runs]
      exact keeps.trans (keepsTask_of_advances advances restKnown)

end LanguageClient.Client
