import LanguageClient.Proofs.Loop.Steady
import LanguageClient.Proofs.Loop.TaskTurn

/-!
# The queue of tasks

While no task goes on, the queue of those that go on soon only grows at its end: by tasks that were
just started, and by tasks that awaited a promise which is settled now. So tasks begin in the order
in which they were started.
-/

namespace LanguageClient.Loop.Scheduler

open LanguageClient.Number

variable {Frame Action Result : Type}

/-- A task goes on when some promise is settled. -/
def Expects (loop : Scheduler Frame Action Result) (task : Nat) : Prop :=
  ∃ entry ∈ loop.promises, task ∈ resumed entry.callbacks

/-- A scheduler comes from another one without any task going on or being started. Only the
`targets` may have been cancelled. -/
structure Queues (targets : Nat → Prop) (before after : Scheduler Frame Action Result) : Prop where
  tasks : ∀ (task : Nat) (found : TaskState Frame), before.tasks[task]? = some found →
    ∃ cancelRequested : Bool, after.tasks[task]? = some { found with cancelRequested } ∧
      (cancelRequested = found.cancelRequested ∨ targets task)
  nextTask : after.nextTask = before.nextTask
  expects : ∀ task, after.Expects task → before.Expects task
  queue : ∃ added, resumed after.ready = resumed before.ready ++ added ∧
    ∀ task ∈ added, before.Expects task

variable {targets : Nat → Prop} {before middle after : Scheduler Frame Action Result}

namespace Queues

theorem of_tasks
    (tasks : after.tasks = before.tasks)
    (expects : ∀ task, after.Expects task → before.Expects task)
    (queue : ∃ added, resumed after.ready = resumed before.ready ++ added ∧
      ∀ task ∈ added, before.Expects task) :
    Queues targets before after where
  tasks := fun task found entry => ⟨found.cancelRequested, by rw [tasks, entry], Or.inl rfl⟩
  nextTask := by simp only [Scheduler.nextTask, tasks]
  expects
  queue

theorem of_same
    (tasks : after.tasks = before.tasks) (promises : after.promises = before.promises)
    (ready : resumed after.ready = resumed before.ready) : Queues targets before after :=
  of_tasks tasks (fun task expected => by rwa [Expects, promises] at expected)
    ⟨[], by rw [ready, List.append_nil], by simp⟩

theorem refl (loop : Scheduler Frame Action Result) : Queues targets loop loop :=
  of_same rfl rfl rfl

theorem trans (first : Queues targets before middle) (second : Queues targets middle after) :
    Queues targets before after where
  tasks := fun task found entry => by
    obtain ⟨_, between, firstFlag⟩ := first.tasks task found entry
    obtain ⟨cancelRequested, later, secondFlag⟩ := second.tasks task _ between
    refine ⟨cancelRequested, later, ?_⟩
    rcases secondFlag with same | isTarget
    · exact firstFlag.imp_left same.trans
    · exact Or.inr isTarget
  nextTask := second.nextTask.trans first.nextTask
  expects := fun task expected => first.expects task (second.expects task expected)
  queue := by
    obtain ⟨added, between, firstExpected⟩ := first.queue
    obtain ⟨more, later, secondExpected⟩ := second.queue
    refine ⟨added ++ more, by rw [later, between, List.append_assoc], ?_⟩
    intro task member
    rcases List.mem_append.mp member with earlier | late
    · exact firstExpected task earlier
    · exact first.expects task (secondExpected task late)

theorem mono
    {wider : Nat → Prop} (queues : Queues targets before after)
    (within : ∀ task, targets task → wider task) : Queues wider before after :=
  { queues with
    tasks := fun task found entry => by
      obtain ⟨cancelRequested, later, flag⟩ := queues.tasks task found entry
      exact ⟨cancelRequested, later, flag.imp_right (within task)⟩ }

end Queues

variable (loop : Scheduler Frame Action Result)

theorem enqueue_queues
    {callbacks : List (Callback Action)}
    (others : ∀ callback ∈ callbacks, callback.resumed? = none) :
    Queues targets loop (loop.enqueue callbacks) := by
  refine .of_same rfl rfl ?_
  simp only [enqueue, resumed_append, resumed_eq_nil others, List.append_nil]

theorem addPromise_queues : Queues targets loop (loop.addPromise {}) := by
  refine .of_tasks rfl ?_ ⟨[], (List.append_nil _).symm, by simp⟩
  rintro task ⟨entry, member, isExpected⟩
  rcases List.mem_append.mp member with earlier | added
  · exact ⟨entry, earlier, isExpected⟩
  · rw [List.mem_singleton.mp added] at isExpected
    cases isExpected

theorem expects_of_set
    {promise task : Nat} {entry : Promise Action Result}
    (expected : ({ loop with promises := loop.promises.set promise entry }).Expects task) :
    loop.Expects task ∨ task ∈ resumed entry.callbacks := by
  obtain ⟨found, member, isExpected⟩ := expected
  rcases List.mem_or_eq_of_mem_set member with earlier | same
  · exact Or.inl ⟨found, earlier, isExpected⟩
  · exact Or.inr (same ▸ isExpected)

theorem settle_queues (promise : Nat) (outcome : Outcome Result) :
    Queues targets loop (loop.settle promise outcome) := by
  rcases loop.settle_cases promise outcome with same | ⟨entry, found, _, settled⟩
  · rw [same]
    exact .refl loop
  · have member : entry ∈ loop.promises := List.mem_of_getElem? found
    rw [settled]
    refine .of_tasks rfl (fun task expected => ?_)
      ⟨resumed entry.callbacks, resumed_append _ _, fun task waits => ⟨entry, member, waits⟩⟩
    exact (loop.expects_of_set expected).resolve_right (by simp [resumed])

theorem whenSettled_queues
    (promise : Nat) {callback : Callback Action} (other : callback.resumed? = none) :
    Queues targets loop (loop.whenSettled promise callback) := by
  rcases loop.whenSettled_cases promise callback with
    ⟨_, same⟩ | ⟨_, ready⟩ | ⟨entry, found, _, waits⟩
  · rw [same]
    exact .refl loop
  · rw [ready]
    exact loop.enqueue_queues (by simpa using other)
  · have member : entry ∈ loop.promises := List.mem_of_getElem? found
    rw [waits]
    refine .of_tasks rfl (fun task expected => ?_) ⟨[], (List.append_nil _).symm, by simp⟩
    rcases loop.expects_of_set expected with earlier | isExpected
    · exact earlier
    · refine ⟨entry, member, ?_⟩
      simpa [resumed, other] using isExpected

theorem disarm_queues (timer : Nat) : Queues targets loop (loop.disarm timer) :=
  .of_same rfl rfl (disarm_resumed timer loop)

theorem requestCancel_queues {task : Nat} (isTarget : targets task) :
    Queues targets loop (loop.requestCancel task) where
  tasks := fun other found entry => by
    by_cases same : task = other
    · subst same
      exact ⟨true, by simp [requestCancel, modifyTask, entry], Or.inr isTarget⟩
    · exact ⟨found.cancelRequested, by simp [requestCancel, modifyTask, same, entry], Or.inl rfl⟩
  nextTask := loop.modifyTask_nextTask task _
  expects := fun _ expected => expected
  queue := ⟨[], (List.append_nil _).symm, by simp⟩

theorem cancelMember_queues {task : Nat} (isTarget : targets task) :
    Queues targets loop (loop.cancelMember task) := by
  unfold cancelMember
  split
  · exact .refl loop
  · split
    · exact loop.requestCancel_queues isTarget
    · split
      · exact loop.requestCancel_queues isTarget
      · exact loop.settle_queues _ _

theorem modifyGroup_queues (promise : Nat) (change : Group → Group) :
    Queues targets loop (loop.modifyGroup promise change) := by
  refine .of_tasks rfl ?_ ⟨[], (List.append_nil _).symm, by simp⟩
  rintro task ⟨entry, member, isExpected⟩
  rcases mem_modify member with earlier | ⟨found, earlier, rfl⟩
  · exact ⟨entry, earlier, isExpected⟩
  · exact ⟨found, List.mem_of_getElem? earlier, isExpected⟩

/-- A task is cancelled, and if it awaits a group the members of the group are. -/
theorem cancel_queues
    {task : Nat} (isTarget : targets task)
    (grouped : ∀ promise group, loop.awaitedGroup? task = some (promise, group) →
      ∀ member ∈ group.members, targets member) :
    Queues targets loop (loop.cancel task) := by
  have cancels : ∀ members : List Nat, (∀ member ∈ members, targets member) →
      Queues targets loop (members.foldl cancelMember loop) := fun members allowed =>
    List.foldlRecOn members _ (.refl loop) fun current queues member inside =>
      queues.trans (current.cancelMember_queues (allowed member inside))
  unfold cancel
  split
  · exact loop.cancelMember_queues isTarget
  · rename_i promise group awaits
    split
    · exact loop.requestCancel_queues isTarget
    · exact (cancels group.members (grouped promise group awaits)).trans
        (modifyGroup_queues _ promise _)

end LanguageClient.Loop.Scheduler
