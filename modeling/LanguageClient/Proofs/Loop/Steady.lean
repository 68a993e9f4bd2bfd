import LanguageClient.Proofs.Loop.Outcome

/-!
# Steady schedulers

Operations that leave the tasks and the timers as they are: promises are added and settled, and what
is ready stays ready.
-/

namespace LanguageClient.Loop.Scheduler

variable {Frame Action Result : Type}

/-- A scheduler comes from another one without any change to the tasks and the timers. -/
structure Steady (before after : Scheduler Frame Action Result) : Prop where
  tasks : after.tasks = before.tasks
  timers : after.timers = before.timers
  ready : ∀ callback ∈ before.ready, callback ∈ after.ready
  grown : before.nextPromise ≤ after.nextPromise

namespace Steady

variable {before middle after : Scheduler Frame Action Result}

theorem refl (loop : Scheduler Frame Action Result) : loop.Steady loop :=
  ⟨rfl, rfl, fun _ => id, Nat.le_refl _⟩

theorem trans (first : before.Steady middle) (second : middle.Steady after) :
    before.Steady after :=
  ⟨second.tasks.trans first.tasks, second.timers.trans first.timers,
    fun callback member => second.ready callback (first.ready callback member),
    Nat.le_trans first.grown second.grown⟩

end Steady

variable (loop : Scheduler Frame Action Result)

theorem enqueue_steady (callbacks : List (Callback Action)) :
    loop.Steady (loop.enqueue callbacks) :=
  ⟨rfl, rfl, fun _ => List.mem_append_left _, Nat.le_refl _⟩

theorem addPromise_steady (entry : Promise Action Result) : loop.Steady (loop.addPromise entry) :=
  ⟨rfl, rfl, fun _ => id, by simp⟩

theorem settle_steady (promise : Nat) (outcome : Outcome Result) :
    loop.Steady (loop.settle promise outcome) := by
  refine ⟨settle_tasks _ _ _, settle_timers _ _ _, ?_, Nat.le_of_eq (settle_nextPromise _ _ _).symm⟩
  unfold settle
  split
  · exact fun _ => id
  · split
    · exact fun _ => id
    · exact fun _ => List.mem_append_left _

theorem whenSettled_steady (promise : Nat) (callback : Callback Action) :
    loop.Steady (loop.whenSettled promise callback) := by
  refine ⟨whenSettled_tasks _ _ _, whenSettled_timers _ _ _, ?_,
    Nat.le_of_eq (whenSettled_nextPromise _ _ _).symm⟩
  unfold whenSettled
  split
  · exact fun _ => id
  · split
    · exact fun _ => List.mem_append_left _
    · exact fun _ => id

theorem gather_steady (members : List Nat) (result : Result) :
    loop.Steady (loop.gather members result) := by
  refine gather_induction (motive := fun current => loop.Steady current) members result ?_ ?_
  · intro outcome group _ _
    exact loop.addPromise_steady _
  · intro current completion group steady
    exact steady.trans (current.whenSettled_steady completion _)

theorem modifyGroup_steady (promise : Nat) (change : Group → Group) :
    loop.Steady (loop.modifyGroup promise change) :=
  ⟨rfl, rfl, fun _ => id, by simp [nextPromise, modifyGroup]⟩

theorem endMember_steady (promise : Nat) (result : Result) :
    loop.Steady (loop.endMember promise result) := by
  unfold endMember
  split
  · exact .refl loop
  · split
    · exact loop.settle_steady _ _
    · exact loop.modifyGroup_steady _ _

/-! ## Cancelling starts no task -/

theorem modifyTask_nextTask (task : Nat) (change : TaskState Frame → TaskState Frame) :
    (loop.modifyTask task change).nextTask = loop.nextTask :=
  List.length_modify change loop.tasks task

theorem cancelMember_nextTask (task : Nat) : (loop.cancelMember task).nextTask = loop.nextTask := by
  unfold cancelMember
  split
  · rfl
  · split
    · exact loop.modifyTask_nextTask task _
    · split
      · exact loop.modifyTask_nextTask task _
      · simp [nextTask]

theorem cancelMembers_nextTask (members : List Nat) :
    (members.foldl cancelMember loop).nextTask = loop.nextTask := by
  induction members generalizing loop with
  | nil => rfl
  | cons member others inductionHypothesis =>
      rw [List.foldl_cons, inductionHypothesis, cancelMember_nextTask]

theorem cancel_nextTask (task : Nat) : (loop.cancel task).nextTask = loop.nextTask := by
  unfold cancel
  split
  · exact loop.cancelMember_nextTask task
  · split
    · exact loop.modifyTask_nextTask task _
    · exact loop.cancelMembers_nextTask _

/-! ## Cancelling adds no promise -/

theorem cancelMember_nextPromise (task : Nat) :
    (loop.cancelMember task).nextPromise = loop.nextPromise := by
  unfold cancelMember
  split
  · rfl
  · split
    · rfl
    · split
      · rfl
      · exact settle_nextPromise ..

theorem cancelMembers_nextPromise (members : List Nat) :
    (members.foldl cancelMember loop).nextPromise = loop.nextPromise := by
  induction members generalizing loop with
  | nil => rfl
  | cons member others inductionHypothesis =>
      rw [List.foldl_cons, inductionHypothesis, cancelMember_nextPromise]

theorem cancel_nextPromise (task : Nat) : (loop.cancel task).nextPromise = loop.nextPromise := by
  unfold cancel
  split
  · exact loop.cancelMember_nextPromise task
  · split
    · rfl
    · exact (List.length_modify ..).trans (loop.cancelMembers_nextPromise _)

end LanguageClient.Loop.Scheduler
