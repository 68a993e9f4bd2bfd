import LanguageClient.Proofs.Loop.Orderly

/-!
# Actions that no timer has

A scheduler avoids an action if no timer has it, neither one that is armed nor one that was due and
has not run. Only arming a timer for the action ends that.
-/

namespace LanguageClient.Loop

open LanguageClient.Number

variable {Frame Action Result : Type} {unwanted : Action → Prop}

/-- A callback runs no unwanted action of a timer. -/
def Callback.Avoids (unwanted : Action → Prop) : Callback Action → Prop
  | .fire _ action => ¬ unwanted action
  | .resume _ | .memberEnded _ | .act _ | .skipped => True

namespace Scheduler

/-- No timer has an unwanted action, and no callback will run one of a timer. -/
structure Avoids (unwanted : Action → Prop) (loop : Scheduler Frame Action Result) : Prop where
  timers : ∀ timer ∈ loop.timers, ¬ unwanted timer.action
  ready : ∀ callback ∈ loop.ready, callback.Avoids unwanted
  waiting : ∀ entry ∈ loop.promises, ∀ callback ∈ entry.callbacks, callback.Avoids unwanted

namespace Avoids

variable {loop rest : Scheduler Frame Action Result}

theorem of_empty
    (timers : loop.timers = []) (ready : loop.ready = []) (promises : loop.promises = []) :
    loop.Avoids unwanted := by
  constructor <;> simp [timers, ready, promises]

theorem of_same
    (avoids : loop.Avoids unwanted) (timers : rest.timers = loop.timers)
    (ready : rest.ready = loop.ready) (promises : rest.promises = loop.promises) :
    rest.Avoids unwanted where
  timers := timers ▸ avoids.timers
  ready := ready ▸ avoids.ready
  waiting := promises ▸ avoids.waiting

variable (avoids : loop.Avoids unwanted)

include avoids

theorem enqueue
    {callbacks : List (Callback Action)}
    (allowed : ∀ callback ∈ callbacks, callback.Avoids unwanted) :
    (loop.enqueue callbacks).Avoids unwanted :=
  { avoids with ready := List.forall_mem_append.mpr ⟨avoids.ready, allowed⟩ }

/-! ## Promises and tasks -/

theorem addPromise
    {entry : Promise Action Result} (nothing : entry.callbacks = []) :
    (loop.addPromise entry).Avoids unwanted := by
  refine { avoids with waiting := List.forall_mem_append.mpr ⟨avoids.waiting, ?_⟩ }
  intro added member
  rw [List.mem_singleton.mp member, nothing]
  simp

/-- One promise changes, and all that waits for it may wait. -/
theorem set
    {entry : Promise Action Result} (promise : Nat)
    (allowed : ∀ callback ∈ entry.callbacks, callback.Avoids unwanted) :
    ({ loop with promises := loop.promises.set promise entry } :
      Scheduler Frame Action Result).Avoids unwanted := by
  refine { avoids with waiting := fun found member => ?_ }
  rcases List.mem_or_eq_of_mem_set member with earlier | rfl
  · exact avoids.waiting found earlier
  · exact allowed

theorem settle (promise : Nat) (outcome : Outcome Result) :
    (loop.settle promise outcome).Avoids unwanted := by
  unfold Scheduler.settle
  split
  · exact avoids
  · rename_i found entry
    split
    · exact avoids
    · exact (avoids.set promise (by simp)).enqueue
        (avoids.waiting found (List.mem_of_getElem? entry))

theorem whenSettled
    {callback : Callback Action} (promise : Nat) (allowed : callback.Avoids unwanted) :
    (loop.whenSettled promise callback).Avoids unwanted := by
  unfold Scheduler.whenSettled
  split
  · exact avoids
  · rename_i found entry
    split
    · exact avoids.enqueue (by simpa using allowed)
    · refine avoids.set promise (List.forall_mem_append.mpr ⟨?_, by simpa using allowed⟩)
      exact avoids.waiting found (List.mem_of_getElem? entry)

theorem spawn (stack : List Frame) : (loop.spawn stack).Avoids unwanted := by
  have added : (loop.addPromise {}).Avoids unwanted := avoids.addPromise rfl
  refine { added with ready := List.forall_mem_append.mpr ⟨added.ready, fun callback member => ?_⟩ }
  rw [List.mem_singleton.mp member]
  trivial

theorem modifyTask (task : Nat) (change : TaskState Frame → TaskState Frame) :
    (loop.modifyTask task change).Avoids unwanted :=
  avoids.of_same rfl rfl rfl

theorem suspend (task : Nat) (stack : List Frame) (promise : Nat) :
    (loop.suspend task stack promise).Avoids unwanted :=
  (avoids.modifyTask task _).whenSettled promise trivial

theorem modifyGroup (promise : Nat) (change : Group → Group) :
    (loop.modifyGroup promise change).Avoids unwanted := by
  refine { avoids with waiting := fun found member => ?_ }
  rcases mem_modify member with earlier | ⟨entry, isEntry, rfl⟩
  · exact avoids.waiting found earlier
  · exact avoids.waiting entry (List.mem_of_getElem? isEntry)

theorem cancelMember (task : Nat) : (loop.cancelMember task).Avoids unwanted := by
  unfold Scheduler.cancelMember
  split
  · exact avoids
  · split
    · exact avoids.modifyTask task _
    · split
      · exact avoids.modifyTask task _
      · exact avoids.settle _ _

theorem cancel (task : Nat) : (loop.cancel task).Avoids unwanted := by
  unfold Scheduler.cancel
  split
  · exact avoids.cancelMember task
  · rename_i promise group _
    split
    · exact avoids.modifyTask task _
    · have cancelled : (group.members.foldl Scheduler.cancelMember loop).Avoids unwanted :=
        List.foldlRecOn group.members _ avoids fun _ current member _ =>
          current.cancelMember member
      exact cancelled.modifyGroup promise _

theorem endMember (promise : Nat) (result : Result) :
    (loop.endMember promise result).Avoids unwanted := by
  unfold Scheduler.endMember
  split
  · exact avoids
  · split
    · exact avoids.settle _ _
    · exact avoids.modifyGroup promise _

/-! ## Timers -/

theorem arm {action : Action} (delay : Delay) (allowed : ¬ unwanted action) :
    (loop.arm delay action).Avoids unwanted :=
  { avoids with timers := List.forall_mem_append.mpr ⟨avoids.timers, by simpa using allowed⟩ }

theorem disarm (timer : Nat) : (loop.disarm timer).Avoids unwanted where
  timers := fun armed member => avoids.timers armed (List.mem_filter.mp member).1
  ready := fun callback member => by
    obtain ⟨found, earlier, rfl⟩ := List.mem_map.mp member
    have allowed := avoids.ready found earlier
    unfold withoutTimer
    split
    · split
      · trivial
      · exact allowed
    · exact allowed
    · exact allowed
    · exact allowed
    · exact allowed
  waiting := avoids.waiting

/-- A callback that is taken runs nothing unwanted. -/
theorem taken {callback : Callback Action} (taken : Taken loop callback rest) :
    rest.Avoids unwanted ∧ callback.Avoids unwanted := by
  have allowed : ∀ other, other = callback ∨ other ∈ rest.ready → other.Avoids unwanted := by
    intro other member
    rcases taken.ready other member with earlier | ⟨timer, armed, _, rfl⟩
    · exact avoids.ready other earlier
    · exact avoids.timers timer armed
  exact ⟨{
    timers := fun timer member => avoids.timers timer (taken.timers timer member)
    ready := fun other member => allowed other (Or.inr member)
    waiting := taken.promises ▸ avoids.waiting }, allowed callback (Or.inl rfl)⟩

end Avoids

end Scheduler

end LanguageClient.Loop
