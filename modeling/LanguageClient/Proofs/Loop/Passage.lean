import LanguageClient.Proofs.Loop.Punctual

/-!
# Passages of the scheduler

What happens while one callback runs, as far as the scheduler is concerned: both invariants hold all
the time, and the scheduler only advances. Each operation that a callback may use continues a
passage.
-/

namespace LanguageClient.Loop.Scheduler

open LanguageClient.Number

variable {Frame Action Result : Type}

/-- A scheduler that was reached from another one by operations of a running callback. -/
structure Passage
    (scope : Scope Frame Action) (running : Option Nat) (cancels : Prop)
    (settles : Nat → Outcome Result → Prop) (before after : Scheduler Frame Action Result) :
    Prop where
  orderly : after.Orderly scope
  punctual : after.Punctual running
  advances : before.Advances cancels settles after
  runs : ∀ task, running = some task → task < before.nextTask

theorem gather_isPlain
    {scope : Scope Frame Action} {loop : Scheduler Frame Action Result}
    (orderly : loop.Orderly scope) (members : List Nat) (result : Result) :
    (loop.gather members result).IsPlain loop.nextPromise := by
  refine gather_induction (motive := fun current => current.IsPlain loop.nextPromise)
    members result (fun _ _ _ _ => orderly.addPromise_isPlain _) ?_
  intro current completion group plain
  exact plain.of_le (by simp) (by simp)

namespace Passage

variable {scope : Scope Frame Action} {running : Option Nat} {cancels : Prop}
  {settles : Nat → Outcome Result → Prop} {before loop : Scheduler Frame Action Result}

theorem refl
    (orderly : loop.Orderly scope) (punctual : loop.Punctual running)
    (runs : ∀ task, running = some task → task < loop.nextTask) :
    Passage scope running cancels settles loop loop :=
  ⟨orderly, punctual, .refl loop, runs⟩

theorem runs_later
    (passage : Passage scope running cancels settles before loop) {task : Nat}
    (isRunning : running = some task) :
    task < loop.nextTask := by
  have inside : task < before.tasks.length := passage.runs task isRunning
  have entry : before.tasks[task]? = some before.tasks[task] := List.getElem?_eq_getElem inside
  obtain ⟨_, later, _⟩ := passage.advances.tasks task _ entry
  exact (List.getElem?_eq_some_iff.mp later).1

theorem enqueue
    {callbacks : List (Callback Action)} (passage : Passage scope running cancels settles before loop)
    (allowed : ∀ callback ∈ callbacks, scope.callback callback ∧ callback.resumed? = none) :
    Passage scope running cancels settles before (loop.enqueue callbacks) where
  orderly := passage.orderly.enqueue fun callback member => (allowed callback member).1
  punctual := passage.punctual.enqueue fun callback member => (allowed callback member).2
  advances := passage.advances.trans (loop.enqueue_advances callbacks)
  runs := passage.runs

theorem addPromise (passage : Passage scope running cancels settles before loop) :
    Passage scope running cancels settles before (loop.addPromise {}) where
  orderly := passage.orderly.addPromise {} (by simp) (by simp)
  punctual := passage.punctual.addPromise {} rfl
  advances := passage.advances.trans
    (loop.addPromise_advances passage.orderly.completionsKnown {} (by simp))
  runs := passage.runs

theorem settle
    {promise : Nat} {outcome : Outcome Result}
    (passage : Passage scope running cancels settles before loop)
    (noCompletion : promise ∉ loop.completions) (allowed : settles promise outcome) :
    Passage scope running cancels settles before (loop.settle promise outcome) where
  orderly := passage.orderly.settle promise outcome
  punctual := passage.punctual.settle promise outcome
  advances := passage.advances.trans (loop.settle_advances noCompletion allowed)
  runs := passage.runs

theorem whenSettled
    (passage : Passage scope running cancels settles before loop) (promise : Nat)
    (callback : Callback Action) (allowed : scope.callback callback)
    (other : callback.resumed? = none) :
    Passage scope running cancels settles before (loop.whenSettled promise callback) where
  orderly := passage.orderly.whenSettled promise allowed
  punctual := passage.punctual.whenSettled promise other
  advances := passage.advances.trans (loop.whenSettled_advances promise callback)
  runs := passage.runs

theorem spawn
    {stack : List Frame} (passage : Passage scope running cancels settles before loop)
    (allowed : scope.task stack none) (resumable : scope.callback (.resume loop.nextTask)) :
    Passage scope running cancels settles before (loop.spawn stack) where
  orderly := passage.orderly.spawn allowed resumable
  punctual := passage.punctual.spawn (fun _ => passage.runs_later) stack
  advances := passage.advances.trans (loop.spawn_advances stack)
  runs := passage.runs

theorem cancel
    (passage : Passage scope running cancels settles before loop) (mayCancel : cancels) (task : Nat)
    (allowed : ∀ promise, settles promise .cancelled)
    (grouped : ∀ group, scope.group group → scope.group { group with cancelRequested := true }) :
    Passage scope running cancels settles before (loop.cancel task) where
  orderly := passage.orderly.cancel task grouped
  punctual := passage.punctual.cancel task
  advances := passage.advances.trans (cancel_advances passage.orderly mayCancel allowed task)
  runs := passage.runs

theorem arm
    (passage : Passage scope running cancels settles before loop) (delay : Delay) (action : Action)
    (allowed : scope.timer { id := loop.timersArmed, deadline := loop.deadline delay, action }) :
    Passage scope running cancels settles before (loop.arm delay action) where
  orderly := passage.orderly.arm allowed
  punctual := passage.punctual.arm delay action
  advances := passage.advances.trans (loop.arm_advances delay action)
  runs := passage.runs

theorem disarm
    (passage : Passage scope running cancels settles before loop) (timer : Nat)
    (allowed : scope.callback .skipped) :
    Passage scope running cancels settles before (loop.disarm timer) where
  orderly := passage.orderly.disarm timer allowed
  punctual := passage.punctual.disarm timer
  advances := passage.advances.trans (loop.disarm_advances timer)
  runs := passage.runs

/-- A new promise that stands for a group of tasks. -/
theorem gather
    (passage : Passage scope running cancels settles before loop) (members : List Nat)
    (result : Result) (grouped : ∀ group : Group, group.cancelRequested = false → scope.group group)
    (noted : ∀ group, scope.callback (.memberEnded group))
    (allowed : ∀ promise, before.nextPromise ≤ promise → settles promise (.returned result)) :
    Passage scope running cancels settles before (loop.gather members result) := by
  refine gather_induction (motive := Passage scope running cancels settles before)
    members result ?_ fun current completion group currentPassage =>
      currentPassage.whenSettled completion _ (noted group) rfl
  intro outcome group ended uncancelled
  exact {
    orderly := passage.orderly.addPromise _ (by simp) fun other same => by
      rw [← Option.some.inj same]
      exact grouped group uncancelled
    punctual := passage.punctual.addPromise _ rfl
    advances := by
      refine passage.advances.trans
        (loop.addPromise_advances passage.orderly.completionsKnown _ ?_)
      intro found settled
      have returned : found = .returned result := by
        rcases ended with rfl | rfl
        · cases settled
        · exact (Option.some.inj settled).symm
      rw [returned]
      exact allowed _ passage.advances.grown
    runs := passage.runs }

theorem entry_of_openGroup?
    {promise : Nat} {group : Group} (isOpen : loop.openGroup? promise = some group) :
    ∃ entry ∈ loop.promises, loop.promises[promise]? = some entry ∧ entry.group = some group := by
  unfold openGroup? at isOpen
  split at isOpen
  · cases isOpen
  · rename_i entry entryFound
    split at isOpen
    · cases isOpen
    · exact ⟨entry, List.mem_of_getElem? entryFound, entryFound, isOpen⟩

/-- Only a promise that stands for a group is settled when a member ends. -/
theorem endMember
    (passage : Passage scope running cancels settles before loop) (promise : Nat) (result : Result)
    (grouped : ∀ group : Group, scope.group group →
      scope.group { group with remaining := group.remaining - 1 })
    (allowed : ∀ group : Group, scope.group group → ¬ loop.IsUngrouped promise →
      settles promise (if group.cancelRequested then .cancelled else .returned result)) :
    Passage scope running cancels settles before (loop.endMember promise result) := by
  unfold Scheduler.endMember
  split
  · exact passage
  · rename_i group isOpen
    obtain ⟨entry, member, entryFound, isGroup⟩ := entry_of_openGroup? isOpen
    have isGrouped : ¬ loop.IsUngrouped promise := by
      intro ungrouped
      simp [IsUngrouped, entryFound, isGroup] at ungrouped
    split
    · exact passage.settle
        (fun member => isGrouped (passage.orderly.completionsUngrouped promise member))
        (allowed group (passage.orderly.groups entry member group isGroup) isGrouped)
    · exact {
        orderly := passage.orderly.modifyGroup grouped
        punctual := passage.punctual.modifyGroup promise _
        advances := passage.advances.trans (modifyGroup_advances promise _)
        runs := passage.runs }

theorem mono
    {wider : Scope Frame Action} {widerSettles : Nat → Outcome Result → Prop}
    (passage : Passage scope running cancels settles before loop) (within : scope.Within wider)
    (settlesWithin : ∀ promise outcome, loop.outcome? promise = some outcome →
      settles promise outcome → widerSettles promise outcome) :
    Passage wider running cancels widerSettles before loop where
  orderly := passage.orderly.mono within
  punctual := passage.punctual
  advances := { passage.advances with
    gained := fun promise outcome unsettled settled =>
      settlesWithin promise outcome settled
        (passage.advances.gained promise outcome unsettled settled) }
  runs := passage.runs

end Passage

end LanguageClient.Loop.Scheduler
