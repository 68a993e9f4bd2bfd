import LanguageClient.Proofs.Loop.Orderly

/-!
# Advances of the scheduler

What stays as it was while callbacks run that let no task go on: tasks are only started or told that
they are cancelled, no completion is settled, and every promise that is settled meanwhile is settled
in an admitted way.
-/

namespace LanguageClient.Loop.Scheduler

open LanguageClient.Number

variable {Frame Action Result : Type}

/-- A scheduler comes from another one without any task going on. The relation `settles` tells which
outcomes promises may have been given, and `cancels` whether tasks may have been cancelled. -/
structure Advances
    (cancels : Prop) (settles : Nat → Outcome Result → Prop)
    (before after : Scheduler Frame Action Result) :
    Prop where
  kept : ∀ promise outcome,
    before.outcome? promise = some outcome → after.outcome? promise = some outcome
  gained : ∀ promise outcome,
    before.outcome? promise = none → after.outcome? promise = some outcome →
      settles promise outcome
  tasks : ∀ (task : Nat) (found : TaskState Frame), before.tasks[task]? = some found →
    ∃ cancelRequested : Bool, after.tasks[task]? = some { found with cancelRequested } ∧
      (cancelRequested = found.cancelRequested ∨ cancels)
  started : ∀ (task : Nat) (found : TaskState Frame), before.nextTask ≤ task →
    after.tasks[task]? = some found → found.awaiting = none
  completions : ∀ completion ∈ before.completions,
    after.outcome? completion = before.outcome? completion
  plain : ∀ promise, before.IsPlain promise → after.IsPlain promise
  ungrouped : ∀ promise, before.IsUngrouped promise → after.IsUngrouped promise
  grown : before.nextPromise ≤ after.nextPromise
  now : after.now = before.now
  resolution : after.resolution = before.resolution

variable {cancels : Prop} {settles : Nat → Outcome Result → Prop}

namespace Advances

theorem of_same
    {before after : Scheduler Frame Action Result}
    (promises : after.promises = before.promises) (tasks : after.tasks = before.tasks)
    (now : after.now = before.now) (resolution : after.resolution = before.resolution) :
    before.Advances cancels settles after := by
  have sameOutcome : ∀ promise, after.outcome? promise = before.outcome? promise := by
    intro promise
    simp only [outcome?, promises]
  have sameNext : after.nextPromise = before.nextPromise := by
    simp only [nextPromise, promises]
  have sameCompletions : after.completions = before.completions := by
    simp only [Scheduler.completions, tasks]
  exact {
    kept := fun promise outcome settled => by
      rw [sameOutcome]
      exact settled
    gained := fun promise outcome unsettled settled => by
      rw [sameOutcome, unsettled] at settled
      cases settled
    tasks := fun task found entry =>
      ⟨found.cancelRequested, by rw [tasks, entry], Or.inl rfl⟩
    started := fun task found unknown entry => by
      rw [tasks, List.getElem?_eq_none unknown] at entry
      cases entry
    completions := fun completion _ => sameOutcome completion
    plain := fun promise plain => plain.of_le sameCompletions (Nat.le_of_eq sameNext.symm)
    ungrouped := fun promise ungrouped => by
      unfold IsUngrouped at ungrouped ⊢
      rw [promises, ungrouped]
    grown := Nat.le_of_eq sameNext.symm
    now
    resolution }

theorem refl (loop : Scheduler Frame Action Result) : loop.Advances cancels settles loop :=
  of_same rfl rfl rfl rfl

theorem completion_mem
    {before after : Scheduler Frame Action Result} (advances : before.Advances cancels settles after)
    {completion : Nat} (member : completion ∈ before.completions) :
    completion ∈ after.completions := by
  obtain ⟨found, foundMember, rfl⟩ := List.mem_map.mp member
  obtain ⟨task, entry⟩ := List.mem_iff_getElem?.mp foundMember
  obtain ⟨_, later, _⟩ := advances.tasks task found entry
  exact List.mem_map.mpr ⟨_, List.mem_of_getElem? later, rfl⟩

theorem trans
    {before middle after : Scheduler Frame Action Result}
    (first : before.Advances cancels settles middle) (second : middle.Advances cancels settles after) :
    before.Advances cancels settles after where
  kept := fun promise outcome settled =>
    second.kept promise outcome (first.kept promise outcome settled)
  gained := fun promise outcome unsettled settled => by
    cases between : middle.outcome? promise with
    | none =>
        exact second.gained promise outcome between settled
    | some earlier =>
        have sameOutcome := second.kept promise earlier between
        rw [settled] at sameOutcome
        rw [Option.some.inj sameOutcome]
        exact first.gained promise earlier unsettled between
  tasks := fun task found entry => by
    obtain ⟨_, between, firstFlag⟩ := first.tasks task found entry
    obtain ⟨cancelRequested, later, secondFlag⟩ := second.tasks task _ between
    refine ⟨cancelRequested, later, ?_⟩
    rcases secondFlag with same | mayCancel
    · exact firstFlag.imp same.trans id
    · exact Or.inr mayCancel
  started := fun task found unknown entry => by
    rcases Nat.lt_or_ge task middle.nextTask with known | unknownLater
    · have inside : task < middle.tasks.length := known
      have between : middle.tasks[task]? = some middle.tasks[task] := List.getElem?_eq_getElem inside
      obtain ⟨_, later, _⟩ := second.tasks task _ between
      have idle := first.started task _ unknown between
      rw [entry] at later
      rw [Option.some.inj later]
      exact idle
    · exact second.started task found unknownLater entry
  completions := fun completion member => by
    rw [second.completions completion (first.completion_mem member),
      first.completions completion member]
  plain := fun promise plain => second.plain promise (first.plain promise plain)
  ungrouped := fun promise ungrouped => second.ungrouped promise (first.ungrouped promise ungrouped)
  grown := Nat.le_trans first.grown second.grown
  now := second.now.trans first.now
  resolution := second.resolution.trans first.resolution

/-- A task was there before, or it was started meanwhile and awaits nothing. -/
theorem task_cases
    {before after : Scheduler Frame Action Result} (advances : before.Advances cancels settles after)
    {task : Nat} {found : TaskState Frame} (entry : after.tasks[task]? = some found) :
    (∃ earlier : TaskState Frame, before.tasks[task]? = some earlier ∧
      found.stack = earlier.stack ∧ found.awaiting = earlier.awaiting ∧
        found.completion = earlier.completion ∧
          (found.cancelRequested = earlier.cancelRequested ∨ cancels)) ∨
      before.nextTask ≤ task ∧ found.awaiting = none := by
  rcases Nat.lt_or_ge task before.nextTask with known | unknown
  · have inside : task < before.tasks.length := known
    have earlierEntry : before.tasks[task]? = some before.tasks[task] :=
      List.getElem?_eq_getElem inside
    obtain ⟨cancelRequested, laterEntry, flag⟩ := advances.tasks task _ earlierEntry
    rw [entry] at laterEntry
    obtain rfl := Option.some.inj laterEntry
    exact Or.inl ⟨_, earlierEntry, rfl, rfl, rfl, flag⟩
  · exact Or.inr ⟨unknown, advances.started task found unknown entry⟩

theorem mono
    {wider : Nat → Outcome Result → Prop} {before after : Scheduler Frame Action Result}
    (advances : before.Advances cancels settles after)
    (within : ∀ promise outcome, settles promise outcome → wider promise outcome) :
    before.Advances cancels wider after :=
  { advances with
    gained := fun promise outcome unsettled settled =>
      within promise outcome (advances.gained promise outcome unsettled settled) }

end Advances

/-! ## One operation -/

variable (loop : Scheduler Frame Action Result)

theorem enqueue_advances (callbacks : List (Callback Action)) :
    loop.Advances cancels settles (loop.enqueue callbacks) :=
  .of_same rfl rfl rfl rfl

theorem arm_advances (delay : Delay) (action : Action) :
    loop.Advances cancels settles (loop.arm delay action) :=
  .of_same rfl rfl rfl rfl

theorem disarm_advances (timer : Nat) : loop.Advances cancels settles (loop.disarm timer) :=
  .of_same rfl rfl rfl rfl

theorem addPromise_advances
    (orderly : ∀ completion ∈ loop.completions, completion < loop.nextPromise)
    (entry : Promise Action Result)
    (allowed : ∀ outcome, entry.outcome = some outcome → settles loop.nextPromise outcome) :
    loop.Advances cancels settles (loop.addPromise entry) where
  kept := fun promise outcome settled => by
    rw [addPromise_outcome?_of_lt entry (lt_nextPromise_of_outcome? settled)]
    exact settled
  gained := fun promise outcome unsettled settled => by
    have bound := lt_nextPromise_of_outcome? settled
    rw [addPromise_nextPromise] at bound
    rcases Nat.lt_or_ge promise loop.nextPromise with known | unknown
    · rw [addPromise_outcome?_of_lt entry known, unsettled] at settled
      cases settled
    · have same : promise = loop.nextPromise := by omega
      subst same
      rw [addPromise_outcome?_new] at settled
      exact allowed outcome settled
  tasks := fun task found entry => ⟨found.cancelRequested, entry, Or.inl rfl⟩
  started := fun task found unknown entry =>
    absurd (List.getElem?_eq_some_iff.mp entry).1 (Nat.not_lt.mpr unknown)
  completions := fun completion member => addPromise_outcome?_of_lt entry (orderly _ member)
  plain := fun promise plain => plain.of_le rfl (by simp)
  ungrouped := fun promise ungrouped => loop.addPromise_isUngrouped entry ungrouped
  grown := by simp
  now := rfl
  resolution := rfl

theorem settle_advances
    {promise : Nat} {outcome : Outcome Result} (noCompletion : promise ∉ loop.completions)
    (allowed : settles promise outcome) :
    loop.Advances cancels settles (loop.settle promise outcome) where
  kept := fun other found settled => settle_outcome?_of_some outcome settled
  gained := fun other found unsettled settled => by
    rcases settle_outcome?_cases settled with earlier | ⟨_, rfl, rfl⟩
    · rw [unsettled] at earlier
      cases earlier
    · exact allowed
  tasks := fun task found entry =>
    ⟨found.cancelRequested, by rw [settle_tasks, entry], Or.inl rfl⟩
  started := fun task found unknown entry => by
    rw [settle_tasks, List.getElem?_eq_none unknown] at entry
    cases entry
  completions := fun completion member =>
    settle_outcome?_of_ne outcome loop fun same => noCompletion (same ▸ member)
  plain := fun other plain =>
    plain.of_le (by simp) (by simp)
  ungrouped := fun other ungrouped => (settle_groups promise other outcome loop).trans ungrouped
  grown := by simp
  now := by simp
  resolution := by simp

theorem whenSettled_advances (promise : Nat) (callback : Callback Action) :
    loop.Advances cancels settles (loop.whenSettled promise callback) where
  kept := fun other found settled => by
    rw [whenSettled_outcome?]
    exact settled
  gained := fun other found unsettled settled => by
    rw [whenSettled_outcome?, unsettled] at settled
    cases settled
  tasks := fun task found entry =>
    ⟨found.cancelRequested, by rw [whenSettled_tasks, entry], Or.inl rfl⟩
  started := fun task found unknown entry => by
    rw [whenSettled_tasks, List.getElem?_eq_none unknown] at entry
    cases entry
  completions := fun completion _ => whenSettled_outcome? promise completion callback loop
  plain := fun other plain =>
    plain.of_le (by simp) (by simp)
  ungrouped := fun other ungrouped =>
    (whenSettled_groups promise other callback loop).trans ungrouped
  grown := by simp
  now := by simp
  resolution := by simp

theorem spawn_advances (stack : List Frame) : loop.Advances cancels settles (loop.spawn stack) where
  kept := fun promise outcome settled => by
    rw [spawn_outcome?]
    exact settled
  gained := fun promise outcome unsettled settled => by
    rw [spawn_outcome?, unsettled] at settled
    cases settled
  tasks := fun task found entry => by
    refine ⟨found.cancelRequested, ?_, Or.inl rfl⟩
    have inside : task < loop.tasks.length := (List.getElem?_eq_some_iff.mp entry).1
    simp only [spawn, enqueue]
    rw [List.getElem?_append_left inside, entry]
  started := fun task found unknown entry => by
    simp only [spawn, enqueue] at entry
    rw [List.getElem?_append_right unknown] at entry
    rw [List.mem_singleton.mp (List.mem_of_getElem? entry)]
  completions := fun completion _ => spawn_outcome? completion stack loop
  plain := fun promise plain => plain.spawn stack
  ungrouped := fun promise ungrouped => loop.addPromise_isUngrouped {} ungrouped
  grown := by simp
  now := rfl
  resolution := rfl

theorem requestCancel_advances (mayCancel : cancels) (task : Nat) :
    loop.Advances cancels settles (loop.requestCancel task) where
  kept := fun _ _ settled => settled
  gained := fun promise outcome unsettled settled => by
    have same : loop.outcome? promise = some outcome := settled
    rw [unsettled] at same
    cases same
  tasks := fun other found entry => by
    by_cases same : task = other
    · exact ⟨true, by simp [requestCancel, modifyTask, same, entry], Or.inr mayCancel⟩
    · exact ⟨found.cancelRequested, by simp [requestCancel, modifyTask, same, entry], Or.inl rfl⟩
  started := fun other found unknown entry => by
    have inside := (List.getElem?_eq_some_iff.mp entry).1
    simp only [requestCancel, modifyTask, List.length_modify] at inside
    exact absurd inside (Nat.not_lt.mpr unknown)
  completions := fun _ _ => rfl
  plain := fun promise plain =>
    plain.of_le (completions_modifyTask task fun _ => rfl) (Nat.le_refl _)
  ungrouped := fun _ ungrouped => ungrouped
  grown := Nat.le_refl _
  now := rfl
  resolution := rfl

variable {scope : Scope Frame Action} {loop}

theorem cancelMember_advances
    (orderly : loop.Orderly scope) (mayCancel : cancels)
    (allowed : ∀ promise, settles promise .cancelled) (task : Nat) :
    loop.Advances cancels settles (loop.cancelMember task) := by
  unfold cancelMember
  split
  · exact .refl loop
  · split
    · exact loop.requestCancel_advances mayCancel task
    · rename_i promise awaits
      split
      · exact loop.requestCancel_advances mayCancel task
      · obtain ⟨found, entry, awaited⟩ := Option.bind_eq_some_iff.mp awaits
        have plain := orderly.awaited found (List.mem_of_getElem? entry) promise awaited
        exact loop.settle_advances plain.noCompletion (allowed promise)

theorem modifyGroup_advances (promise : Nat) (change : Group → Group) :
    loop.Advances cancels settles (loop.modifyGroup promise change) := by
  have sameOutcome : ∀ other,
      (loop.modifyGroup promise change).outcome? other = loop.outcome? other :=
    modifyGroup_outcome? promise change
  exact {
    kept := fun other outcome settled => by
      rw [sameOutcome]
      exact settled
    gained := fun other outcome unsettled settled => by
      rw [sameOutcome, unsettled] at settled
      cases settled
    tasks := fun task found entry => ⟨found.cancelRequested, entry, Or.inl rfl⟩
    started := fun task found unknown entry =>
      absurd (List.getElem?_eq_some_iff.mp entry).1 (Nat.not_lt.mpr unknown)
    completions := fun completion _ => sameOutcome completion
    plain := fun other plain => plain.of_le rfl (by simp [modifyGroup, nextPromise])
    ungrouped := fun other ungrouped => modifyGroup_isUngrouped promise change ungrouped
    grown := by simp [modifyGroup, nextPromise]
    now := rfl
    resolution := rfl }

theorem cancel_advances
    (orderly : loop.Orderly scope) (mayCancel : cancels)
    (allowed : ∀ promise, settles promise .cancelled) (task : Nat) :
    loop.Advances cancels settles (loop.cancel task) := by
  have members : ∀ (tasks : List Nat) (current : Scheduler Frame Action Result),
      current.Orderly scope → current.Advances cancels settles (tasks.foldl cancelMember current) := by
    intro tasks
    induction tasks with
    | nil =>
        exact fun current _ => .refl current
    | cons head others inductionHypothesis =>
        intro current currentOrderly
        exact (cancelMember_advances currentOrderly mayCancel allowed head).trans
          (inductionHypothesis _ (currentOrderly.cancelMember head))
  unfold cancel
  split
  · exact cancelMember_advances orderly mayCancel allowed task
  · split
    · exact loop.requestCancel_advances mayCancel task
    · exact (members _ _ orderly).trans (modifyGroup_advances _ _)

end LanguageClient.Loop.Scheduler
