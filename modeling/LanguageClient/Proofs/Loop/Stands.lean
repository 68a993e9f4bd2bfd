import LanguageClient.Proofs.Loop.Steady

/-!
# Schedulers whose tasks stand still

What the operations of a running callback may do to the other tasks: cancel some of them, settle some
promises, start new tasks and gather some of them in groups. No task goes on meanwhile. Nothing is
assumed of the scheduler.
-/

namespace LanguageClient.Loop.Scheduler

open LanguageClient.Number

variable {Frame Action Result : Type}

/-- The group that a promise stands for, whether the promise is settled or not. -/
def groupOf? (loop : Scheduler Frame Action Result) (promise : Nat) : Option Group :=
  (loop.promises[promise]?.map (·.group)).join

/-- A scheduler comes from another one without any task going on. Only the `targets` may have been
cancelled or gathered, `settles` tells which outcomes promises may have been given, and `begins` with
which frames tasks may have been started. -/
structure Stands
    (targets : Nat → Prop) (settles : Nat → Outcome Result → Prop) (begins : List Frame → Prop)
    (before after : Scheduler Frame Action Result) :
    Prop where
  kept : ∀ promise outcome,
    before.outcome? promise = some outcome → after.outcome? promise = some outcome
  gained : ∀ promise outcome,
    before.outcome? promise = none → after.outcome? promise = some outcome →
      settles promise outcome
  tasks : ∀ (task : Nat) (found : TaskState Frame), before.tasks[task]? = some found →
    ∃ cancelRequested : Bool, after.tasks[task]? = some { found with cancelRequested } ∧
      (cancelRequested = found.cancelRequested ∨ targets task)
  started : ∀ (task : Nat) (found : TaskState Frame), before.nextTask ≤ task →
    after.tasks[task]? = some found →
      found.awaiting = none ∧ begins found.stack ∧ before.nextPromise ≤ found.completion
  groups : ∀ promise group, after.groupOf? promise = some group →
    (∃ earlier, before.groupOf? promise = some earlier ∧ earlier.members = group.members) ∨
      before.nextPromise ≤ promise ∧ ∀ member ∈ group.members, targets member
  grown : before.nextPromise ≤ after.nextPromise

variable {targets : Nat → Prop} {settles : Nat → Outcome Result → Prop}
  {begins : List Frame → Prop} {before middle after : Scheduler Frame Action Result}

namespace Stands

theorem of_same
    (promises : after.promises = before.promises) (tasks : after.tasks = before.tasks) :
    before.Stands targets settles begins after := by
  have sameOutcome : ∀ promise, after.outcome? promise = before.outcome? promise := by
    intro promise
    simp only [outcome?, promises]
  exact {
    kept := fun promise outcome settled => (sameOutcome promise).trans settled
    gained := fun promise outcome unsettled settled => by
      rw [sameOutcome, unsettled] at settled
      cases settled
    tasks := fun task found entry => ⟨found.cancelRequested, by rw [tasks, entry], Or.inl rfl⟩
    started := fun task found unknown entry => by
      rw [tasks, List.getElem?_eq_none unknown] at entry
      cases entry
    groups := fun promise group isGroup => by
      simp only [groupOf?, promises] at isGroup
      exact Or.inl ⟨group, isGroup, rfl⟩
    grown := by simp only [nextPromise, promises, Nat.le_refl] }

theorem refl (loop : Scheduler Frame Action Result) : loop.Stands targets settles begins loop :=
  of_same rfl rfl

theorem nextTask
    (stands : before.Stands targets settles begins after) : before.nextTask ≤ after.nextTask := by
  rcases Nat.eq_zero_or_pos before.nextTask with none | some
  · rw [none]
    exact Nat.zero_le _
  · have inside : before.nextTask - 1 < before.tasks.length := Nat.sub_one_lt_of_lt some
    obtain ⟨_, later, _⟩ := stands.tasks _ _ (List.getElem?_eq_getElem inside)
    have known : before.nextTask - 1 < after.nextTask := (List.getElem?_eq_some_iff.mp later).1
    omega

/-- A task was there before, or it has been started meanwhile. -/
theorem task_cases
    (stands : before.Stands targets settles begins after) {task : Nat} {found : TaskState Frame}
    (entry : after.tasks[task]? = some found) :
    (∃ earlier : TaskState Frame, before.tasks[task]? = some earlier ∧
      found.stack = earlier.stack ∧ found.awaiting = earlier.awaiting ∧
        found.completion = earlier.completion ∧
          (found.cancelRequested = earlier.cancelRequested ∨ targets task)) ∨
      before.nextTask ≤ task ∧ found.awaiting = none ∧ begins found.stack ∧
        before.nextPromise ≤ found.completion := by
  by_cases known : task < before.nextTask
  · have inside : task < before.tasks.length := known
    have earlierEntry : before.tasks[task]? = some before.tasks[task] :=
      List.getElem?_eq_getElem inside
    obtain ⟨cancelRequested, laterEntry, flag⟩ := stands.tasks task _ earlierEntry
    rw [entry] at laterEntry
    obtain rfl := Option.some.inj laterEntry
    exact Or.inl ⟨_, earlierEntry, rfl, rfl, rfl, flag⟩
  · have unknown : before.nextTask ≤ task := Nat.le_of_not_lt known
    exact Or.inr ⟨unknown, stands.started task found unknown entry⟩

theorem trans
    (first : before.Stands targets settles begins middle)
    (second : middle.Stands targets settles begins after) :
    before.Stands targets settles begins after where
  kept := fun promise outcome settled =>
    second.kept promise outcome (first.kept promise outcome settled)
  gained := fun promise outcome unsettled settled => by
    cases between : middle.outcome? promise with
    | none =>
        exact second.gained promise outcome between settled
    | some earlier =>
        have sameOutcome := second.kept promise earlier between
        rw [settled] at sameOutcome
        rw [Option.some.inj sameOutcome]
        exact first.gained promise earlier unsettled between
  tasks := fun task found entry => by
    obtain ⟨_, between, firstFlag⟩ := first.tasks task found entry
    obtain ⟨cancelRequested, later, secondFlag⟩ := second.tasks task _ between
    refine ⟨cancelRequested, later, ?_⟩
    rcases secondFlag with same | isTarget
    · exact firstFlag.imp same.trans id
    · exact Or.inr isTarget
  started := fun task found unknown entry => by
    rcases second.task_cases entry with
      ⟨earlier, earlierEntry, sameStack, sameAwaiting, sameCompletion, _⟩ |
        ⟨_, idle, begun, isNew⟩
    · rw [sameStack, sameAwaiting, sameCompletion]
      exact first.started task earlier unknown earlierEntry
    · exact ⟨idle, begun, Nat.le_trans first.grown isNew⟩
  groups := fun promise group isGroup => by
    rcases second.groups promise group isGroup with ⟨between, isBetween, same⟩ | ⟨isNew, members⟩
    · rcases first.groups promise between isBetween with ⟨earlier, isEarlier, sameEarlier⟩ |
        ⟨isNew, members⟩
      · exact Or.inl ⟨earlier, isEarlier, sameEarlier.trans same⟩
      · exact Or.inr ⟨isNew, same ▸ members⟩
    · exact Or.inr ⟨Nat.le_trans first.grown isNew, members⟩
  grown := Nat.le_trans first.grown second.grown

theorem mono
    {wider : Nat → Prop} {widerSettles : Nat → Outcome Result → Prop}
    (stands : before.Stands targets settles begins after)
    (within : ∀ task, targets task → wider task)
    (settlesWithin : ∀ promise outcome, settles promise outcome → widerSettles promise outcome) :
    before.Stands wider widerSettles begins after where
  kept := stands.kept
  gained := fun promise outcome unsettled settled =>
    settlesWithin promise outcome (stands.gained promise outcome unsettled settled)
  tasks := fun task found entry => by
    obtain ⟨cancelRequested, later, flag⟩ := stands.tasks task found entry
    exact ⟨cancelRequested, later, flag.imp id (within task)⟩
  started := stands.started
  groups := fun promise group isGroup =>
    (stands.groups promise group isGroup).imp id fun ⟨isNew, members⟩ =>
      ⟨isNew, fun member inside => within member (members member inside)⟩
  grown := stands.grown

end Stands

/-- Nothing happens to the tasks and to the groups. -/
theorem Stands.of_sameTasks
    (kept : ∀ promise outcome,
      before.outcome? promise = some outcome → after.outcome? promise = some outcome)
    (gained : ∀ promise outcome, before.outcome? promise = none →
      after.outcome? promise = some outcome → settles promise outcome)
    (tasks : after.tasks = before.tasks)
    (groups : ∀ promise, after.groupOf? promise = before.groupOf? promise)
    (grown : before.nextPromise ≤ after.nextPromise) :
    before.Stands targets settles begins after where
  kept
  gained
  tasks := fun task found entry => ⟨found.cancelRequested, by rw [tasks, entry], Or.inl rfl⟩
  started := fun task found unknown entry => by
    rw [tasks, List.getElem?_eq_none unknown] at entry
    cases entry
  groups := fun promise group isGroup => Or.inl ⟨group, groups promise ▸ isGroup, rfl⟩
  grown

/-! ## One operation -/

variable (loop : Scheduler Frame Action Result)

theorem addPromise_groupOf?
    {entry : Promise Action Result} {promise : Nat} {group : Group}
    (isGroup : (loop.addPromise entry).groupOf? promise = some group) :
    loop.groupOf? promise = some group ∨
      promise = loop.nextPromise ∧ entry.group = some group := by
  simp only [groupOf?, addPromise, Option.join_eq_some_iff, Option.map_eq_some_iff] at isGroup ⊢
  obtain ⟨found, entryFound, noted⟩ := isGroup
  rcases getElem?_append_singleton_cases entryFound with earlier | ⟨isNew, rfl⟩
  · exact Or.inl ⟨found, earlier, noted⟩
  · exact Or.inr ⟨isNew, noted⟩

theorem addPromise_stands
    (entry : Promise Action Result)
    (allowed : ∀ outcome, entry.outcome = some outcome → settles loop.nextPromise outcome)
    (members : ∀ group, entry.group = some group → ∀ member ∈ group.members, targets member) :
    loop.Stands targets settles begins (loop.addPromise entry) where
  kept := fun promise outcome settled => by
    rw [addPromise_outcome?_of_lt entry (lt_nextPromise_of_outcome? settled)]
    exact settled
  gained := fun promise outcome unsettled settled => by
    have bound := lt_nextPromise_of_outcome? settled
    rw [addPromise_nextPromise] at bound
    by_cases known : promise < loop.nextPromise
    · rw [addPromise_outcome?_of_lt entry known, unsettled] at settled
      cases settled
    · have same : promise = loop.nextPromise := by omega
      subst same
      rw [addPromise_outcome?_new] at settled
      exact allowed outcome settled
  tasks := fun task found entry => ⟨found.cancelRequested, entry, Or.inl rfl⟩
  started := fun task found unknown entry =>
    absurd (List.getElem?_eq_some_iff.mp entry).1 (Nat.not_lt.mpr unknown)
  groups := fun promise group isGroup => by
    rcases loop.addPromise_groupOf? isGroup with earlier | ⟨isNew, added⟩
    · exact Or.inl ⟨group, earlier, rfl⟩
    · exact Or.inr ⟨Nat.le_of_eq isNew.symm, members group added⟩
  grown := by simp

theorem enqueue_stands (callbacks : List (Callback Action)) :
    loop.Stands targets settles begins (loop.enqueue callbacks) :=
  .of_same rfl rfl

theorem arm_stands (delay : Delay) (action : Action) :
    loop.Stands targets settles begins (loop.arm delay action) :=
  .of_same rfl rfl

theorem disarm_stands (timer : Nat) : loop.Stands targets settles begins (loop.disarm timer) :=
  .of_same rfl rfl

theorem moveClock_stands (moment : Rat) :
    loop.Stands targets settles begins (loop.moveClock moment) :=
  .of_same rfl rfl

theorem settle_stands
    {promise : Nat} {outcome : Outcome Result} (allowed : settles promise outcome) :
    loop.Stands targets settles begins (loop.settle promise outcome) := by
  refine .of_sameTasks (fun other found settled => settle_outcome?_of_some outcome settled) ?_
    (settle_tasks promise outcome loop) (fun other => ?_) (by simp)
  · intro other found unsettled settled
    rcases settle_outcome?_cases settled with earlier | ⟨_, rfl, rfl⟩
    · rw [unsettled] at earlier
      cases earlier
    · exact allowed
  · unfold groupOf?
    rw [settle_groups]

theorem whenSettled_stands (promise : Nat) (callback : Callback Action) :
    loop.Stands targets settles begins (loop.whenSettled promise callback) := by
  refine .of_sameTasks (fun other outcome settled => by rw [whenSettled_outcome?, settled]) ?_
    (whenSettled_tasks promise callback loop) (fun other => ?_) (by simp)
  · intro other outcome unsettled settled
    rw [whenSettled_outcome?, unsettled] at settled
    cases settled
  · unfold groupOf?
    rw [whenSettled_groups]

theorem spawn_stands {stack : List Frame} (allowed : begins stack) :
    loop.Stands targets settles begins (loop.spawn stack) where
  kept := fun promise outcome settled => by rw [spawn_outcome?, settled]
  gained := fun promise outcome unsettled settled => by
    rw [spawn_outcome?, unsettled] at settled
    cases settled
  tasks := fun task found entry => by
    have inside : task < loop.tasks.length := (List.getElem?_eq_some_iff.mp entry).1
    refine ⟨found.cancelRequested, ?_, Or.inl rfl⟩
    simp only [spawn, enqueue]
    rw [List.getElem?_append_left inside, entry]
  started := fun task found unknown entry => by
    simp only [spawn, enqueue] at entry
    rw [List.getElem?_append_right unknown] at entry
    rw [List.mem_singleton.mp (List.mem_of_getElem? entry)]
    exact ⟨rfl, allowed, Nat.le_refl _⟩
  groups := fun promise group isGroup => by
    rcases loop.addPromise_groupOf? isGroup with earlier | ⟨_, added⟩
    · exact Or.inl ⟨group, earlier, rfl⟩
    · cases added
  grown := by simp

theorem requestCancel_stands {task : Nat} (aimed : targets task) :
    loop.Stands targets settles begins (loop.requestCancel task) where
  kept := fun _ _ settled => settled
  gained := fun promise outcome unsettled settled => by
    have same : loop.outcome? promise = some outcome := settled
    rw [unsettled] at same
    cases same
  tasks := fun other found entry => by
    by_cases same : task = other
    · exact ⟨true, by simp [requestCancel, modifyTask, same, entry], Or.inr (same ▸ aimed)⟩
    · exact ⟨found.cancelRequested, by simp [requestCancel, modifyTask, same, entry], Or.inl rfl⟩
  started := fun other found unknown entry => by
    have inside := (List.getElem?_eq_some_iff.mp entry).1
    simp only [requestCancel, modifyTask, List.length_modify] at inside
    exact absurd inside (Nat.not_lt.mpr unknown)
  groups := fun promise group isGroup => Or.inl ⟨group, isGroup, rfl⟩
  grown := Nat.le_refl _

theorem modifyGroup_stands
    (promise : Nat) {change : Group → Group} (keeps : ∀ group, (change group).members = group.members) :
    loop.Stands targets settles begins (loop.modifyGroup promise change) where
  kept := fun other outcome settled => by rw [modifyGroup_outcome?, settled]
  gained := fun other outcome unsettled settled => by
    rw [modifyGroup_outcome?, unsettled] at settled
    cases settled
  tasks := fun task found entry => ⟨found.cancelRequested, entry, Or.inl rfl⟩
  started := fun task found unknown entry =>
    absurd (List.getElem?_eq_some_iff.mp entry).1 (Nat.not_lt.mpr unknown)
  groups := fun other group isGroup => by
    left
    simp only [groupOf?, modifyGroup, List.getElem?_modify] at isGroup ⊢
    cases found : loop.promises[other]? with
    | none => simp [found] at isGroup
    | some entry =>
        by_cases same : promise = other
        · simp only [found, same, if_true] at isGroup
          obtain ⟨earlier, isEarlier, rfl⟩ := Option.map_eq_some_iff.mp isGroup
          exact ⟨earlier, isEarlier, (keeps earlier).symm⟩
        · simp only [found, same, if_false] at isGroup
          exact ⟨group, isGroup, rfl⟩
  grown := by simp [modifyGroup, nextPromise]

/-- The promises that some tasks await may be cancelled. -/
def MayCancel
    (targets : Nat → Prop) (settles : Nat → Outcome Result → Prop)
    (loop : Scheduler Frame Action Result) :
    Prop :=
  ∀ (task : Nat) (found : TaskState Frame) (promise : Nat), loop.tasks[task]? = some found →
    targets task → found.awaiting = some promise → settles promise .cancelled

theorem MayCancel.of_stands
    (mayCancel : before.MayCancel targets settles)
    (stands : before.Stands targets settles begins after) :
    after.MayCancel targets settles := by
  intro task found promise entry aimed awaits
  rcases stands.task_cases entry with ⟨earlier, earlierEntry, _, same, _⟩ | ⟨_, idle, _⟩
  · exact mayCancel task earlier promise earlierEntry aimed (same ▸ awaits)
  · rw [awaits] at idle
    cases idle

variable {loop}

theorem cancelMember_stands
    {task : Nat} (aimed : targets task) (mayCancel : loop.MayCancel targets settles) :
    loop.Stands targets settles begins (loop.cancelMember task) := by
  unfold cancelMember
  split
  · exact .refl loop
  · split
    · exact loop.requestCancel_stands aimed
    · rename_i promise awaits
      split
      · exact loop.requestCancel_stands aimed
      · obtain ⟨found, entry, awaited⟩ := Option.bind_eq_some_iff.mp awaits
        exact loop.settle_stands (mayCancel task found promise entry aimed awaited)

theorem cancelMembers_stands
    {members : List Nat} (aimed : ∀ member ∈ members, targets member)
    (mayCancel : loop.MayCancel targets settles) :
    loop.Stands targets settles begins (members.foldl cancelMember loop) := by
  induction members generalizing loop with
  | nil => exact .refl loop
  | cons member others inductionHypothesis =>
      have first : loop.Stands targets settles begins (loop.cancelMember member) :=
        cancelMember_stands (aimed member List.mem_cons_self) mayCancel
      exact first.trans (inductionHypothesis
        (fun other inside => aimed other (List.mem_cons_of_mem member inside))
        (mayCancel.of_stands first))

theorem groupOf?_of_openGroup?
    {promise : Nat} {group : Group} (isOpen : loop.openGroup? promise = some group) :
    loop.groupOf? promise = some group := by
  unfold openGroup? at isOpen
  unfold groupOf?
  split at isOpen
  · cases isOpen
  · rename_i entry entryFound
    split at isOpen
    · cases isOpen
    · simp [entryFound, isOpen]

/-- The members of groups are among the tasks that may be cancelled. -/
def Gathers (targets : Nat → Prop) (loop : Scheduler Frame Action Result) : Prop :=
  ∀ promise group, loop.groupOf? promise = some group → ∀ member ∈ group.members, targets member

theorem Gathers.of_stands
    (gathers : before.Gathers targets) (stands : before.Stands targets settles begins after) :
    after.Gathers targets := by
  intro promise group isGroup member inside
  rcases stands.groups promise group isGroup with ⟨earlier, isEarlier, same⟩ | ⟨_, members⟩
  · exact gathers promise earlier isEarlier member (same ▸ inside)
  · exact members member inside

theorem cancel_stands
    {task : Nat} (aimed : targets task) (gathers : loop.Gathers targets)
    (mayCancel : loop.MayCancel targets settles) :
    loop.Stands targets settles begins (loop.cancel task) := by
  unfold cancel
  split
  · exact cancelMember_stands aimed mayCancel
  · rename_i promise group awaited
    split
    · exact loop.requestCancel_stands aimed
    · have isOpen : loop.openGroup? promise = some group := by
        simp only [awaitedGroup?, Option.bind_eq_bind, Option.bind_eq_some_iff, Option.pure_def,
          Option.some.injEq, Prod.mk.injEq] at awaited
        obtain ⟨_, _, _, _, _, isOpen, rfl, rfl⟩ := awaited
        exact isOpen
      have members : ∀ member ∈ group.members, targets member :=
        gathers promise group (groupOf?_of_openGroup? isOpen)
      exact (cancelMembers_stands members mayCancel).trans
        (modifyGroup_stands _ promise fun _ => rfl)

theorem gather_stands
    {members : List Nat} {result : Result} (aimed : ∀ member ∈ members, targets member)
    (allowed : settles loop.nextPromise (.returned result)) :
    loop.Stands targets settles begins (loop.gather members result) := by
  refine List.foldlRecOn (motive := loop.Stands targets settles begins) _ _ ?_ ?_
  · refine loop.addPromise_stands _ ?_ ?_
    · intro outcome settled
      simp only at settled
      split at settled
      · rw [← Option.some.inj settled]
        exact allowed
      · cases settled
    · intro group isGroup
      rw [← Option.some.inj isGroup]
      exact aimed
  · intro current stands _ _
    split
    · exact stands
    · exact stands.trans (current.whenSettled_stands _ _)

/-- Only a promise that stands for a group is settled when a member ends. -/
theorem endMember_stands
    {promise : Nat} {result : Result}
    (allowed : ∀ group, loop.groupOf? promise = some group →
      settles promise (if group.cancelRequested then .cancelled else .returned result)) :
    loop.Stands targets settles begins (loop.endMember promise result) := by
  unfold endMember
  split
  · exact .refl loop
  · rename_i group isOpen
    split
    · exact loop.settle_stands (allowed group (groupOf?_of_openGroup? isOpen))
    · exact loop.modifyGroup_stands promise fun _ => rfl

end LanguageClient.Loop.Scheduler
