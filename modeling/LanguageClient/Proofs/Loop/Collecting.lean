import LanguageClient.Proofs.Loop.Stands
import LanguageClient.Proofs.Loop.TaskTurn

/-!
# Groups that nobody breaks off

A task that awaits a group learns that it has ended as usual, as long as nobody cancels that task:
a group is cancelled together with who awaits it, and otherwise only the end of its last member
settles it.
-/

namespace LanguageClient.Loop.Scheduler

open LanguageClient.Number

variable {Frame Action Result : Type}

/-- A task awaits a group that nobody breaks off. Nobody else awaits it, no group has the task as a
member, and if the group has ended it has ended as usual. -/
structure Collects
    (task promise : Nat) (result : Result) (loop : Scheduler Frame Action Result) : Prop where
  known : task < loop.nextTask
  alone : ∀ (other : Nat) (found : TaskState Frame), loop.tasks[other]? = some found →
    found.awaiting = some promise → other = task
  apart : ∀ other group, loop.groupOf? other = some group → task ∉ group.members
  group : ∃ group, loop.groupOf? promise = some group ∧ group.cancelRequested = false
  outcome : ∀ outcome, loop.outcome? promise = some outcome → outcome = .returned result

theorem groupOf?_addPromise_of_lt
    {promise : Nat} (entry : Promise Action Result) (loop : Scheduler Frame Action Result)
    (known : promise < loop.nextPromise) :
    (loop.addPromise entry).groupOf? promise = loop.groupOf? promise := by
  simp only [groupOf?, addPromise]
  rw [List.getElem?_append_left known]

theorem modifyGroup_groupOf?_of_ne
    {promise other : Nat} (change : Group → Group) (loop : Scheduler Frame Action Result)
    (different : other ≠ promise) :
    (loop.modifyGroup promise change).groupOf? other = loop.groupOf? other := by
  simp only [groupOf?, modifyGroup, List.getElem?_modify, if_neg (Ne.symm different)]
  cases loop.promises[other]? <;> rfl

/-- A new group has not been broken off. -/
theorem gather_unbroken
    (members : List Nat) (result : Result) (loop : Scheduler Frame Action Result) :
    ∃ group, (loop.gather members result).groupOf? loop.nextPromise = some group ∧
      group.cancelRequested = false := by
  refine gather_induction (motive := fun current => ∃ group,
    current.groupOf? loop.nextPromise = some group ∧ group.cancelRequested = false) members result
      (fun outcome group _ unbroken => ⟨group, ?_, unbroken⟩) ?_
  · simp [groupOf?, Scheduler.addPromise, nextPromise]
  · rintro current completion group ⟨found, isGroup, unbroken⟩
    refine ⟨found, ?_, unbroken⟩
    simpa only [groupOf?, whenSettled_groups] using isGroup

namespace Collects

variable {task promise other : Nat} {result : Result} {targets : Nat → Prop}
  {settles : Nat → Outcome Result → Prop} {begins : List Frame → Prop}
  {loop after : Scheduler Frame Action Result} (collects : loop.Collects task promise result)

include collects

theorem promise_known : promise < loop.nextPromise := by
  obtain ⟨group, isGroup, _⟩ := collects.group
  refine Nat.lt_of_not_le fun outside => ?_
  have missing : loop.promises[promise]? = none := List.getElem?_eq_none outside
  simp [groupOf?, missing] at isGroup

/-- The task is not aimed at, the group stays as it is, and it is settled as usual if at all. -/
theorem of_stands
    (stands : loop.Stands targets settles begins after) (unaimed : ¬ targets task)
    (group : ∃ group, after.groupOf? promise = some group ∧ group.cancelRequested = false)
    (usual : ∀ outcome, settles promise outcome → outcome = .returned result) :
    after.Collects task promise result where
  known := Nat.lt_of_lt_of_le collects.known stands.nextTask
  alone := fun other found entry awaits => by
    rcases stands.task_cases entry with ⟨earlier, earlierEntry, _, same, _⟩ | ⟨_, idle, _⟩
    · exact collects.alone other earlier earlierEntry (same ▸ awaits)
    · rw [idle] at awaits
      cases awaits
  apart := fun other group isGroup member => by
    rcases stands.groups other group isGroup with ⟨earlier, isEarlier, same⟩ | ⟨_, members⟩
    · exact collects.apart other earlier isEarlier (same ▸ member)
    · exact unaimed (members task member)
  group
  outcome := fun outcome settled => by
    cases earlier : loop.outcome? promise with
    | none => exact usual outcome (stands.gained promise outcome earlier settled)
    | some ending =>
        rw [stands.kept promise ending earlier] at settled
        exact Option.some.inj settled ▸ collects.outcome ending earlier

theorem of_same (promises : after.promises = loop.promises) (tasks : after.tasks = loop.tasks) :
    after.Collects task promise result := by
  have stands : loop.Stands (fun _ => False) (fun _ _ => False) (fun _ => True) after :=
    .of_same promises tasks
  refine collects.of_stands stands id ?_ fun _ => False.elim
  simpa only [groupOf?, promises] using collects.group

theorem addPromise
    (entry : Promise Action Result)
    (members : ∀ group, entry.group = some group → task ∉ group.members) :
    (loop.addPromise entry).Collects task promise result := by
  have isNew : promise ≠ loop.nextPromise := Nat.ne_of_lt collects.promise_known
  have stands : loop.Stands (· ≠ task) (fun other _ => other = loop.nextPromise) (fun _ => True)
      (loop.addPromise entry) :=
    loop.addPromise_stands entry (fun _ _ => rfl) fun group isGroup member inside same =>
      members group isGroup (same ▸ inside)
  refine collects.of_stands stands (fun different => different rfl) ?_ fun _ same =>
    (isNew same).elim
  rw [groupOf?_addPromise_of_lt entry loop collects.promise_known]
  exact collects.group

theorem settle (different : other ≠ promise) (outcome : Outcome Result) :
    (loop.settle other outcome).Collects task promise result := by
  have stands : loop.Stands (fun _ => False) (fun settled _ => settled = other) (fun _ => True)
      (loop.settle other outcome) :=
    loop.settle_stands rfl
  refine collects.of_stands stands id ?_ fun _ same => (different same.symm).elim
  simpa only [groupOf?, settle_groups] using collects.group

theorem whenSettled (other : Nat) (callback : Callback Action) :
    (loop.whenSettled other callback).Collects task promise result := by
  have stands : loop.Stands (fun _ => False) (fun _ _ => False) (fun _ => True)
      (loop.whenSettled other callback) :=
    loop.whenSettled_stands other callback
  refine collects.of_stands stands id ?_ fun _ => False.elim
  simpa only [groupOf?, whenSettled_groups] using collects.group

theorem spawn (stack : List Frame) : (loop.spawn stack).Collects task promise result := by
  have stands : loop.Stands (fun _ => False) (fun _ _ => False) (fun _ => True)
      (loop.spawn stack) :=
    loop.spawn_stands trivial
  refine collects.of_stands stands id ?_ fun _ => False.elim
  have same : (loop.spawn stack).groupOf? promise = loop.groupOf? promise :=
    groupOf?_addPromise_of_lt {} loop collects.promise_known
  rw [same]
  exact collects.group

/-- Somebody else goes on. -/
theorem clearTask (other : Nat) : (loop.clearTask other).Collects task promise result where
  known := by
    have same : (loop.clearTask other).nextTask = loop.nextTask := loop.modifyTask_nextTask other _
    exact same ▸ collects.known
  alone := fun waiting found entry awaits => by
    by_cases same : waiting = other
    · subst same
      obtain ⟨state, earlier⟩ : ∃ state, loop.tasks[waiting]? = some state := by
        rw [Scheduler.clearTask, modifyTask, List.getElem?_modify] at entry
        obtain ⟨state, earlier, _⟩ := Option.map_eq_some_iff.mp entry
        exact ⟨state, earlier⟩
      rw [← Option.some.inj ((clearTask_self earlier).symm.trans entry)] at awaits
      cases awaits
    · exact collects.alone waiting found ((clearTask_other loop same).symm.trans entry) awaits
  apart := collects.apart
  group := collects.group
  outcome := collects.outcome

/-! ## Cancellations -/

theorem requestCancel (different : other ≠ task) :
    (loop.requestCancel other).Collects task promise result := by
  have stands : loop.Stands (· = other) (fun _ _ => False) (fun _ => True)
      (loop.requestCancel other) :=
    loop.requestCancel_stands rfl
  exact collects.of_stands stands (fun same => different same.symm) collects.group
    fun _ => False.elim

theorem modifyGroup {change : Group → Group}
    (members : ∀ group, (change group).members = group.members) (different : promise ≠ other) :
    (loop.modifyGroup other change).Collects task promise result := by
  have stands : loop.Stands (fun _ => False) (fun _ _ => False) (fun _ => True)
      (loop.modifyGroup other change) :=
    modifyGroup_stands loop other members
  refine collects.of_stands stands id ?_ fun _ => False.elim
  rw [modifyGroup_groupOf?_of_ne change loop different]
  exact collects.group

/-- Who is cancelled does not await the group. -/
theorem cancelMember (different : other ≠ task) :
    (loop.cancelMember other).Collects task promise result := by
  unfold Scheduler.cancelMember
  split
  · exact collects
  · split
    · exact collects.requestCancel different
    · rename_i awaited awaits
      split
      · exact collects.requestCancel different
      · obtain ⟨found, entry, isAwaited⟩ := Option.bind_eq_some_iff.mp awaits
        refine collects.settle ?_ _
        rintro rfl
        exact different (collects.alone other found entry isAwaited)

theorem cancelMembers {members : List Nat} (others : ∀ member ∈ members, member ≠ task) :
    (members.foldl Scheduler.cancelMember loop).Collects task promise result :=
  List.foldlRecOn members _ collects fun _ current member inside =>
    current.cancelMember (others member inside)

theorem cancel (different : other ≠ task) : (loop.cancel other).Collects task promise result := by
  unfold Scheduler.cancel
  split
  · exact collects.cancelMember different
  · rename_i awaited group isAwaited
    simp only [awaitedGroup?, Option.bind_eq_bind, Option.bind_eq_some_iff, Option.pure_def,
      Option.some.injEq, Prod.mk.injEq] at isAwaited
    obtain ⟨found, entry, _, awaits, _, isOpen, rfl, rfl⟩ := isAwaited
    split
    · exact collects.requestCancel different
    · refine (collects.cancelMembers fun member inside => ?_).modifyGroup (fun _ => rfl) ?_
      · rintro rfl
        exact collects.apart _ _ (groupOf?_of_openGroup? isOpen) inside
      · rintro rfl
        exact different (collects.alone other found entry awaits)

/-! ## Groups -/

theorem gather {members : List Nat} (others : task ∉ members) (usual : Result) :
    (loop.gather members usual).Collects task promise result := by
  have isNew : promise ≠ loop.nextPromise := Nat.ne_of_lt collects.promise_known
  have stands : loop.Stands (· ≠ task) (fun other _ => other = loop.nextPromise) (fun _ => True)
      (loop.gather members usual) :=
    gather_stands (fun member inside same => others (same ▸ inside)) rfl
  refine collects.of_stands stands (fun different => different rfl) ?_ fun _ same =>
    (isNew same).elim
  have same : (loop.gather members usual).groupOf? promise = loop.groupOf? promise := by
    refine gather_induction
      (motive := fun current => current.groupOf? promise = loop.groupOf? promise) members usual
      (fun outcome group _ _ => groupOf?_addPromise_of_lt _ loop collects.promise_known) ?_
    intro current completion group sameGroup
    simpa only [groupOf?, whenSettled_groups] using sameGroup
  rw [same]
  exact collects.group

/-- When a member ends, its group is settled as usual or waits for others. -/
theorem endMember (other : Nat) : (loop.endMember other result).Collects task promise result := by
  obtain ⟨group, isGroup, uncancelled⟩ := collects.group
  unfold Scheduler.endMember
  split
  · exact collects
  · rename_i ended isOpen
    have isEnded := groupOf?_of_openGroup? isOpen
    split
    · by_cases same : other = promise
      · subst same
        obtain rfl := Option.some.inj (isGroup.symm.trans isEnded)
        rw [uncancelled]
        have stands : loop.Stands (fun _ => False) (fun _ outcome => outcome = .returned result)
            (fun _ => True) (loop.settle other (.returned result)) :=
          loop.settle_stands rfl
        refine collects.of_stands stands id ?_ fun _ => id
        simpa only [groupOf?, settle_groups] using collects.group
      · exact collects.settle same _
    · have stands : loop.Stands (fun _ => False) (fun _ _ => False) (fun _ => True)
          (loop.modifyGroup other fun found => { found with remaining := found.remaining - 1 }) :=
        modifyGroup_stands loop other fun _ => rfl
      refine collects.of_stands stands id ?_ fun _ => False.elim
      by_cases same : promise = other
      · subst same
        refine ⟨{ group with remaining := group.remaining - 1 }, ?_, uncancelled⟩
        simp only [groupOf?, Scheduler.modifyGroup, List.getElem?_modify] at isGroup ⊢
        cases found : loop.promises[promise]? with
        | none => simp [found] at isGroup
        | some entry =>
            rw [found] at isGroup
            have ofEntry : entry.group = some group := isGroup
            simp [ofEntry]
      · rw [modifyGroup_groupOf?_of_ne _ loop same]
        exact collects.group

end Collects

end LanguageClient.Loop.Scheduler
