import LanguageClient.Proofs.Loop.Stands
import LanguageClient.Proofs.Loop.Wakeful

/-!
# Groups of tasks

A group counts the members whose ends are still to be noted. Each member that has not ended has a
callback that will note its end, and no end is noted twice. So the promise of a group is not settled
as usual before all members have ended, whatever is settled, started or cancelled meanwhile.
-/

namespace LanguageClient.Loop

open LanguageClient.Number

variable {Frame Action Result : Type}

/-- The group of which a callback notes that a member has ended. -/
def Callback.group? : Callback Action → Option Nat
  | .memberEnded group => some group
  | .resume _ | .fire _ _ | .act _ | .skipped => none

namespace Scheduler

/-- How many ends of members of a group are still to be noted, now or when somebody ends. -/
def notes (loop : Scheduler Frame Action Result) (group : Nat) : Nat :=
  (loop.ready ++ loop.promises.flatMap (·.callbacks)).countP fun callback =>
    callback.group? = some group

/-- A task was started and has ended. -/
def IsOver (loop : Scheduler Frame Action Result) (task : Nat) : Prop :=
  ∃ found, loop.tasks[task]? = some found ∧ loop.outcome? found.completion ≠ none

/-- Groups are counted right: none is settled as usual before its members have ended. -/
structure Tallied (loop : Scheduler Frame Action Result) : Prop where
  fresh : ∀ promise, loop.nextPromise ≤ promise → loop.notes promise = 0
  known : ∀ promise group, loop.groupOf? promise = some group →
    ∀ member ∈ group.members, member < loop.nextTask
  counted : ∀ promise group, loop.groupOf? promise = some group → loop.outcome? promise = none →
    loop.notes promise ≤ group.remaining
  noted : ∀ promise group, loop.groupOf? promise = some group → loop.outcome? promise = none →
    ∀ (member : Nat) (found : TaskState Frame), member ∈ group.members →
      loop.tasks[member]? = some found → loop.outcome? found.completion = none →
        loop.WaitsFor found.completion (.memberEnded promise)
  complete : ∀ promise group result, loop.groupOf? promise = some group →
    loop.outcome? promise = some (.returned result) → ∀ member ∈ group.members, loop.IsOver member

/-- The groups of a scheduler are still groups, with the same members. -/
def KeepsMembers (before after : Scheduler Frame Action Result) : Prop :=
  ∀ promise group, before.groupOf? promise = some group →
    ∃ later, after.groupOf? promise = some later ∧ later.members = group.members

/-- Groups are still groups, and who has ended has ended. -/
structure Retains (before after : Scheduler Frame Action Result) : Prop where
  members : KeepsMembers before after
  ended : ∀ task, before.IsOver task → after.IsOver task

/-- A scheduler comes from another one without a new group, and the ends of members are noted as
before. -/
structure KeepsGroups (before after : Scheduler Frame Action Result) : Prop where
  kept : ∀ promise outcome,
    before.outcome? promise = some outcome → after.outcome? promise = some outcome
  waiting : ∀ promise group, before.WaitsFor promise (.memberEnded group) →
    after.WaitsFor promise (.memberEnded group) ∨ after.outcome? promise ≠ none
  completions : ∀ (task : Nat) (found : TaskState Frame), before.tasks[task]? = some found →
    ∃ later : TaskState Frame, after.tasks[task]? = some later ∧
      later.completion = found.completion
  grown : before.nextPromise ≤ after.nextPromise
  notes : ∀ promise, after.notes promise ≤ before.notes promise
  groups : ∀ promise group, after.groupOf? promise = some group →
    ∃ earlier, before.groupOf? promise = some earlier ∧ earlier.members = group.members ∧
      earlier.remaining = group.remaining
  members : KeepsMembers before after
  returned : ∀ promise group result, after.groupOf? promise = some group →
    after.outcome? promise = some (.returned result) →
      before.outcome? promise = some (.returned result) ∨
        ∀ member ∈ group.members, after.IsOver member

variable {before middle after loop : Scheduler Frame Action Result}

/-! ## Counting -/

theorem notes_eq (loop : Scheduler Frame Action Result) (group : Nat) :
    loop.notes group =
      loop.ready.countP (fun callback => callback.group? = some group) +
        (loop.promises.flatMap (·.callbacks)).countP fun callback =>
          callback.group? = some group :=
  List.countP_append

theorem WaitsFor.notes_pos
    {promise group : Nat} (waits : loop.WaitsFor promise (.memberEnded group)) :
    0 < loop.notes group := by
  obtain ⟨entry, isEntry, _, member⟩ := waits
  refine List.countP_pos_iff.mpr ⟨.memberEnded group, List.mem_append_right _ ?_, by
    simp [Callback.group?]⟩
  exact List.mem_flatMap.mpr ⟨entry, List.mem_of_getElem? isEntry, member⟩

theorem countP_callbacks_set
    {promises : List (Promise Action Result)} {promise : Nat} {found : Promise Action Result}
    (isEntry : promises[promise]? = some found) (entry : Promise Action Result)
    (counts : Callback Action → Bool) :
    ((promises.set promise entry).flatMap (·.callbacks)).countP counts +
        found.callbacks.countP counts =
      (promises.flatMap (·.callbacks)).countP counts + entry.callbacks.countP counts := by
  obtain ⟨inside, rfl⟩ := List.getElem?_eq_some_iff.mp isEntry
  obtain ⟨left, right, whole, _, changed⟩ := @List.exists_of_set _ _ entry _ inside
  have split : (promises.flatMap (·.callbacks)).countP counts =
      (left.flatMap (·.callbacks)).countP counts +
        (promises[promise].callbacks.countP counts +
          (right.flatMap (·.callbacks)).countP counts) := by
    conv =>
      lhs
      rw [whole]
    simp only [List.flatMap_append, List.flatMap_cons, List.countP_append]
  rw [changed, split]
  simp only [List.flatMap_append, List.flatMap_cons, List.countP_append]
  omega

theorem enqueue_notes
    {callbacks : List (Callback Action)} {group : Nat}
    (others : ∀ callback ∈ callbacks, callback.group? ≠ some group) :
    (loop.enqueue callbacks).notes group = loop.notes group := by
  have nothing : callbacks.countP (fun callback => callback.group? = some group) = 0 :=
    List.countP_eq_zero.mpr fun callback member => by simpa using others callback member
  simp only [notes_eq, enqueue, List.countP_append, nothing, Nat.add_zero]

theorem addPromise_notes
    {entry : Promise Action Result} (free : entry.callbacks = []) (group : Nat) :
    (loop.addPromise entry).notes group = loop.notes group := by
  simp [notes, addPromise, free]

theorem settle_notes (promise : Nat) (outcome : Outcome Result) (group : Nat) :
    (loop.settle promise outcome).notes group = loop.notes group := by
  rcases loop.settle_cases promise outcome with same | ⟨entry, isEntry, _, settled⟩
  · rw [same]
  · have moved := countP_callbacks_set isEntry
      { entry with outcome := some outcome, callbacks := [] }
      fun callback => decide (callback.group? = some group)
    rw [settled]
    simp only [notes_eq, enqueue, List.countP_append, List.countP_nil] at moved ⊢
    omega

theorem whenSettled_notes (promise : Nat) (callback : Callback Action) (group : Nat) :
    (loop.whenSettled promise callback).notes group ≤
      loop.notes group + if callback.group? = some group then 1 else 0 := by
  rcases loop.whenSettled_cases promise callback with
    ⟨_, same⟩ | ⟨_, same⟩ | ⟨entry, isEntry, _, waits⟩
  · rw [same]
    exact Nat.le_add_right _ _
  · rw [same]
    simp only [notes_eq, enqueue, List.countP_append, List.countP_singleton, decide_eq_true_eq]
    omega
  · have moved := countP_callbacks_set isEntry
      { entry with callbacks := entry.callbacks ++ [callback] }
      fun callback => decide (callback.group? = some group)
    rw [waits]
    simp only [notes_eq, List.countP_append, List.countP_singleton, decide_eq_true_eq] at moved ⊢
    omega

theorem whenSettled_notes_of_none
    {callback : Callback Action} (promise : Nat) (noGroup : callback.group? = none) (group : Nat) :
    (loop.whenSettled promise callback).notes group ≤ loop.notes group := by
  have counted := loop.whenSettled_notes promise callback group
  simpa [noGroup] using counted

theorem modifyGroup_notes (promise : Nat) (change : Group → Group) (group : Nat) :
    (loop.modifyGroup promise change).notes group = loop.notes group := by
  have same : (loop.modifyGroup promise change).promises.map (·.callbacks) =
      loop.promises.map (·.callbacks) :=
    map_modify_of_keeps (by intro _; rfl) loop.promises promise
  simp only [notes, List.flatMap_def, same]
  rfl

/-! ## Ends -/

theorem isOver_of_hasEnded
    {task : Nat} (known : task < loop.nextTask) (ended : loop.hasEnded task = true) :
    loop.IsOver task := by
  have entry : loop.tasks[task]? = some loop.tasks[task] := List.getElem?_eq_getElem known
  refine ⟨_, entry, ?_⟩
  simp only [hasEnded, entry, isSettled] at ended
  exact Option.isSome_iff_ne_none.mp ended

theorem isOver_or
    {task : Nat} (known : task < loop.nextTask) :
    loop.IsOver task ∨
      ∃ found, loop.tasks[task]? = some found ∧ loop.outcome? found.completion = none := by
  have entry : loop.tasks[task]? = some loop.tasks[task] := List.getElem?_eq_getElem known
  by_cases unended : loop.outcome? loop.tasks[task].completion = none
  · exact Or.inr ⟨_, entry, unended⟩
  · exact Or.inl ⟨_, entry, unended⟩

namespace KeepsMembers

theorem of_same (same : ∀ promise, after.groupOf? promise = before.groupOf? promise) :
    KeepsMembers before after :=
  fun promise group isGroup => ⟨group, (same promise).trans isGroup, rfl⟩

theorem of_promises (promises : after.promises = before.promises) : KeepsMembers before after :=
  .of_same fun promise => by simp only [groupOf?, promises]

theorem refl (loop : Scheduler Frame Action Result) : KeepsMembers loop loop := .of_promises rfl

theorem trans (first : KeepsMembers before middle) (second : KeepsMembers middle after) :
    KeepsMembers before after := by
  intro promise group isGroup
  obtain ⟨between, isBetween, members⟩ := first promise group isGroup
  obtain ⟨later, isLater, laterMembers⟩ := second promise between isBetween
  exact ⟨later, isLater, laterMembers.trans members⟩

end KeepsMembers

theorem Retains.trans (first : Retains before middle) (second : Retains middle after) :
    Retains before after :=
  ⟨first.members.trans second.members, fun task isOver => second.ended task (first.ended task isOver)⟩

/-- Tasks that have ended have ended later, too. -/
theorem Advances.isOver
    {cancels : Prop} {settles : Nat → Outcome Result → Prop} {task : Nat}
    (advances : before.Advances cancels settles after) (isOver : before.IsOver task) :
    after.IsOver task := by
  obtain ⟨found, entry, ended⟩ := isOver
  obtain ⟨_, later, _⟩ := advances.tasks task found entry
  refine ⟨_, later, ?_⟩
  have isCompletion : found.completion ∈ before.completions :=
    List.mem_map.mpr ⟨found, List.mem_of_getElem? entry, rfl⟩
  exact (advances.completions _ isCompletion).symm ▸ ended

namespace KeepsGroups

theorem unsettled
    {promise : Nat} (keeps : KeepsGroups before after)
    (unsettled : after.outcome? promise = none) : before.outcome? promise = none := by
  cases settled : before.outcome? promise with
  | none => rfl
  | some outcome =>
      rw [keeps.kept promise outcome settled] at unsettled
      cases unsettled

theorem settled
    {promise : Nat} (keeps : KeepsGroups before after) (settled : before.outcome? promise ≠ none) :
    after.outcome? promise ≠ none :=
  mt keeps.unsettled settled

theorem isOver
    {task : Nat} (keeps : KeepsGroups before after) (isOver : before.IsOver task) :
    after.IsOver task := by
  obtain ⟨found, entry, ended⟩ := isOver
  obtain ⟨later, laterEntry, same⟩ := keeps.completions task found entry
  exact ⟨later, laterEntry, same ▸ keeps.settled ended⟩

theorem retains (keeps : KeepsGroups before after) : Retains before after :=
  ⟨keeps.members, fun _ => keeps.isOver⟩

theorem nextTask (keeps : KeepsGroups before after) : before.nextTask ≤ after.nextTask := by
  refine Nat.le_of_not_lt fun fewer => ?_
  obtain ⟨_, entry, _⟩ := keeps.completions _ _ (List.getElem?_eq_getElem fewer)
  exact Nat.lt_irrefl _ (List.getElem?_eq_some_iff.mp entry).1

/-- Nothing happens to the promises and the completions, and no end is noted. -/
theorem of_promises
    (promises : after.promises = before.promises)
    (completions : ∀ (task : Nat) (found : TaskState Frame), before.tasks[task]? = some found →
      ∃ later : TaskState Frame, after.tasks[task]? = some later ∧
        later.completion = found.completion)
    (notes : ∀ promise, after.notes promise ≤ before.notes promise) :
    KeepsGroups before after where
  kept := fun promise outcome settled => by
    simpa only [outcome?, promises] using settled
  waiting := fun promise group waits => Or.inl (waits.of_promises promises)
  completions
  grown := Nat.le_of_eq (congrArg List.length promises).symm
  notes
  groups := fun promise group isGroup => by
    simp only [groupOf?, promises] at isGroup
    exact ⟨group, isGroup, rfl, rfl⟩
  members := .of_promises promises
  returned := fun promise group result _ isReturned => by
    simp only [outcome?, promises] at isReturned
    exact Or.inl isReturned

theorem refl (loop : Scheduler Frame Action Result) : KeepsGroups loop loop :=
  .of_promises rfl (fun _ found entry => ⟨found, entry, rfl⟩) fun _ => Nat.le_refl _

theorem trans
    (first : KeepsGroups before middle) (second : KeepsGroups middle after) :
    KeepsGroups before after where
  kept := fun promise outcome settled =>
    second.kept promise outcome (first.kept promise outcome settled)
  waiting := fun promise group waits => by
    rcases first.waiting promise group waits with still | ended
    · exact second.waiting promise group still
    · exact Or.inr (second.settled ended)
  completions := fun task found entry => by
    obtain ⟨between, betweenEntry, same⟩ := first.completions task found entry
    obtain ⟨later, laterEntry, laterSame⟩ := second.completions task between betweenEntry
    exact ⟨later, laterEntry, laterSame.trans same⟩
  grown := Nat.le_trans first.grown second.grown
  notes := fun promise => Nat.le_trans (second.notes promise) (first.notes promise)
  groups := fun promise group isGroup => by
    obtain ⟨between, isBetween, members, remaining⟩ := second.groups promise group isGroup
    obtain ⟨earlier, isEarlier, earlierMembers, earlierRemaining⟩ :=
      first.groups promise between isBetween
    exact ⟨earlier, isEarlier, earlierMembers.trans members, earlierRemaining.trans remaining⟩
  members := first.members.trans second.members
  returned := fun promise group result isGroup isReturned => by
    rcases second.returned promise group result isGroup isReturned with isBetween | allOver
    · obtain ⟨between, betweenGroup, members, _⟩ := second.groups promise group isGroup
      rw [← members]
      exact (first.returned promise between result betweenGroup isBetween).imp_right
        fun allOver member inside => second.isOver (allOver member inside)
    · exact Or.inr allOver

end KeepsGroups

theorem Tallied.keeps (tallied : before.Tallied) (keeps : KeepsGroups before after) :
    after.Tallied where
  fresh := fun promise isNew => by
    have nothing := tallied.fresh promise (Nat.le_trans keeps.grown isNew)
    exact Nat.le_zero.mp (nothing ▸ keeps.notes promise)
  known := fun promise group isGroup member inside => by
    obtain ⟨earlier, isEarlier, members, _⟩ := keeps.groups promise group isGroup
    exact Nat.lt_of_lt_of_le (tallied.known promise earlier isEarlier member (members ▸ inside))
      keeps.nextTask
  counted := fun promise group isGroup unsettled => by
    obtain ⟨earlier, isEarlier, _, remaining⟩ := keeps.groups promise group isGroup
    exact remaining ▸
      Nat.le_trans (keeps.notes promise)
        (tallied.counted promise earlier isEarlier (keeps.unsettled unsettled))
  noted := fun promise group isGroup unsettled member found inside entry unended => by
    obtain ⟨earlier, isEarlier, members, _⟩ := keeps.groups promise group isGroup
    have wasInside : member ∈ earlier.members := members ▸ inside
    have wasKnown := tallied.known promise earlier isEarlier member wasInside
    obtain ⟨later, laterEntry, same⟩ :=
      keeps.completions member _ (List.getElem?_eq_getElem wasKnown)
    obtain rfl := Option.some.inj (entry.symm.trans laterEntry)
    have waited := tallied.noted promise earlier isEarlier (keeps.unsettled unsettled) member _
      wasInside (List.getElem?_eq_getElem wasKnown) (keeps.unsettled (same ▸ unended))
    rw [← same] at waited
    exact (keeps.waiting _ _ waited).resolve_right fun ended => ended unended
  complete := fun promise group result isGroup isReturned member inside => by
    rcases keeps.returned promise group result isGroup isReturned with wasReturned | allOver
    · obtain ⟨earlier, isEarlier, members, _⟩ := keeps.groups promise group isGroup
      exact keeps.isOver
        (tallied.complete promise earlier result isEarlier wasReturned member (members ▸ inside))
    · exact allOver member inside

/-! ## Operations that end no group -/

theorem lt_of_groupOf? {promise : Nat} {group : Group} (isGroup : loop.groupOf? promise = some group) :
    promise < loop.nextPromise := by
  refine Nat.lt_of_not_le fun isNew => ?_
  simp [groupOf?, List.getElem?_eq_none isNew] at isGroup

section Operations

variable (loop : Scheduler Frame Action Result)

theorem enqueue_keepsGroups
    {callbacks : List (Callback Action)}
    (noGroup : ∀ callback ∈ callbacks, callback.group? = none) :
    KeepsGroups loop (loop.enqueue callbacks) := by
  refine .of_promises rfl (fun _ found entry => ⟨found, entry, rfl⟩) fun promise =>
    Nat.le_of_eq (enqueue_notes fun callback member same => ?_)
  rw [noGroup callback member] at same
  cases same

theorem addPromise_keepsMembers (entry : Promise Action Result) :
    KeepsMembers loop (loop.addPromise entry) := by
  intro promise group isGroup
  refine ⟨group, ?_, rfl⟩
  rw [← isGroup, groupOf?, groupOf?, addPromise,
    List.getElem?_append_left (lt_of_groupOf? isGroup)]

theorem addPromise_keepsGroups : KeepsGroups loop (loop.addPromise {}) where
  kept := fun promise outcome settled =>
    (addPromise_outcome?_of_lt {} (lt_nextPromise_of_outcome? settled)).trans settled
  waiting := fun promise group waits => Or.inl ((loop.addPromise_waitsFor rfl promise _).mpr waits)
  completions := fun _ found entry => ⟨found, entry, rfl⟩
  grown := by simp
  notes := fun promise => Nat.le_of_eq (addPromise_notes rfl promise)
  groups := fun promise group isGroup => by
    rcases loop.addPromise_groupOf? isGroup with earlier | ⟨_, nothing⟩
    · exact ⟨group, earlier, rfl, rfl⟩
    · cases nothing
  members := loop.addPromise_keepsMembers {}
  returned := fun promise group result isGroup isReturned => by
    rcases Nat.lt_or_ge promise loop.nextPromise with known | isNew
    · rw [addPromise_outcome?_of_lt {} known] at isReturned
      exact Or.inl isReturned
    · rcases loop.addPromise_groupOf? isGroup with earlier | ⟨_, nothing⟩
      · simp only [groupOf?] at earlier
        rw [List.getElem?_eq_none isNew] at earlier
        cases earlier
      · cases nothing

theorem settle_groupOf? (promise other : Nat) (outcome : Outcome Result) :
    (loop.settle promise outcome).groupOf? other = loop.groupOf? other :=
  congrArg Option.join (settle_groups promise other outcome loop)

theorem whenSettled_groupOf? (promise other : Nat) (callback : Callback Action) :
    (loop.whenSettled promise callback).groupOf? other = loop.groupOf? other :=
  congrArg Option.join (whenSettled_groups promise other callback loop)

/-- A promise is settled that stands for no group, or not as usual, or after all members of its
group. -/
theorem settle_keepsGroups
    {promise : Nat} {outcome : Outcome Result}
    (regular : ∀ group result, loop.groupOf? promise = some group → outcome = .returned result →
      ∀ member ∈ group.members, loop.IsOver member) :
    KeepsGroups loop (loop.settle promise outcome) where
  kept := fun _ _ settled => settle_outcome?_of_some outcome settled
  waiting := fun other group waits => by
    have carries : Carries (fun _ => True) loop (loop.settle promise outcome) :=
      loop.settle_carries promise outcome
    exact (carries.waiting other _ waits rfl).imp_right And.left
  completions := fun task found entry =>
    ⟨found, (congrArg (·[task]?) (settle_tasks promise outcome loop)).trans entry, rfl⟩
  grown := by simp
  notes := fun other => Nat.le_of_eq (settle_notes promise outcome other)
  groups := fun other group isGroup =>
    ⟨group, (loop.settle_groupOf? promise other outcome).symm.trans isGroup, rfl, rfl⟩
  members := .of_same fun other => loop.settle_groupOf? promise other outcome
  returned := fun other group result isGroup isReturned => by
    rw [loop.settle_groupOf?] at isGroup
    rcases settle_outcome?_cases isReturned with earlier | ⟨_, rfl, same⟩
    · exact Or.inl earlier
    · right
      intro member inside
      obtain ⟨found, entry, ended⟩ := regular group result isGroup same.symm member inside
      obtain ⟨ending, isEnding⟩ := Option.ne_none_iff_exists'.mp ended
      refine ⟨found, (congrArg (·[member]?) (settle_tasks other outcome loop)).trans entry, ?_⟩
      rw [settle_outcome?_of_some outcome isEnding]
      exact Option.some_ne_none ending

theorem whenSettled_keepsGroups
    {callback : Callback Action} (promise : Nat) (noGroup : callback.group? = none) :
    KeepsGroups loop (loop.whenSettled promise callback) where
  kept := fun other outcome settled => (whenSettled_outcome? _ _ _ loop).trans settled
  waiting := fun other group waits => Or.inl (loop.whenSettled_waitsFor_of callback waits)
  completions := fun task found entry =>
    ⟨found, (congrArg (·[task]?) (whenSettled_tasks promise callback loop)).trans entry, rfl⟩
  grown := by simp
  notes := whenSettled_notes_of_none promise noGroup
  groups := fun other group isGroup =>
    ⟨group, (loop.whenSettled_groupOf? promise other callback).symm.trans isGroup, rfl, rfl⟩
  members := .of_same fun other => loop.whenSettled_groupOf? promise other callback
  returned := fun other group result _ isReturned => by
    rw [whenSettled_outcome?] at isReturned
    exact Or.inl isReturned

theorem spawn_keepsGroups (stack : List Frame) : KeepsGroups loop (loop.spawn stack) := by
  have started : KeepsGroups (loop.addPromise {}) { loop.addPromise {} with
      tasks := loop.tasks ++ [{
        stack, awaiting := none, cancelRequested := false, completion := loop.nextPromise }] } := by
    refine .of_promises rfl (fun task found entry => ⟨found, ?_, rfl⟩) fun _ => Nat.le_refl _
    exact (List.getElem?_append_left (List.getElem?_eq_some_iff.mp entry).1).trans entry
  refine (loop.addPromise_keepsGroups.trans started).trans (enqueue_keepsGroups _ ?_)
  intro callback member
  rw [List.mem_singleton.mp member]
  rfl

theorem modifyTask_keepsGroups
    {change : TaskState Frame → TaskState Frame} (task : Nat)
    (keeps : ∀ found, (change found).completion = found.completion) :
    KeepsGroups loop (loop.modifyTask task change) := by
  refine .of_promises rfl (fun other found entry => ?_) fun _ => Nat.le_refl _
  by_cases same : task = other
  · exact ⟨change found, by simp [modifyTask, same, entry], keeps found⟩
  · exact ⟨found, by simp [modifyTask, same, entry], rfl⟩

theorem suspend_keepsGroups (task : Nat) (stack : List Frame) (promise : Nat) :
    KeepsGroups loop (loop.suspend task stack promise) := by
  have left : KeepsGroups loop (loop.modifyTask task fun found =>
      { found with stack, awaiting := some promise }) :=
    loop.modifyTask_keepsGroups task fun _ => rfl
  exact left.trans (whenSettled_keepsGroups _ promise rfl)

theorem modifyGroup_groupOf?
    {other : Nat} {group : Group} (promise : Nat) (change : Group → Group)
    (isGroup : (loop.modifyGroup promise change).groupOf? other = some group) :
    ∃ earlier, loop.groupOf? other = some earlier ∧
      (other = promise ∧ group = change earlier ∨ other ≠ promise ∧ group = earlier) := by
  simp only [groupOf?, modifyGroup, List.getElem?_modify] at isGroup ⊢
  cases found : loop.promises[other]? with
  | none => simp [found] at isGroup
  | some entry =>
      by_cases same : promise = other
      · simp only [found, same, if_true] at isGroup
        obtain ⟨earlier, isEarlier, rfl⟩ := Option.map_eq_some_iff.mp isGroup
        exact ⟨earlier, isEarlier, Or.inl ⟨same.symm, rfl⟩⟩
      · simp only [found, same, if_false] at isGroup
        exact ⟨group, isGroup, Or.inr ⟨Ne.symm same, rfl⟩⟩

theorem modifyGroup_keepsMembers
    {change : Group → Group} (promise : Nat)
    (members : ∀ group, (change group).members = group.members) :
    KeepsMembers loop (loop.modifyGroup promise change) := by
  intro other group isGroup
  simp only [groupOf?, modifyGroup, List.getElem?_modify] at isGroup ⊢
  cases found : loop.promises[other]? with
  | none => simp [found] at isGroup
  | some entry =>
      rw [found] at isGroup
      have isEntry : entry.group = some group := isGroup
      by_cases same : promise = other
      · exact ⟨change group, by simp [same, isEntry], members group⟩
      · exact ⟨group, by simp [same, isEntry], rfl⟩

theorem modifyGroup_keepsGroups
    {change : Group → Group} (promise : Nat)
    (members : ∀ group, (change group).members = group.members)
    (remaining : ∀ group, (change group).remaining = group.remaining) :
    KeepsGroups loop (loop.modifyGroup promise change) where
  kept := fun other outcome settled => (modifyGroup_outcome? _ _ _).trans settled
  waiting := fun other group waits => Or.inl ((loop.modifyGroup_waitsFor promise other _ _).mpr waits)
  completions := fun _ found entry => ⟨found, entry, rfl⟩
  grown := by simp [modifyGroup, nextPromise]
  notes := fun other => Nat.le_of_eq (modifyGroup_notes promise change other)
  groups := fun other group isGroup => by
    obtain ⟨earlier, isEarlier, ⟨_, rfl⟩ | ⟨_, rfl⟩⟩ := loop.modifyGroup_groupOf? promise change isGroup
    · exact ⟨earlier, isEarlier, (members earlier).symm, (remaining earlier).symm⟩
    · exact ⟨group, isEarlier, rfl, rfl⟩
  members := loop.modifyGroup_keepsMembers promise members
  returned := fun other group result _ isReturned => by
    rw [modifyGroup_outcome?] at isReturned
    exact Or.inl isReturned

theorem cancelMember_keepsGroups (task : Nat) : KeepsGroups loop (loop.cancelMember task) := by
  have cancelled (promise : Nat) : KeepsGroups loop (loop.settle promise .cancelled) :=
    loop.settle_keepsGroups fun _ _ _ => nofun
  have requested : KeepsGroups loop (loop.requestCancel task) :=
    loop.modifyTask_keepsGroups task fun _ => rfl
  unfold cancelMember
  split
  · exact .refl loop
  · split
    · exact requested
    · split
      · exact requested
      · exact cancelled _

theorem cancel_keepsGroups (task : Nat) : KeepsGroups loop (loop.cancel task) := by
  unfold cancel
  split
  · exact loop.cancelMember_keepsGroups task
  · rename_i promise group _
    split
    · exact loop.modifyTask_keepsGroups task fun _ => rfl
    · have cancelled : KeepsGroups loop (group.members.foldl cancelMember loop) :=
        List.foldlRecOn group.members _ (.refl loop) fun current keeps member _ =>
          keeps.trans (current.cancelMember_keepsGroups member)
      exact cancelled.trans (modifyGroup_keepsGroups _ promise (fun _ => rfl) fun _ => rfl)

theorem arm_keepsGroups (delay : Delay) (action : Action) :
    KeepsGroups loop (loop.arm delay action) :=
  .of_promises rfl (fun _ found entry => ⟨found, entry, rfl⟩) fun _ => Nat.le_refl _

theorem withoutTimer_group? (timer : Nat) (callback : Callback Action) :
    (withoutTimer timer callback).group? = callback.group? := by
  rcases withoutTimer_cases timer callback with same | skipped
  · rw [same]
  · cases callback with
    | fire other action => rw [skipped]; rfl
    | _ => rfl

theorem disarm_keepsGroups (timer : Nat) : KeepsGroups loop (loop.disarm timer) := by
  refine .of_promises rfl (fun _ found entry => ⟨found, entry, rfl⟩) fun promise =>
    Nat.le_of_eq ?_
  have same : (fun callback : Callback Action => decide (callback.group? = some promise)) ∘
      withoutTimer timer = fun callback => decide (callback.group? = some promise) :=
    funext fun callback => by simp only [Function.comp_apply, withoutTimer_group?]
  simp only [notes_eq, disarm, List.countP_map, same]

theorem moveClock_keepsGroups (moment : Rat) : KeepsGroups loop (loop.moveClock moment) :=
  .of_promises rfl (fun _ found entry => ⟨found, entry, rfl⟩) fun _ => Nat.le_refl _

end Operations

/-! ## Groups that are added and end -/

/-- The members of a list let the end of themselves be noted for a group. -/
structure Enlists
    (group : Nat) (listed : List Nat) (before after : Scheduler Frame Action Result) : Prop where
  tasks : after.tasks = before.tasks
  outcomes : ∀ promise, after.outcome? promise = before.outcome? promise
  groups : ∀ promise, after.groupOf? promise = before.groupOf? promise
  nextPromise : after.nextPromise = before.nextPromise
  notes : ∀ promise,
    after.notes promise ≤ before.notes promise + if promise = group then listed.length else 0
  waiting : ∀ promise callback, before.WaitsFor promise callback → after.WaitsFor promise callback
  listed : ∀ (member : Nat) (found : TaskState Frame), member ∈ listed →
    before.tasks[member]? = some found → before.outcome? found.completion = none →
      after.WaitsFor found.completion (.memberEnded group)

/-- Lets the end of a task be noted for a group. -/
def enlist (group : Nat) (loop : Scheduler Frame Action Result) (task : Nat) :
    Scheduler Frame Action Result :=
  match loop.tasks[task]? with
  | none => loop
  | some found => loop.whenSettled found.completion (.memberEnded group)

namespace Enlists

variable {group : Nat} {listed : List Nat}

theorem refl (group : Nat) (loop : Scheduler Frame Action Result) : Enlists group [] loop loop where
  tasks := rfl
  outcomes := fun _ => rfl
  groups := fun _ => rfl
  nextPromise := rfl
  notes := fun _ => Nat.le_add_right _ _
  waiting := fun _ _ => id
  listed := fun _ _ inside => (List.not_mem_nil inside).elim

theorem step
    (enlists : Enlists group listed before loop)
    (known : ∀ (task : Nat) (found : TaskState Frame), before.tasks[task]? = some found →
      found.completion < before.nextPromise)
    {task : Nat} (isKnown : task < before.nextTask) :
    Enlists group (listed ++ [task]) before (loop.enlist group task) := by
  have entry : before.tasks[task]? = some before.tasks[task] := List.getElem?_eq_getElem isKnown
  have result : loop.enlist group task =
      loop.whenSettled before.tasks[task].completion (.memberEnded group) := by
    simp only [enlist, enlists.tasks, entry]
  rw [result]
  exact {
    tasks := (whenSettled_tasks _ _ loop).trans enlists.tasks
    outcomes := fun promise => (whenSettled_outcome? _ _ _ loop).trans (enlists.outcomes promise)
    groups := fun promise => (loop.whenSettled_groupOf? _ promise _).trans (enlists.groups promise)
    nextPromise := (whenSettled_nextPromise _ _ loop).trans enlists.nextPromise
    notes := fun promise => by
      have noted := loop.whenSettled_notes before.tasks[task].completion (.memberEnded group) promise
      have earlier := enlists.notes promise
      by_cases same : promise = group
      · simp only [same, Callback.group?, if_true, List.length_append, List.length_singleton]
          at noted earlier ⊢
        omega
      · have other : group ≠ promise := Ne.symm same
        simp only [Callback.group?, Option.some.injEq, other, same, if_false] at noted earlier ⊢
        omega
    waiting := fun promise callback waits =>
      loop.whenSettled_waitsFor_of _ (enlists.waiting promise callback waits)
    listed := fun member found inside found_entry unended => by
      rcases List.mem_append.mp inside with earlier | isLast
      · exact loop.whenSettled_waitsFor_of _ (enlists.listed member found earlier found_entry unended)
      · obtain rfl := List.mem_singleton.mp isLast
        obtain rfl := Option.some.inj (entry.symm.trans found_entry)
        have inside : before.tasks[member].completion < loop.nextPromise := by
          rw [enlists.nextPromise]
          exact known member _ entry
        refine (loop.whenSettled_self inside (.memberEnded group)).resolve_right fun settled => ?_
        rw [enlists.outcomes] at settled
        exact settled.1 unended }

theorem foldl
    {others : List Nat} (enlists : Enlists group listed before loop)
    (known : ∀ (task : Nat) (found : TaskState Frame), before.tasks[task]? = some found →
      found.completion < before.nextPromise)
    (inside : ∀ task ∈ others, task < before.nextTask) :
    Enlists group (listed ++ others) before (others.foldl (enlist group) loop) := by
  induction others generalizing listed loop with
  | nil =>
      rw [List.append_nil]
      exact enlists
  | cons task others inductionHypothesis =>
      have next := enlists.step known (inside task List.mem_cons_self)
      have rest := inductionHypothesis next fun other member =>
        inside other (List.mem_cons_of_mem task member)
      rw [List.append_assoc] at rest
      exact rest

end Enlists

/-- A scheduler comes from another one by the addition of a group of tasks. -/
structure Gains (members : List Nat) (before after : Scheduler Frame Action Result) : Prop where
  tasks : after.tasks = before.tasks
  nextPromise : after.nextPromise = before.nextPromise + 1
  outcomes : ∀ promise < before.nextPromise, after.outcome? promise = before.outcome? promise
  groups : ∀ promise group, after.groupOf? promise = some group →
    before.groupOf? promise = some group ∨
      promise = before.nextPromise ∧ group.members = members ∧
        after.notes promise ≤ before.notes promise + group.remaining
  kept : KeepsMembers before after
  gathered : ∃ group, after.groupOf? before.nextPromise = some group ∧ group.members = members
  notes : ∀ promise, promise ≠ before.nextPromise → after.notes promise ≤ before.notes promise
  waiting : ∀ promise callback, before.WaitsFor promise callback → after.WaitsFor promise callback
  noted : ∀ (member : Nat) (found : TaskState Frame), member ∈ members →
    before.tasks[member]? = some found → before.outcome? found.completion = none →
      after.WaitsFor found.completion (.memberEnded before.nextPromise)
  complete : ∀ result, after.outcome? before.nextPromise = some (.returned result) →
    ∀ member ∈ members, before.hasEnded member = true

theorem gather_eq (members : List Nat) (result : Result) (loop : Scheduler Frame Action Result) :
    loop.gather members result =
      (members.filter fun task => !loop.hasEnded task).foldl (enlist loop.nextPromise)
        (loop.addPromise {
          outcome :=
            if (members.filter fun task => !loop.hasEnded task).isEmpty then some (.returned result)
            else none
          group := some {
            members
            remaining := (members.filter fun task => !loop.hasEnded task).length
            cancelRequested := false } }) :=
  rfl

section Gather

variable {members : List Nat}
  (completions : ∀ (task : Nat) (found : TaskState Frame), loop.tasks[task]? = some found →
    found.completion < loop.nextPromise)
  (inside : ∀ member ∈ members, member < loop.nextTask)

include completions inside

theorem gather_gains (result : Result) : Gains members loop (loop.gather members result) := by
  rw [gather_eq]
  generalize unfinishedEq : (members.filter fun task => !loop.hasEnded task) = unfinished
  generalize entryEq : ({
    outcome := if unfinished.isEmpty then some (.returned result) else none
    group := some { members, remaining := unfinished.length, cancelRequested := false } } :
      Promise Action Result) = entry
  have free : entry.callbacks = [] := by rw [← entryEq]
  have enlists : Enlists loop.nextPromise unfinished (loop.addPromise entry)
      (unfinished.foldl (enlist loop.nextPromise) (loop.addPromise entry)) := by
    refine (Enlists.refl _ _).foldl (fun task found known => ?_) fun task member => ?_
    · rw [addPromise_nextPromise]
      exact Nat.lt_succ_of_lt (completions task found known)
    · exact inside task (List.mem_filter.mp (unfinishedEq ▸ member)).1
  generalize unfinished.foldl (enlist loop.nextPromise) (loop.addPromise entry) = after at enlists ⊢
  exact {
    tasks := enlists.tasks
    nextPromise := enlists.nextPromise.trans (addPromise_nextPromise entry loop)
    outcomes := fun promise known =>
      (enlists.outcomes promise).trans (addPromise_outcome?_of_lt entry known)
    groups := fun promise group isGroup => by
      rw [enlists.groups] at isGroup
      refine (loop.addPromise_groupOf? isGroup).imp_right fun ⟨isNew, same⟩ => ?_
      rw [← entryEq] at same
      obtain rfl := Option.some.inj same
      have noted := enlists.notes promise
      rw [addPromise_notes free, if_pos isNew] at noted
      exact ⟨isNew, rfl, noted⟩
    kept := (loop.addPromise_keepsMembers entry).trans (.of_same enlists.groups)
    gathered := by
      have added : (loop.addPromise entry).groupOf? loop.nextPromise = entry.group := by
        simp only [groupOf?, addPromise, nextPromise, List.getElem?_concat_length]
        rfl
      rw [enlists.groups, added, ← entryEq]
      exact ⟨_, rfl, rfl⟩
    notes := fun promise other => by
      have noted := enlists.notes promise
      rw [addPromise_notes free, if_neg other] at noted
      exact noted
    waiting := fun promise callback waits =>
      enlists.waiting promise callback ((loop.addPromise_waitsFor free promise callback).mpr waits)
    noted := fun member found member_inside known unended => by
      refine enlists.listed member found ?_ known ?_
      · rw [← unfinishedEq]
        refine List.mem_filter.mpr ⟨member_inside, ?_⟩
        simp [hasEnded, known, isSettled, unended]
      · exact (addPromise_outcome?_of_lt entry (completions member found known)).trans unended
    complete := fun ending isReturned member member_inside => by
      rw [enlists.outcomes, addPromise_outcome?_new, ← entryEq] at isReturned
      by_cases empty : unfinished.isEmpty = true
      · rw [← unfinishedEq, List.isEmpty_iff, List.filter_eq_nil_iff] at empty
        simpa using empty member member_inside
      · rw [if_neg empty] at isReturned
        cases isReturned }

/-- A group of tasks that were started is counted right. -/
theorem Tallied.gather (tallied : loop.Tallied) (result : Result) :
    (loop.gather members result).Tallied := by
  have gains := gather_gains completions inside result
  generalize loop.gather members result = after at gains ⊢
  have laterOver {task : Nat} (isOver : loop.IsOver task) : after.IsOver task := by
    obtain ⟨found, known, ended⟩ := isOver
    exact ⟨found, gains.tasks ▸ known, gains.outcomes _ (completions task found known) ▸ ended⟩
  exact {
    fresh := fun promise isNew => by
      rw [gains.nextPromise] at isNew
      have nothing := tallied.fresh promise (Nat.le_of_succ_le isNew)
      exact Nat.le_zero.mp (nothing ▸ gains.notes promise (Nat.ne_of_gt isNew))
    known := fun promise group isGroup member member_inside => by
      rw [nextTask, gains.tasks]
      rcases gains.groups promise group isGroup with earlier | ⟨_, rfl, _⟩
      · exact tallied.known promise group earlier member member_inside
      · exact inside member member_inside
    counted := fun promise group isGroup unsettled => by
      rcases gains.groups promise group isGroup with earlier | ⟨rfl, _, noted⟩
      · have known := lt_of_groupOf? earlier
        rw [gains.outcomes promise known] at unsettled
        exact Nat.le_trans (gains.notes promise (Nat.ne_of_lt known))
          (tallied.counted promise group earlier unsettled)
      · rw [tallied.fresh _ (Nat.le_refl _), Nat.zero_add] at noted
        exact noted
    noted := fun promise group isGroup unsettled member found member_inside known unended => by
      rw [gains.tasks] at known
      rw [gains.outcomes _ (completions member found known)] at unended
      rcases gains.groups promise group isGroup with earlier | ⟨rfl, rfl, _⟩
      · rw [gains.outcomes promise (lt_of_groupOf? earlier)] at unsettled
        exact gains.waiting _ _
          (tallied.noted promise group earlier unsettled member found member_inside known unended)
      · exact gains.noted member found member_inside known unended
    complete := fun promise group ending isGroup isReturned member member_inside => by
      rcases gains.groups promise group isGroup with earlier | ⟨rfl, rfl, _⟩
      · rw [gains.outcomes promise (lt_of_groupOf? earlier)] at isReturned
        exact laterOver (tallied.complete promise group ending earlier isReturned member member_inside)
      · exact laterOver (isOver_of_hasEnded (inside member member_inside)
          (gains.complete ending isReturned member member_inside)) }

end Gather

theorem outcome?_of_openGroup?
    {promise : Nat} {group : Group} (isOpen : loop.openGroup? promise = some group) :
    loop.outcome? promise = none := by
  unfold openGroup? at isOpen
  split at isOpen
  · cases isOpen
  · rename_i entry entryFound
    split at isOpen
    · cases isOpen
    · rename_i unsettled
      exact outcome?_eq_none_of_open entryFound unsettled

theorem modifyGroup_isOver
    {task : Nat} (promise : Nat) (change : Group → Group) (isOver : loop.IsOver task) :
    (loop.modifyGroup promise change).IsOver task := by
  obtain ⟨found, entry, ended⟩ := isOver
  refine ⟨found, entry, ?_⟩
  rw [modifyGroup_outcome?]
  exact ended

/-- The end of a member is noted while others are still to be noted. -/
theorem Tallied.countDown
    {promise : Nat} (tallied : loop.Tallied)
    (noted : ∀ group, loop.groupOf? promise = some group → loop.outcome? promise = none →
      loop.notes promise < group.remaining) :
    (loop.modifyGroup promise fun found =>
      { found with remaining := found.remaining - 1 }).Tallied where
  fresh := fun other isNew => by
    rw [modifyGroup_notes]
    exact tallied.fresh other (by simpa [modifyGroup, nextPromise] using isNew)
  known := fun other group isGroup member inside => by
    obtain ⟨earlier, isEarlier, ⟨_, rfl⟩ | ⟨_, rfl⟩⟩ := loop.modifyGroup_groupOf? _ _ isGroup
    · exact tallied.known other earlier isEarlier member inside
    · exact tallied.known other group isEarlier member inside
  counted := fun other group isGroup unsettled => by
    rw [modifyGroup_outcome?] at unsettled
    rw [modifyGroup_notes]
    obtain ⟨earlier, isEarlier, ⟨rfl, rfl⟩ | ⟨_, rfl⟩⟩ := loop.modifyGroup_groupOf? _ _ isGroup
    · exact Nat.le_sub_one_of_lt (noted earlier isEarlier unsettled)
    · exact tallied.counted other group isEarlier unsettled
  noted := fun other group isGroup unsettled member found inside entry unended => by
    rw [modifyGroup_outcome?] at unsettled unended
    rw [modifyGroup_waitsFor]
    obtain ⟨earlier, isEarlier, ⟨_, rfl⟩ | ⟨_, rfl⟩⟩ := loop.modifyGroup_groupOf? _ _ isGroup
    · exact tallied.noted other earlier isEarlier unsettled member found inside entry unended
    · exact tallied.noted other group isEarlier unsettled member found inside entry unended
  complete := fun other group result isGroup isReturned member inside => by
    rw [modifyGroup_outcome?] at isReturned
    obtain ⟨earlier, isEarlier, ⟨_, rfl⟩ | ⟨_, rfl⟩⟩ := loop.modifyGroup_groupOf? _ _ isGroup
    · exact modifyGroup_isOver _ _
        (tallied.complete other earlier result isEarlier isReturned member inside)
    · exact modifyGroup_isOver _ _
        (tallied.complete other group result isEarlier isReturned member inside)

/-- Only when the end of the last member is noted does a group end as usual. -/
theorem Tallied.endMember
    {promise : Nat} (tallied : loop.Tallied)
    (noted : ∀ group, loop.groupOf? promise = some group → loop.outcome? promise = none →
      loop.notes promise < group.remaining) (result : Result) :
    (loop.endMember promise result).Tallied := by
  unfold Scheduler.endMember
  split
  · exact tallied
  · rename_i group isOpen
    have isGroup := groupOf?_of_openGroup? isOpen
    have unsettled := outcome?_of_openGroup? isOpen
    have fewer := noted group isGroup unsettled
    split
    · rename_i isLast
      have keeps : KeepsGroups loop (loop.settle promise
          (if group.cancelRequested then .cancelled else .returned result)) := by
        refine loop.settle_keepsGroups fun other ending isOther _ member inside => ?_
        obtain rfl := Option.some.inj (isGroup.symm.trans isOther)
        -- Nobody is left who waits to note the end of a member, so all of them have ended.
        refine (isOver_or (tallied.known promise group isGroup member inside)).resolve_right ?_
        rintro ⟨found, entry, unended⟩
        have waits := (tallied.noted promise group isGroup unsettled member found inside entry
          unended).notes_pos
        omega
      exact tallied.keeps keeps
    · exact tallied.countDown noted

theorem endMember_keepsMembers (loop : Scheduler Frame Action Result) (promise : Nat)
    (result : Result) : KeepsMembers loop (loop.endMember promise result) := by
  unfold Scheduler.endMember
  split
  · exact .refl loop
  · split
    · exact .of_same fun other => loop.settle_groupOf? promise other _
    · exact loop.modifyGroup_keepsMembers promise fun _ => rfl

/-! ## The next callback -/

theorem beginRound_notes (group : Nat) : loop.beginRound.notes group = loop.notes group := by
  have fires : ∀ timers : List (Timer Action),
      (timers.map fun timer => Callback.fire timer.id timer.action).countP
        (fun callback => callback.group? = some group) = 0 := by
    intro timers
    refine List.countP_eq_zero.mpr fun callback member => ?_
    obtain ⟨timer, _, rfl⟩ := List.mem_map.mp member
    simp [Callback.group?]
  simp only [notes_eq, beginRound, List.countP_append, fires, Nat.add_zero]

/-- The end that is noted next is noted no more. -/
theorem notes_of_next?
    {rest : Scheduler Frame Action Result} {callback : Callback Action}
    (next : loop.next? = some (callback, rest)) (group : Nat) :
    rest.notes group + (if callback.group? = some group then 1 else 0) = loop.notes group := by
  have taken : ∀ (round : Scheduler Frame Action Result) (others : List (Callback Action))
      (left : Nat), round.ready = callback :: others →
        ({ round with ready := others, round := left } : Scheduler Frame Action Result).notes group +
          (if callback.group? = some group then 1 else 0) = round.notes group := by
    intro round others left isReady
    simp only [notes_eq, isReady, List.countP_cons, decide_eq_true_eq]
    omega
  unfold next? at next
  by_cases fresh : loop.round = 0
  · simp only [fresh, if_true] at next
    split at next
    · cases next
    · rename_i isReady
      obtain ⟨rfl, rfl⟩ := Prod.mk.inj (Option.some.inj next)
      exact (taken loop.beginRound _ _ isReady).trans (beginRound_notes group)
  · simp only [fresh, if_false] at next
    split at next
    · cases next
    · rename_i isReady
      obtain ⟨rfl, rfl⟩ := Prod.mk.inj (Option.some.inj next)
      exact taken loop _ _ isReady

theorem keepsGroups_of_next?
    {rest : Scheduler Frame Action Result} {callback : Callback Action}
    (next : loop.next? = some (callback, rest)) : KeepsGroups loop rest := by
  have taken := taken_of_next? next
  exact .of_promises taken.promises (fun task found entry => ⟨found, taken.tasks ▸ entry, rfl⟩)
    fun promise => notes_of_next? next promise ▸ Nat.le_add_right _ _

/-- Groups stay counted right when a callback is taken, and if it notes the end of a member there is
one more to count. -/
theorem Tallied.taken
    {rest : Scheduler Frame Action Result} {callback : Callback Action} (tallied : loop.Tallied)
    (next : loop.next? = some (callback, rest)) :
    rest.Tallied ∧
      ∀ promise, callback = .memberEnded promise → ∀ group, rest.groupOf? promise = some group →
        rest.outcome? promise = none → rest.notes promise < group.remaining := by
  have taken := taken_of_next? next
  refine ⟨tallied.keeps (keepsGroups_of_next? next), fun promise isNote group isGroup unsettled => ?_⟩
  rw [groupOf?, taken.promises] at isGroup
  rw [taken.outcome?_eq] at unsettled
  have counted := tallied.counted promise group isGroup unsettled
  have one := notes_of_next? next promise
  rw [isNote, Callback.group?, if_pos rfl] at one
  omega

theorem Tallied.of_empty
    (promises : loop.promises = []) (ready : loop.ready = []) : loop.Tallied := by
  have noGroup : ∀ promise group, loop.groupOf? promise ≠ some group := by
    intro promise group isGroup
    simp [groupOf?, promises] at isGroup
  exact {
    fresh := fun promise _ => by simp [notes, promises, ready]
    known := fun promise group isGroup => (noGroup promise group isGroup).elim
    counted := fun promise group isGroup => (noGroup promise group isGroup).elim
    noted := fun promise group isGroup => (noGroup promise group isGroup).elim
    complete := fun promise group _ isGroup => (noGroup promise group isGroup).elim }

end Scheduler

end LanguageClient.Loop
