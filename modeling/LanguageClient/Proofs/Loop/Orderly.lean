import LanguageClient.Proofs.Loop.Outcome

/-!
# Orderly schedulers

An invariant that every operation of the scheduler keeps: tasks, callbacks, timers and groups stay
within a scope, each task has a completion of its own, and nobody awaits the completion of a task.
-/

namespace LanguageClient.Loop

open LanguageClient.Number

variable {Frame Action Result : Type}

/-- What the tasks, the callbacks, the timers and the groups of a scheduler may be. A task is seen
as its stack and the promise that it awaits. -/
structure Scope (Frame Action : Type) where
  task : List Frame → Option Nat → Prop
  callback : Callback Action → Prop
  timer : Timer Action → Prop
  group : Group → Prop

/-- Whether one scope admits all that another one admits. -/
structure Scope.Within (scope wider : Scope Frame Action) : Prop where
  task : ∀ stack awaiting, scope.task stack awaiting → wider.task stack awaiting
  callback : ∀ callback, scope.callback callback → wider.callback callback
  timer : ∀ timer, scope.timer timer → wider.timer timer
  group : ∀ group, scope.group group → wider.group group

namespace Scheduler

/-- The completions of the tasks. -/
def completions (loop : Scheduler Frame Action Result) : List Nat :=
  loop.tasks.map (·.completion)

/-- A promise that exists and is not the completion of a task. -/
structure IsPlain (loop : Scheduler Frame Action Result) (promise : Nat) : Prop where
  known : promise < loop.nextPromise
  noCompletion : promise ∉ loop.completions

/-- A promise that exists and stands for no group of tasks. -/
def IsUngrouped (loop : Scheduler Frame Action Result) (promise : Nat) : Prop :=
  loop.promises[promise]?.map (·.group) = some none

/-- The invariant of a scheduler whose parts lie in a scope. -/
structure Orderly (scope : Scope Frame Action) (loop : Scheduler Frame Action Result) : Prop where
  tasks : ∀ task ∈ loop.tasks, scope.task task.stack task.awaiting
  waiting : ∀ entry ∈ loop.promises, ∀ callback ∈ entry.callbacks, scope.callback callback
  ready : ∀ callback ∈ loop.ready, scope.callback callback
  timers : ∀ timer ∈ loop.timers, scope.timer timer
  groups : ∀ entry ∈ loop.promises, ∀ group, entry.group = some group → scope.group group
  completionsKnown : ∀ completion ∈ loop.completions, completion < loop.nextPromise
  completionsDistinct : loop.completions.Nodup
  completionsUngrouped : ∀ completion ∈ loop.completions, loop.IsUngrouped completion
  awaited : ∀ task ∈ loop.tasks, ∀ promise, task.awaiting = some promise → loop.IsPlain promise

variable {scope : Scope Frame Action} {loop rest : Scheduler Frame Action Result}

theorem IsPlain.of_le
    {promise : Nat} (plain : loop.IsPlain promise)
    (sameTasks : rest.completions = loop.completions)
    (grown : loop.nextPromise ≤ rest.nextPromise) :
    rest.IsPlain promise :=
  ⟨Nat.lt_of_lt_of_le plain.known grown, sameTasks ▸ plain.noCompletion⟩

theorem Taken.completions_eq
    {callback : Callback Action} (taken : Taken loop callback rest) :
    rest.completions = loop.completions := by
  simp only [completions, taken.tasks]

theorem Taken.isPlain
    {callback : Callback Action} {promise : Nat} (taken : Taken loop callback rest)
    (plain : loop.IsPlain promise) : rest.IsPlain promise :=
  plain.of_le taken.completions_eq (Nat.le_of_eq taken.nextPromise_eq.symm)

theorem Taken.isUngrouped
    {callback : Callback Action} {promise : Nat} (taken : Taken loop callback rest)
    (ungrouped : loop.IsUngrouped promise) : rest.IsUngrouped promise := by
  unfold IsUngrouped
  rw [taken.promises]
  exact ungrouped

theorem IsPlain.spawn
    {promise : Nat} (stack : List Frame) (plain : loop.IsPlain promise) :
    (loop.spawn stack).IsPlain promise := by
  constructor
  · rw [spawn_nextPromise]
    exact Nat.lt_succ_of_lt plain.known
  · have different : promise ≠ loop.nextPromise := Nat.ne_of_lt plain.known
    have absent := plain.noCompletion
    simp only [completions] at absent
    simp [completions, Scheduler.spawn, enqueue, addPromise, absent, different]

theorem addPromise_isUngrouped
    {promise : Nat} (entry : Promise Action Result) (ungrouped : loop.IsUngrouped promise) :
    (loop.addPromise entry).IsUngrouped promise := by
  unfold IsUngrouped at ungrouped ⊢
  obtain ⟨found, foundEntry, _⟩ := Option.map_eq_some_iff.mp ungrouped
  have inside : promise < loop.promises.length := (List.getElem?_eq_some_iff.mp foundEntry).1
  simp only [addPromise]
  rw [List.getElem?_append_left inside, ungrouped]

theorem addPromise_isUngrouped_new
    {entry : Promise Action Result} (noGroup : entry.group = none) :
    (loop.addPromise entry).IsUngrouped loop.nextPromise := by
  simp [IsUngrouped, addPromise, nextPromise, noGroup]

theorem modifyGroup_isUngrouped
    {other : Nat} (promise : Nat) (change : Group → Group) (ungrouped : loop.IsUngrouped other) :
    (loop.modifyGroup promise change).IsUngrouped other := by
  unfold IsUngrouped at ungrouped ⊢
  simp only [Scheduler.modifyGroup, List.getElem?_modify]
  obtain ⟨found, entry, noGroup⟩ := Option.map_eq_some_iff.mp ungrouped
  by_cases same : promise = other
  · simp [entry, noGroup, same]
  · simp [entry, noGroup, same]

theorem Orderly.addPromise_isPlain
    (orderly : loop.Orderly scope) (entry : Promise Action Result) :
    (loop.addPromise entry).IsPlain loop.nextPromise := by
  constructor
  · simp
  · intro member
    exact Nat.lt_irrefl _ (orderly.completionsKnown _ member)

/-- A new promise stays plain when a timer is armed for it and a callback waits for it. -/
theorem Orderly.armed_isPlain
    (orderly : loop.Orderly scope) (delay : Delay) (action : Action) (callback : Callback Action) :
    (((loop.addPromise {}).arm delay action).whenSettled loop.nextPromise callback).IsPlain
      loop.nextPromise := by
  obtain ⟨known, noCompletion⟩ := orderly.addPromise_isPlain {}
  refine ⟨?_, ?_⟩
  · rw [whenSettled_nextPromise]
    exact known
  · simp only [completions, whenSettled_tasks]
    exact noCompletion

theorem completions_modifyTask
    (task : Nat) {change : TaskState Frame → TaskState Frame}
    (keeps : ∀ found, (change found).completion = found.completion) :
    (loop.modifyTask task change).completions = loop.completions :=
  map_modify_of_keeps keeps loop.tasks task

@[simp]
theorem settle_completions
    (promise : Nat) (outcome : Outcome Result) (loop : Scheduler Frame Action Result) :
    (loop.settle promise outcome).completions = loop.completions := by
  simp only [completions, settle_tasks]

@[simp]
theorem whenSettled_completions
    (promise : Nat) (callback : Callback Action) (loop : Scheduler Frame Action Result) :
    (loop.whenSettled promise callback).completions = loop.completions := by
  simp only [completions, whenSettled_tasks]

@[simp]
theorem suspend_completions
    (task : Nat) (stack : List Frame) (promise : Nat) (loop : Scheduler Frame Action Result) :
    (loop.suspend task stack promise).completions = loop.completions := by
  rw [Scheduler.suspend, whenSettled_completions]
  exact completions_modifyTask task fun _ => rfl

theorem mem_modify
    {Item : Type} {place : Nat} {change : Item → Item} {items : List Item} {item : Item}
    (member : item ∈ items.modify place change) :
    item ∈ items ∨ ∃ found, items[place]? = some found ∧ item = change found := by
  obtain ⟨index, found⟩ := List.mem_iff_getElem?.mp member
  rw [List.getElem?_modify] at found
  cases entry : items[index]? with
  | none =>
      simp [entry] at found
  | some earlier =>
      rw [entry] at found
      by_cases same : place = index
      · subst same
        simp only [if_true, Option.map_eq_map, Option.map_some, Option.some.injEq] at found
        exact Or.inr ⟨earlier, entry, found.symm⟩
      · simp only [same, if_false, Option.map_eq_map, Option.map_some, Option.some.injEq] at found
        exact Or.inl (List.mem_of_getElem? (found ▸ entry))

namespace Orderly

theorem of_empty
    (promises : loop.promises = []) (tasks : loop.tasks = []) (ready : loop.ready = [])
    (timers : loop.timers = []) :
    loop.Orderly scope := by
  constructor <;> simp [promises, tasks, ready, timers, completions]

theorem mono
    {wider : Scope Frame Action} (orderly : loop.Orderly scope) (within : scope.Within wider) :
    loop.Orderly wider where
  tasks := fun task member => within.task _ _ (orderly.tasks task member)
  waiting := fun entry member callback inside =>
    within.callback _ (orderly.waiting entry member callback inside)
  ready := fun callback member => within.callback _ (orderly.ready callback member)
  timers := fun timer member => within.timer _ (orderly.timers timer member)
  groups := fun entry member group found =>
    within.group _ (orderly.groups entry member group found)
  completionsKnown := orderly.completionsKnown
  completionsDistinct := orderly.completionsDistinct
  completionsUngrouped := orderly.completionsUngrouped
  awaited := orderly.awaited

theorem enqueue
    {callbacks : List (Callback Action)} (orderly : loop.Orderly scope)
    (allowed : ∀ callback ∈ callbacks, scope.callback callback) :
    (loop.enqueue callbacks).Orderly scope :=
  { orderly with
    ready := fun callback member => by
      rcases List.mem_append.mp member with earlier | added
      · exact orderly.ready callback earlier
      · exact allowed callback added
    awaited := fun task member promise awaits =>
      (orderly.awaited task member promise awaits).of_le rfl (Nat.le_refl _) }

theorem addPromise
    (orderly : loop.Orderly scope) (entry : Promise Action Result)
    (allowed : ∀ callback ∈ entry.callbacks, scope.callback callback)
    (grouped : ∀ group, entry.group = some group → scope.group group) :
    (loop.addPromise entry).Orderly scope :=
  { orderly with
    waiting := fun other member callback inside => by
      rcases List.mem_append.mp member with earlier | added
      · exact orderly.waiting other earlier callback inside
      · rw [List.mem_singleton.mp added] at inside
        exact allowed callback inside
    groups := fun other member group found => by
      rcases List.mem_append.mp member with earlier | added
      · exact orderly.groups other earlier group found
      · rw [List.mem_singleton.mp added] at found
        exact grouped group found
    completionsKnown := fun completion member => by
      rw [addPromise_nextPromise]
      exact Nat.lt_succ_of_lt (orderly.completionsKnown completion member)
    completionsUngrouped := fun completion member =>
      addPromise_isUngrouped entry (orderly.completionsUngrouped completion member)
    awaited := fun task member promise awaits =>
      (orderly.awaited task member promise awaits).of_le rfl (by simp) }

theorem settle
    (orderly : loop.Orderly scope) (promise : Nat) (outcome : Outcome Result) :
    (loop.settle promise outcome).Orderly scope where
  tasks := by
    rw [settle_tasks]
    exact orderly.tasks
  waiting := fun entry member callback inside => by
    obtain ⟨found, earlier, _, kept⟩ := mem_settle_promises member
    exact orderly.waiting found earlier callback (kept callback inside)
  ready := fun callback member => by
    rcases mem_settle_ready member with earlier | ⟨found, earlier, inside⟩
    · exact orderly.ready callback earlier
    · exact orderly.waiting found earlier callback inside
  timers := by
    rw [settle_timers]
    exact orderly.timers
  groups := fun entry member group found => by
    obtain ⟨earlierEntry, earlier, sameGroup, _⟩ := mem_settle_promises member
    exact orderly.groups earlierEntry earlier group (sameGroup ▸ found)
  completionsKnown := by
    rw [settle_completions, settle_nextPromise]
    exact orderly.completionsKnown
  completionsDistinct := by
    rw [settle_completions]
    exact orderly.completionsDistinct
  completionsUngrouped := fun completion member => by
    rw [settle_completions] at member
    exact (settle_groups promise completion outcome loop).trans
      (orderly.completionsUngrouped completion member)
  awaited := fun task member other awaits => by
    rw [settle_tasks] at member
    exact (orderly.awaited task member other awaits).of_le (by simp) (by simp)

theorem whenSettled
    {callback : Callback Action} (orderly : loop.Orderly scope) (promise : Nat)
    (allowed : scope.callback callback) :
    (loop.whenSettled promise callback).Orderly scope where
  tasks := by
    rw [whenSettled_tasks]
    exact orderly.tasks
  waiting := fun entry member other inside => by
    obtain ⟨found, earlier, _, kept⟩ := mem_whenSettled_promises member
    rcases kept other inside with before | rfl
    · exact orderly.waiting found earlier other before
    · exact allowed
  ready := fun other member => by
    rcases mem_whenSettled_ready member with earlier | rfl
    · exact orderly.ready other earlier
    · exact allowed
  timers := by
    rw [whenSettled_timers]
    exact orderly.timers
  groups := fun entry member group found => by
    obtain ⟨earlierEntry, earlier, sameGroup, _⟩ := mem_whenSettled_promises member
    exact orderly.groups earlierEntry earlier group (sameGroup ▸ found)
  completionsKnown := by
    rw [whenSettled_completions, whenSettled_nextPromise]
    exact orderly.completionsKnown
  completionsDistinct := by
    rw [whenSettled_completions]
    exact orderly.completionsDistinct
  completionsUngrouped := fun completion member => by
    rw [whenSettled_completions] at member
    exact (whenSettled_groups promise completion callback loop).trans
      (orderly.completionsUngrouped completion member)
  awaited := fun task member other awaits => by
    rw [whenSettled_tasks] at member
    exact (orderly.awaited task member other awaits).of_le (by simp) (by simp)

theorem modifyTask
    {task : Nat} {change : TaskState Frame → TaskState Frame} (orderly : loop.Orderly scope)
    (keeps : ∀ found, (change found).completion = found.completion)
    (allowed : ∀ found, loop.tasks[task]? = some found →
      scope.task (change found).stack (change found).awaiting)
    (awaits : ∀ found, loop.tasks[task]? = some found →
      ∀ promise, (change found).awaiting = some promise → loop.IsPlain promise) :
    (loop.modifyTask task change).Orderly scope :=
  { orderly with
    tasks := fun other member => by
      rcases mem_modify member with earlier | ⟨found, entry, rfl⟩
      · exact orderly.tasks other earlier
      · exact allowed found entry
    completionsKnown := by
      rw [completions_modifyTask task keeps]
      exact orderly.completionsKnown
    completionsDistinct := by
      rw [completions_modifyTask task keeps]
      exact orderly.completionsDistinct
    completionsUngrouped := by
      rw [completions_modifyTask task keeps]
      exact orderly.completionsUngrouped
    awaited := fun other member promise awaited => by
      have plain : loop.IsPlain promise := by
        rcases mem_modify member with earlier | ⟨found, entry, rfl⟩
        · exact orderly.awaited other earlier promise awaited
        · exact awaits found entry promise awaited
      exact plain.of_le (completions_modifyTask task keeps) (Nat.le_refl _) }

theorem spawn
    {stack : List Frame} (orderly : loop.Orderly scope)
    (allowed : scope.task stack none)
    (resumable : scope.callback (.resume loop.nextTask)) :
    (loop.spawn stack).Orderly scope where
  tasks := fun task member => by
    rcases List.mem_append.mp member with earlier | added
    · exact orderly.tasks task earlier
    · rw [List.mem_singleton.mp added]
      exact allowed
  waiting := (orderly.addPromise {} (by simp) (by simp)).waiting
  ready := fun callback member => by
    rcases List.mem_append.mp member with earlier | added
    · exact orderly.ready callback earlier
    · rw [List.mem_singleton.mp added]
      exact resumable
  timers := orderly.timers
  groups := (orderly.addPromise {} (by simp) (by simp)).groups
  completionsKnown := fun completion member => by
    rw [spawn_nextPromise]
    simp only [completions, Scheduler.spawn, Scheduler.enqueue, List.map_append, List.map_cons,
      List.map_nil, List.mem_append, List.mem_singleton] at member
    rcases member with earlier | rfl
    · exact Nat.lt_succ_of_lt (orderly.completionsKnown completion earlier)
    · exact Nat.lt_succ_self _
  completionsDistinct := by
    have fresh : loop.nextPromise ∉ loop.completions := fun member =>
      Nat.lt_irrefl _ (orderly.completionsKnown _ member)
    simp only [completions, Scheduler.spawn, Scheduler.enqueue, List.map_append, List.map_cons,
      List.map_nil]
    exact nodup_append_singleton orderly.completionsDistinct fresh
  completionsUngrouped := fun completion member => by
    simp only [completions, Scheduler.spawn, Scheduler.enqueue, List.map_append, List.map_cons,
      List.map_nil, List.mem_append, List.mem_singleton] at member
    rcases member with earlier | rfl
    · exact addPromise_isUngrouped {} (orderly.completionsUngrouped completion earlier)
    · exact addPromise_isUngrouped_new rfl
  awaited := fun task member promise awaits => by
    rcases List.mem_append.mp member with earlier | added
    · exact (orderly.awaited task earlier promise awaits).spawn stack
    · rw [List.mem_singleton.mp added] at awaits
      cases awaits

theorem suspend
    {task promise : Nat} {stack : List Frame} (orderly : loop.Orderly scope)
    (allowed : scope.task stack (some promise)) (plain : loop.IsPlain promise)
    (resumable : scope.callback (.resume task)) :
    (loop.suspend task stack promise).Orderly scope := by
  have modified :
      (loop.modifyTask task fun found =>
        { found with stack, awaiting := some promise }).Orderly scope := by
    refine orderly.modifyTask (fun _ => rfl) (fun _ _ => allowed) ?_
    intro _ _ other awaits
    rw [← Option.some.inj awaits]
    exact plain
  exact modified.whenSettled promise resumable

theorem requestCancel (orderly : loop.Orderly scope) (task : Nat) :
    (loop.requestCancel task).Orderly scope :=
  orderly.modifyTask (fun _ => rfl)
    (fun found entry => orderly.tasks found (List.mem_of_getElem? entry))
    (fun found entry => orderly.awaited found (List.mem_of_getElem? entry))

theorem cancelMember (orderly : loop.Orderly scope) (task : Nat) :
    (loop.cancelMember task).Orderly scope := by
  unfold Scheduler.cancelMember
  split
  · exact orderly
  · split
    · exact orderly.requestCancel task
    · split
      · exact orderly.requestCancel task
      · exact orderly.settle _ .cancelled

theorem modifyGroup
    {promise : Nat} {change : Group → Group} (orderly : loop.Orderly scope)
    (allowed : ∀ group, scope.group group → scope.group (change group)) :
    (loop.modifyGroup promise change).Orderly scope :=
  { orderly with
    waiting := fun entry member callback inside => by
      rcases mem_modify member with earlier | ⟨found, foundEntry, rfl⟩
      · exact orderly.waiting entry earlier callback inside
      · exact orderly.waiting found (List.mem_of_getElem? foundEntry) callback inside
    groups := fun entry member group found => by
      rcases mem_modify member with earlier | ⟨earlierEntry, foundEntry, rfl⟩
      · exact orderly.groups entry earlier group found
      · obtain ⟨before, beforeFound, rfl⟩ := Option.map_eq_some_iff.mp found
        exact allowed before
          (orderly.groups earlierEntry (List.mem_of_getElem? foundEntry) before beforeFound)
    completionsKnown := fun completion member => by
      simpa [Scheduler.modifyGroup, nextPromise] using orderly.completionsKnown completion member
    completionsUngrouped := fun completion member =>
      modifyGroup_isUngrouped promise change (orderly.completionsUngrouped completion member)
    awaited := fun task member other awaits =>
      (orderly.awaited task member other awaits).of_le rfl
        (by simp [Scheduler.modifyGroup, nextPromise]) }

theorem cancel
    (orderly : loop.Orderly scope) (task : Nat)
    (allowed : ∀ group, scope.group group → scope.group { group with cancelRequested := true }) :
    (loop.cancel task).Orderly scope := by
  have members : ∀ (tasks : List Nat) (current : Scheduler Frame Action Result),
      current.Orderly scope → (tasks.foldl Scheduler.cancelMember current).Orderly scope := by
    intro tasks
    induction tasks with
    | nil =>
        exact fun _ currentOrderly => currentOrderly
    | cons head others inductionHypothesis =>
        intro current currentOrderly
        exact inductionHypothesis _ (currentOrderly.cancelMember head)
  unfold Scheduler.cancel
  split
  · exact orderly.cancelMember task
  · split
    · exact orderly.requestCancel task
    · exact (members _ _ orderly).modifyGroup allowed

theorem arm
    {delay : Delay} {action : Action} (orderly : loop.Orderly scope)
    (allowed : scope.timer
      { id := loop.timersArmed, deadline := loop.deadline delay, action }) :
    (loop.arm delay action).Orderly scope :=
  { orderly with
    timers := fun timer member => by
      rcases List.mem_append.mp member with earlier | added
      · exact orderly.timers timer earlier
      · rw [List.mem_singleton.mp added]
        exact allowed
    awaited := fun task member promise awaits =>
      (orderly.awaited task member promise awaits).of_le rfl (Nat.le_refl _) }

theorem disarm
    (orderly : loop.Orderly scope) (timer : Nat) (allowed : scope.callback .skipped) :
    (loop.disarm timer).Orderly scope :=
  { orderly with
    ready := fun callback member => by
      obtain ⟨earlier, earlierMember, rfl⟩ := List.mem_map.mp member
      have before := orderly.ready earlier earlierMember
      cases earlier with
      | fire other action =>
          simp only [withoutTimer]
          split
          · exact allowed
          · exact before
      | resume _ => exact before
      | memberEnded _ => exact before
      | act _ => exact before
      | skipped => exact before
    timers := fun other member => orderly.timers other (List.mem_filter.mp member).1
    awaited := fun task member promise awaits =>
      (orderly.awaited task member promise awaits).of_le rfl (Nat.le_refl _) }

theorem moveClock (orderly : loop.Orderly scope) (moment : Rat) :
    (loop.moveClock moment).Orderly scope :=
  { orderly with
    awaited := fun task member promise awaits =>
      (orderly.awaited task member promise awaits).of_le rfl (Nat.le_refl _) }

theorem taken
    {callback : Callback Action} (orderly : loop.Orderly scope) (taken : Taken loop callback rest)
    (fires : ∀ timer, scope.timer timer → loop.isDue timer = true →
      scope.callback (.fire timer.id timer.action)) :
    rest.Orderly scope ∧ scope.callback callback := by
  have allowed : ∀ other, other = callback ∨ other ∈ rest.ready → scope.callback other := by
    intro other member
    rcases taken.ready other member with earlier | ⟨timer, armed, due, rfl⟩
    · exact orderly.ready other earlier
    · exact fires timer (orderly.timers timer armed) due
  refine ⟨?_, allowed callback (Or.inl rfl)⟩
  exact {
    tasks := by
      rw [taken.tasks]
      exact orderly.tasks
    waiting := by
      rw [taken.promises]
      exact orderly.waiting
    ready := fun other member => allowed other (Or.inr member)
    timers := fun timer member => orderly.timers timer (taken.timers timer member)
    groups := by
      rw [taken.promises]
      exact orderly.groups
    completionsKnown := by
      rw [taken.completions_eq, taken.nextPromise_eq]
      exact orderly.completionsKnown
    completionsDistinct := by
      rw [taken.completions_eq]
      exact orderly.completionsDistinct
    completionsUngrouped := fun completion member =>
      taken.isUngrouped (orderly.completionsUngrouped completion (taken.completions_eq ▸ member))
    awaited := fun task member promise awaits =>
      taken.isPlain (orderly.awaited task (taken.tasks ▸ member) promise awaits) }

end Orderly

end Scheduler

end LanguageClient.Loop
