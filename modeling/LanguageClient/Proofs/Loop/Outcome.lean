import LanguageClient.Loop.Scheduler

/-!
# Outcomes of promises

What each operation of the scheduler does to the outcomes of promises, and which callbacks it makes
ready. A promise that is settled keeps its outcome, and only settling a promise gives it one.
-/

namespace LanguageClient.Loop

variable {Frame Action Result : Type}

/-! ## Callbacks that let tasks go on -/

/-- The task that a callback lets go on. -/
def Callback.resumed? : Callback Action → Option Nat
  | .resume task => some task
  | .memberEnded _ | .fire _ _ | .act _ | .skipped => none

theorem Callback.resumed?_eq_some_iff {callback : Callback Action} {task : Nat} :
    callback.resumed? = some task ↔ callback = .resume task := by
  cases callback <;> simp [Callback.resumed?]

/-- The tasks that some callbacks let go on. -/
def resumed (callbacks : List (Callback Action)) : List Nat :=
  callbacks.filterMap Callback.resumed?

@[simp]
theorem resumed_append (left right : List (Callback Action)) :
    resumed (left ++ right) = resumed left ++ resumed right :=
  List.filterMap_append

theorem mem_resumed {callbacks : List (Callback Action)} {task : Nat} :
    task ∈ resumed callbacks ↔ .resume task ∈ callbacks := by
  simp only [resumed, List.mem_filterMap, Callback.resumed?_eq_some_iff, exists_eq_right]

theorem resumed_eq_nil
    {callbacks : List (Callback Action)}
    (others : ∀ callback ∈ callbacks, callback.resumed? = none) :
    resumed callbacks = [] :=
  List.filterMap_eq_nil_iff.mpr others

/-- What a list holds with one more entry it held before, or it is the new one at its end. -/
theorem getElem?_append_singleton_cases
    {Item : Type} {items : List Item} {item found : Item} {place : Nat}
    (entry : (items ++ [item])[place]? = some found) :
    items[place]? = some found ∨ place = items.length ∧ found = item := by
  rcases Nat.lt_or_ge place items.length with inside | outside
  · rw [List.getElem?_append_left inside] at entry
    exact Or.inl entry
  · rw [List.getElem?_append_right outside, List.getElem?_singleton] at entry
    split at entry
    · rename_i isFirst
      exact Or.inr ⟨Nat.le_antisymm (Nat.sub_eq_zero_iff_le.mp isFirst) outside,
        (Option.some.inj entry).symm⟩
    · cases entry

/-- What is seen of the items of a list stays, when an item is changed in a way that is not seen. -/
theorem map_modify_of_keeps
    {Item Seen : Type} {view : Item → Seen} {change : Item → Item}
    (keeps : ∀ item, view (change item) = view item) (items : List Item) (place : Nat) :
    (items.modify place change).map view = items.map view := by
  apply List.ext_getElem?
  intro index
  simp only [List.getElem?_map, List.getElem?_modify]
  cases items[index]? with
  | none => rfl
  | some item =>
      by_cases same : place = index
      · simp [same, keeps]
      · simp [same]

/-- A list without repetition stays so when something new is added at its end. -/
theorem nodup_append_singleton
    {Item : Type} {items : List Item} {item : Item} (distinct : items.Nodup)
    (isNew : item ∉ items) :
    (items ++ [item]).Nodup := by
  refine List.nodup_append.mpr ⟨distinct, by simp, ?_⟩
  intro earlier member added isAdded same
  rw [same, List.mem_singleton.mp isAdded] at member
  exact isNew member

namespace Scheduler

theorem outcome?_eq_none_of_le
    {promise : Nat} {loop : Scheduler Frame Action Result} (unknown : loop.nextPromise ≤ promise) :
    loop.outcome? promise = none := by
  simp [outcome?, List.getElem?_eq_none unknown]

theorem lt_nextPromise_of_outcome?
    {promise : Nat} {outcome : Outcome Result} {loop : Scheduler Frame Action Result}
    (settled : loop.outcome? promise = some outcome) :
    promise < loop.nextPromise := by
  rcases Nat.lt_or_ge promise loop.nextPromise with known | unknown
  · exact known
  · rw [outcome?_eq_none_of_le unknown] at settled
    cases settled

theorem outcome?_eq_none_of_open
    {promise : Nat} {entry : Promise Action Result} {loop : Scheduler Frame Action Result}
    (found : loop.promises[promise]? = some entry) (isOpen : entry.outcome = none) :
    loop.outcome? promise = none := by
  simp only [outcome?, found, Option.bind_some, isOpen]

/-! ## Settling -/

/-- Settling a promise does nothing, or the promise is open and its callbacks become ready. -/
theorem settle_cases
    (promise : Nat) (outcome : Outcome Result) (loop : Scheduler Frame Action Result) :
    loop.settle promise outcome = loop ∨
      ∃ entry, loop.promises[promise]? = some entry ∧ entry.outcome = none ∧
        loop.settle promise outcome = enqueue entry.callbacks { loop with
          promises := loop.promises.set promise
            { entry with outcome := some outcome, callbacks := [] } } := by
  cases found : loop.promises[promise]? with
  | none => exact Or.inl (by simp only [settle, found])
  | some entry =>
      cases before : entry.outcome with
      | some earlier => exact Or.inl (by simp only [settle, found, before])
      | none => exact Or.inr ⟨entry, rfl, before, by simp only [settle, found, before]⟩

/-- Settling a promise changes only the promises and what is ready. -/
theorem settle_eq
    (promise : Nat) (outcome : Outcome Result) (loop : Scheduler Frame Action Result) :
    loop.settle promise outcome =
      { loop with
        promises := (loop.settle promise outcome).promises
        ready := (loop.settle promise outcome).ready } := by
  unfold settle
  split
  · rfl
  · split <;> rfl

@[simp]
theorem settle_tasks
    (promise : Nat) (outcome : Outcome Result) (loop : Scheduler Frame Action Result) :
    (loop.settle promise outcome).tasks = loop.tasks := by
  rw [settle_eq]

@[simp]
theorem settle_timers
    (promise : Nat) (outcome : Outcome Result) (loop : Scheduler Frame Action Result) :
    (loop.settle promise outcome).timers = loop.timers := by
  rw [settle_eq]

@[simp]
theorem settle_now
    (promise : Nat) (outcome : Outcome Result) (loop : Scheduler Frame Action Result) :
    (loop.settle promise outcome).now = loop.now := by
  rw [settle_eq]

@[simp]
theorem settle_resolution
    (promise : Nat) (outcome : Outcome Result) (loop : Scheduler Frame Action Result) :
    (loop.settle promise outcome).resolution = loop.resolution := by
  rw [settle_eq]

@[simp]
theorem settle_nextPromise
    (promise : Nat) (outcome : Outcome Result) (loop : Scheduler Frame Action Result) :
    (loop.settle promise outcome).nextPromise = loop.nextPromise := by
  unfold settle
  split
  · rfl
  · split
    · rfl
    · simp [nextPromise, enqueue]

theorem settle_outcome?_of_ne
    {promise other : Nat} (outcome : Outcome Result) (loop : Scheduler Frame Action Result)
    (different : other ≠ promise) :
    (loop.settle promise outcome).outcome? other = loop.outcome? other := by
  unfold settle
  split
  · rfl
  · split
    · rfl
    · simp only [outcome?, enqueue]
      rw [List.getElem?_set_ne (Ne.symm different)]

theorem settle_outcome?_of_some
    {promise other : Nat} {found : Outcome Result} (outcome : Outcome Result)
    {loop : Scheduler Frame Action Result} (settled : loop.outcome? other = some found) :
    (loop.settle promise outcome).outcome? other = some found := by
  by_cases same : other = promise
  · subst same
    unfold settle
    unfold outcome? at settled
    split
    · exact settled
    · rename_i entry entryFound
      rw [entryFound] at settled
      simp only [Option.bind_some] at settled
      rw [settled]
      simp [outcome?, entryFound, settled]
  · rw [settle_outcome?_of_ne outcome loop same, settled]

theorem settle_outcome?_self
    {promise : Nat} (outcome : Outcome Result) {loop : Scheduler Frame Action Result}
    (known : promise < loop.nextPromise) (unsettled : loop.outcome? promise = none) :
    (loop.settle promise outcome).outcome? promise = some outcome := by
  unfold nextPromise at known
  have entryFound : loop.promises[promise]? = some loop.promises[promise] :=
    List.getElem?_eq_getElem known
  unfold outcome? at unsettled
  rw [entryFound] at unsettled
  simp only [Option.bind_some] at unsettled
  unfold settle
  rw [entryFound]
  simp [unsettled, outcome?, enqueue, known]

theorem settle_outcome?_cases
    {promise other : Nat} {outcome found : Outcome Result} {loop : Scheduler Frame Action Result}
    (settled : (loop.settle promise outcome).outcome? other = some found) :
    loop.outcome? other = some found ∨
      loop.outcome? other = none ∧ other = promise ∧ found = outcome := by
  by_cases same : other = promise
  · subst same
    cases before : loop.outcome? other with
    | some earlier =>
        rw [settle_outcome?_of_some outcome before] at settled
        exact Or.inl settled
    | none =>
        have known : other < loop.nextPromise := by
          rw [← settle_nextPromise other outcome loop]
          exact lt_nextPromise_of_outcome? settled
        rw [settle_outcome?_self outcome known before] at settled
        exact Or.inr ⟨rfl, rfl, (Option.some.inj settled).symm⟩
  · rw [settle_outcome?_of_ne outcome loop same] at settled
    exact Or.inl settled

/-- Settling makes ready only callbacks that waited for the promise. -/
theorem mem_settle_ready
    {promise : Nat} {outcome : Outcome Result} {loop : Scheduler Frame Action Result}
    {callback : Callback Action} (member : callback ∈ (loop.settle promise outcome).ready) :
    callback ∈ loop.ready ∨
      ∃ found ∈ loop.promises, callback ∈ found.callbacks := by
  rcases loop.settle_cases promise outcome with same | ⟨found, entryFound, _, settled⟩
  · rw [same] at member
    exact Or.inl member
  · rw [settled] at member
    rcases List.mem_append.mp member with earlier | released
    · exact Or.inl earlier
    · exact Or.inr ⟨found, List.mem_of_getElem? entryFound, released⟩

theorem mem_settle_promises
    {promise : Nat} {outcome : Outcome Result} {loop : Scheduler Frame Action Result}
    {entry : Promise Action Result} (member : entry ∈ (loop.settle promise outcome).promises) :
    ∃ found ∈ loop.promises,
      entry.group = found.group ∧ ∀ callback ∈ entry.callbacks, callback ∈ found.callbacks := by
  rcases loop.settle_cases promise outcome with same | ⟨found, entryFound, _, settled⟩
  · rw [same] at member
    exact ⟨entry, member, rfl, fun _ inside => inside⟩
  · rw [settled] at member
    rcases List.mem_or_eq_of_mem_set member with earlier | rfl
    · exact ⟨entry, earlier, rfl, fun _ inside => inside⟩
    · exact ⟨found, List.mem_of_getElem? entryFound, rfl, by simp⟩

@[simp]
theorem settle_groups
    (promise other : Nat) (outcome : Outcome Result) (loop : Scheduler Frame Action Result) :
    (loop.settle promise outcome).promises[other]?.map (·.group) =
      loop.promises[other]?.map (·.group) := by
  rcases loop.settle_cases promise outcome with same | ⟨found, entryFound, _, settled⟩
  · rw [same]
  · rw [settled]
    simp only [enqueue]
    by_cases same : promise = other
    · subst same
      rw [List.getElem?_set_self (List.getElem?_eq_some_iff.mp entryFound).1, entryFound]
      rfl
    · rw [List.getElem?_set_ne same]

/-! ## New promises -/

@[simp]
theorem addPromise_nextPromise
    (entry : Promise Action Result) (loop : Scheduler Frame Action Result) :
    (loop.addPromise entry).nextPromise = loop.nextPromise + 1 := by
  simp [addPromise, nextPromise]

theorem addPromise_outcome?_of_lt
    {promise : Nat} (entry : Promise Action Result) {loop : Scheduler Frame Action Result}
    (known : promise < loop.nextPromise) :
    (loop.addPromise entry).outcome? promise = loop.outcome? promise := by
  unfold nextPromise at known
  simp [addPromise, outcome?, List.getElem?_append_left known]

theorem addPromise_outcome?_new
    (entry : Promise Action Result) (loop : Scheduler Frame Action Result) :
    (loop.addPromise entry).outcome? loop.nextPromise = entry.outcome := by
  simp [addPromise, outcome?, nextPromise]

theorem addPromise_outcome?
    {entry : Promise Action Result} (promise : Nat) (loop : Scheduler Frame Action Result)
    (unsettled : entry.outcome = none) :
    (loop.addPromise entry).outcome? promise = loop.outcome? promise := by
  rcases Nat.lt_trichotomy promise loop.nextPromise with known | rfl | unknown
  · exact addPromise_outcome?_of_lt entry known
  · rw [addPromise_outcome?_new, unsettled, outcome?_eq_none_of_le (Nat.le_refl _)]
  · rw [outcome?_eq_none_of_le (Nat.le_of_lt unknown), outcome?_eq_none_of_le]
    rw [addPromise_nextPromise]
    omega

/-! ## Waiting for a promise -/

/-- A callback that waits for a promise is ready at once if the promise is settled, and kept by it
if it is open. -/
theorem whenSettled_cases
    (promise : Nat) (callback : Callback Action) (loop : Scheduler Frame Action Result) :
    loop.promises[promise]? = none ∧ loop.whenSettled promise callback = loop ∨
      loop.outcome? promise ≠ none ∧
        loop.whenSettled promise callback = loop.enqueue [callback] ∨
      ∃ entry, loop.promises[promise]? = some entry ∧ entry.outcome = none ∧
        loop.whenSettled promise callback = { loop with
          promises := loop.promises.set promise
            { entry with callbacks := entry.callbacks ++ [callback] } } := by
  cases found : loop.promises[promise]? with
  | none => exact Or.inl ⟨rfl, by simp only [whenSettled, found]⟩
  | some entry =>
      cases before : entry.outcome with
      | some earlier =>
          refine Or.inr (Or.inl ⟨?_, by simp only [whenSettled, found, before]⟩)
          simp [outcome?, found, before]
      | none =>
          exact Or.inr (Or.inr ⟨entry, rfl, before, by simp only [whenSettled, found, before]⟩)

/-- Waiting for a promise changes only the callbacks of promises and what is ready. -/
theorem whenSettled_eq
    (promise : Nat) (callback : Callback Action) (loop : Scheduler Frame Action Result) :
    loop.whenSettled promise callback =
      { loop with
        promises := (loop.whenSettled promise callback).promises
        ready := (loop.whenSettled promise callback).ready } := by
  unfold whenSettled
  split
  · rfl
  · split <;> rfl

@[simp]
theorem whenSettled_tasks
    (promise : Nat) (callback : Callback Action) (loop : Scheduler Frame Action Result) :
    (loop.whenSettled promise callback).tasks = loop.tasks := by
  rw [whenSettled_eq]

@[simp]
theorem whenSettled_timers
    (promise : Nat) (callback : Callback Action) (loop : Scheduler Frame Action Result) :
    (loop.whenSettled promise callback).timers = loop.timers := by
  rw [whenSettled_eq]

@[simp]
theorem whenSettled_now
    (promise : Nat) (callback : Callback Action) (loop : Scheduler Frame Action Result) :
    (loop.whenSettled promise callback).now = loop.now := by
  rw [whenSettled_eq]

@[simp]
theorem whenSettled_resolution
    (promise : Nat) (callback : Callback Action) (loop : Scheduler Frame Action Result) :
    (loop.whenSettled promise callback).resolution = loop.resolution := by
  rw [whenSettled_eq]

@[simp]
theorem whenSettled_nextPromise
    (promise : Nat) (callback : Callback Action) (loop : Scheduler Frame Action Result) :
    (loop.whenSettled promise callback).nextPromise = loop.nextPromise := by
  unfold whenSettled
  split
  · rfl
  · split
    · rfl
    · simp [nextPromise]

@[simp]
theorem whenSettled_outcome?
    (promise other : Nat) (callback : Callback Action) (loop : Scheduler Frame Action Result) :
    (loop.whenSettled promise callback).outcome? other = loop.outcome? other := by
  rcases loop.whenSettled_cases promise callback with
    ⟨_, same⟩ | ⟨_, same⟩ | ⟨found, entryFound, _, waits⟩
  · rw [same]
  · rw [same]
    rfl
  · rw [waits]
    simp only [outcome?]
    by_cases same : promise = other
    · subst same
      rw [List.getElem?_set_self (List.getElem?_eq_some_iff.mp entryFound).1, entryFound]
      rfl
    · rw [List.getElem?_set_ne same]

@[simp]
theorem whenSettled_groups
    (promise other : Nat) (callback : Callback Action) (loop : Scheduler Frame Action Result) :
    (loop.whenSettled promise callback).promises[other]?.map (·.group) =
      loop.promises[other]?.map (·.group) := by
  rcases loop.whenSettled_cases promise callback with
    ⟨_, same⟩ | ⟨_, same⟩ | ⟨found, entryFound, _, waits⟩
  · rw [same]
  · rw [same]
    rfl
  · rw [waits]
    by_cases same : promise = other
    · subst same
      rw [List.getElem?_set_self (List.getElem?_eq_some_iff.mp entryFound).1, entryFound]
      rfl
    · rw [List.getElem?_set_ne same]

theorem mem_whenSettled_ready
    {promise : Nat} {callback other : Callback Action} {loop : Scheduler Frame Action Result}
    (member : other ∈ (loop.whenSettled promise callback).ready) :
    other ∈ loop.ready ∨ other = callback := by
  rcases loop.whenSettled_cases promise callback with ⟨_, same⟩ | ⟨_, same⟩ | ⟨_, _, _, waits⟩
  · rw [same] at member
    exact Or.inl member
  · rw [same] at member
    exact (List.mem_append.mp member).imp id List.mem_singleton.mp
  · rw [waits] at member
    exact Or.inl member

theorem mem_whenSettled_promises
    {promise : Nat} {callback : Callback Action} {loop : Scheduler Frame Action Result}
    {entry : Promise Action Result}
    (member : entry ∈ (loop.whenSettled promise callback).promises) :
    ∃ found ∈ loop.promises,
      entry.group = found.group ∧
        ∀ other ∈ entry.callbacks, other ∈ found.callbacks ∨ other = callback := by
  have earlier (isEarlier : entry ∈ loop.promises) :
      ∃ found ∈ loop.promises, entry.group = found.group ∧
        ∀ other ∈ entry.callbacks, other ∈ found.callbacks ∨ other = callback :=
    ⟨entry, isEarlier, rfl, fun _ inside => Or.inl inside⟩
  rcases loop.whenSettled_cases promise callback with
    ⟨_, same⟩ | ⟨_, same⟩ | ⟨found, entryFound, _, waits⟩
  · rw [same] at member
    exact earlier member
  · rw [same] at member
    exact earlier member
  · rw [waits] at member
    rcases List.mem_or_eq_of_mem_set member with isEarlier | rfl
    · exact earlier isEarlier
    · exact ⟨found, List.mem_of_getElem? entryFound, rfl, by simp⟩

@[simp]
theorem modifyGroup_outcome?
    (promise : Nat) (change : Group → Group) {loop : Scheduler Frame Action Result} (other : Nat) :
    (loop.modifyGroup promise change).outcome? other = loop.outcome? other := by
  simp only [outcome?, modifyGroup, List.getElem?_modify]
  cases loop.promises[other]? with
  | none =>
      rfl
  | some found =>
      by_cases same : promise = other
      · simp [same]
      · simp [same]

/-! ## Tasks -/

@[simp]
theorem spawn_nextPromise (stack : List Frame) (loop : Scheduler Frame Action Result) :
    (loop.spawn stack).nextPromise = loop.nextPromise + 1 := by
  simp [spawn, enqueue, addPromise, nextPromise]

@[simp]
theorem spawn_outcome?
    (promise : Nat) (stack : List Frame) (loop : Scheduler Frame Action Result) :
    (loop.spawn stack).outcome? promise = loop.outcome? promise :=
  addPromise_outcome? promise loop rfl

@[simp]
theorem suspend_nextPromise
    (task : Nat) (stack : List Frame) (promise : Nat) (loop : Scheduler Frame Action Result) :
    (loop.suspend task stack promise).nextPromise = loop.nextPromise := by
  unfold suspend
  rw [whenSettled_nextPromise]
  rfl

@[simp]
theorem suspend_outcome?
    (task : Nat) (stack : List Frame) (promise other : Nat)
    (loop : Scheduler Frame Action Result) :
    (loop.suspend task stack promise).outcome? other = loop.outcome? other := by
  unfold suspend
  rw [whenSettled_outcome?]
  rfl

@[simp]
theorem suspend_now
    (task : Nat) (stack : List Frame) (promise : Nat) (loop : Scheduler Frame Action Result) :
    (loop.suspend task stack promise).now = loop.now := by
  unfold suspend
  rw [whenSettled_now]
  rfl

@[simp]
theorem suspend_resolution
    (task : Nat) (stack : List Frame) (promise : Nat) (loop : Scheduler Frame Action Result) :
    (loop.suspend task stack promise).resolution = loop.resolution := by
  unfold suspend
  rw [whenSettled_resolution]
  rfl

theorem suspend_tasks_self
    {task : Nat} {found : TaskState Frame} {loop : Scheduler Frame Action Result}
    (stack : List Frame) (promise : Nat) (entry : loop.tasks[task]? = some found) :
    (loop.suspend task stack promise).tasks[task]? =
      some { found with stack, awaiting := some promise } := by
  simp [suspend, modifyTask, entry]

theorem suspend_tasks_of_ne
    {task other : Nat} (stack : List Frame) (promise : Nat) (loop : Scheduler Frame Action Result)
    (different : other ≠ task) :
    (loop.suspend task stack promise).tasks[other]? = loop.tasks[other]? := by
  simp [suspend, modifyTask, Ne.symm different]

/-! ## Groups -/

/-- What holds when a group was added, and still holds when somebody waits for a completion, holds of
a scheduler that gathers tasks. -/
theorem gather_induction
    {motive : Scheduler Frame Action Result → Prop} {loop : Scheduler Frame Action Result}
    (members : List Nat) (result : Result)
    (added : ∀ (outcome : Option (Outcome Result)) (group : Group),
      outcome = none ∨ outcome = some (.returned result) → group.cancelRequested = false →
        motive (loop.addPromise { outcome, group := some group }))
    (waits : ∀ current completion group, motive current →
      motive (current.whenSettled completion (.memberEnded group))) :
    motive (loop.gather members result) := by
  refine List.foldlRecOn (motive := motive) _ _ ?_ ?_
  · refine added _ _ ?_ rfl
    split
    · exact Or.inr rfl
    · exact Or.inl rfl
  · intro current holds _ _
    split
    · exact holds
    · exact waits current _ _ holds

/-- A group that is added is settled at once if all its members have ended. -/
theorem gather_outcome?
    (members : List Nat) (result : Result) (loop : Scheduler Frame Action Result) :
    (loop.gather members result).outcome? loop.nextPromise = none ∨
      (loop.gather members result).outcome? loop.nextPromise = some (.returned result) := by
  refine gather_induction (motive := fun current =>
    current.outcome? loop.nextPromise = none ∨
      current.outcome? loop.nextPromise = some (.returned result)) members result ?_ ?_
  · intro outcome group ended _
    rw [addPromise_outcome?_new]
    exact ended
  · intro current completion group ended
    rw [whenSettled_outcome?]
    exact ended

/-! ## The next callback -/

theorem mem_insertByDeadline
    {timer other : Timer Action} {ordered : List (Timer Action)} :
    other ∈ insertByDeadline timer ordered ↔ other = timer ∨ other ∈ ordered := by
  induction ordered with
  | nil =>
      simp [insertByDeadline]
  | cons head rest inductionHypothesis =>
      unfold insertByDeadline
      split
      · rw [List.mem_cons, inductionHypothesis, List.mem_cons, or_left_comm]
      · rw [List.mem_cons]

theorem mem_foldl_insertByDeadline
    {timers ordered : List (Timer Action)} {other : Timer Action} :
    other ∈ timers.foldl (fun ordered timer => insertByDeadline timer ordered) ordered ↔
      other ∈ timers ∨ other ∈ ordered := by
  induction timers generalizing ordered with
  | nil =>
      simp
  | cons timer rest inductionHypothesis =>
      rw [List.foldl_cons, inductionHypothesis, mem_insertByDeadline, List.mem_cons,
        ← or_assoc, or_comm (b := other = timer)]

/-- Taking the next callback leaves promises, tasks and the clock as they are. The callback was
ready, or belongs to a timer that is due; so do all others that are ready afterwards. -/
structure Taken
    (loop : Scheduler Frame Action Result) (callback : Callback Action)
    (rest : Scheduler Frame Action Result) : Prop where
  promises : rest.promises = loop.promises
  tasks : rest.tasks = loop.tasks
  now : rest.now = loop.now
  resolution : rest.resolution = loop.resolution
  timers : ∀ timer, timer ∈ rest.timers → timer ∈ loop.timers
  ready : ∀ other, other = callback ∨ other ∈ rest.ready →
    other ∈ loop.ready ∨
      ∃ timer ∈ loop.timers, loop.isDue timer = true ∧ other = .fire timer.id timer.action
  resumed : resumed (callback :: rest.ready) = resumed loop.ready
  readyKept : ∀ other ∈ loop.ready, other = callback ∨ other ∈ rest.ready
  timersKept : ∀ timer ∈ loop.timers,
    timer ∈ rest.timers ∨ .fire timer.id timer.action = callback ∨
      .fire timer.id timer.action ∈ rest.ready

namespace Taken

variable {loop rest : Scheduler Frame Action Result} {callback : Callback Action}
  (taken : Taken loop callback rest)

include taken

theorem nextPromise_eq : rest.nextPromise = loop.nextPromise :=
  congrArg List.length taken.promises

theorem outcome?_eq (promise : Nat) : rest.outcome? promise = loop.outcome? promise := by
  simp only [Scheduler.outcome?, taken.promises]

theorem hasEnded_eq (task : Nat) : rest.hasEnded task = loop.hasEnded task := by
  simp only [Scheduler.hasEnded, Scheduler.isSettled, taken.outcome?_eq, taken.tasks]

end Taken

/-- When a round begins, the callbacks of the timers that are due become ready. -/
theorem mem_beginRound_ready
    {loop : Scheduler Frame Action Result} {callback : Callback Action} :
    callback ∈ loop.beginRound.ready ↔
      callback ∈ loop.ready ∨
        ∃ timer ∈ loop.timers, loop.isDue timer = true ∧
          callback = .fire timer.id timer.action := by
  simp only [beginRound, List.mem_append, List.mem_map, mem_foldl_insertByDeadline,
    List.mem_filter, List.not_mem_nil, or_false]
  constructor
  · rintro (earlier | ⟨timer, ⟨member, due⟩, rfl⟩)
    · exact Or.inl earlier
    · exact Or.inr ⟨timer, member, due, rfl⟩
  · rintro (earlier | ⟨timer, member, due, rfl⟩)
    · exact Or.inl earlier
    · exact Or.inr ⟨timer, ⟨member, due⟩, rfl⟩

theorem beginRound_resumed (loop : Scheduler Frame Action Result) :
    resumed loop.beginRound.ready = resumed loop.ready := by
  simp only [beginRound, resumed_append]
  refine List.append_right_eq_self.mpr (resumed_eq_nil fun callback member => ?_)
  obtain ⟨timer, _, rfl⟩ := List.mem_map.mp member
  rfl

/-- The first callback is taken when a round has begun. -/
theorem taken_of_beginRound
    {loop : Scheduler Frame Action Result} {callback : Callback Action}
    {others : List (Callback Action)} {round : Nat}
    (readyEq : loop.beginRound.ready = callback :: others) :
    Taken loop callback { loop.beginRound with ready := others, round } where
  promises := rfl
  tasks := rfl
  now := rfl
  resolution := rfl
  timers := fun timer member => (List.mem_filter.mp member).1
  ready := fun other member => by
    rw [← mem_beginRound_ready, readyEq]
    exact List.mem_cons.mpr member
  resumed := by
    rw [← beginRound_resumed, readyEq]
  readyKept := fun other member => by
    rw [← List.mem_cons, ← readyEq]
    exact mem_beginRound_ready.mpr (Or.inl member)
  timersKept := fun timer member => by
    by_cases due : loop.isDue timer = true
    · right
      have isReady := mem_beginRound_ready.mpr (Or.inr ⟨timer, member, due, rfl⟩)
      rw [readyEq] at isReady
      exact List.mem_cons.mp isReady
    · left
      simp [beginRound, member, due]

theorem taken_of_ready
    {loop : Scheduler Frame Action Result} {callback : Callback Action}
    {others : List (Callback Action)} {round : Nat}
    (readyEq : loop.ready = callback :: others) :
    Taken loop callback { loop with ready := others, round } where
  promises := rfl
  tasks := rfl
  now := rfl
  resolution := rfl
  timers := fun _ member => member
  ready := fun other member => by
    rw [readyEq]
    exact Or.inl (List.mem_cons.mpr member)
  resumed := by rw [readyEq]
  readyKept := fun other member => by
    rw [readyEq] at member
    exact List.mem_cons.mp member
  timersKept := fun _ member => Or.inl member

theorem taken_of_next?
    {loop rest : Scheduler Frame Action Result} {callback : Callback Action}
    (next : loop.next? = some (callback, rest)) :
    Taken loop callback rest := by
  unfold next? at next
  by_cases fresh : loop.round = 0
  · simp only [fresh, if_true] at next
    split at next
    · cases next
    · rename_i found others readyEq
      simp only [Option.some.injEq, Prod.mk.injEq] at next
      obtain ⟨rfl, rfl⟩ := next
      exact taken_of_beginRound readyEq
  · simp only [fresh, if_false] at next
    split at next
    · cases next
    · rename_i found others readyEq
      simp only [Option.some.injEq, Prod.mk.injEq] at next
      obtain ⟨rfl, rfl⟩ := next
      exact taken_of_ready readyEq

end Scheduler

end LanguageClient.Loop
