import LanguageClient.Proofs.Loop.Orderly

/-!
# The timers of a scheduler

A timer is armed until its callback has run or it is disarmed: first it waits for its deadline, then
its callback waits for its turn. Operations on tasks and promises leave all timers as they are, so who
arms a timer only after disarming the last one never has two of them.
-/

namespace LanguageClient.Loop

open LanguageClient.Number

variable {Frame Action Result : Type}

/-- The timer that a callback belongs to. -/
def Callback.timer? : Callback Action → Option Nat
  | .fire timer _ => some timer
  | .resume _ | .memberEnded _ | .act _ | .skipped => none

namespace Scheduler

/-- The timers that were due and whose callbacks have not run. -/
def due (loop : Scheduler Frame Action Result) : List Nat := loop.ready.filterMap Callback.timer?

/-- The timers that are armed: those that wait for their deadlines, and those that were due. -/
def armed (loop : Scheduler Frame Action Result) : List Nat := loop.timers.map (·.id) ++ loop.due

/-- No timer waits for a promise. -/
def IsPrompt (loop : Scheduler Frame Action Result) : Prop :=
  ∀ entry ∈ loop.promises, ∀ callback ∈ entry.callbacks, callback.timer? = none

/-- A scheduler comes from another one while the clock stands still and no timer is armed, is disarmed
or fires. -/
structure KeepsTimers (before after : Scheduler Frame Action Result) : Prop where
  now : after.now = before.now
  resolution : after.resolution = before.resolution
  timers : after.timers = before.timers
  due : before.IsPrompt → after.due = before.due
  prompt : before.IsPrompt → after.IsPrompt

/-- Of all timers at most the given one is armed. -/
structure HasOnly (timer? : Option Nat) (loop : Scheduler Frame Action Result) : Prop where
  armed : loop.armed = timer?.toList
  prompt : loop.IsPrompt

theorem due_append (callbacks : List (Callback Action)) (loop : Scheduler Frame Action Result) :
    (loop.enqueue callbacks).due = loop.due ++ callbacks.filterMap Callback.timer? :=
  List.filterMap_append

theorem mem_due {loop : Scheduler Frame Action Result} {timer : Nat} {action : Action}
    (fires : .fire timer action ∈ loop.ready) : timer ∈ loop.due :=
  List.mem_filterMap.mpr ⟨_, fires, rfl⟩

theorem exists_fire_of_due {loop : Scheduler Frame Action Result} (due : loop.due ≠ []) :
    ∃ timer action, .fire timer action ∈ loop.ready := by
  obtain ⟨timer, member⟩ := List.exists_mem_of_ne_nil _ due
  obtain ⟨callback, isReady, isTimer⟩ := List.mem_filterMap.mp member
  cases callback with
  | fire other action => exact ⟨other, action, isReady⟩
  | _ => cases isTimer

namespace KeepsTimers

variable {before middle after : Scheduler Frame Action Result}

theorem of_same
    (now : after.now = before.now) (resolution : after.resolution = before.resolution)
    (timers : after.timers = before.timers) (ready : after.ready = before.ready)
    (prompt : before.IsPrompt → after.IsPrompt) : before.KeepsTimers after :=
  ⟨now, resolution, timers, fun _ => congrArg (List.filterMap Callback.timer?) ready, prompt⟩

theorem refl (loop : Scheduler Frame Action Result) : loop.KeepsTimers loop :=
  .of_same rfl rfl rfl rfl id

theorem trans (first : before.KeepsTimers middle) (second : middle.KeepsTimers after) :
    before.KeepsTimers after where
  now := second.now.trans first.now
  resolution := second.resolution.trans first.resolution
  timers := second.timers.trans first.timers
  due := fun prompt => (second.due (first.prompt prompt)).trans (first.due prompt)
  prompt := second.prompt ∘ first.prompt

end KeepsTimers

/-! ## Tasks and promises -/

section Operations

variable (loop : Scheduler Frame Action Result)

theorem enqueue_keepsTimers
    {callbacks : List (Callback Action)}
    (untimed : ∀ callback ∈ callbacks, callback.timer? = none) :
    loop.KeepsTimers (loop.enqueue callbacks) where
  now := rfl
  resolution := rfl
  timers := rfl
  due := fun _ => by
    rw [due_append, List.filterMap_eq_nil_iff.mpr untimed, List.append_nil]
  prompt := id

theorem addPromise_keepsTimers
    {entry : Promise Action Result} (free : entry.callbacks = []) :
    loop.KeepsTimers (loop.addPromise entry) := by
  refine .of_same rfl rfl rfl rfl fun prompt => List.forall_mem_append.mpr ⟨prompt, ?_⟩
  intro added member
  rw [List.mem_singleton.mp member, free]
  simp

/-- One promise changes, and no timer waits for it. -/
theorem set_keepsTimers
    {entry : Promise Action Result} (promise : Nat)
    (untimed : loop.IsPrompt → ∀ callback ∈ entry.callbacks, callback.timer? = none) :
    loop.KeepsTimers { loop with promises := loop.promises.set promise entry } := by
  refine .of_same rfl rfl rfl rfl fun prompt found member => ?_
  rcases List.mem_or_eq_of_mem_set member with earlier | rfl
  · exact prompt found earlier
  · exact untimed prompt

theorem settle_keepsTimers (promise : Nat) (outcome : Outcome Result) :
    loop.KeepsTimers (loop.settle promise outcome) := by
  rcases loop.settle_cases promise outcome with same | ⟨found, isEntry, _, settled⟩
  · rw [same]
    exact .refl loop
  · have cleared : loop.KeepsTimers { loop with
        promises := loop.promises.set promise
          { found with outcome := some outcome, callbacks := [] } } :=
      loop.set_keepsTimers promise (by simp)
    rw [settled]
    refine ⟨rfl, rfl, rfl, fun prompt => ?_, cleared.prompt⟩
    rw [due_append, List.filterMap_eq_nil_iff.mpr (prompt found (List.mem_of_getElem? isEntry)),
      List.append_nil]
    rfl

theorem whenSettled_keepsTimers
    {callback : Callback Action} (promise : Nat) (untimed : callback.timer? = none) :
    loop.KeepsTimers (loop.whenSettled promise callback) := by
  rcases loop.whenSettled_cases promise callback with
    ⟨_, same⟩ | ⟨_, same⟩ | ⟨found, isEntry, _, waits⟩
  · rw [same]
    exact .refl loop
  · rw [same]
    exact loop.enqueue_keepsTimers (by simpa using untimed)
  · rw [waits]
    refine loop.set_keepsTimers promise fun prompt => List.forall_mem_append.mpr ⟨?_, ?_⟩
    · exact prompt found (List.mem_of_getElem? isEntry)
    · simpa using untimed

theorem spawn_keepsTimers (stack : List Frame) : loop.KeepsTimers (loop.spawn stack) := by
  have added : loop.KeepsTimers { loop.addPromise {} with
      tasks := loop.tasks ++ [{
        stack, awaiting := none, cancelRequested := false, completion := loop.nextPromise }] } :=
    .of_same rfl rfl rfl rfl (loop.addPromise_keepsTimers rfl).prompt
  exact added.trans (enqueue_keepsTimers _ (by simp [Callback.timer?]))

theorem modifyTask_keepsTimers (task : Nat) (change : TaskState Frame → TaskState Frame) :
    loop.KeepsTimers (loop.modifyTask task change) :=
  .of_same rfl rfl rfl rfl id

theorem suspend_keepsTimers (task : Nat) (stack : List Frame) (promise : Nat) :
    loop.KeepsTimers (loop.suspend task stack promise) :=
  (loop.modifyTask_keepsTimers task _).trans (whenSettled_keepsTimers _ promise rfl)

theorem modifyGroup_keepsTimers (promise : Nat) (change : Group → Group) :
    loop.KeepsTimers (loop.modifyGroup promise change) := by
  refine .of_same rfl rfl rfl rfl fun prompt found member => ?_
  rcases mem_modify member with earlier | ⟨entry, isEntry, rfl⟩
  · exact prompt found earlier
  · exact prompt entry (List.mem_of_getElem? isEntry)

theorem gather_keepsTimers (members : List Nat) (result : Result) :
    loop.KeepsTimers (loop.gather members result) := by
  refine gather_induction (motive := fun current => loop.KeepsTimers current) members result ?_ ?_
  · intro outcome group _ _
    exact loop.addPromise_keepsTimers rfl
  · intro current completion group keeps
    exact keeps.trans (current.whenSettled_keepsTimers completion rfl)

theorem endMember_keepsTimers (promise : Nat) (result : Result) :
    loop.KeepsTimers (loop.endMember promise result) := by
  unfold endMember
  split
  · exact .refl loop
  · split
    · exact loop.settle_keepsTimers promise _
    · exact loop.modifyGroup_keepsTimers promise _

theorem cancelMember_keepsTimers (task : Nat) : loop.KeepsTimers (loop.cancelMember task) := by
  unfold cancelMember
  split
  · exact .refl loop
  · split
    · exact loop.modifyTask_keepsTimers task _
    · split
      · exact loop.modifyTask_keepsTimers task _
      · exact loop.settle_keepsTimers _ .cancelled

theorem cancel_keepsTimers (task : Nat) : loop.KeepsTimers (loop.cancel task) := by
  unfold cancel
  split
  · exact loop.cancelMember_keepsTimers task
  · rename_i promise group _
    split
    · exact loop.modifyTask_keepsTimers task _
    · have cancelled : loop.KeepsTimers (group.members.foldl cancelMember loop) :=
        List.foldlRecOn group.members _ (.refl loop) fun current keeps member _ =>
          keeps.trans (current.cancelMember_keepsTimers member)
      exact cancelled.trans (modifyGroup_keepsTimers _ promise _)

end Operations

/-! ## The order of timers that are due -/

theorem insertByDeadline_perm (timer : Timer Action) (ordered : List (Timer Action)) :
    (insertByDeadline timer ordered).Perm (timer :: ordered) := by
  induction ordered with
  | nil => exact .refl _
  | cons head rest inductionHypothesis =>
      unfold insertByDeadline
      split
      · exact (inductionHypothesis.cons head).trans (.swap timer head rest)
      · exact .refl _

theorem foldl_insertByDeadline_perm (timers ordered : List (Timer Action)) :
    (timers.foldl (fun ordered timer => insertByDeadline timer ordered) ordered).Perm
      (timers ++ ordered) := by
  induction timers generalizing ordered with
  | nil => exact .refl _
  | cons timer rest inductionHypothesis =>
      refine (inductionHypothesis (insertByDeadline timer ordered)).trans ?_
      exact ((insertByDeadline_perm timer ordered).append_left rest).trans List.perm_middle

/-- When a round begins, timers that are due wait for their turn instead. -/
theorem beginRound_armed_perm (loop : Scheduler Frame Action Result) :
    loop.beginRound.armed.Perm loop.armed := by
  have fires : ∀ timers : List (Timer Action),
      (timers.map fun timer => Callback.fire timer.id timer.action).filterMap Callback.timer? =
        timers.map (·.id) := by
    intro timers
    rw [List.filterMap_map]
    exact congrFun (List.filterMap_eq_map (f := Timer.id)) timers
  have ordered := (foldl_insertByDeadline_perm (loop.timers.filter loop.isDue) []).map (·.id)
  rw [List.append_nil] at ordered
  have split := (List.filter_append_perm loop.isDue loop.timers).map (·.id)
  rw [List.map_append] at split
  have swapped : (loop.due ++ (loop.timers.filter loop.isDue).map (·.id)).Perm
      ((loop.timers.filter loop.isDue).map (·.id) ++ loop.due) :=
    List.perm_append_comm
  simp only [armed, due, beginRound, List.filterMap_append, fires]
  refine ((ordered.append_left _).append_left _).trans ((swapped.append_left _).trans ?_)
  rw [← List.append_assoc]
  exact (List.perm_append_comm.trans split).append_right loop.due

/-- A timer stays armed until the callback that is taken is its own. -/
theorem armed_perm_of_next?
    {loop rest : Scheduler Frame Action Result} {callback : Callback Action}
    (next : loop.next? = some (callback, rest)) :
    (callback.timer?.toList ++ rest.armed).Perm loop.armed := by
  have taken : ∀ (round : Scheduler Frame Action Result) (others : List (Callback Action))
      (left : Nat), round.ready = callback :: others →
        (callback.timer?.toList ++ ({ round with ready := others, round := left } :
          Scheduler Frame Action Result).armed).Perm round.armed := by
    intro round others left isReady
    have first : round.due = callback.timer?.toList ++ others.filterMap Callback.timer? := by
      rw [due, isReady, List.filterMap_cons]
      cases callback.timer? <;> rfl
    rw [armed, armed, first]
    exact List.perm_append_comm_assoc _ _ _
  unfold next? at next
  by_cases fresh : loop.round = 0
  · simp only [fresh, if_true] at next
    split at next
    · cases next
    · rename_i isReady
      obtain ⟨rfl, rfl⟩ := Prod.mk.inj (Option.some.inj next)
      exact (taken loop.beginRound _ _ isReady).trans loop.beginRound_armed_perm
  · simp only [fresh, if_false] at next
    split at next
    · cases next
    · rename_i isReady
      obtain ⟨rfl, rfl⟩ := Prod.mk.inj (Option.some.inj next)
      exact taken loop _ _ isReady

/-! ## One timer at most -/

namespace HasOnly

variable {timer? : Option Nat} {loop after : Scheduler Frame Action Result}

theorem of_empty
    (timers : loop.timers = []) (ready : loop.ready = []) (promises : loop.promises = []) :
    loop.HasOnly none :=
  ⟨by simp [Scheduler.armed, due, timers, ready], by simp [IsPrompt, promises]⟩

variable (only : loop.HasOnly timer?)

include only

theorem keeps (keeps : loop.KeepsTimers after) : after.HasOnly timer? where
  armed := by
    rw [← only.armed, Scheduler.armed, Scheduler.armed, keeps.timers, keeps.due only.prompt]
  prompt := keeps.prompt only.prompt

theorem moveClock (moment : Rat) : (loop.moveClock moment).HasOnly timer? := ⟨only.armed, only.prompt⟩

theorem eq_some_of_mem {timer : Nat} (member : timer ∈ loop.armed) : timer? = some timer := by
  rw [only.armed] at member
  exact Option.mem_toList.mp member

theorem eq_some_of_timer {timer : Timer Action} (waits : timer ∈ loop.timers) :
    timer? = some timer.id :=
  only.eq_some_of_mem (List.mem_append_left _ (List.mem_map.mpr ⟨timer, waits, rfl⟩))

theorem disarm (timer : Nat) (known : timer? = some timer) : (loop.disarm timer).HasOnly none := by
  have timers : loop.timers.filter (fun found => found.id ≠ timer) = [] := by
    refine List.filter_eq_nil_iff.mpr fun found waits => ?_
    have same := only.eq_some_of_timer waits
    rw [known] at same
    simp [Option.some.inj same]
  have ready : (loop.ready.map (withoutTimer timer)).filterMap Callback.timer? = [] := by
    refine List.filterMap_eq_nil_iff.mpr fun left member => ?_
    obtain ⟨callback, isReady, rfl⟩ := List.mem_map.mp member
    cases callback with
    | fire other action =>
        have same := only.eq_some_of_mem (List.mem_append_right _ (mem_due isReady))
        rw [known] at same
        simp [withoutTimer, Option.some.inj same, Callback.timer?]
    | _ => rfl
  exact ⟨by rw [Scheduler.armed, due, Scheduler.disarm, timers, ready]; rfl, only.prompt⟩

omit only in
theorem arm (free : loop.HasOnly none) (delay : Delay) (action : Action) :
    (loop.arm delay action).HasOnly (some loop.timersArmed) ∧
      (loop.arm delay action).timers =
        [{ id := loop.timersArmed, deadline := loop.deadline delay, action }] := by
  obtain ⟨timers, due⟩ := List.append_eq_nil_iff.mp free.armed
  have noTimer := List.map_eq_nil_iff.mp timers
  refine ⟨⟨?_, free.prompt⟩, by rw [Scheduler.arm, noTimer]; rfl⟩
  have sameDue : (loop.arm delay action).due = [] := due
  rw [Scheduler.armed, sameDue, Scheduler.arm, noTimer]
  rfl

/-- The timer stays armed while other callbacks are taken, and is gone when its own is. -/
theorem taken
    {rest : Scheduler Frame Action Result} {callback : Callback Action}
    (next : loop.next? = some (callback, rest)) :
    (callback.timer? = none ∧ rest.HasOnly timer?) ∨
      ∃ timer, callback.timer? = some timer ∧ timer? = some timer ∧ rest.HasOnly none := by
  have prompt : rest.IsPrompt := by
    rw [IsPrompt, (taken_of_next? next).promises]
    exact only.prompt
  have perm := armed_perm_of_next? next
  rw [only.armed] at perm
  cases fired : callback.timer? with
  | none =>
      rw [fired] at perm
      cases timer? with
      | none => exact Or.inl ⟨rfl, List.perm_nil.mp perm, prompt⟩
      | some timer => exact Or.inl ⟨rfl, List.perm_singleton.mp perm, prompt⟩
  | some timer =>
      rw [fired] at perm
      cases timer? with
      | none => cases List.perm_nil.mp perm
      | some other =>
          obtain ⟨rfl, nothing⟩ := List.cons.inj (List.perm_singleton.mp perm)
          exact Or.inr ⟨timer, rfl, rfl, nothing, prompt⟩

end HasOnly

end Scheduler

end LanguageClient.Loop
