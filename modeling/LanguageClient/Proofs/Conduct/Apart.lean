import LanguageClient.Proofs.Conduct.Turns

/-!
# What tasks keep to themselves

No two tasks hold the same promise, and all tasks that the client minds have been started. So what
happens to the promises of a task that is not minded, while somebody else runs, is what the
connection, the lock, the peer and the clock do.
-/

namespace LanguageClient.Client.System

open LanguageClient.Json LanguageClient.Loop LanguageClient.Number LanguageClient.Protocol

variable {held : List Nat} {before after system : System} {input : Input}

/-- Every promise that a task holds exists and is no completion. -/
def HoldsPlain (system : System) : Prop :=
  ∀ (task : Nat) (found : TaskState Frame) (promise : Nat), system.loop.tasks[task]? = some found →
    promise ∈ heldPromises found.stack found.awaiting → system.loop.IsPlain promise

theorem HoldsPlain.ne_completion
    {system : System} (plain : system.HoldsPlain) {task other promise : Nat}
    {found state : TaskState Frame} (entry : system.loop.tasks[task]? = some found)
    (holds : promise ∈ heldPromises found.stack found.awaiting)
    (otherEntry : system.loop.tasks[other]? = some state) : promise ≠ state.completion := by
  rintro rfl
  refine (plain task found _ entry holds).noCompletion ?_
  exact List.mem_map.mpr ⟨state, List.mem_of_getElem? otherEntry, rfl⟩

/-- No promise is held by two tasks, and the tasks and the promises that the client minds exist. -/
structure Separate (system : System) : Prop where
  apart : ∀ (task other : Nat) (found otherFound : TaskState Frame) (promise : Nat),
    system.loop.tasks[task]? = some found → system.loop.tasks[other]? = some otherFound →
      promise ∈ heldPromises found.stack found.awaiting →
        promise ∈ heldPromises otherFound.stack otherFound.awaiting → task = other
  minded : ∀ task, system.Minds task → task < system.nextTask
  signals : ∀ promise ∈ system.signals, promise < system.nextPromise

theorem mem_heldPromises_of_awaits
    {found : TaskState Frame} {promise : Nat} (awaits : found.awaiting = some promise) :
    promise ∈ heldPromises found.stack found.awaiting := by
  rw [awaits]
  exact List.mem_append_left _ (List.mem_singleton.mpr rfl)

/-! ## What stays -/

theorem heldPromises_of_begin
    {stack : List Frame} {call : Call} (begins : stack = [.begin call]) :
    heldPromises stack none = [] := by
  rw [begins]
  rfl

theorem heldPromises_of_ownBeginning {stack : List Frame} (own : IsOwnBeginning stack) :
    heldPromises stack none = [] := by
  rcases own with ⟨session, id, begins⟩ | ⟨synchronizer, begins⟩
  · exact heldPromises_of_begin begins
  · exact heldPromises_of_begin begins

/-- A task that has not just had its turn holds what it held. -/
theorem Stays.heldPromises
    {task : Nat} {later : TaskState Frame} {promise : Nat} (stays : Stays before input task later)
    (member : promise ∈ heldPromises later.stack later.awaiting) :
    ∃ earlier : TaskState Frame, before.loop.tasks[task]? = some earlier ∧
      promise ∈ heldPromises earlier.stack earlier.awaiting := by
  rcases stays with ⟨earlier, entry, sameStack, sameAwaiting⟩ | ⟨_, idle, own | ⟨call, _, begins⟩⟩
  · exact ⟨earlier, entry, sameAwaiting ▸ sameStack ▸ member⟩
  · rw [idle, heldPromises_of_ownBeginning own] at member
    cases member
  · rw [idle, heldPromises_of_begin begins] at member
    cases member

theorem Separate.apart_of_stays
    (separate : Separate before)
    (stays : ∀ (task : Nat) (later : TaskState Frame), after.loop.tasks[task]? = some later →
      Stays before input task later)
    (task other : Nat) (found otherFound : TaskState Frame) (promise : Nat)
    (entry : after.loop.tasks[task]? = some found)
    (otherEntry : after.loop.tasks[other]? = some otherFound)
    (member : promise ∈ heldPromises found.stack found.awaiting)
    (otherMember : promise ∈ heldPromises otherFound.stack otherFound.awaiting) : task = other := by
  obtain ⟨earlier, earlierEntry, holds⟩ := (stays task found entry).heldPromises member
  obtain ⟨otherEarlier, otherEarlierEntry, otherHolds⟩ :=
    (stays other otherFound otherEntry).heldPromises otherMember
  exact separate.apart task other earlier otherEarlier promise earlierEntry otherEarlierEntry holds
    otherHolds

/-! ## What the client minds -/

/-- Only tasks that the client minded before, or has started meanwhile, does it mind. -/
theorem Respects.minds_cases
    {task : Nat} (respects : Respects held before after) (minds : after.Minds task) :
    before.Minds task ∨ before.nextTask ≤ task ∧ task < after.nextTask := by
  rcases minds with own | ⟨promise, group, isGroup, member⟩
  · exact (respects.ownTasks task own).imp_left Or.inl
  · rcases respects.loop.groups promise group isGroup with ⟨earlier, isEarlier, same⟩ | ⟨_, members⟩
    · exact Or.inl (Or.inr ⟨promise, earlier, isEarlier, same ▸ member⟩)
    · exact members task member

theorem Separate.minded_of_respects
    (separate : Separate before) (respects : Respects held before after) (task : Nat)
    (minds : after.Minds task) : task < after.nextTask := by
  rcases respects.minds_cases minds with earlier | ⟨_, known⟩
  · exact Nat.lt_of_lt_of_le (separate.minded task earlier) respects.loop.nextTask
  · exact known

theorem Separate.signals_of_respects
    (separate : Separate before) (respects : Respects held before after) :
    ∀ promise ∈ after.signals, promise < after.nextPromise := by
  intro promise member
  rcases respects.signals promise member with earlier | ⟨_, known⟩
  · exact Nat.lt_of_lt_of_le (separate.signals promise earlier) respects.loop.grown
  · exact known

theorem Separate.idles
    (separate : Separate before) (idles : Idles held before before after) : Separate after where
  apart := separate.apart_of_stays fun _ _ entry => idles.stays .turn entry
  minded := separate.minded_of_respects idles.respects
  signals := separate.signals_of_respects idles.respects

theorem minds_of_spawn
    {call : Call} {task : Nat} (minds : (before.spawn call).Minds task) : before.Minds task := by
  have stands : before.loop.Stands (fun _ => False) (fun _ _ => False) (fun _ => True)
      (before.loop.spawn [.begin call]) := before.loop.spawn_stands trivial
  rcases minds with own | ⟨promise, group, isGroup, member⟩
  · exact Or.inl own
  · rcases stands.groups promise group isGroup with ⟨earlier, isEarlier, same⟩ | ⟨_, members⟩
    · exact Or.inr ⟨promise, earlier, isEarlier, same ▸ member⟩
    · exact (members task member).elim

theorem Separate.spawn (separate : Separate before) (call : Call) : Separate (before.spawn call) := by
  have stands : before.loop.Stands (fun _ => False) (fun _ _ => False) (fun _ => True)
      (before.loop.spawn [.begin call]) := before.loop.spawn_stands trivial
  refine ⟨separate.apart_of_stays fun _ _ entry => spawn_stays entry, fun task minds => ?_,
    fun promise member => ?_⟩
  · exact Nat.lt_of_lt_of_le (separate.minded task (minds_of_spawn minds)) stands.nextTask
  · exact Nat.lt_of_lt_of_le (separate.signals promise member) stands.grown

/-! ## Cancellations of the host -/

/-- A task that the host cancels, or that the client minds. -/
def Aims (system : System) (task other : Nat) : Prop := other = task ∨ system.Minds other

/-- When the host cancels a task, only that task and members of groups are cancelled, and only what
these await is settled. -/
theorem cancel_stands (before : System) (task : Nat) :
    before.loop.Stands (before.Aims task)
      (fun promise _ => ∃ (other : Nat) (found : TaskState Frame),
        before.loop.tasks[other]? = some found ∧ before.Aims task other ∧
          found.awaiting = some promise)
      (fun _ => False) (before.onLoop (·.cancel task)).loop :=
  Scheduler.cancel_stands (Or.inl rfl)
    (fun promise group isGroup _ member => Or.inr (Or.inr ⟨promise, group, isGroup, member⟩))
    fun other found _ entry aimed awaits => ⟨other, found, entry, aimed, awaits⟩

/-- A cancellation of the host makes the client mind nobody. -/
theorem minds_of_cancel
    {task other : Nat} (minds : (before.onLoop (·.cancel task)).Minds other) :
    before.Minds other := by
  rcases minds with own | ⟨promise, group, isGroup, member⟩
  · exact Or.inl own
  · have stands := before.cancel_stands task
    rcases stands.groups promise group isGroup with ⟨earlier, isEarlier, same⟩ | ⟨isNew, _⟩
    · exact Or.inr ⟨promise, earlier, isEarlier, same ▸ member⟩
    · have missing : (before.loop.cancel task).promises[promise]? = none :=
        List.getElem?_eq_none ((before.loop.cancel_nextPromise task).le.trans isNew)
      simp [onLoop, Scheduler.groupOf?, missing] at isGroup

theorem Separate.cancel (separate : Separate before) (task : Nat) :
    Separate (before.onLoop (·.cancel task)) := by
  have stands := before.cancel_stands task
  have stays (other : Nat) (later : TaskState Frame)
      (entry : (before.onLoop (·.cancel task)).loop.tasks[other]? = some later) :
      Stays before .turn other later := cancel_stays entry
  refine ⟨separate.apart_of_stays stays, fun other minds => ?_, fun promise member => ?_⟩
  · exact Nat.lt_of_lt_of_le (separate.minded other (minds_of_cancel minds)) stands.nextTask
  · exact Nat.lt_of_lt_of_le (separate.signals promise member) stands.grown

/-! ## The turn of a task -/

section Turn

variable {task completion : Nat} {rest : ClientLoop} {found : TaskState Frame}
  {language : Language Deed} {step : Step}

theorem settleTask_groupOf? (promise : Nat) :
    (settleTask task completion step).loop.groupOf? promise = step.1.loop.groupOf? promise := by
  obtain ⟨later, outcome | ⟨frames, awaited⟩⟩ := step
  · unfold Scheduler.groupOf?
    exact congrArg Option.join (Scheduler.settle_groups completion promise outcome later.loop)
  · unfold Scheduler.groupOf?
    exact congrArg Option.join (Scheduler.whenSettled_groups awaited promise (.resume task) _)

theorem settleTask_minds {other : Nat} :
    (settleTask task completion step).Minds other ↔ step.1.Minds other := by
  have sameTasks : (settleTask task completion step).ownTasks = step.1.ownTasks := by
    obtain ⟨later, outcome | ⟨frames, awaited⟩⟩ := step <;> rfl
  simp only [Minds, sameTasks, settleTask_groupOf?]

theorem settleTask_signals : (settleTask task completion step).signals = step.1.signals := by
  obtain ⟨later, outcome | ⟨frames, awaited⟩⟩ := step <;> rfl

theorem settleTask_nextTask : (settleTask task completion step).nextTask = step.1.nextTask := by
  obtain ⟨later, outcome | ⟨frames, awaited⟩⟩ := step
  · simp [settleTask, nextTask, Scheduler.nextTask, settle, onLoop, note]
  · simp [settleTask, nextTask, Scheduler.nextTask, onLoop, Scheduler.suspend, Scheduler.modifyTask]

theorem settleTask_nextPromise :
    (settleTask task completion step).nextPromise = step.1.nextPromise := by
  obtain ⟨later, outcome | ⟨frames, awaited⟩⟩ := step
  · simp [settleTask, nextPromise, settle, onLoop, note]
  · simp [settleTask, nextPromise, onLoop]

theorem heldPromises_of_progress (progress : Progress) :
    heldPromises progress.frames progress.awaited = progress.promises := by
  cases progress <;> rfl

theorem Resumes.resumed_minds
    {other : Nat} (resumes : Resumes before task rest found) :
    (before.resumed rest task).Minds other ↔ before.Minds other := by
  have taken := resumes.taken
  have same (promise : Nat) :
      (before.resumed rest task).loop.groupOf? promise = before.loop.groupOf? promise := by
    unfold Scheduler.groupOf?
    rw [← taken.promises]
    rfl
  simp only [Minds, same]
  exact Iff.rfl

theorem Resumes.resumed_nextTask (resumes : Resumes before task rest found) :
    (before.resumed rest task).nextTask = before.nextTask := by
  have taken := resumes.taken
  have same : (before.resumed rest task).nextTask = rest.nextTask :=
    rest.modifyTask_nextTask task _
  rw [same]
  exact congrArg List.length taken.tasks

theorem Resumes.resumed_nextPromise (resumes : Resumes before task rest found) :
    (before.resumed rest task).nextPromise = before.nextPromise :=
  congrArg List.length resumes.taken.promises

theorem Separate.resumed
    (separate : Separate before) (resumes : Resumes before task rest found) :
    Separate (before.resumed rest task) := by
  have taken := resumes.taken
  have holds : ∀ (other : Nat) (state : TaskState Frame) (promise : Nat),
      (before.resumed rest task).loop.tasks[other]? = some state →
        promise ∈ heldPromises state.stack state.awaiting →
          before.loop.tasks[other]? = some state := by
    intro other state promise entry member
    by_cases same : other = task
    · subst same
      have cleared := Scheduler.clearTask_self (taken.tasks ▸ resumes.entry : rest.tasks[other]? = _)
      rw [← Option.some.inj (cleared.symm.trans entry)] at member
      cases member
    · rw [← taken.tasks]
      exact (Scheduler.clearTask_other rest same).symm.trans entry
  refine ⟨?_, fun other minds => ?_, fun promise member => ?_⟩
  · intro first second state otherState promise entry otherEntry member otherMember
    exact separate.apart first second state otherState promise (holds _ _ _ entry member)
      (holds _ _ _ otherEntry otherMember) member otherMember
  · rw [resumes.resumed_nextTask]
    exact separate.minded other (resumes.resumed_minds.mp minds)
  · rw [resumes.resumed_nextPromise]
    exact separate.signals promise member

theorem Separate.turn
    (separate : Separate before) (plain : before.HoldsPlain)
    (resumes : Resumes before task rest found)
    (conducts : (before.resumption rest task found).Conducts
      (heldPromises found.stack found.awaiting) (before.resumed rest task) language
      (before.resumed rest task)) : Separate (before.step .turn) := by
  have started := separate.resumed resumes
  obtain ⟨_, leftEntry, _⟩ := resumes.leftEntry conducts
  -- What somebody else holds, the task did not hold before and has not made just now.
  have foreign {other : Nat} {state : TaskState Frame} {promise : Nat} (different : other ≠ task)
      (entry : (before.step .turn).loop.tasks[other]? = some state)
      (member : promise ∈ heldPromises state.stack state.awaiting) :
      promise ∉ (before.resumption rest task found).2.promises := by
    intro leftMember
    obtain ⟨earlier, earlierEntry, holds⟩ :=
      (resumes.others conducts different entry).heldPromises member
    rcases conducts.owns promise leftMember with own | isNew
    · exact different (separate.apart other task earlier found promise earlierEntry resumes.entry
        holds own)
    · rw [resumes.resumed_nextPromise] at isNew
      exact Nat.lt_irrefl _
        (Nat.lt_of_lt_of_le (plain other earlier promise earlierEntry holds).known isNew)
  refine ⟨?_, fun other minds => ?_, fun promise member => ?_⟩
  · intro first second state otherState promise entry otherEntry member otherMember
    by_cases isFirst : first = task
    · by_cases isSecond : second = task
      · exact isFirst.trans isSecond.symm
      · subst isFirst
        rw [← Option.some.inj (leftEntry.symm.trans entry), heldPromises_of_progress] at member
        exact (foreign isSecond otherEntry otherMember member).elim
    · by_cases isSecond : second = task
      · subst isSecond
        rw [← Option.some.inj (leftEntry.symm.trans otherEntry), heldPromises_of_progress]
          at otherMember
        exact (foreign isFirst entry member otherMember).elim
      · obtain ⟨earlier, earlierEntry, holds⟩ :=
          (resumes.others conducts isFirst entry).heldPromises member
        obtain ⟨otherEarlier, otherEarlierEntry, otherHolds⟩ :=
          (resumes.others conducts isSecond otherEntry).heldPromises otherMember
        exact separate.apart first second earlier otherEarlier promise earlierEntry
          otherEarlierEntry holds otherHolds
  · rw [resumes.step_turn] at minds ⊢
    rw [settleTask_nextTask]
    exact started.minded_of_respects conducts.respects other (settleTask_minds.mp minds)
  · rw [resumes.step_turn] at member ⊢
    rw [settleTask_nextPromise]
    exact started.signals_of_respects conducts.respects promise (settleTask_signals ▸ member)

end Turn

/-- Every input keeps tasks apart. -/
theorem Separate.step
    (separate : Separate before) (plain : before.HoldsPlain)
    (tracked : ∀ (task : Nat) (found : TaskState Frame), before.loop.tasks[task]? = some found →
      IsTracked found.stack) (input : Input) : Separate (before.step input) := by
  cases before.step_happens input with
  | idles held ends idles => exact separate.idles idles
  | calls call => exact separate.spawn call
  | cancels task => exact separate.cancel task
  | goesOn task rest found resumes =>
      exact separate.turn plain resumes
        (before.resumption_conducts rest task (tracked task found resumes.entry))

end LanguageClient.Client.System
