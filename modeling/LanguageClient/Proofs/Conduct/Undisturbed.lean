import LanguageClient.Proofs.Conduct.Apart

/-!
# Tasks that nobody disturbs

A task that the host does not cancel and the client does not mind is left in peace. What it waits for
is settled by a connection that goes on, by a lock that is handed on, by an answer of the peer or by a
deadline, and never cancelled by somebody else.
-/

namespace LanguageClient.Client

open LanguageClient.Json LanguageClient.Loop LanguageClient.Number LanguageClient.Protocol

/-- A query that waits for its answer. -/
def Frame.IsAsking : Frame → Prop
  | .hovering _ _ | .completing _ => True
  | _ => False

/-- The answer to a request comes through a promise: the request is being written, or it was. -/
def HoldsAnswer (stack : List Frame) (awaiting : Option Nat) (promise : Nat) : Prop :=
  .requesting promise ∈ stack ∨ ∃ frame, stack = [frame] ∧ frame.IsAsking ∧ awaiting = some promise

theorem HoldsAnswer.mem_held
    {stack : List Frame} {awaiting : Option Nat} {promise : Nat}
    (awaits : HoldsAnswer stack awaiting promise) : promise ∈ heldPromises stack awaiting := by
  rcases awaits with member | ⟨frame, _, _, rfl⟩
  · refine List.mem_append_right _ (List.mem_flatMap.mpr ⟨_, member, ?_⟩)
    exact List.mem_singleton.mpr rfl
  · exact List.mem_append_left _ (List.mem_singleton.mpr rfl)

namespace System

variable {held : List Nat} {before after : System} {task : Nat} {found : TaskState Frame}

/-- A task that nobody has disturbed. What it holds was settled kindly, if at all, and its answer as
the peer and the clock say. -/
structure Undisturbed (system : System) (task : Nat) (found : TaskState Frame) : Prop where
  entry : system.loop.tasks[task]? = some found
  unminded : ¬ system.Minds task
  uncancelled : found.cancelRequested = false
  ungrouped : ∀ promise ∈ heldPromises found.stack found.awaiting,
    system.loop.groupOf? promise = none
  kind : ∀ promise ∈ heldPromises found.stack found.awaiting, ∀ outcome,
    system.loop.outcome? promise = some outcome → outcome = .returned .nothing ∨ IsVerdict outcome
  answers : ∀ promise, HoldsAnswer found.stack found.awaiting promise →
    promise ∉ system.signals ∧
      ∀ outcome, system.loop.outcome? promise = some outcome → IsVerdict outcome

/-- How a promise of a task may be settled while somebody else runs. -/
def SettlesKindly (before after : System) (promise : Nat) : Prop :=
  ∀ outcome, after.loop.outcome? promise = some outcome →
    before.loop.outcome? promise = some outcome ∨
      promise ∈ before.signals ∧ outcome = .returned .nothing ∨ IsVerdict outcome

theorem Undisturbed.carry
    (undisturbed : Undisturbed before task found) (plain : before.HoldsPlain)
    (entry : after.loop.tasks[task]? = some found) (unminded : ¬ after.Minds task)
    (groups : ∀ promise group, after.loop.groupOf? promise = some group →
      before.loop.groupOf? promise ≠ none ∨ before.nextPromise ≤ promise)
    (kindly : ∀ promise ∈ heldPromises found.stack found.awaiting,
      SettlesKindly before after promise)
    (signals : ∀ promise ∈ after.signals,
      promise ∈ before.signals ∨ before.nextPromise ≤ promise) :
    Undisturbed after task found where
  entry
  unminded
  uncancelled := undisturbed.uncancelled
  ungrouped := fun promise member => by
    cases isGroup : after.loop.groupOf? promise with
    | none => rfl
    | some group =>
        rcases groups promise group isGroup with earlier | isNew
        · exact (earlier (undisturbed.ungrouped promise member)).elim
        · have known := (plain task found promise undisturbed.entry member).known
          exact absurd known (Nat.not_lt.mpr isNew)
  kind := fun promise member outcome settled => by
    rcases kindly promise member outcome settled with earlier | ⟨_, rfl⟩ | verdict
    · exact undisturbed.kind promise member outcome earlier
    · exact Or.inl rfl
    · exact Or.inr verdict
  answers := fun promise awaits => by
    obtain ⟨noSignal, verdicts⟩ := undisturbed.answers promise awaits
    refine ⟨fun isSignal => ?_, fun outcome settled => ?_⟩
    · rcases signals promise isSignal with earlier | isNew
      · exact noSignal earlier
      · have known := (plain task found promise undisturbed.entry awaits.mem_held).known
        exact absurd known (Nat.not_lt.mpr isNew)
    · rcases kindly promise awaits.mem_held outcome settled with earlier | ⟨isSignal, _⟩ | verdict
      · exact verdicts outcome earlier
      · exact (noSignal isSignal).elim
      · exact verdict

/-! ## While somebody else runs -/

/-- What somebody else does to a promise that he does not own, and that no minded task awaits. -/
theorem Respects.settlesKindly
    {promise : Nat} (respects : Respects held before after) (foreign : ¬ before.Owns held promise)
    (unminded : ∀ (other : Nat) (state : TaskState Frame),
      before.loop.tasks[other]? = some state → state.awaiting = some promise →
        ¬ before.Minds other) :
    SettlesKindly before after promise := by
  intro outcome settled
  cases earlier : before.loop.outcome? promise with
  | some other =>
      rw [respects.loop.kept promise other earlier] at settled
      exact Or.inl settled
  | none =>
      rcases respects.loop.gained promise outcome earlier settled with
        owns | ⟨other, state, entry, minds, awaits⟩ | signal | verdict
      · exact (foreign owns).elim
      · exact (unminded other state entry awaits minds).elim
      · exact Or.inr (Or.inl signal)
      · exact Or.inr (Or.inr verdict)

theorem Respects.entry_of_unminded
    (respects : Respects held before after) (entry : before.loop.tasks[task]? = some found)
    (unminded : ¬ before.Minds task) : after.loop.tasks[task]? = some found := by
  obtain ⟨cancelRequested, laterEntry, same | minds | ⟨isNew, _⟩⟩ :=
    respects.loop.tasks task found entry
  · rw [laterEntry, same]
  · exact (unminded minds).elim
  · exact absurd (List.getElem?_eq_some_iff.mp entry).1 (Nat.not_lt.mpr isNew)

theorem Respects.groups_cases
    {promise : Nat} {group : Group} (respects : Respects held before after)
    (isGroup : after.loop.groupOf? promise = some group) :
    before.loop.groupOf? promise ≠ none ∨ before.nextPromise ≤ promise := by
  rcases respects.loop.groups promise group isGroup with ⟨earlier, isEarlier, _⟩ | ⟨isNew, _⟩
  · rw [isEarlier]
    exact Or.inl (Option.some_ne_none earlier)
  · exact Or.inr isNew

theorem Respects.unminded
    (respects : Respects held before after) (entry : before.loop.tasks[task]? = some found)
    (unminded : ¬ before.Minds task) : ¬ after.Minds task := by
  intro minds
  rcases respects.minds_cases minds with earlier | ⟨isNew, _⟩
  · exact unminded earlier
  · exact absurd (List.getElem?_eq_some_iff.mp entry).1 (Nat.not_lt.mpr isNew)

/-- The client begins to mind only tasks that it starts. -/
theorem unminded_step
    (tracked : ∀ (task : Nat) (found : TaskState Frame), before.loop.tasks[task]? = some found →
      IsTracked found.stack)
    (known : task < before.nextTask) (unminded : ¬ before.Minds task) (input : Input) :
    ¬ (before.step input).Minds task := by
  intro minds
  cases before.step_happens input with
  | idles held ends idles =>
      rcases idles.respects.minds_cases minds with earlier | ⟨isNew, _⟩
      · exact unminded earlier
      · exact absurd known (Nat.not_lt.mpr isNew)
  | calls call => exact unminded (minds_of_spawn minds)
  | cancels other => exact unminded (minds_of_cancel minds)
  | goesOn other rest state resumes =>
      have conducts := before.resumption_conducts rest other (tracked other state resumes.entry)
      rw [resumes.step_turn, settleTask_minds] at minds
      rcases conducts.respects.minds_cases minds with earlier | ⟨isNew, _⟩
      · exact unminded (resumes.resumed_minds.mp earlier)
      · rw [resumes.resumed_nextTask] at isNew
        exact absurd known (Nat.not_lt.mpr isNew)

theorem entry_of_stands
    {targets : Nat → Prop} {settles : Nat → Outcome Reply → Prop} {begins : List Frame → Prop}
    {loop : ClientLoop} (stands : before.loop.Stands targets settles begins loop)
    (entry : before.loop.tasks[task]? = some found) (unaimed : ¬ targets task) :
    loop.tasks[task]? = some found := by
  obtain ⟨cancelRequested, laterEntry, same | aimed⟩ := stands.tasks task found entry
  · rwa [same] at laterEntry
  · exact (unaimed aimed).elim

section Entry

variable {other : Nat} {rest : ClientLoop} {state : TaskState Frame}

theorem Resumes.resumed_entry_of_ne
    (resumes : Resumes before other rest state) (different : task ≠ other)
    (entry : before.loop.tasks[task]? = some found) :
    (before.resumed rest other).loop.tasks[task]? = some found := by
  rw [← entry, ← resumes.taken.tasks]
  exact Scheduler.clearTask_other rest different

theorem Resumes.entry_of_unminded
    {language : Language Deed} (resumes : Resumes before other rest state) (different : task ≠ other)
    (entry : before.loop.tasks[task]? = some found) (unminded : ¬ before.Minds task)
    (conducts : (before.resumption rest other state).Conducts
      (heldPromises state.stack state.awaiting) (before.resumed rest other) language
      (before.resumed rest other)) :
    (before.step .turn).loop.tasks[task]? = some found := by
  rw [resumes.step_turn, settleTask_tasks_of_ne different]
  exact conducts.respects.entry_of_unminded (resumes.resumed_entry_of_ne different entry)
    fun minds => unminded (resumes.resumed_minds.mp minds)

/-- A task that nobody minds or cancels stays as it is until its turn. -/
theorem entry_step
    {input : Input}
    (tracked : ∀ (task : Nat) (found : TaskState Frame), before.loop.tasks[task]? = some found →
      IsTracked found.stack)
    (entry : before.loop.tasks[task]? = some found) (unminded : ¬ before.Minds task)
    (uncancelled : input ≠ .cancel task)
    (waits : ∀ rest state, input = .turn → ¬ Resumes before task rest state) :
    (before.step input).loop.tasks[task]? = some found := by
  cases before.step_happens input with
  | idles held ends idles => exact idles.respects.entry_of_unminded entry unminded
  | calls call =>
      have stands : before.loop.Stands (fun _ => False) (fun _ _ => False) (fun _ => True)
          (before.loop.spawn [.begin call]) := before.loop.spawn_stands trivial
      exact entry_of_stands stands entry id
  | cancels other =>
      refine entry_of_stands (before.cancel_stands other) entry ?_
      rintro (rfl | minds)
      · exact uncancelled rfl
      · exact unminded minds
  | goesOn other rest state resumes =>
      refine resumes.entry_of_unminded ?_ entry unminded
        (before.resumption_conducts rest other (tracked other state resumes.entry))
      rintro rfl
      exact waits rest state rfl resumes

end Entry

section Others

variable (undisturbed : Undisturbed before task found)

include undisturbed

/-- Whoever awaits a promise of an undisturbed task is that task. -/
theorem Undisturbed.unminded_of_awaits
    (separate : Separate before) {promise other : Nat} {state : TaskState Frame}
    (member : promise ∈ heldPromises found.stack found.awaiting)
    (entry : before.loop.tasks[other]? = some state) (awaits : state.awaiting = some promise) :
    ¬ before.Minds other := by
  have holds := mem_heldPromises_of_awaits awaits
  rw [separate.apart other task state found promise entry undisturbed.entry holds member]
  exact undisturbed.unminded

variable (plain : before.HoldsPlain)

include plain

theorem Undisturbed.idles
    (separate : Separate before) (idles : Idles held before before after)
    (awake : ∀ promise, ¬ before.Wakes promise)
    (ends : ∀ promise ∈ held, before.loop.groupOf? promise ≠ none ∨ before.Wakes promise) :
    Undisturbed after task found := by
  have respects := idles.respects
  refine undisturbed.carry plain
    (respects.entry_of_unminded undisturbed.entry undisturbed.unminded)
    (respects.unminded undisturbed.entry undisturbed.unminded)
    (fun _ _ isGroup => respects.groups_cases isGroup) (fun promise member => ?_)
    fun promise member => (respects.signals promise member).imp_right And.left
  refine respects.settlesKindly ?_ fun other state entry awaits =>
    undisturbed.unminded_of_awaits separate member entry awaits
  rintro (isHeld | isNew)
  · rcases ends promise isHeld with grouped | wakes
    · exact grouped (undisturbed.ungrouped promise member)
    · exact awake promise wakes
  · have known := (plain task found promise undisturbed.entry member).known
    exact absurd known (Nat.not_lt.mpr isNew)

/-- Nothing is aimed at the task, and nothing that it holds is settled. -/
theorem Undisturbed.of_stands
    {targets : Nat → Prop} {settles : Nat → Outcome Reply → Prop} {begins : List Frame → Prop}
    {change : ClientLoop → ClientLoop}
    (stands : before.loop.Stands targets settles begins (change before.loop))
    (unaimed : ¬ targets task)
    (unsettled : ∀ promise ∈ heldPromises found.stack found.awaiting, ∀ outcome,
      ¬ settles promise outcome) :
    Undisturbed (before.onLoop change) task found := by
  refine undisturbed.carry plain (entry_of_stands stands undisturbed.entry unaimed) ?_
    (fun promise group isGroup => ?_) (fun promise member outcome settled => ?_) fun _ => Or.inl
  · rintro (own | ⟨promise, group, isGroup, member⟩)
    · exact undisturbed.unminded (Or.inl own)
    · rcases stands.groups promise group isGroup with ⟨earlier, isEarlier, same⟩ | ⟨_, members⟩
      · exact undisturbed.unminded (Or.inr ⟨promise, earlier, isEarlier, same ▸ member⟩)
      · exact unaimed (members task member)
  · rcases stands.groups promise group isGroup with ⟨earlier, isEarlier, _⟩ | ⟨isNew, _⟩
    · rw [isEarlier]
      exact Or.inl (Option.some_ne_none earlier)
    · exact Or.inr isNew
  · cases earlier : before.loop.outcome? promise with
    | some other => exact Or.inl (stands.kept promise other earlier ▸ settled)
    | none =>
        exact (unsettled promise member outcome
          (stands.gained promise outcome earlier settled)).elim

theorem Undisturbed.spawn (call : Call) : Undisturbed (before.spawn call) task found := by
  have stands : before.loop.Stands (fun _ => False) (fun _ _ => False) (fun _ => True)
      (before.loop.spawn [.begin call]) := before.loop.spawn_stands trivial
  exact undisturbed.of_stands plain stands id fun _ _ _ => id

/-- The host cancels somebody else. -/
theorem Undisturbed.cancel (separate : Separate before) {other : Nat} (different : other ≠ task) :
    Undisturbed (before.onLoop (·.cancel other)) task found := by
  have unaimed : ¬ before.Aims other task := by
    rintro (same | minds)
    · exact different same.symm
    · exact undisturbed.unminded minds
  refine undisturbed.of_stands plain (before.cancel_stands other) unaimed ?_
  rintro promise member outcome ⟨aim, state, entry, aimed, awaits⟩
  have holds := mem_heldPromises_of_awaits awaits
  rw [separate.apart aim task state found promise entry undisturbed.entry holds member] at aimed
  exact unaimed aimed

/-- Somebody else has his turn. -/
theorem Undisturbed.turn
    (separate : Separate before) {other : Nat} {rest : ClientLoop} {state : TaskState Frame}
    {language : Language Deed}
    (different : task ≠ other) (resumes : Resumes before other rest state)
    (conducts : (before.resumption rest other state).Conducts
      (heldPromises state.stack state.awaiting) (before.resumed rest other) language
      (before.resumed rest other)) :
    Undisturbed (before.step .turn) task found := by
  have taken := resumes.taken
  have respects := conducts.respects
  have unminded : ¬ (before.resumed rest other).Minds task := fun minds =>
    undisturbed.unminded (resumes.resumed_minds.mp minds)
  have sameOutcomes := resumes.resumed_outcome?
  have laterEntry :=
    resumes.entry_of_unminded different undisturbed.entry undisturbed.unminded conducts
  rw [resumes.step_turn] at laterEntry ⊢
  refine undisturbed.carry plain laterEntry ?_ (fun promise group isGroup => ?_)
    (fun promise member outcome settled => ?_) fun promise member => ?_
  · rw [settleTask_minds]
    exact respects.unminded (resumes.resumed_entry_of_ne different undisturbed.entry) unminded
  · rw [settleTask_groupOf?] at isGroup
    have cases := respects.groups_cases isGroup
    rw [resumes.resumed_nextPromise] at cases
    refine cases.imp_left fun grouped => ?_
    unfold Scheduler.groupOf? at grouped ⊢
    rw [← taken.promises]
    exact grouped
  · rw [settleTask_outcome?_of_ne fun _ _ =>
      plain.ne_completion undisturbed.entry member resumes.entry] at settled
    have kindly : SettlesKindly (before.resumed rest other)
        (before.resumption rest other state).1 promise := by
      refine respects.settlesKindly ?_ ?_
      · rintro (isHeld | isNew)
        · exact different (separate.apart task other found state promise undisturbed.entry
            resumes.entry member isHeld)
        · rw [resumes.resumed_nextPromise] at isNew
          have known := (plain task found promise undisturbed.entry member).known
          exact absurd known (Nat.not_lt.mpr isNew)
      · intro waiting waitingState waitingEntry awaits
        rw [resumes.resumed_minds]
        refine undisturbed.unminded_of_awaits separate member ?_ awaits
        by_cases same : waiting = other
        · subst same
          have cleared :=
            Scheduler.clearTask_self (taken.tasks ▸ resumes.entry : rest.tasks[waiting]? = _)
          rw [← Option.some.inj (cleared.symm.trans waitingEntry)] at awaits
          cases awaits
        · rw [← taken.tasks]
          exact (Scheduler.clearTask_other rest same).symm.trans waitingEntry
    rw [← sameOutcomes]
    exact kindly outcome settled
  · rw [settleTask_signals] at member
    have cases := respects.signals promise member
    rw [resumes.resumed_nextPromise] at cases
    exact cases.imp_right And.left

/-- A task that the host does not cancel stays undisturbed until its own turn. -/
theorem Undisturbed.step
    (separate : Separate before) {input : Input}
    (tracked : ∀ (task : Nat) (found : TaskState Frame), before.loop.tasks[task]? = some found →
      IsTracked found.stack)
    (awake : ∀ promise, ¬ before.Wakes promise) (uncancelled : input ≠ .cancel task)
    (waits : ∀ rest state, input = .turn → ¬ Resumes before task rest state) :
    Undisturbed (before.step input) task found := by
  cases before.step_happens input with
  | idles held ends idles => exact undisturbed.idles plain separate idles awake ends
  | calls call => exact undisturbed.spawn plain call
  | cancels other =>
      exact undisturbed.cancel plain separate fun same => uncancelled (same ▸ rfl)
  | goesOn other rest state resumes =>
      refine undisturbed.turn plain separate ?_ resumes
        (before.resumption_conducts rest other (tracked other state resumes.entry))
      rintro rfl
      exact waits rest state rfl resumes

end Others

end System

end LanguageClient.Client
