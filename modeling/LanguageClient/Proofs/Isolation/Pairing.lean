import LanguageClient.Proofs.Isolation.Alike

/-!
# More that corresponds

Two clients that are alike stay so when both take a new promise for the same purpose: the completion of a
task, the answer to a request, or the end of a wait for something that the peer holds back. The two
promises correspond from then on.
-/

namespace LanguageClient.Client

open LanguageClient.Json LanguageClient.Loop LanguageClient.Number LanguageClient.Protocol

/-- A promise that nobody has yet. -/
structure System.Unclaimed
    (system : System) (target : Target) (foreign : Nat → Prop) (promise : Nat) : Prop where
  known : promise < system.nextPromise
  apart : ¬ foreign promise
  free : ¬ system.Owned target promise
  unsettled : system.loop.outcome? promise = none

/-- One more pair of promises. -/
def joined (paired : Nat → Nat → Prop) (promise counterpart : Nat) : Nat → Nat → Prop :=
  fun first second => paired first second ∨ first = promise ∧ second = counterpart

/-- Two promises correspond, or nobody has them yet. -/
inductive Meets
    (target : Target) (paired : Nat → Nat → Prop) (left right : System) (promise counterpart : Nat) :
    Prop where
  | paired (pair : paired promise counterpart)
  | fresh
      (unclaimedLeft : left.Unclaimed target (fun first => ∃ second, paired first second) promise)
      (unclaimedRight : right.Unclaimed target (fun second => ∃ first, paired first second) counterpart)

section Unclaimed

variable {target : Target} {foreign : Nat → Prop} {before after system : System} {promise : Nat}

theorem Secluded.unclaimed_next (secluded : Secluded target foreign system) (peer : Peer) :
    ({ system.addPromise with peer } : System).Unclaimed target foreign system.nextPromise where
  known := by
    have grown : ({ system.addPromise with peer } : System).nextPromise = system.nextPromise + 1 :=
      Scheduler.addPromise_nextPromise {} system.loop
    rw [grown]
    exact Nat.lt_succ_self _
  apart := secluded.apart_next
  free := fun owned => Nat.lt_irrefl _ (secluded.owned _ owned).1
  unsettled := Scheduler.addPromise_outcome?_new {} system.loop

theorem Unseen.unclaimed
    (unseen : Unseen before after) (unclaimed : before.Unclaimed target foreign promise) :
    after.Unclaimed target foreign promise where
  known := unseen.nextPromise ▸ unclaimed.known
  apart := unclaimed.apart
  free := fun owned =>
    unclaimed.free ((System.owned_congr (by rw [unseen.tasks]) unseen.pending).mp owned)
  unsettled := (unseen.outcomes promise).trans unclaimed.unsettled

end Unclaimed

namespace Alike

variable {target : Target} {paired : Nat → Nat → Prop} {left right : System}
  {promise counterpart : Nat} (alike : Alike target paired left right)

include alike

section Meets

variable (meets : Meets target paired left right promise counterpart)

include meets

theorem joined_unique
    (first firstOther second secondOther : Nat) (pair : joined paired promise counterpart first firstOther)
    (otherPair : joined paired promise counterpart second secondOther) :
    first = second ↔ firstOther = secondOther := by
  rcases pair with pair | ⟨rfl, rfl⟩ <;> rcases otherPair with otherPair | ⟨rfl, rfl⟩
  · exact alike.unique _ _ _ _ pair otherPair
  · cases meets with
    | paired same => exact alike.unique _ _ _ _ pair same
    | fresh unclaimedLeft unclaimedRight =>
        exact iff_of_false (fun same => unclaimedLeft.apart ⟨_, same ▸ pair⟩)
          fun same => unclaimedRight.apart ⟨_, same ▸ pair⟩
  · cases meets with
    | paired same => exact alike.unique _ _ _ _ same otherPair
    | fresh unclaimedLeft unclaimedRight =>
        exact iff_of_false (fun same => unclaimedLeft.apart ⟨_, same ▸ otherPair⟩)
          fun same => unclaimedRight.apart ⟨_, same ▸ otherPair⟩
  · exact iff_of_true rfl rfl

theorem joined_outcomes
    (first second : Nat) (pair : joined paired promise counterpart first second) :
    left.loop.outcome? first = right.loop.outcome? second := by
  rcases pair with pair | ⟨rfl, rfl⟩
  · exact alike.outcomes _ _ pair
  · cases meets with
    | paired same => exact alike.outcomes _ _ same
    | fresh unclaimedLeft unclaimedRight =>
        rw [unclaimedLeft.unsettled, unclaimedRight.unsettled]

end Meets

omit alike in
theorem joined_left
    (meets : Meets target paired left right promise counterpart) {first : Nat}
    (isJoined : ∃ second, joined paired promise counterpart first second)
    (notPaired : ¬ ∃ second, paired first second) :
    first = promise ∧ first < left.nextPromise ∧ ¬ left.Owned target first := by
  obtain ⟨second, pair | ⟨rfl, rfl⟩⟩ := isJoined
  · exact (notPaired ⟨second, pair⟩).elim
  · cases meets with
    | paired same => exact (notPaired ⟨_, same⟩).elim
    | fresh unclaimedLeft _ => exact ⟨rfl, unclaimedLeft.known, unclaimedLeft.free⟩

omit alike in
theorem joined_right
    (meets : Meets target paired left right promise counterpart) {second : Nat}
    (isJoined : ∃ first, joined paired promise counterpart first second)
    (notPaired : ¬ ∃ first, paired first second) :
    second = counterpart ∧ second < right.nextPromise ∧ ¬ right.Owned target second := by
  obtain ⟨first, pair | ⟨rfl, rfl⟩⟩ := isJoined
  · exact (notPaired ⟨first, pair⟩).elim
  · cases meets with
    | paired same => exact (notPaired ⟨_, same⟩).elim
    | fresh _ unclaimedRight => exact ⟨rfl, unclaimedRight.known, unclaimedRight.free⟩

/-- Tasks may change when two promises join. -/
theorem grow
    {loopLeft loopRight : ClientLoop} (meets : Meets target paired left right promise counterpart)
    (secludedLeft : Secluded target (fun first => ∃ second, joined paired promise counterpart first second)
      { left with loop := loopLeft })
    (secludedRight : Secluded target (fun second => ∃ first, joined paired promise counterpart first second)
      { right with loop := loopRight })
    (promisesLeft : loopLeft.promises = left.loop.promises)
    (promisesRight : loopRight.promises = right.loop.promises)
    (nextTaskLeft : loopLeft.nextTask = left.nextTask)
    (nextTaskRight : loopRight.nextTask = right.nextTask)
    (tasks : ∀ task, task ≠ target.task → Option.Rel
      (TaskAlike target (joined paired promise counterpart)) loopLeft.tasks[task]? loopRight.tasks[task]?) :
    Alike target (joined paired promise counterpart) { left with loop := loopLeft }
      { right with loop := loopRight } := by
  have outcomesLeft (other : Nat) : loopLeft.outcome? other = left.loop.outcome? other := by
    simp only [Scheduler.outcome?, promisesLeft]
  have outcomesRight (other : Nat) : loopRight.outcome? other = right.loop.outcome? other := by
    simp only [Scheduler.outcome?, promisesRight]
  exact {
    secludedLeft
    secludedRight
    unique := alike.joined_unique meets
    outcomes := fun first second pair => by
      simp only [outcomesLeft, outcomesRight]
      exact alike.joined_outcomes meets first second pair
    nextTask := nextTaskLeft.trans (alike.nextTask.trans nextTaskRight.symm)
    tasks
    outline := alike.outline
    opens := fun entry other isOpen => by
      simp only [System.Opens, outcomesLeft, outcomesRight] at isOpen ⊢
      obtain ⟨entryThere, isOpenThere, same⟩ := alike.opens entry other isOpen
      exact ⟨entryThere, isOpenThere, same.mono fun _ _ => Or.inl⟩
    opened := fun entry other isOpen => by
      simp only [System.Opens, outcomesLeft, outcomesRight] at isOpen ⊢
      obtain ⟨entryThere, isOpenThere, same⟩ := alike.opened entry other isOpen
      exact ⟨entryThere, isOpenThere, same.mono fun _ _ => Or.inl⟩
    handed := alike.handed
    accepted := alike.accepted }

/-- Two promises correspond from now on. -/
theorem join
    (meets : Meets target paired left right promise counterpart)
    (freeLeft : promise ∉ left.peer.detained) (freeRight : counterpart ∉ right.peer.detained) :
    Alike target (joined paired promise counterpart) left right := by
  have secludedLeft := alike.secludedLeft.widen
    (fun first isJoined notPaired => (joined_left meets isJoined notPaired).2)
    fun first isJoined notPaired member =>
      (freeLeft ((joined_left meets isJoined notPaired).1 ▸ member)).elim
  have secludedRight := alike.secludedRight.widen
    (fun second isJoined notPaired => (joined_right meets isJoined notPaired).2)
    fun second isJoined notPaired member =>
      (freeRight ((joined_right meets isJoined notPaired).1 ▸ member)).elim
  exact alike.grow meets secludedLeft secludedRight rfl rfl rfl rfl fun task other =>
    rel_imp (alike.tasks task other) fun _ _ same => same.mono fun _ _ => Or.inl

/-- The task of somebody else waits from now on for two promises that correspond. -/
theorem attend
    {task : Nat} {frames framesThere : List Frame} {found foundThere : TaskState Frame}
    (isOther : task ≠ target.task) (meets : Meets target paired left right promise counterpart)
    (framesAlike : List.Forall₂ (FrameAlike target paired) frames framesThere)
    (entry : left.loop.tasks[task]? = some found) (idle : found.awaiting = none)
    (entryThere : right.loop.tasks[task]? = some foundThere) (idleThere : foundThere.awaiting = none) :
    Alike target (joined paired promise counterpart)
      (left.onLoop (·.modifyTask task fun found =>
        { found with stack := frames, awaiting := some promise }))
      (right.onLoop (·.modifyTask task fun found =>
        { found with stack := framesThere, awaiting := some counterpart })) := by
  have apart {foreign : Nat → Prop} {system : System} {state : TaskState Frame}
      (secluded : Secluded target foreign system) (stateEntry : system.loop.tasks[task]? = some state)
      (isIdle : state.awaiting = none) (stack : List Frame) (awaited : Nat) :
      Secluded target foreign (system.onLoop (·.modifyTask task fun found =>
        { found with stack, awaiting := some awaited })) :=
    secluded.modifyTask task _ (fun _ => rfl) (fun _ same => (isOther same).elim)
      fun other first _ otherEntry awaits => by
        rw [← Option.some.inj (stateEntry.symm.trans otherEntry), isIdle] at awaits
        cases awaits
  have attends {system : System} {state : TaskState Frame}
      (stateEntry : system.loop.tasks[task]? = some state) (stack : List Frame) (awaited : Nat) :
      ∃ other later, other ≠ target.task ∧ (system.onLoop (·.modifyTask task fun found =>
        { found with stack, awaiting := some awaited })).loop.tasks[other]? = some later ∧
          later.awaiting = some awaited :=
    ⟨task, { state with stack, awaiting := some awaited }, isOther,
      by simp [System.onLoop, Scheduler.modifyTask, stateEntry], rfl⟩
  refine alike.grow meets
    ((apart alike.secludedLeft entry idle frames promise).widen
      (fun first isJoined notPaired => ?_) fun first isJoined notPaired _ => ?_)
    ((apart alike.secludedRight entryThere idleThere framesThere counterpart).widen
      (fun second isJoined notPaired => ?_) fun second isJoined notPaired _ => ?_)
    rfl rfl (left.loop.modifyTask_nextTask task _) (right.loop.modifyTask_nextTask task _)
    fun other isOtherToo => ?_
  · obtain ⟨_, known, notOwned⟩ := joined_left meets isJoined notPaired
    exact ⟨known, notOwned ∘ (System.owned_modifyTask isOther _).mp⟩
  · rw [(joined_left meets isJoined notPaired).1]
    exact attends entry frames promise
  · obtain ⟨_, known, notOwned⟩ := joined_right meets isJoined notPaired
    exact ⟨known, notOwned ∘ (System.owned_modifyTask isOther _).mp⟩
  · rw [(joined_right meets isJoined notPaired).1]
    exact attends entryThere framesThere counterpart
  · simp only [Scheduler.modifyTask, List.getElem?_modify]
    refine rel_map (alike.tasks other isOtherToo) fun state stateThere same => ?_
    by_cases isTask : task = other
    · simp only [if_pos isTask]
      exact {
        stack := .goesOn (framesAlike.imp fun _ _ frame => frame.mono fun _ _ => Or.inl)
        awaiting := .some (Or.inr ⟨rfl, rfl⟩)
        cancelRequested := same.cancelRequested
        completion := Or.inl same.completion }
    · simp only [if_neg isTask]
      exact same.mono fun _ _ => Or.inl

/-! ## New tasks -/

/-- Both have a new promise. -/
theorem addPromise : Alike target paired left.addPromise right.addPromise :=
  (alike.hide_left (alike.secludedLeft.addPromise_hides left.peer fun _ => Or.inl)).hide_right
    (alike.secludedRight.addPromise_hides right.peer fun _ => Or.inl)

theorem addPromise_joined :
    Alike target (joined paired left.nextPromise right.nextPromise) left.addPromise
      right.addPromise := by
  have fresh (system : System) {foreign : Nat → Prop} (secluded : Secluded target foreign system) :
      system.nextPromise ∉ system.peer.detained := fun member =>
    Nat.lt_irrefl _ (secluded.detained _ member)
  exact alike.addPromise.join
    (.fresh (alike.secludedLeft.unclaimed_next left.peer)
      (alike.secludedRight.unclaimed_next right.peer))
    (fresh left alike.secludedLeft) (fresh right alike.secludedRight)

/-- A task is started on both sides. -/
theorem appendTask
    {loopLeft loopRight : ClientLoop} {state stateThere : TaskState Frame}
    (tasksLeft : loopLeft.tasks = left.loop.tasks ++ [state])
    (promisesLeft : loopLeft.promises = left.loop.promises)
    (tasksRight : loopRight.tasks = right.loop.tasks ++ [stateThere])
    (promisesRight : loopRight.promises = right.loop.promises)
    (same : left.nextTask ≠ target.task → TaskAlike target paired state stateThere)
    (ownLeft : left.nextTask = target.task → OwnStack target state.stack ∧
      ∀ first, first = state.completion ∨ first ∈ heldPromises state.stack state.awaiting →
        first < left.nextPromise ∧ ¬ ∃ second, paired first second)
    (ownRight : right.nextTask = target.task → OwnStack target stateThere.stack ∧
      ∀ second, second = stateThere.completion ∨
        second ∈ heldPromises stateThere.stack stateThere.awaiting →
          second < right.nextPromise ∧ ¬ ∃ first, paired first second) :
    Alike target paired { left with loop := loopLeft } { right with loop := loopRight } := by
  have outcomesLeft (other : Nat) : loopLeft.outcome? other = left.loop.outcome? other := by
    simp only [Scheduler.outcome?, promisesLeft]
  have outcomesRight (other : Nat) : loopRight.outcome? other = right.loop.outcome? other := by
    simp only [Scheduler.outcome?, promisesRight]
  exact {
    secludedLeft := alike.secludedLeft.appendTask tasksLeft promisesLeft rfl rfl ownLeft
    secludedRight := alike.secludedRight.appendTask tasksRight promisesRight rfl rfl ownRight
    unique := alike.unique
    outcomes := fun first second pair => by
      simp only [outcomesLeft, outcomesRight]
      exact alike.outcomes first second pair
    nextTask := by
      simp only [System.nextTask, Scheduler.nextTask, tasksLeft, tasksRight, List.length_append,
        List.length_singleton]
      exact congrArg (· + 1) alike.nextTask
    tasks := fun task other => by
      have sameLength : left.loop.tasks.length = right.loop.tasks.length := alike.nextTask
      simp only [tasksLeft, tasksRight]
      rcases Nat.lt_trichotomy task left.loop.tasks.length with inside | isNew | outside
      · rw [List.getElem?_append_left inside, List.getElem?_append_left (sameLength ▸ inside)]
        exact alike.tasks task other
      · have sameTask : task = right.loop.tasks.length := isNew.trans sameLength
        have isOther : left.nextTask ≠ target.task := fun isOwn => other (isNew.trans isOwn)
        rw [isNew, List.getElem?_concat_length, ← isNew, sameTask, List.getElem?_concat_length]
        exact .some (same isOther)
      · rw [List.getElem?_eq_none (by simpa [Nat.succ_le_iff] using outside),
          List.getElem?_eq_none (by simpa [← sameLength, Nat.succ_le_iff] using outside)]
        exact .none
    outline := alike.outline
    opens := fun entry other isOpen => by
      simp only [System.Opens, outcomesLeft, outcomesRight] at isOpen ⊢
      exact alike.opens entry other isOpen
    opened := fun entry other isOpen => by
      simp only [System.Opens, outcomesLeft, outcomesRight] at isOpen ⊢
      exact alike.opened entry other isOpen
    handed := alike.handed
    accepted := alike.accepted }

/-- A call of somebody else is started on both sides. -/
theorem spawn
    {call : Call} (onSession : call.OnSession) (isOther : left.nextTask ≠ target.task) :
    Alike target (joined paired left.nextPromise right.nextPromise) (left.spawn call)
      (right.spawn call) :=
  alike.addPromise_joined.appendTask rfl rfl rfl rfl
    (fun _ => {
      stack := .begins onSession
      awaiting := .none
      cancelRequested := rfl
      completion := Or.inr ⟨rfl, rfl⟩ })
    (fun isOwn => (isOther isOwn).elim) fun isOwn => (isOther (alike.nextTask.trans isOwn)).elim

/-- The call of the request is started on both sides, perhaps with another time or content. -/
theorem spawn_own
    {method methodThere : String} {params paramsThere : Option Value}
    {timeout timeoutThere : Option Quantity} (isOwn : left.nextTask = target.task) :
    Alike target paired (left.spawn (.request 0 method params timeout))
      (right.spawn (.request 0 methodThere paramsThere timeoutThere)) := by
  have own {foreign : Nat → Prop} {system : System} (secluded : Secluded target foreign system)
      (call : Call) (first : Nat)
      (isPromise : first = system.nextPromise ∨ first ∈ heldPromises [.begin call] none) :
      first < system.addPromise.nextPromise ∧ ¬ foreign first := by
    have unclaimed := secluded.unclaimed_next system.peer
    rcases isPromise with rfl | held
    · exact ⟨unclaimed.known, unclaimed.apart⟩
    · rw [System.heldPromises_of_begin rfl] at held
      cases held
  exact alike.addPromise.appendTask rfl rfl rfl rfl (fun isOther => (isOther isOwn).elim)
    (fun _ => ⟨.begins method params timeout, own alike.secludedLeft _⟩)
    fun _ => ⟨.begins methodThere paramsThere timeoutThere, own alike.secludedRight _⟩

/-! ## New entries -/

theorem enter_opens
    {entry entryThere : PendingRequest} (same : EntryAlike paired entry entryThere)
    {listed : PendingRequest} (other : listed.id ≠ target.id)
    (isOpen : (left.modifySession 0 fun found =>
      { found with pending := found.pending ++ [entry] }).Opens listed) :
    ∃ listedThere, (right.modifySession 0 fun found =>
      { found with pending := found.pending ++ [entryThere] }).Opens listedThere ∧
        EntryAlike paired listed listedThere := by
  obtain ⟨found, foundThere, only, onlyThere, _⟩ := alike.sessions
  have later : (left.modifySession 0 fun found =>
      { found with pending := found.pending ++ [entry] }).sessions =
        [{ found with pending := found.pending ++ [entry] }] := by
    simp [System.modifySession, only]
  have laterThere : (right.modifySession 0 fun found =>
      { found with pending := found.pending ++ [entryThere] }).sessions =
        [{ foundThere with pending := foundThere.pending ++ [entryThere] }] := by
    simp [System.modifySession, onlyThere]
  obtain ⟨⟨session, inside, member⟩, unsettled⟩ := isOpen
  rw [later, List.mem_singleton] at inside
  subst inside
  rcases List.mem_append.mp member with earlier | isNew
  · obtain ⟨listedThere, ⟨⟨sessionThere, insideThere, memberThere⟩, unsettledThere⟩, sameListed⟩ :=
      alike.opens listed other ⟨⟨found, by simp [only], earlier⟩, unsettled⟩
    rw [onlyThere, List.mem_singleton] at insideThere
    subst insideThere
    exact ⟨listedThere, ⟨⟨_, laterThere ▸ List.mem_singleton_self _,
      List.mem_append_left _ memberThere⟩, unsettledThere⟩, sameListed⟩
  · rw [List.mem_singleton.mp isNew] at unsettled ⊢
    exact ⟨entryThere, ⟨⟨_, laterThere ▸ List.mem_singleton_self _,
      List.mem_append_right _ (List.mem_singleton_self _)⟩,
      (alike.outcomes _ _ same.promise).symm.trans unsettled⟩, same⟩

/-- A request of somebody else is entered on both sides. -/
theorem enter
    {entry entryThere : PendingRequest} (same : EntryAlike paired entry entryThere)
    (isOther : entry.id ≠ target.id) :
    Alike target paired
      (left.modifySession 0 fun found => { found with pending := found.pending ++ [entry] })
      (right.modifySession 0 fun found => { found with pending := found.pending ++ [entryThere] }) := by
  have apart {foreign : Nat → Prop} {system : System} {added : PendingRequest}
      (secluded : Secluded target foreign system) (addedOther : added.id ≠ target.id) :
      Secluded target foreign (system.modifySession 0 fun found =>
        { found with pending := found.pending ++ [added] }) :=
    secluded.modifySession _ fun found _ listed member isOwn => by
      rcases List.mem_append.mp member with earlier | isNew
      · exact Or.inl earlier
      · rw [List.mem_singleton.mp isNew] at isOwn
        exact (addedOther isOwn).elim
  obtain ⟨found, foundThere, only, onlyThere, sameOutline⟩ := alike.sessions
  exact {
    secludedLeft := apart alike.secludedLeft isOther
    secludedRight := apart alike.secludedRight (same.id ▸ isOther)
    unique := alike.unique
    outcomes := alike.outcomes
    nextTask := alike.nextTask
    tasks := alike.tasks
    outline := by
      have links := congrArg Prod.snd alike.outline
      have sameLater : ({ found with pending := found.pending ++ [entry] } : Session).outline =
          ({ foundThere with pending := foundThere.pending ++ [entryThere] } : Session).outline :=
        sameOutline
      simpa [System.outline, System.modifySession, only, onlyThere, sameLater] using links
    opens := fun listed other isOpen => alike.enter_opens same other isOpen
    opened := fun listed other isOpen => by
      obtain ⟨listedThere, isOpenThere, sameListed⟩ :=
        alike.symm.enter_opens same.symm other isOpen
      exact ⟨listedThere, isOpenThere, sameListed.symm⟩
    handed := alike.handed
    accepted := alike.accepted }

end Alike

end LanguageClient.Client
