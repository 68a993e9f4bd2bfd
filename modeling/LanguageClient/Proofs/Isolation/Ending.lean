import LanguageClient.Proofs.Isolation.Pairing

/-!
# Cancellations and the end of a session

When two clients are alike apart from a request, the cancellation of another task does the same in both,
and so does the end of the session, which settles all requests that are open.
-/

namespace LanguageClient.Client

open LanguageClient.Json LanguageClient.Loop LanguageClient.Number LanguageClient.Protocol

/-- No two entries of the table have the same id or the same promise. -/
structure System.Distinct (system : System) : Prop where
  ids : ∀ found ∈ system.sessions, (found.pending.map (·.id)).Nodup
  promises : ∀ found ∈ system.sessions, (found.pending.map (·.promise)).Nodup

/-! ## Requests that are abandoned -/

section Abandoned

variable {target : Target} {foreign : Nat → Prop} {promise : Nat} {outcome : Outcome Reply}
  (reason : SessionEnd) (entries : List PendingRequest) (system : System)

theorem abandonRequest_eq (entry : PendingRequest) :
    system.abandonRequest reason entry =
      { system with loop := (system.abandonRequest reason entry).loop } ∧
    (system.abandonRequest reason entry).loop.tasks = system.loop.tasks ∧
    (system.abandonRequest reason entry).loop.nextPromise = system.loop.nextPromise :=
  ⟨rfl, Scheduler.settle_tasks _ _ _, Scheduler.settle_nextPromise _ _ _⟩

/-- Apart from the promises and the timers nothing changes. -/
theorem foldl_abandon_eq :
    let later := entries.foldl (System.abandonRequest reason) system
    later = { system with loop := later.loop } ∧ later.loop.tasks = system.loop.tasks ∧
      later.loop.nextPromise = system.loop.nextPromise := by
  induction entries generalizing system with
  | nil => exact ⟨rfl, rfl, rfl⟩
  | cons head others inductionHypothesis =>
      obtain ⟨same, tasks, nextPromise⟩ := inductionHypothesis (system.abandonRequest reason head)
      obtain ⟨_, headTasks, headNextPromise⟩ := abandonRequest_eq reason system head
      exact ⟨same, tasks.trans headTasks, nextPromise.trans headNextPromise⟩

variable {entries system}

theorem abandonRequest_outcome?_of_ne {entry : PendingRequest} (different : promise ≠ entry.promise) :
    (system.abandonRequest reason entry).loop.outcome? promise = system.loop.outcome? promise :=
  Scheduler.settle_outcome?_of_ne _ (system.loop.disarm entry.timer) different

theorem foldl_abandon_outcome?_of_some (settled : system.loop.outcome? promise = some outcome) :
    (entries.foldl (System.abandonRequest reason) system).loop.outcome? promise = some outcome := by
  induction entries generalizing system with
  | nil => exact settled
  | cons head others inductionHypothesis =>
      have stillSettled : (system.disarm head.timer).loop.outcome? promise = some outcome := settled
      exact inductionHypothesis (System.settle_outcome?_of_some stillSettled head.promise _)

theorem foldl_abandon_outcome?_of_unlisted
    (unlisted : promise ∉ entries.map (·.promise)) :
    (entries.foldl (System.abandonRequest reason) system).loop.outcome? promise =
      system.loop.outcome? promise := by
  induction entries generalizing system with
  | nil => rfl
  | cons head others inductionHypothesis =>
      simp only [List.map_cons, List.mem_cons, not_or] at unlisted
      exact (inductionHypothesis unlisted.2).trans (abandonRequest_outcome?_of_ne reason unlisted.1)

theorem foldl_abandon_outcome?_of_listed
    {entry : PendingRequest} (listed : entry ∈ entries)
    (distinct : (entries.map (·.promise)).Nodup) (known : entry.promise < system.nextPromise)
    (unsettled : system.loop.outcome? entry.promise = none) :
    (entries.foldl (System.abandonRequest reason) system).loop.outcome? entry.promise =
      some (.failed (.abandoned entry.method entry.id reason)) := by
  induction entries generalizing system with
  | nil => cases listed
  | cons head others inductionHypothesis =>
      obtain ⟨isNew, othersDistinct⟩ := List.nodup_cons.mp distinct
      rcases List.mem_cons.mp listed with rfl | later
      · have settled : (system.abandonRequest reason entry).loop.outcome? entry.promise = _ :=
          Scheduler.settle_outcome?_self _ known unsettled
        rw [List.foldl_cons]
        exact foldl_abandon_outcome?_of_some reason settled
      · have different : entry.promise ≠ head.promise := fun same =>
          isNew (List.mem_map.mpr ⟨entry, later, same⟩)
        have grown := (abandonRequest_eq reason system head).2.2
        exact inductionHypothesis later othersDistinct (Nat.lt_of_lt_of_eq known grown.symm)
          ((abandonRequest_outcome?_of_ne reason different).trans unsettled)

theorem Secluded.foldl_abandon (secluded : Secluded target foreign system) :
    Secluded target foreign (entries.foldl (System.abandonRequest reason) system) :=
  List.foldlRecOn entries _ secluded fun later apart entry _ =>
    have disarmed : Secluded target foreign (later.disarm entry.timer) :=
      apart.of_same rfl (fun _ => id) rfl (fun _ => rfl) rfl fun _ => id
    disarmed.settle _ _

/-- After the end of its session a client has an empty table, and all else but promises and timers is as
before. -/
theorem abandonRequests_eq
    {state : Session} (only : system.sessions = [state]) :
    system.abandonRequests 0 reason =
      { system with
        loop := (state.pending.foldl (System.abandonRequest reason) system).loop
        sessions := [{ state with pending := [] }] } := by
  have sessionFound : system.sessions[0]? = some state := by rw [only]; rfl
  simp only [System.abandonRequests, sessionFound]
  rw [(foldl_abandon_eq reason state.pending system).1]
  simp [System.modifySession, only]

theorem Secluded.abandonRequests (secluded : Secluded target foreign system) :
    Secluded target foreign (system.abandonRequests 0 reason) := by
  unfold System.abandonRequests
  split
  · exact secluded
  · exact (secluded.foldl_abandon reason).modifySession _ fun _ _ _ listed => by cases listed

end Abandoned

namespace Alike

variable {target : Target} {paired : Nat → Nat → Prop} {left right : System}
  (alike : Alike target paired left right)

include alike

/-- A request of others that is open on one side is open on the other side. -/
theorem listed_there
    {promise counterpart : Nat} {found foundThere : Session} {entry : PendingRequest}
    (only : left.sessions = [found]) (onlyThere : right.sessions = [foundThere])
    (pair : paired promise counterpart) (unsettled : left.loop.outcome? promise = none)
    (listed : entry ∈ found.pending) (isPromise : entry.promise = promise) :
    ∃ entryThere ∈ foundThere.pending, entryThere.promise = counterpart ∧
      EntryAlike paired entry entryThere := by
  have other : entry.id ≠ target.id := fun isOwn =>
    (alike.secludedLeft.owned promise
      (Or.inr ⟨found, by simp [only], entry, listed, isOwn, isPromise⟩)).2 ⟨counterpart, pair⟩
  obtain ⟨entryThere, ⟨⟨session, inside, listedThere⟩, _⟩, same⟩ :=
    alike.opens entry other ⟨⟨found, by simp [only], listed⟩, isPromise ▸ unsettled⟩
  rw [onlyThere, List.mem_singleton] at inside
  subst inside
  exact ⟨entryThere, listedThere, (alike.unique _ _ _ _ same.promise pair).mp isPromise, same⟩

/-- Requests that are abandoned end in the same way on both sides. -/
theorem foldl_abandon_outcomes
    {found foundThere : Session} (distinct : left.Distinct) (distinctThere : right.Distinct)
    (only : left.sessions = [found]) (onlyThere : right.sessions = [foundThere])
    (reason : SessionEnd) {promise counterpart : Nat} (pair : paired promise counterpart) :
    (found.pending.foldl (System.abandonRequest reason) left).loop.outcome? promise =
      (foundThere.pending.foldl (System.abandonRequest reason) right).loop.outcome? counterpart := by
  have same := alike.outcomes promise counterpart pair
  cases outcome : left.loop.outcome? promise with
  | some ending =>
      rw [foldl_abandon_outcome?_of_some reason outcome,
        foldl_abandon_outcome?_of_some reason (same.symm.trans outcome)]
  | none =>
      have unsettledThere : right.loop.outcome? counterpart = none := same.symm.trans outcome
      by_cases listed : promise ∈ found.pending.map (·.promise)
      · obtain ⟨entry, isListed, rfl⟩ := List.mem_map.mp listed
        obtain ⟨entryThere, isListedThere, rfl, sameEntry⟩ :=
          alike.listed_there only onlyThere pair outcome isListed rfl
        rw [foldl_abandon_outcome?_of_listed reason isListed (distinct.promises found (by simp [only]))
            (alike.secludedLeft.known _ ⟨_, pair⟩) outcome,
          foldl_abandon_outcome?_of_listed reason isListedThere
            (distinctThere.promises foundThere (by simp [onlyThere]))
            (alike.secludedRight.known _ ⟨_, pair⟩) unsettledThere,
          sameEntry.method, sameEntry.id]
      · have unlistedThere : counterpart ∉ foundThere.pending.map (·.promise) := fun listedThere => by
          obtain ⟨entryThere, isListedThere, isCounterpart⟩ := List.mem_map.mp listedThere
          obtain ⟨entry, isListed, isPromise, _⟩ :=
            alike.symm.listed_there onlyThere only pair unsettledThere isListedThere isCounterpart
          exact listed (isPromise ▸ List.mem_map_of_mem isListed)
        rw [foldl_abandon_outcome?_of_unlisted reason listed,
          foldl_abandon_outcome?_of_unlisted reason unlistedThere, same]

theorem abandonRequests
    (distinct : left.Distinct) (distinctThere : right.Distinct) (reason : SessionEnd) :
    Alike target paired (left.abandonRequests 0 reason) (right.abandonRequests 0 reason) := by
  obtain ⟨found, foundThere, only, onlyThere, sameOutline⟩ := alike.sessions
  have secludedLeft := alike.secludedLeft.abandonRequests reason
  have secludedRight := alike.secludedRight.abandonRequests reason
  have tasksLeft := (foldl_abandon_eq reason found.pending left).2.1
  have tasksRight := (foldl_abandon_eq reason foundThere.pending right).2.1
  rw [abandonRequests_eq reason only] at secludedLeft ⊢
  rw [abandonRequests_eq reason onlyThere] at secludedRight ⊢
  exact {
    secludedLeft
    secludedRight
    unique := alike.unique
    outcomes := fun promise counterpart pair =>
      alike.foldl_abandon_outcomes distinct distinctThere only onlyThere reason pair
    nextTask := by
      simp only [System.nextTask, Scheduler.nextTask, tasksLeft, tasksRight]
      exact alike.nextTask
    tasks := fun task other => by
      simp only [tasksLeft, tasksRight]
      exact alike.tasks task other
    outline := by
      have links := congrArg Prod.snd alike.outline
      have sameLater : ({ found with pending := [] } : Session).outline =
          ({ foundThere with pending := [] } : Session).outline := sameOutline
      simpa [System.outline, sameLater] using links
    opens := by
      rintro entry _ ⟨⟨session, inside, listed⟩, _⟩
      rw [List.mem_singleton.mp inside] at listed
      cases listed
    opened := by
      rintro entry _ ⟨⟨session, inside, listed⟩, _⟩
      rw [List.mem_singleton.mp inside] at listed
      cases listed
    handed := alike.handed
    accepted := alike.accepted }

end Alike

/-! ## Cancellations -/

section Cancel

variable {target : Target} {foreign : Nat → Prop} {paired : Nat → Nat → Prop}
  {system left right : System}

/-- Without groups a cancellation concerns one task. -/
theorem Secluded.cancel_eq (secluded : Secluded target foreign system) (task : Nat) :
    system.loop.cancel task = system.loop.cancelMember task := by
  unfold Scheduler.cancel
  split
  · rfl
  · rename_i promise group isGroup
    simp only [Scheduler.awaitedGroup?, Option.bind_eq_bind, Option.bind_eq_some_iff] at isGroup
    obtain ⟨_, _, other, _, openGroup, isOpen, _⟩ := isGroup
    have grouped := Scheduler.groupOf?_of_openGroup? isOpen
    rw [secluded.ungrouped other] at grouped
    cases grouped

/-- Others do not see that the request is cancelled. -/
theorem Secluded.cancel_hides (secluded : Secluded target foreign system) :
    Hides target foreign system (system.onLoop (·.cancel target.task)) := by
  have isMember : system.onLoop (·.cancel target.task) =
      system.onLoop (·.cancelMember target.task) :=
    congrArg (fun loop => { system with loop }) (secluded.cancel_eq target.task)
  rw [isMember]
  have requests : Hides target foreign system (system.onLoop (·.requestCancel target.task)) :=
    secluded.modifyOwn_hides (fun state => { state with cancelRequested := true }) (fun _ => rfl)
      fun state entry => ⟨secluded.stack state entry, fun promise held =>
        secluded.owned promise (Or.inl ⟨state, entry, Or.inr held⟩)⟩
  simp only [System.onLoop, Scheduler.cancelMember]
  split
  · exact .refl secluded
  · split
    · exact requests
    · rename_i promise awaits
      split
      · exact requests
      · obtain ⟨found, entry, isAwaited⟩ := Option.bind_eq_some_iff.mp awaits
        have held : promise ∈ heldPromises found.stack found.awaiting := by
          simp [heldPromises, isAwaited]
        exact secluded.settle_hides
          (secluded.owned promise (Or.inl ⟨found, entry, Or.inr held⟩)).2 .cancelled

/-- A task of somebody else is unknown on both sides, or known on both. -/
theorem Alike.task_cases
    {task : Nat} (alike : Alike target paired left right) (isOther : task ≠ target.task) :
    left.loop.tasks[task]? = none ∧ right.loop.tasks[task]? = none ∨
      ∃ found foundThere, left.loop.tasks[task]? = some found ∧
        right.loop.tasks[task]? = some foundThere ∧ TaskAlike target paired found foundThere := by
  have same := alike.tasks task isOther
  generalize left.loop.tasks[task]? = first, right.loop.tasks[task]? = second at same
  cases same with
  | none => exact Or.inl ⟨rfl, rfl⟩
  | some same => exact Or.inr ⟨_, _, rfl, rfl, same⟩

theorem Alike.hasEnded_eq
    {task : Nat} (alike : Alike target paired left right) (isOther : task ≠ target.task) :
    left.loop.hasEnded task = right.loop.hasEnded task := by
  rcases alike.task_cases isOther with
    ⟨unknown, unknownThere⟩ | ⟨found, foundThere, entry, entryThere, same⟩
  · simp only [Scheduler.hasEnded, unknown, unknownThere]
  · simp only [Scheduler.hasEnded, entry, entryThere, Scheduler.isSettled,
      alike.outcomes _ _ same.completion]

/-- A task of somebody else is cancelled on both sides. -/
theorem Alike.cancel_other
    {task : Nat} (alike : Alike target paired left right) (isOther : task ≠ target.task) :
    Alike target paired (left.onLoop (·.cancel task)) (right.onLoop (·.cancel task)) := by
  have requests : Alike target paired (left.onLoop (·.requestCancel task))
      (right.onLoop (·.requestCancel task)) :=
    alike.modifyTask isOther (fun found => { found with cancelRequested := true }) (fun _ => rfl)
      (fun found counterpart related => { related with cancelRequested := rfl })
      (fun _ _ _ awaits _ => awaits) fun _ _ _ awaits _ => awaits
  simp only [System.onLoop, alike.secludedLeft.cancel_eq, alike.secludedRight.cancel_eq,
    Scheduler.cancelMember, alike.hasEnded_eq isOther]
  split
  · exact alike
  · rcases alike.task_cases isOther with
      ⟨unknown, unknownThere⟩ | ⟨found, foundThere, entry, entryThere, same⟩
    · simp only [unknown, unknownThere, Option.bind_none]
      exact requests
    · have awaiting := same.awaiting
      simp only [entry, entryThere, Option.bind_some]
      generalize found.awaiting = awaited, foundThere.awaiting = awaitedThere at awaiting
      cases awaiting with
      | none => exact requests
      | @some _ counterpart pair =>
          simp only [Scheduler.isSettled, alike.outcomes _ _ pair]
          rcases Bool.eq_false_or_eq_true (right.loop.outcome? counterpart).isSome with
            settled | settled
          · simp only [settled, if_true]
            exact requests
          · simp only [settled, Bool.false_eq_true, if_false]
            exact alike.settle pair .cancelled

/-- Tasks are cancelled one after the other on both sides, the request perhaps among them. -/
theorem Alike.cancels
    (alike : Alike target paired left right) (tasks : List Nat) :
    Alike target paired
      (left.onLoop fun loop => tasks.foldl (fun loop task => loop.cancel task) loop)
      (right.onLoop fun loop => tasks.foldl (fun loop task => loop.cancel task) loop) := by
  induction tasks generalizing left right with
  | nil => exact alike
  | cons head others inductionHypothesis =>
      by_cases isOther : head = target.task
      · subst isOther
        exact inductionHypothesis ((alike.hide_left alike.secludedLeft.cancel_hides).hide_right
          alike.secludedRight.cancel_hides)
      · exact inductionHypothesis (alike.cancel_other isOther)

end Cancel

end LanguageClient.Client
