import LanguageClient.Proofs.Isolation.Turns

/-!
# Inputs that others do not notice

An input that is no event apart from the request changes nothing that others can see: it concerns the
request alone, or it is something that the client does by itself.
-/

namespace LanguageClient.Client

open LanguageClient.Json LanguageClient.Loop LanguageClient.Number LanguageClient.Protocol

/-- At most a callback is taken from the queue. -/
structure Takes (system : System) (rest : ClientLoop) : Prop where
  tasks : rest.tasks = system.loop.tasks
  promises : rest.promises = system.loop.promises

section Silence

variable {target : Target} {foreign : Nat → Prop} {system : System} {promise : Nat}
  {rest : ClientLoop} {registered : List Registration} {input : Input}

namespace Takes

theorem refl (system : System) : Takes system system.loop := ⟨rfl, rfl⟩

theorem of_next
    {callback : Callback Action} (next : system.loop.next? = some (callback, rest)) :
    Takes system rest :=
  have taken := Scheduler.taken_of_next? next
  ⟨taken.tasks, taken.promises⟩

theorem unseen (takes : Takes system rest) : Unseen system { system with loop := rest } :=
  .of_same takes.tasks takes.promises rfl rfl (fun _ => id) rfl

theorem nextTask_eq (takes : Takes system rest) :
    ({ system with loop := rest } : System).nextTask = system.nextTask :=
  congrArg List.length takes.tasks

theorem parts (takes : Takes system rest) (parts : SessionParts registered system) :
    SessionParts registered { system with loop := rest } :=
  parts.of_plain rfl rfl rfl rfl fun _ plain =>
    plain.of_le (by simp only [Scheduler.completions, takes.tasks])
      (by simp only [Scheduler.nextPromise, takes.promises, Nat.le_refl])

theorem openRequest?_eq (takes : Takes system rest) (session : Nat) (id : String) :
    ({ system with loop := rest } : System).openRequest? session id = system.openRequest? session id := by
  simp only [System.openRequest?, Scheduler.isSettled, Scheduler.outcome?, takes.promises]

end Takes

/-! ## Who awaits a promise -/

theorem awaiter?_of_awaits
    {task : Nat} {found : TaskState Frame} (isOther : task ≠ target.task)
    (entry : system.loop.tasks[task]? = some found) (awaits : found.awaiting = some promise) :
    system.awaiter? target promise ≠ none := by
  intro nobody
  have inside : task < system.nextTask := (List.getElem?_eq_some_iff.mp entry).1
  have differs := List.find?_eq_none.mp nobody task (List.mem_range.mpr inside)
  simp [isOther, entry, awaits] at differs

theorem awaits_of_awaiter?
    {task : Nat} (isAwaiter : system.awaiter? target promise = some task) :
    task ≠ target.task ∧ (system.loop.tasks[task]?).bind (·.awaiting) = some promise := by
  have found := List.find?_some isAwaiter
  simpa using found

namespace Secluded

variable (secluded : Secluded target foreign system)

include secluded

/-- What the peer lets go matters to nobody else unless somebody else waits for it still. -/
theorem release_hides
    {peer : Peer} (member : promise ∈ system.peer.detained)
    (fewer : ∀ other ∈ peer.detained, other ∈ system.peer.detained)
    (nothing : system.release? target promise = none) :
    Hides target foreign system
      (({ system with peer } : System).settle promise (.returned .nothing)) := by
  have freed := (Unseen.withPeer system peer fewer).hides secluded
  by_cases isForeign : foreign promise
  · have settled : system.loop.outcome? promise ≠ none := fun unsettled => by
      obtain ⟨task, found, isOther, entry, awaits⟩ :=
        secluded.awaited promise isForeign member unsettled
      simp only [System.release?, Scheduler.isSettled, unsettled, Option.isSome_none,
        Bool.false_eq_true, if_false, Option.map_eq_none_iff] at nothing
      exact awaiter?_of_awaits isOther entry awaits nothing
    have same : ({ system with peer } : System).settle promise (.returned .nothing) =
        { system with peer } := by
      rcases Scheduler.settle_cases promise (.returned .nothing) system.loop with
        same | ⟨entry, found, unsettled, _⟩
      · simp only [System.settle, System.onLoop, same]
      · exact (settled (by simp [Scheduler.outcome?, found, unsettled])).elim
    rw [same]
    exact freed
  · exact freed.trans (freed.secluded.settle_hides isForeign _)

/-- Nobody else notices that the time of the request is over, nor a timer of no open request. -/
theorem expire_hides
    {id : String} (silent : id = target.id ∨ system.openRequest? 0 id = none) :
    Hides target foreign system (system.expire 0 id) := by
  unfold System.expire
  split
  · exact .refl secluded
  · rename_i entry isOpen
    rcases silent with rfl | nothing
    · have logged : Hides target foreign system _ := (Unseen.log system .warning .session
        ("request " ++ (Failure.timedOut entry.method target.id entry.timeout).message)).hides secluded
      exact logged.trans (logged.secluded.settle_hides (secluded.apart_entry isOpen) _)
    · rw [nothing] at isOpen
      cases isOpen

end Secluded

/-! ## Turns -/

/-- A callback that removes an entry from the table concerns a request that is settled. -/
theorem HasTable.settled_of_removal
    {session : Nat} {id : String} (table : HasTable registered [.act (.discard session id)] system)
    (ids : (registered.map (·.entry.id)).Nodup) :
    session = 0 ∧ ∀ found ∈ system.sessions, ∀ entry ∈ found.pending, entry.id = id →
      system.loop.outcome? entry.promise ≠ none := by
  obtain ⟨only, isOnly, tracked, _⟩ := table
  obtain ⟨registration, member, first, rfl, settled⟩ := tracked.removals session id List.mem_cons_self
  refine ⟨first, fun found inside entry listed sameId => ?_⟩
  rw [isOnly, List.mem_singleton] at inside
  subst inside
  rw [tracked.entry_eq ids member listed sameId]
  exact settled

/-- A callback that is no event apart from the request is noticed by nobody else. -/
theorem Secluded.callback_hides
    {callback : Callback Action} (secluded : Secluded target foreign system)
    (world : SessionWorld registered system) (table : HasTable registered [] system)
    (next : system.loop.next? = some (callback, rest))
    (nothing : system.callbackEvent? target callback = none) :
    Hides target foreign system (({ system with loop := rest } : System).runCallback callback) := by
  have takes := Takes.of_next next
  have taken := takes.unseen.hides secluded
  obtain ⟨worldRest, allowed⟩ := world.taken (Scheduler.taken_of_next? next)
  cases callback with
  | resume task =>
      simp only [System.callbackEvent?] at nothing
      rcases System.resume_cases next with ⟨found, resumes⟩ | ⟨_, stays⟩
      · have isOwn : task = target.task ∧ system.issues task = false := by
          by_contra other
          rw [not_and_or, Bool.not_eq_false] at other
          rcases other with isOther | issues
          · simp [resumes.unended, isOther] at nothing
          · by_cases isTask : task = target.task
            · subst isTask
              simp [resumes.unended, issues] at nothing
            · simp [resumes.unended, isTask] at nothing
        obtain ⟨rfl, quiet⟩ := isOwn
        exact System.step_turn_of_next next ▸ secluded.own_turn resumes quiet
      · rw [stays]
        exact taken
  | memberEnded group => exact allowed.elim
  | skipped => exact taken
  | fire timer action =>
      obtain ⟨registration, _, _, _, rfl⟩ := allowed
      refine taken.trans (taken.secluded.expire_hides ?_)
      rw [takes.openRequest?_eq]
      by_cases isOwn : registration.entry.id = target.id
      · exact Or.inl isOwn
      · exact Or.inr (by simpa [System.callbackEvent?, System.actionEvent?, isOwn] using nothing)
  | act action =>
      cases action with
      | discard session id =>
          obtain ⟨rfl, settled⟩ := (table.taken next).settled_of_removal world.parts.idsDistinct
          exact taken.trans (taken.secluded.discard_hides (Or.inr settled))
      | deliver link text =>
          refine taken.trans (taken.secluded.receive_hides worldRest.parts link fun isFirst => ?_)
          by_contra other
          simp [System.callbackEvent?, System.actionEvent?, Target.hearing?, isFirst, other] at nothing
      | answerEnded session task => cases nothing
      | expire _ _ => exact allowed.elim
      | debounce _ => exact allowed.elim
      | sendEnded _ _ => exact allowed.elim
      | wake _ => exact allowed.elim

/-- An input that is no event apart from the request is noticed by nobody else. -/
theorem Secluded.step_hides
    (secluded : Secluded target foreign system) (proceeds : target.Proceeds registered system input)
    (nothing : system.event? target input = none) :
    Hides target foreign system (system.step input) := by
  cases input with
  | call call => cases nothing
  | cancel task =>
      by_cases isOwn : task = target.task
      · subst isOwn
        exact secluded.cancel_hides
      · simp [System.event?, isOwn] at nothing
  | listen session listener => exact secluded.listen_hides session listener
  | receive link text =>
      refine secluded.receive_hides proceeds.world.parts link fun isFirst => ?_
      by_contra other
      simp [System.event?, Target.hearing?, isFirst, other] at nothing
  | drop link =>
      have notFirst : link ≠ 0 := fun isFirst => by simp [System.event?, isFirst] at nothing
      have same : system.step (.drop link) = system := by
        simp only [System.step, System.drop]
        split
        · rfl
        · rename_i session listens
          exact (notFirst (proceeds.world.parts.links link session listens).1).elim
      rw [same]
      exact .refl secluded
  | behave peer =>
      exact (Unseen.withPeer system
        { peer with held := system.peer.held, heldCloses := system.peer.heldCloses }
        fun _ => id).hides secluded
  | release place =>
      simp only [System.step, System.releaseFrame]
      split
      · exact .refl secluded
      · rename_i promise isHeld
        exact secluded.release_hides (mem_detained_of_held isHeld)
          (fun _ => detained_of_frame_released) (by simpa [System.event?, isHeld] using nothing)
  | releaseClose place =>
      simp only [System.step, System.releaseClosing]
      split
      · exact .refl secluded
      · rename_i promise isHeld
        exact secluded.release_hides (mem_detained_of_heldClose isHeld)
          (fun _ => detained_of_closing_released) (by simpa [System.event?, isHeld] using nothing)
  | tick moment => exact (Unseen.onLoop system _ rfl rfl).hides secluded
  | turn =>
      rcases system.step_turn_cases with ⟨_, same⟩ | ⟨callback, rest, next, runs⟩
      · rw [same]
        exact .refl secluded
      · rw [runs]
        refine secluded.callback_hides proceeds.world proceeds.table next ?_
        simpa [System.event?, System.comingCallback?, next] using nothing
  | attach _ _ _ => exact proceeds.onSession.elim
  | edit _ _ => exact proceeds.onSession.elim
  | editText _ _ => exact proceeds.onSession.elim

end Silence

end LanguageClient.Client
