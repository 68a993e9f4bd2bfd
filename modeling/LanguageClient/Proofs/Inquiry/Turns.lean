import LanguageClient.Proofs.Conduct.Endings
import LanguageClient.Proofs.Inquiry.World

/-!
# Turns and the queue of answers

What a turn does to the requests of the peer whose answers have not begun. A task leaves the queue
when it takes its first turn, whether it answers or was cancelled, and all others stay in order.
-/

namespace LanguageClient.Client

open LanguageClient.Json LanguageClient.Loop LanguageClient.Number LanguageClient.Protocol

variable {targets : Nat → Prop} {registered : List Registration} {before after system : System}
  {input : Input} {task : Nat} {rest : ClientLoop} {found : TaskState Frame} {inquiry : Inquiry}

namespace System

/-! ## The queue of answers -/

theorem inquiryOf?_eq_some_iff :
    system.inquiryOf? task = some inquiry ↔
      ∃ found session, system.loop.tasks[task]? = some found ∧
        found.stack = [.begin (.answer session inquiry.id)] ∧ inquiry.task = task := by
  constructor
  · intro isInquiry
    obtain ⟨found, entry, asked⟩ := Option.bind_eq_some_iff.mp isInquiry
    split at asked
    · rename_i session id stackEq
      obtain rfl := Option.some.inj asked
      exact ⟨found, session, entry, stackEq, rfl⟩
    · cases asked
  · rintro ⟨found, session, entry, stackEq, rfl⟩
    simp only [inquiryOf?, entry, stackEq, Option.bind_some]

theorem inquiryOf?_of_other
    (entry : system.loop.tasks[task]? = some found)
    (other : ∀ session id, found.stack ≠ [.begin (.answer session id)]) :
    system.inquiryOf? task = none := by
  by_contra isInquiry
  obtain ⟨inquiry, asked⟩ := Option.ne_none_iff_exists'.mp isInquiry
  obtain ⟨same, session, sameEntry, stackEq, _⟩ := inquiryOf?_eq_some_iff.mp asked
  rw [entry] at sameEntry
  obtain rfl := Option.some.inj sameEntry
  exact other session _ stackEq

theorem inquiryOf?_of_exchange
    (entry : system.loop.tasks[task]? = some found)
    (exchange : ∀ frame ∈ found.stack, frame.IsExchange) : system.inquiryOf? task = none := by
  refine inquiryOf?_of_other entry fun session id begins => ?_
  exact exchange (.begin (.answer session id)) (by rw [begins]; exact List.mem_cons_self)

theorem mem_waitingInquiries :
    inquiry ∈ system.waitingInquiries ↔
      .resume inquiry.task ∈ system.loop.ready ∧
        ∃ found session, system.loop.tasks[inquiry.task]? = some found ∧
          found.stack = [.begin (.answer session inquiry.id)] := by
  unfold waitingInquiries
  rw [List.mem_filterMap]
  constructor
  · rintro ⟨task, member, asked⟩
    obtain ⟨found, session, entry, stackEq, rfl⟩ := inquiryOf?_eq_some_iff.mp asked
    exact ⟨mem_resumed.mp member, found, session, entry, stackEq⟩
  · rintro ⟨isReady, found, session, entry, stackEq⟩
    exact ⟨inquiry.task, mem_resumed.mpr isReady,
      inquiryOf?_eq_some_iff.mpr ⟨found, session, entry, stackEq, rfl⟩⟩

/-- No task that awaits a promise is still to answer a request of the peer. -/
def IsPatient (system : System) : Prop :=
  ∀ task, system.loop.Expects task → system.inquiryOf? task = none

theorem inquiryOf?_of_queues (queues : before.loop.Queues targets after.loop) :
    after.inquiryOf? = before.inquiryOf? := by
  funext task
  cases entry : before.loop.tasks[task]? with
  | none =>
      have unknown : after.loop.tasks[task]? = none :=
        List.getElem?_eq_none (queues.nextTask.trans_le (List.getElem?_eq_none_iff.mp entry))
      simp only [inquiryOf?, entry, unknown]
  | some found =>
      obtain ⟨cancelRequested, later, _⟩ := queues.tasks task found entry
      simp only [inquiryOf?, entry, later, Option.bind_some]

theorem waitingInquiries_of_queues
    (patient : before.IsPatient) (queues : before.loop.Queues targets after.loop) :
    after.waitingInquiries = before.waitingInquiries := by
  obtain ⟨added, ready, expected⟩ := queues.queue
  have nothing : added.filterMap before.inquiryOf? = [] :=
    List.filterMap_eq_nil_iff.mpr fun task member => patient task (expected task member)
  unfold waitingInquiries
  rw [inquiryOf?_of_queues queues, ready, List.filterMap_append, nothing, List.append_nil]

theorem IsPatient.of_queues
    (patient : before.IsPatient) (queues : before.loop.Queues targets after.loop) :
    after.IsPatient := by
  intro task expected
  rw [inquiryOf?_of_queues queues]
  exact patient task (queues.expects task expected)

end System

theorem SessionWorld.isPatient (world : SessionWorld registered system) : system.IsPatient := by
  rintro task ⟨entry, member, expected⟩
  obtain ⟨promise, promiseEntry⟩ := List.mem_iff_getElem?.mp member
  obtain ⟨_, found, taskEntry, awaits⟩ :=
    world.punctual.waiting promise entry promiseEntry task expected
  refine System.inquiryOf?_of_other taskEntry fun session id begins => ?_
  rcases world.orderly.tasks found (List.mem_of_getElem? taskEntry) with ⟨_, _, _, idle⟩ | frames
  · rw [idle] at awaits
    cases awaits
  · exact frames (.begin (.answer session id)) (by rw [begins]; exact List.mem_cons_self)

/-- A call that starts joins the queue if it is an answer. -/
theorem SessionWorld.spawn_waitingInquiries (world : SessionWorld registered system) (call : Call) :
    (system.spawn call).IsPatient ∧
      (system.spawn call).waitingInquiries =
        system.waitingInquiries ++ ((system.spawn call).inquiryOf? system.nextTask).toList := by
  have same : ∀ {task}, task < system.nextTask →
      (system.spawn call).inquiryOf? task = system.inquiryOf? task := by
    intro task known
    have entry : (system.spawn call).loop.tasks[task]? = system.loop.tasks[task]? :=
      List.getElem?_append_left known
    simp only [System.inquiryOf?, entry]
  constructor
  · rintro task ⟨entry, member, expected⟩
    have earlier : entry ∈ system.loop.promises := by
      rcases List.mem_append.mp member with earlier | added
      · exact earlier
      · rw [List.mem_singleton.mp added] at expected
        cases expected
    obtain ⟨promise, promiseEntry⟩ := List.mem_iff_getElem?.mp earlier
    obtain ⟨_, found, taskEntry, _⟩ :=
      world.punctual.waiting promise entry promiseEntry task expected
    rw [same (List.getElem?_eq_some_iff.mp taskEntry).1]
    exact world.isPatient task ⟨entry, earlier, expected⟩
  · have known : ∀ task ∈ resumed system.loop.ready,
        (system.spawn call).inquiryOf? task = system.inquiryOf? task := by
      intro task member
      obtain ⟨found, entry, _⟩ := world.punctual.ready task member
      exact same (List.getElem?_eq_some_iff.mp entry).1
    have ready : resumed (system.spawn call).loop.ready =
        resumed system.loop.ready ++ [system.nextTask] := resumed_append _ _
    unfold System.waitingInquiries
    rw [ready, List.filterMap_append, List.filterMap_congr known]
    cases asked : (system.spawn call).inquiryOf? system.nextTask with
    | none => rw [List.filterMap_cons_none asked]; rfl
    | some inquiry => rw [List.filterMap_cons_some asked]; rfl

/-! ## The turn of a task -/

namespace System.Resumes

variable (resumes : Resumes system task rest found)

include resumes

theorem resumedTask? : system.resumedTask? .turn = some task := by
  simp only [System.resumedTask?, comingCallback?, resumes.next, Option.map_some, Option.bind_some,
    Callback.resumed?]

theorem resumed_inquiryOf?
    {other : Nat} (different : other ≠ task) :
    (system.resumed rest task).inquiryOf? other = system.inquiryOf? other := by
  have taken := resumes.taken
  have entry : (system.resumed rest task).loop.tasks[other]? = system.loop.tasks[other]? :=
    (Scheduler.clearTask_other rest different).trans (congrArg (·[other]?) taken.tasks)
  simp only [inquiryOf?, entry]

theorem resumed_inquiryOf?_self : (system.resumed rest task).inquiryOf? task = none := by
  have taken := resumes.taken
  have entry : (system.resumed rest task).loop.tasks[task]? = some _ :=
    Scheduler.clearTask_self (taken.tasks ▸ resumes.entry)
  exact inquiryOf?_of_exchange entry fun _ member => absurd member List.not_mem_nil

theorem resumed_isPatient (patient : system.IsPatient) : (system.resumed rest task).IsPatient := by
  have taken := resumes.taken
  rintro other ⟨entry, member, expected⟩
  by_cases same : other = task
  · rw [same]
    exact resumes.resumed_inquiryOf?_self
  · rw [resumes.resumed_inquiryOf? same]
    have promises : (system.resumed rest task).loop.promises = system.loop.promises :=
      taken.promises
    exact patient other ⟨entry, promises ▸ member, expected⟩

/-- A task that goes on leaves the queue. -/
theorem resumed_waitingInquiries (punctual : system.loop.Punctual none) :
    system.waitingInquiries =
      (system.inquiryOf? task).toList ++ (system.resumed rest task).waitingInquiries := by
  have taken := resumes.taken
  have notReady : task ∉ Loop.resumed rest.ready := (punctual.taken taken).2 task rfl
  have ready : Loop.resumed system.loop.ready = task :: Loop.resumed rest.ready :=
    taken.resumed.symm
  have others : ∀ other ∈ Loop.resumed rest.ready,
      (system.resumed rest task).inquiryOf? other = system.inquiryOf? other := fun other member =>
    resumes.resumed_inquiryOf? fun same => notReady (same ▸ member)
  have readyResumed : (system.resumed rest task).loop.ready = rest.ready := rfl
  unfold waitingInquiries
  rw [ready, readyResumed, List.filterMap_congr others]
  cases asked : system.inquiryOf? task with
  | none => rw [List.filterMap_cons_none asked]; rfl
  | some inquiry => rw [List.filterMap_cons_some asked]; rfl

end System.Resumes

/-- A task that is left with frames of an exchange is not in the queue. -/
theorem settleTask_waitingInquiries
    {completion : Nat} {step : Step} (patient : step.1.IsPatient) (exchanges : step.Exchanges)
    (entry : step.1.loop.tasks[task]? = some found) (cleared : found.stack = []) :
    (System.settleTask task completion step).waitingInquiries = step.1.waitingInquiries := by
  obtain ⟨later, outcome | ⟨frames, promise⟩⟩ := step
  · have settled : later.loop.Queues (fun _ => False)
        (System.settleTask task completion (later, .ended outcome)).loop :=
      Scheduler.settle_queues later.loop completion outcome
    exact System.waitingInquiries_of_queues patient settled
  · have nothing : later.inquiryOf? task = none :=
      System.inquiryOf?_of_exchange entry (by simp [cleared])
    have left : (System.settleTask task completion
        (later, .suspended frames promise)).loop.tasks[task]? = some _ :=
      Scheduler.suspend_tasks_self frames promise entry
    have same : (System.settleTask task completion
        (later, .suspended frames promise)).inquiryOf? = later.inquiryOf? := by
      funext other
      by_cases self : other = task
      · rw [self, nothing]
        exact System.inquiryOf?_of_exchange left exchanges
      · have kept : (System.settleTask task completion
            (later, .suspended frames promise)).loop.tasks[other]? = later.loop.tasks[other]? :=
          Scheduler.suspend_tasks_of_ne frames promise later.loop self
        simp only [System.inquiryOf?, kept]
    have ready : resumed (System.settleTask task completion
          (later, .suspended frames promise)).loop.ready = resumed later.loop.ready ∨
        resumed (System.settleTask task completion
          (later, .suspended frames promise)).loop.ready = resumed later.loop.ready ++ [task] := by
      rcases Scheduler.whenSettled_cases promise (.resume task)
          (later.loop.modifyTask task fun found =>
            { found with stack := frames, awaiting := some promise }) with
        ⟨_, waits⟩ | ⟨_, waits⟩ | ⟨_, _, _, waits⟩
      · exact Or.inl (congrArg (fun loop => resumed loop.ready) waits)
      · exact Or.inr ((congrArg (fun loop => resumed loop.ready) waits).trans (resumed_append _ _))
      · exact Or.inl (congrArg (fun loop => resumed loop.ready) waits)
    unfold System.waitingInquiries
    rw [same]
    rcases ready with ready | ready
    · rw [ready]
    · rw [ready, List.filterMap_append, List.filterMap_cons_none nothing, List.filterMap_nil,
        List.append_nil]

end LanguageClient.Client
