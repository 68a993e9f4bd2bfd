import LanguageClient.Proofs.Inquiry.Steps
import LanguageClient.Proofs.Session.Resumption

/-!
# Runs and the queue of answers

Every input keeps the invariant of a session that answers the peer, and does to the queue of answers
what its requests of the peer say.
-/

namespace LanguageClient.Client

open LanguageClient.Json LanguageClient.Loop LanguageClient.Number LanguageClient.Protocol

variable {registered : List Registration} {system : System} {input : Input} {task : Nat}
  {rest : ClientLoop} {found : TaskState Frame} {inquiry : Inquiry}

/-! ## The turn of a task -/

theorem begunCall?_of_exchange
    (entry : system.loop.tasks[task]? = some found)
    (exchange : ∀ frame ∈ found.stack, frame.IsExchange) : system.begunCall? task = none := by
  simp only [System.begunCall?, entry, Option.bind_some]
  split
  · rfl
  · split
    · rename_i call begins
      exact (exchange (.begin call) (by rw [begins]; exact List.mem_cons_self)).elim
    · rfl

/-- What a task says in its turn: at most its answer, if it begins one. -/
theorem InquiryWorld.resumption_disregards
    (world : InquiryWorld registered system) (resumes : System.Resumes system task rest found) :
    (system.resumption rest task found).Exchanges ∧ ∃ said : System,
      said.loop = (system.resumed rest task).loop ∧ said.links = system.links ∧
      said.handedReplies = system.handedReplies ++
        (system.answeredInquiry? .turn).toList.map (fun inquiry => answerMessage inquiry.id) ∧
      Disregards (fun _ => system.ClosesSession .turn) said
        (system.resumption rest task found).1 := by
  have answers : system.answeredInquiry? .turn =
      (system.begunCall? task).bind (Call.inquiry? task) := by
    simp only [System.answeredInquiry?, resumes.resumedTask?, Option.bind_some]
  have unsaid : system.answeredInquiry? .turn = none →
      (system.resumed rest task).handedReplies = system.handedReplies ++
        (system.answeredInquiry? .turn).toList.map fun inquiry => answerMessage inquiry.id := by
    intro nothing
    rw [nothing, Option.toList_none, List.map_nil, List.append_nil]
    rfl
  rcases world.frames task found resumes.entry with ⟨call, begins⟩ | exchange
  · obtain ⟨onSession, idle⟩ : call.OnSession ∧ found.awaiting = none := by
      rcases world.session.orderly.tasks found (List.mem_of_getElem? resumes.entry) with
        ⟨other, onSession, otherBegins, idle⟩ | frames
      · rw [begins] at otherBegins
        simp only [List.cons.injEq, Frame.begin.injEq, and_true] at otherBegins
        exact ⟨otherBegins ▸ onSession, idle⟩
      · exact (frames (.begin call) (by rw [begins]; exact List.mem_cons_self)).elim
    cases cancelled : found.cancelRequested with
    | true =>
        have silent : system.begunCall? task = none := by
          simp [System.begunCall?, resumes.entry, cancelled]
        have ends : system.resumption rest task found =
            (system.resumed rest task, .ended .cancelled) := by
          simp only [System.resumption, System.signalOf_of_cancel cancelled, begins]
          exact System.resumeStack_not_begin _ call (by simp)
        rw [ends]
        exact ⟨.of_ended _ _, _, rfl, rfl, unsaid (by rw [answers, silent]; rfl), .refl _⟩
    | false =>
        have begun := resumes.begunCall?_of_begin cancelled begins
        have runs : system.resumption rest task found = (system.resumed rest task).call call := by
          simp only [System.resumption, System.signalOf_of_idle cancelled idle, begins]
          exact System.resumeStack_begin _ .nothing call
        rw [runs]
        cases call with
        | request session method params timeout =>
            have runsRequest : Disregards (fun _ => system.ClosesSession .turn) _ _ ∧ _ :=
              System.request_disregards (system.resumed rest task) session method params timeout
            exact ⟨runsRequest.2, _, rfl, rfl, unsaid (by rw [answers, begun]; rfl), runsRequest.1⟩
        | notify session method params =>
            have runsNotify : Disregards (fun _ => system.ClosesSession .turn) _ _ ∧ _ :=
              System.notify_disregards (system.resumed rest task) session method params
            exact ⟨runsNotify.2, _, rfl, rfl, unsaid (by rw [answers, begun]; rfl), runsNotify.1⟩
        | closeSession session =>
            obtain rfl : session = 0 := onSession
            have closes : system.ClosesSession .turn := ⟨task, resumes.resumedTask?, begun⟩
            obtain ⟨runsClose, exchanges⟩ := (system.resumed rest task).closeSession_disregards 0
            refine ⟨exchanges, _, rfl, rfl, unsaid (by rw [answers, begun]; rfl), ?_⟩
            exact runsClose.mono fun _ _ => closes
        | answer session id =>
            obtain rfl : session = 0 := onSession
            obtain ⟨state, only, _⟩ := world.session.parts.session
            have sessionFound : (system.resumed rest task).sessions[0]? = some state := by
              have same : (system.resumed rest task).sessions = [state] := only
              rw [same]
              rfl
            refine ⟨System.write_exchanges _ 0 _ _,
              (system.resumed rest task).note (.handed state.link (answerMessage id)), rfl, rfl, ?_,
              System.write_disregards _ 0 _ _ sessionFound⟩
            rw [answers, begun]
            simp only [System.handedReplies, System.handedFrames_handed, List.filter_append,
              List.filter_singleton, isReply_answerMessage]
            rfl
        | _ => exact onSession.elim
  · have silent := begunCall?_of_exchange resumes.entry exchange
    have ran : Disregards (fun _ => system.ClosesSession .turn) _ _ ∧ _ :=
      System.resumeStack_disregards (system.resumed rest task) exchange (system.signalOf found)
    exact ⟨ran.2, _, rfl, rfl, unsaid (by rw [answers, silent]; rfl), ran.1⟩

theorem startingInquiry?_of_resumes (resumes : System.Resumes system task rest found) :
    system.startingInquiry? .turn = system.inquiryOf? task := by
  simp only [System.startingInquiry?, resumes.resumedTask?, Option.bind_some]

/-- No request of the peer arrives in the turn of a task. -/
theorem arrivingInquiry?_of_resumes (resumes : System.Resumes system task rest found) :
    system.arrivingInquiry? .turn = none := by
  simp only [System.arrivingInquiry?, System.heardText?, System.comingCallback?, resumes.next,
    Option.map_some, Option.bind_none]

/-- No task is started in the turn of a task. -/
theorem InquiryWorld.turn_nextTask
    (world : InquiryWorld registered system) (resumes : System.Resumes system task rest found) :
    (system.step .turn).nextTask = system.nextTask := by
  obtain ⟨_, said, sameLoop, _, _, disregards⟩ := world.resumption_disregards resumes
  have queues : (system.resumed rest task).loop.Queues (fun _ => system.ClosesSession .turn)
      (system.resumption rest task found).1.loop := sameLoop ▸ disregards.loop
  rw [resumes.step_turn, (settleTask_unnoticed _ _ _).nextTask]
  exact queues.nextTask.trans resumes.resumed_nextTask

/-- The turn of a task takes it from the queue, if it is to answer. -/
theorem InquiryWorld.turn_handles
    (world : InquiryWorld registered system) (resumes : System.Resumes system task rest found) :
    Handles none (system.startingInquiry? .turn) (system.answeredInquiry? .turn) (some task)
      (fun _ => system.ClosesSession .turn) system (system.step .turn) := by
  obtain ⟨exchanges, said, sameLoop, sameLinks, replies, disregards⟩ :=
    world.resumption_disregards resumes
  have ran := world.session.resumption_passage resumes
  have taken := resumes.taken
  have restEntry : rest.tasks[task]? = some found := taken.tasks ▸ resumes.entry
  have queues : (system.resumed rest task).loop.Queues (fun _ => system.ClosesSession .turn)
      (system.resumption rest task found).1.loop := sameLoop ▸ disregards.loop
  have patient := resumes.resumed_isPatient world.session.isPatient
  obtain ⟨_, running, _⟩ := queues.tasks task _ (Scheduler.clearTask_self restEntry)
  obtain ⟨⟨cancelRequested, left⟩, _⟩ := resumes.leaves_turn ran.passage.loop
  have leaves := settleTask_unnoticed task found.completion (system.resumption rest task found)
  rw [← resumes.step_turn] at leaves
  exact {
    queue := by
      rw [startingInquiry?_of_resumes resumes,
        resumes.resumed_waitingInquiries world.session.punctual, resumes.step_turn,
        settleTask_waitingInquiries (patient.of_queues queues) exchanges running rfl,
        System.waitingInquiries_of_queues patient queues, Option.toList_none, List.append_nil]
    replies := by
      rw [← replies, ← disregards.replies]
      exact congrArg (List.filter isReply) leaves.handed
    tasks := fun other state entry waits => by
      have different : other ≠ task := fun same => waits (same ▸ rfl)
      have cleared : (system.resumed rest task).loop.tasks[other]? = some state :=
        (Scheduler.clearTask_other rest different).trans (taken.tasks ▸ entry)
      obtain ⟨cancelRequested, laterEntry, flag⟩ := queues.tasks other state cleared
      refine ⟨cancelRequested, ?_, flag⟩
      rw [resumes.step_turn]
      exact (System.settleTask_tasks_of_ne different).trans laterEntry
    started := fun other state isNew entry => by
      have known : other < (system.step .turn).nextTask := (List.getElem?_eq_some_iff.mp entry).1
      exact absurd (world.turn_nextTask resumes ▸ known) (Nat.not_lt.mpr isNew)
    left := fun other state runs entry => by
      obtain rfl := Option.some.inj runs
      rw [left] at entry
      obtain rfl := Option.some.inj entry
      exact exchanges
    fresh := nofun
    hears := by
      rw [resumes.step_turn, settleTask_links]
      exact (disregards.hears 0).trans (by rw [sameLinks]) }

/-! ## Inputs without the turn of a task -/

/-- The tasks that an input may cancel. -/
def System.Cancels (system : System) (input : Input) (task : Nat) : Prop :=
  system.ClosesSession input ∨ input = .cancel task

/-- What an input does to the requests of the peer. -/
def System.HandlesInput (system : System) (input : Input) : Prop :=
  ∃ running, (∀ task, running = some task → system.resumedTask? input = some task) ∧
    Handles (system.arrivingInquiry? input) (system.startingInquiry? input)
      (system.answeredInquiry? input) running (system.Cancels input) system (system.step input)

theorem starts_of_waiting (waits : system.resumedTask? input = none) :
    system.startingInquiry? input = none ∧ system.answeredInquiry? input = none := by
  simp [System.startingInquiry?, System.answeredInquiry?, waits]

/-- An input in which no task goes on handles the request that arrives with it. -/
theorem System.HandlesInput.of_waiting
    {cancels : Nat → Prop} (waits : system.resumedTask? input = none)
    (handles : Handles (system.arrivingInquiry? input) none none none cancels system
      (system.step input))
    (within : ∀ task, cancels task → system.Cancels input task) : system.HandlesInput input := by
  obtain ⟨nobodyStarts, nobodyAnswers⟩ := starts_of_waiting waits
  refine ⟨none, nofun, ?_⟩
  rw [nobodyStarts, nobodyAnswers]
  exact handles.mono within

/-- A callback that was taken is gone from the queue, which no task notices. -/
theorem taken_disregards
    {callback : Callback Action} (taken : Scheduler.Taken system.loop callback rest)
    (other : callback.resumed? = none) :
    Disregards (fun _ => False) system { system with loop := rest } := by
  refine .of_journal (.of_same taken.tasks taken.promises ?_) rfl rfl
  rw [← taken.resumed]
  exact (List.filterMap_cons_none other).symm

section Inputs

variable (world : InquiryWorld registered system)

include world

theorem InquiryWorld.callback_handles
    {callback : Callback Action} (next : system.loop.next? = some (callback, rest))
    (other : callback.resumed? = none) :
    Handles (system.arrivingInquiry? .turn) none none none (fun _ => False) system
      (({ system with loop := rest } : System).runCallback callback) := by
  have taken := Scheduler.taken_of_next? next
  obtain ⟨worldRest, allowed⟩ := world.session.taken taken
  have patient := worldRest.isPatient
  have coming : system.comingCallback? = some callback := by
    simp only [System.comingCallback?, next, Option.map_some]
  refine (taken_disregards taken other).andHandles world.session.isPatient ?_
  have unheard : ∀ {after : System}, (∀ link text, callback ≠ .act (.deliver link text)) →
      Disregards (fun _ => False) { system with loop := rest } after →
        Handles (system.arrivingInquiry? .turn) none none none (fun _ => False)
          { system with loop := rest } after := by
    intro after silent disregards
    have nothing : system.arrivingInquiry? .turn = none := by
      simp only [System.arrivingInquiry?, System.heardText?, coming]
      split
      · rename_i link text same
        exact (silent link text (Option.some.inj same)).elim
      · rfl
    rw [nothing]
    exact disregards.handles patient
  cases callback with
  | resume task => cases other
  | memberEnded group => exact allowed.elim
  | skipped => exact unheard (by simp) (.refl _)
  | fire timer action =>
      obtain ⟨registration, _, _, rfl, rfl⟩ := allowed
      exact unheard (by simp) (System.expire_disregards _ 0 registration.entry.id)
  | act action =>
      cases action with
      | discard session id => exact unheard (by simp) (System.discard_disregards _ session id)
      | answerEnded session task => exact unheard (by simp) (System.endAnswer_disregards _ session task)
      | deliver link text =>
          have heard : system.arrivingInquiry? .turn =
              if link = 0 then ({ system with loop := rest } : System).inquiryIn? text
              else none := by
            simp only [System.arrivingInquiry?, System.heardText?, coming]
            split
            · simp only [System.inquiryIn?, System.nextTask, Scheduler.nextTask, taken.tasks,
                Option.bind_some]
            · rfl
          rw [heard]
          exact System.receive_handles worldRest world.hears link text
      | expire _ _ => exact allowed.elim
      | debounce _ => exact allowed.elim
      | sendEnded _ _ => exact allowed.elim
      | wake _ => exact allowed.elim

/-- A task that has ended, or does not exist, is not in the queue of answers. -/
theorem InquiryWorld.inquiryOf?_of_ended
    (isReady : task ∈ resumed system.loop.ready)
    (ended : system.loop.hasEnded task = true) :
    system.inquiryOf? task = none := by
  by_contra asked
  obtain ⟨inquiry, isInquiry⟩ := Option.ne_none_iff_exists'.mp asked
  obtain ⟨found, _, entry, _, rfl⟩ := System.inquiryOf?_eq_some_iff.mp isInquiry
  have unended := world.unended inquiry (List.mem_filterMap.mpr ⟨inquiry.task, isReady, isInquiry⟩)
  rw [ending?_of_entry entry] at unended
  simp [Scheduler.hasEnded, entry, Scheduler.isSettled, unended] at ended

theorem InquiryWorld.turn_handlesInput : system.HandlesInput .turn := by
  rcases system.step_turn_cases with ⟨nothing, same⟩ | ⟨callback, rest, next, runs⟩
  · have silent : system.comingCallback? = none := by
      simp only [System.comingCallback?, nothing, Option.map_none]
    refine .of_waiting (by simp only [System.resumedTask?, silent, Option.bind_none]) ?_
      (fun _ => False.elim)
    have unheard : system.arrivingInquiry? .turn = none := by
      simp only [System.arrivingInquiry?, System.heardText?, silent, Option.bind_none]
    rw [same, unheard]
    exact (Disregards.refl system).handles world.session.isPatient
  · have taken := Scheduler.taken_of_next? next
    have coming : system.comingCallback? = some callback := by
      simp only [System.comingCallback?, next, Option.map_some]
    cases goesOn : callback.resumed? with
    | none =>
        refine .of_waiting ?_ (runs ▸ world.callback_handles next goesOn) (fun _ => False.elim)
        simp only [System.resumedTask?, coming, Option.bind_some, goesOn]
    | some task =>
        obtain rfl := Callback.resumed?_eq_some_iff.mp goesOn
        rcases System.resume_cases next with ⟨found, resumes⟩ | ⟨ended, stays⟩
        · refine ⟨some task, fun other same => same ▸ resumes.resumedTask?, ?_⟩
          rw [arrivingInquiry?_of_resumes resumes]
          exact (world.turn_handles resumes).mono fun _ => Or.inl
        · have isReady : task ∈ resumed system.loop.ready := by
            rw [← taken.resumed]
            exact List.mem_cons_self
          have absent := world.inquiryOf?_of_ended isReady ended
          have unbegun : system.begunCall? task = none := by
            cases entry : system.loop.tasks[task]? with
            | none => simp only [System.begunCall?, entry, Option.bind_none]
            | some found => simp [System.begunCall?, entry, ended]
          have goes : system.resumedTask? .turn = some task := by
            simp only [System.resumedTask?, coming, Option.bind_some, goesOn]
          have starts : system.startingInquiry? .turn = none := by
            simp only [System.startingInquiry?, goes, Option.bind_some, absent]
          have answers : system.answeredInquiry? .turn = none := by
            simp only [System.answeredInquiry?, goes, Option.bind_some, unbegun, Option.bind_none]
          have unheard : system.arrivingInquiry? .turn = none := by
            simp only [System.arrivingInquiry?, System.heardText?, coming, Option.bind_none]
          have left : system.waitingInquiries =
              ({ system with loop := rest } : System).waitingInquiries := by
            have ready : resumed system.loop.ready = task :: resumed rest.ready :=
              taken.resumed.symm
            have same : ({ system with loop := rest } : System).inquiryOf? = system.inquiryOf? := by
              funext other
              simp only [System.inquiryOf?, taken.tasks]
            unfold System.waitingInquiries
            rw [same, ready, List.filterMap_cons_none absent]
          refine ⟨none, by simp, ?_⟩
          rw [starts, answers, unheard, runs, stays]
          exact {
            queue := by rw [left]; simp
            replies := by simp [System.handedReplies, System.handedFrames]
            tasks := fun other found entry _ =>
              ⟨found.cancelRequested, by rw [← entry]; exact congrArg (·[other]?) taken.tasks,
                Or.inl rfl⟩
            started := fun other found isNew entry => by
              have known : other < system.nextTask :=
                (List.getElem?_eq_some_iff.mp (taken.tasks ▸ entry)).1
              exact absurd known (Nat.not_lt.mpr isNew)
            left := by simp
            fresh := by simp
            hears := rfl }

theorem InquiryWorld.handlesInput
    (onSession : input.OnSession)
    (answersNothing : ∀ session id, input ≠ .call (.answer session id)) :
    system.HandlesInput input := by
  have patient := world.session.isPatient
  have quiet : ∀ {cancels : Nat → Prop}, system.resumedTask? input = none →
      system.heardText? 0 input = none → Disregards cancels system (system.step input) →
        (∀ task, cancels task → system.Cancels input task) → system.HandlesInput input := by
    intro cancels waits silent disregards within
    refine .of_waiting waits ?_ within
    have unheard : system.arrivingInquiry? input = none := by
      simp only [System.arrivingInquiry?, silent, Option.bind_none]
    rw [unheard]
    exact disregards.handles patient
  have nobody : ∀ task : Nat, False → system.Cancels input task := fun _ => False.elim
  cases input with
  | turn => exact world.turn_handlesInput
  | call call =>
      refine .of_waiting rfl ?_ nobody
      have unasked : (system.spawn call).inquiryOf? system.nextTask = none := by
        refine System.inquiryOf?_of_other (spawn_task system call) fun session id begins => ?_
        simp only [List.cons.injEq, Frame.begin.injEq, and_true] at begins
        exact answersNothing session id (by rw [begins])
      have fresh : (system.spawn call).ending? system.nextTask = none := by
        rw [ending?_of_entry (spawn_task system call)]
        exact (Scheduler.spawn_outcome? _ _ system.loop).trans
          (Scheduler.outcome?_eq_none_of_le (Nat.le_refl _))
      have handles := world.session.spawn_handles (.refl (system.spawn call)) fresh
      rwa [unasked] at handles
  | cancel task =>
      have ungrouped : ∀ promise group, system.loop.awaitedGroup? task ≠ some (promise, group) := by
        intro promise group awaits
        obtain ⟨_, _, rest⟩ := Option.bind_eq_some_iff.mp awaits
        obtain ⟨_, _, rest⟩ := Option.bind_eq_some_iff.mp rest
        obtain ⟨other, isOpen, _⟩ := Option.bind_eq_some_iff.mp rest
        obtain ⟨entry, member, _, isGroup⟩ := Scheduler.Passage.entry_of_openGroup? isOpen
        exact world.session.orderly.groups entry member other isGroup
      have cancels : system.loop.Queues (· = task) (system.loop.cancel task) :=
        system.loop.cancel_queues rfl fun promise group awaits =>
          (ungrouped promise group awaits).elim
      exact quiet rfl rfl (.onLoop system cancels) fun other same => Or.inr (same ▸ rfl)
  | listen session listener => exact quiet rfl rfl (.modifySession system session _) nobody
  | receive link text =>
      refine .of_waiting rfl ?_ nobody
      have heard : system.arrivingInquiry? (.receive link text) =
          if link = 0 then system.inquiryIn? text else none := by
        simp only [System.arrivingInquiry?, System.heardText?]
        split <;> rfl
      rw [heard]
      exact System.receive_handles world.session world.hears link text
  | drop link => exact quiet rfl rfl (system.drop_disregards link) nobody
  | behave peer => exact quiet rfl rfl (.of_same rfl rfl rfl) nobody
  | release place =>
      exact quiet rfl rfl (system.releases_disregards (system.releaseFrame_releases place)) nobody
  | releaseClose place =>
      exact quiet rfl rfl (system.releases_disregards (system.releaseClosing_releases place)) nobody
  | tick moment =>
      exact quiet rfl rfl (.of_journal (.of_same rfl rfl rfl) rfl rfl) nobody
  | attach _ _ _ => exact onSession.elim
  | edit _ _ => exact onSession.elim
  | editText _ _ => exact onSession.elim

end Inputs

end LanguageClient.Client
