import LanguageClient.Proofs.Inquiry.Runs

/-!
# Answers are inert

A request of the peer, the turns of the task that answers it and the end of that task leave all else
alone. What the task writes may be refused or held back, and nobody else learns of it.
-/

namespace LanguageClient.Client

open LanguageClient.Json LanguageClient.Loop LanguageClient.Number LanguageClient.Protocol

/-- The frames of a task that answers a request of the peer. -/
def IsAnswerStack (stack : List Frame) : Prop :=
  stack = [] ∨ (∃ id, stack = [.begin (.answer 0 id)]) ∨
    ∃ link frame, stack = [.sending link frame, .writing "response"]

/-- A task that answers leaves the sessions, the connections and all promises as they are. -/
structure Unobtrusive (task : Nat) (before after : System) : Prop where
  sessions : after.sessions = before.sessions
  links : after.links = before.links
  outcomes : ∀ promise, after.loop.outcome? promise = before.loop.outcome? promise
  quiet : ∃ occurrences, after.journal = before.journal ++ occurrences ∧
    ∀ occurrence ∈ occurrences, occurrence.IsOfAnswer task

variable {registered : List Registration} {before middle after system : System} {input : Input}
  {task : Nat} {rest : ClientLoop} {found : TaskState Frame} {inquiry : Inquiry}

namespace Unobtrusive

theorem of_journal
    (sessions : after.sessions = before.sessions) (links : after.links = before.links)
    (outcomes : ∀ promise, after.loop.outcome? promise = before.loop.outcome? promise)
    (journal : after.journal = before.journal) : Unobtrusive task before after :=
  ⟨sessions, links, outcomes, [], by rw [journal, List.append_nil], by simp⟩

theorem refl (system : System) : Unobtrusive task system system :=
  .of_journal rfl rfl (fun _ => rfl) rfl

theorem trans (first : Unobtrusive task before middle) (second : Unobtrusive task middle after) :
    Unobtrusive task before after where
  sessions := second.sessions.trans first.sessions
  links := second.links.trans first.links
  outcomes := fun promise => (second.outcomes promise).trans (first.outcomes promise)
  quiet := by
    obtain ⟨early, between, earlyOfAnswer⟩ := first.quiet
    obtain ⟨late, final, lateOfAnswer⟩ := second.quiet
    exact ⟨early ++ late, by rw [final, between, List.append_assoc],
      List.forall_mem_append.mpr ⟨earlyOfAnswer, lateOfAnswer⟩⟩

theorem note
    {occurrence : Occurrence} (system : System) (ofAnswer : occurrence.IsOfAnswer task) :
    Unobtrusive task system (system.note occurrence) :=
  ⟨rfl, rfl, fun _ => rfl, [occurrence], rfl, by simpa using ofAnswer⟩

theorem holdBack (system : System) : Unobtrusive task system system.holdBack :=
  .of_journal rfl rfl (fun promise => Scheduler.addPromise_outcome? promise system.loop rfl) rfl

theorem accept (system : System) (link : Nat) (frame : Value) :
    Unobtrusive task system (system.accept link frame) :=
  ⟨rfl, rfl, fun _ => rfl, [.accepted link frame], rfl, by simp [Occurrence.IsOfAnswer]⟩

/-- A write to a session, whatever comes of it. -/
theorem write
    {session : Session} (sessionFound : system.sessions[0]? = some session) (frame : Value) :
    Unobtrusive task system (system.write 0 "response" frame).1 ∧
      IsAnswerStack (system.write 0 "response" frame).2.frames := by
  have handed : Unobtrusive task system (system.note (.handed session.link frame)) :=
    .note system trivial
  rcases System.write_cases "response" frame sessionFound with ⟨_, _, refused⟩ | held | accepted
  · rw [refused]
    exact ⟨handed, Or.inl rfl⟩
  · rw [held]
    exact ⟨handed.trans (.holdBack _), Or.inr (Or.inr ⟨session.link, frame, rfl⟩)⟩
  · rw [accepted]
    exact ⟨handed.trans (.accept _ _ _), Or.inl rfl⟩

end Unobtrusive

/-- A task that answers does nothing else in its turn. -/
theorem IsAnswerStack.goesOn
    {session : Session} (answers : IsAnswerStack found.stack)
    (sessionFound : system.sessions[0]? = some session) (outcome : Outcome Reply) :
    Unobtrusive task system (system.resumeStack outcome found.stack).1 ∧
      IsAnswerStack (system.resumeStack outcome found.stack).2.frames := by
  rcases answers with stackEq | ⟨id, stackEq⟩ | ⟨link, frame, stackEq⟩
  · rw [stackEq]
    exact ⟨.refl system, Or.inl rfl⟩
  · rw [stackEq]
    cases outcome with
    | returned reply =>
        rw [System.resumeStack_begin]
        exact Unobtrusive.write sessionFound (answerMessage id)
    | failed failure => exact ⟨.refl system, Or.inl rfl⟩
    | cancelled => exact ⟨.refl system, Or.inl rfl⟩
  · rw [stackEq]
    rcases System.resumeStack_sending system link frame "response" [] outcome with
      ⟨_, _, _, accepted⟩ | ⟨_, _, _, unwritten⟩
    · rw [accepted]
      exact ⟨.accept system link frame, Or.inl rfl⟩
    · rw [unwritten]
      exact ⟨.refl system, Or.inl rfl⟩

/-! ## A request arrives -/

theorem Inert.refl (system : System) : Inert task system system where
  tables := rfl
  outcomes := fun _ _ _ _ => rfl
  links := rfl
  endings := fun _ _ => rfl
  quiet := ⟨[], (List.append_nil _).symm, by simp⟩

/-- Nobody else notices that a callback was taken. -/
theorem Inert.of_taken
    {callback : Callback Action} (taken : Scheduler.Taken system.loop callback rest)
    (inert : Inert task { system with loop := rest } after) : Inert task system after where
  tables := inert.tables
  outcomes := fun session member entry listed => by
    rw [inert.outcomes session member entry listed]
    exact taken.outcome?_eq _
  links := inert.links
  endings := fun other different => by
    rw [inert.endings other different]
    simp only [System.ending?, Scheduler.outcome?, taken.promises, taken.tasks]
  quiet := inert.quiet

theorem takeRequest_inert (system : System) (id : Value) :
    Inert system.nextTask system (system.takeRequest 0 id) := by
  have tables := (takeRequest_course system 0 id).tables
  unfold System.takeRequest at tables ⊢
  split
  · exact .refl system
  · split
    · exact .refl system
    · rename_i sessionFound isOpen
      simp only [sessionFound, isOpen, Bool.false_eq_true, if_false] at tables ⊢
      generalize watchedEq : (system.spawn (.answer 0 id)).whenEnded system.nextTask
        (.answerEnded 0 system.nextTask) = watched at tables ⊢
      obtain ⟨outcomes, tasks, links, journal⟩ :
          (∀ promise, watched.loop.outcome? promise = system.loop.outcome? promise) ∧
            watched.loop.tasks = (system.spawn (.answer 0 id)).loop.tasks ∧
            watched.links = system.links ∧ watched.journal = system.journal := by
        rw [← watchedEq]
        unfold System.whenEnded
        split
        · exact ⟨fun promise => Scheduler.spawn_outcome? _ _ system.loop, rfl, rfl, rfl⟩
        · refine ⟨fun promise => ?_, Scheduler.whenSettled_tasks _ _ _, rfl, rfl⟩
          exact (Scheduler.whenSettled_outcome? _ _ _ _).trans
            (Scheduler.spawn_outcome? _ _ system.loop)
      exact {
        tables
        outcomes := fun _ _ entry _ => outcomes entry.promise
        links
        endings := fun other different => by
          have entry : watched.loop.tasks[other]? = system.loop.tasks[other]? := by
            rw [tasks]
            rcases Nat.lt_or_gt_of_ne different with known | unknown
            · exact List.getElem?_append_left known
            · have missing : (system.spawn (.answer 0 id)).loop.tasks.length ≤ other :=
                List.length_append.trans_le unknown
              rw [List.getElem?_eq_none missing, List.getElem?_eq_none (Nat.le_of_lt unknown)]
          simp only [System.ending?, System.modifySession, entry, outcomes]
        quiet := ⟨[], by rw [List.append_nil]; exact journal, by simp⟩ }

theorem receive_inert
    {text : String} {id : Value} (system : System) (requested : requestedId? text = some id)
    (world : SessionWorld registered system) (link : Nat) :
    Inert system.nextTask system (system.receive link text) := by
  unfold System.receive
  split
  · exact .refl system
  · rename_i session listens
    obtain ⟨rfl, rfl⟩ := world.parts.links link session listens
    simp only [System.takeMessage_of_request system requested]
    exact takeRequest_inert system id

/-- A request of the peer leaves all else alone. -/
theorem InquiryWorld.request_inert
    {text : String} {id : Value} (world : InquiryWorld registered system)
    (heard : system.heardText? 0 input = some text) (isRequest : IsRequest text id) :
    Inert system.nextTask system (system.step input) := by
  have requested := requestedId?_eq_some_iff.mpr isRequest
  cases input with
  | receive link other =>
      simp only [System.heardText?] at heard
      split at heard
      · obtain rfl := Option.some.inj heard
        exact receive_inert system requested world.session link
      · cases heard
  | turn =>
      rcases system.step_turn_cases with ⟨nothing, _⟩ | ⟨callback, rest, next, runs⟩
      · simp [System.heardText?, System.comingCallback?, nothing] at heard
      · have taken := Scheduler.taken_of_next? next
        simp only [System.heardText?, System.comingCallback?, next, Option.map_some] at heard
        split at heard
        · rename_i link other same
          split at heard
          · obtain rfl := Option.some.inj heard
            obtain rfl := Option.some.inj same
            have inert := receive_inert { system with loop := rest } requested
              (world.session.taken taken).1 link
            have sameNext : ({ system with loop := rest } : System).nextTask = system.nextTask :=
              congrArg List.length taken.tasks
            rw [sameNext] at inert
            rw [runs]
            exact inert.of_taken taken
          · cases heard
        · cases heard
  | _ => cases heard

/-! ## A task answers -/

/-- A task that does not go on stays where it is. -/
theorem SessionWorld.keepsTask
    (world : SessionWorld registered system) (onSession : input.OnSession)
    (known : task < system.nextTask)
    (waits : input = .turn → ∀ rest found, ¬ System.Resumes system task rest found) :
    system.KeepsTask (system.step input) task := by
  by_cases isTurn : input = .turn
  · subst isTurn
    rcases system.step_turn_cases with ⟨_, same⟩ | ⟨callback, rest, next, runs⟩
    · rw [same]
      exact .of_same rfl rfl
    · have taken := Scheduler.taken_of_next? next
      have keepsRest : system.KeepsTask { system with loop := rest } task :=
        .of_same taken.tasks taken.promises
      cases goesOn : callback.resumed? with
      | none =>
          have passage := callback_passage world next goesOn
          rw [runs]
          refine keepsRest.trans (keepsTask_of_advances passage.loop.advances ?_)
          exact Nat.lt_of_lt_of_eq known (congrArg List.length taken.tasks).symm
      | some other =>
          obtain rfl := Callback.resumed?_eq_some_iff.mp goesOn
          rcases System.resume_cases next with ⟨found, resumes⟩ | ⟨_, stays⟩
          · have ran := world.resumption_passage resumes
            refine resumes.keepsTask_turn ran.passage.loop ?_ known
            rintro rfl
            exact waits rfl rest found resumes
          · rw [runs, stays]
            exact keepsRest
  · by_cases isTick : ∃ moment, input = .tick moment
    · obtain ⟨moment, rfl⟩ := isTick
      exact .of_same rfl rfl
    · have passage := input_passage world onSession isTurn fun moment same => isTick ⟨moment, same⟩
      exact keepsTask_of_advances passage.loop.advances known

/-- The turn of a task that answers leaves all else alone. -/
theorem InquiryWorld.answer_inert
    (world : InquiryWorld registered system) (resumes : System.Resumes system task rest found)
    (answers : IsAnswerStack found.stack) : Inert task system (system.step .turn) := by
  have taken := resumes.taken
  obtain ⟨state, only, isSession⟩ := world.session.parts.session
  have sessionFound : (system.resumed rest task).sessions[0]? = some state := by
    have same : (system.resumed rest task).sessions = [state] := only
    rw [same]
    rfl
  obtain ⟨unobtrusive, _⟩ : Unobtrusive task _ (system.resumption rest task found).1 ∧ _ :=
    answers.goesOn sessionFound (system.signalOf found)
  have sessions : (system.step .turn).sessions = system.sessions := by
    rw [resumes.step_turn, settleTask_sessions, unobtrusive.sessions]
    rfl
  have outcomes : ∀ promise ≠ found.completion,
      (system.step .turn).loop.outcome? promise = system.loop.outcome? promise := by
    intro promise different
    rw [resumes.step_turn, ← resumes.resumed_outcome?, ← unobtrusive.outcomes promise]
    exact System.settleTask_outcome?_of_ne fun _ _ => different
  exact {
    tables := by rw [sessions]
    outcomes := fun session member entry listed => by
      refine outcomes entry.promise fun same => ?_
      obtain rfl : session = state := by rwa [only, List.mem_singleton] at member
      obtain ⟨registration, isRegistered, rfl⟩ := isSession.pending entry listed
      refine (world.session.parts.plain registration isRegistered).noCompletion ?_
      exact same ▸ List.mem_map.mpr ⟨found, List.mem_of_getElem? resumes.entry, rfl⟩
    links := by
      rw [resumes.step_turn, settleTask_links, unobtrusive.links]
      rfl
    endings := fun other different => by
      rcases Nat.lt_or_ge other system.nextTask with known | unknown
      · have waits : ∀ otherRest otherFound,
            ¬ System.Resumes system other otherRest otherFound := by
          intro otherRest otherFound goesOn
          have sameTask := goesOn.resumedTask?.symm.trans resumes.resumedTask?
          exact different (Option.some.inj sameTask)
        have onSession : Input.turn.OnSession := trivial
        exact (world.session.keepsTask onSession known fun _ => waits).ending
      · rw [ending?_of_unknown unknown, ending?_of_unknown]
        rw [world.turn_nextTask resumes]
        exact unknown
    quiet := by
      obtain ⟨occurrences, journal, ofAnswer⟩ := unobtrusive.quiet
      have start : (system.resumed rest task).journal = system.journal := rfl
      rw [resumes.step_turn]
      rcases settleTask_journal task found.completion (system.resumption rest task found) with
        same | ⟨outcome, ended⟩
      · exact ⟨occurrences, by rw [same, journal, start], ofAnswer⟩
      · refine ⟨occurrences ++ [.ended task outcome], by
          rw [ended, journal, start, List.append_assoc], ?_⟩
        exact List.forall_mem_append.mpr ⟨ofAnswer, by simp [Occurrence.IsOfAnswer]⟩ }

/-- The end of a task that answers leaves all else alone, whether its write failed or not. -/
theorem endAnswer_inert
    {session : Nat}
    (coming : system.comingCallback? = some (.act (.answerEnded session task))) :
    Inert task system (system.step .turn) := by
  rcases system.step_turn_cases with ⟨nothing, _⟩ | ⟨callback, rest, next, runs⟩
  · simp [System.comingCallback?, nothing] at coming
  · obtain rfl : callback = .act (.answerEnded session task) := by
      simpa [System.comingCallback?, next] using coming
    have taken := Scheduler.taken_of_next? next
    rw [runs]
    refine Inert.of_taken taken ?_
    have tables := (endAnswer_course { system with loop := rest } session task).tables
    have shape : ∀ before : System, (before.endAnswer session task).loop = before.loop ∧
        (before.endAnswer session task).links = before.links ∧
        ∃ occurrences, (before.endAnswer session task).journal = before.journal ++ occurrences ∧
          ∀ occurrence ∈ occurrences, occurrence.IsOfAnswer task := by
      intro before
      unfold System.endAnswer
      simp only
      split
      · exact ⟨rfl, rfl, [_], rfl, by simp [Occurrence.IsOfAnswer]⟩
      · exact ⟨rfl, rfl, [], (List.append_nil _).symm, by simp⟩
      · exact ⟨rfl, rfl, [], (List.append_nil _).symm, by simp⟩
      · exact ⟨rfl, rfl, [], (List.append_nil _).symm, by simp⟩
    obtain ⟨loop, links, quiet⟩ := shape { system with loop := rest }
    exact {
      tables
      outcomes := fun _ _ entry _ => congrArg (·.outcome? entry.promise) loop
      links
      endings := fun other _ => by
        simp only [System.ending?, System.runCallback, System.act, loop]
      quiet }

end LanguageClient.Client
