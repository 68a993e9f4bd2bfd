import LanguageClient.Proofs.Handshake.Turns
import LanguageClient.Proofs.Session.Resumption

/-!
# Steps of a handshake

Every input of the host, the peer and the clock keeps the invariant of a handshake. The confirmation
is handed over in exactly one turn, if at all: that of the first task when it may confirm.
-/

namespace LanguageClient.Client

open LanguageClient.Json LanguageClient.Loop LanguageClient.Number LanguageClient.Protocol

section Answers

variable {heard : String → Prop} {system : System} {found : Session}

/-- Nothing but answers is handed over and accepted. -/
structure Replies (heard : String → Prop) (before after : System) : Prop where
  handed : ∃ replies, after.handedFrames = before.handedFrames ++ replies ∧
    ∀ frame ∈ replies, IsReply heard frame
  accepted : ∃ replies, after.acceptedFrames = before.acceptedFrames ++ replies ∧
    ∀ frame ∈ replies, IsReply heard frame
  detained : ∀ promise ∈ before.peer.detained, promise ∈ after.peer.detained

theorem Replies.of_unnoticed {before after : System} (unnoticed : before.Unnoticed after) :
    Replies heard before after where
  handed := ⟨[], by rw [unnoticed.handed, List.append_nil], by simp⟩
  accepted := ⟨[], by rw [unnoticed.accepted, List.append_nil], by simp⟩
  detained := unnoticed.detained

theorem Replies.accept
    {frame : Value} (isReply : IsReply heard frame) (system : System) (link : Nat) :
    Replies heard system (system.accept link frame) where
  handed := ⟨[], by rw [System.handedFrames_accept, List.append_nil], by simp⟩
  accepted := ⟨[frame], system.acceptedFrames_accept link frame, by simpa using isReply⟩
  detained := fun promise member => by
    have same : (system.accept link frame).peer.detained = system.peer.detained :=
      detained_accept system.peer frame
    rw [same]
    exact member

theorem Replies.write
    {frame : Value} (isReply : IsReply heard frame)
    (sessionFound : system.sessions[0]? = some found) :
    Replies heard system (system.write 0 "response" frame).1 ∧
      IsAnswering heard (system.write 0 "response" frame).2.frames := by
  have handed : Replies heard system (system.note (.handed found.link frame)) := {
    handed := ⟨[frame], system.handedFrames_handed found.link frame, by simpa using isReply⟩
    accepted := ⟨[], by rw [System.acceptedFrames_handed, List.append_nil], by simp⟩
    detained := fun _ => id }
  rcases System.write_cases "response" frame sessionFound with ⟨_, _, refused⟩ | held | accepted
  · rw [refused]
    exact ⟨handed, Or.inl rfl⟩
  · rw [held]
    refine ⟨⟨handed.handed, handed.accepted, fun promise member => ?_⟩,
      Or.inr (Or.inr ⟨found.link, frame, isReply, rfl⟩)⟩
    exact (System.Unnoticed.holdBack _).detained promise member
  · rw [accepted]
    have accepts := Replies.accept isReply (system.note (.handed found.link frame)) found.link
    obtain ⟨more, sameAccepted, replied⟩ := accepts.accepted
    refine ⟨⟨?_, ⟨more, ?_, replied⟩, accepts.detained⟩, Or.inl rfl⟩
    · rw [System.handedFrames_accept]
      exact handed.handed
    · rw [sameAccepted, System.acceptedFrames_handed]

/-- A task that answers a request says nothing else. -/
theorem IsAnswering.goesOn
    {stack : List Frame} (answering : IsAnswering heard stack) (only : system.sessions = [found])
    (outcome : Outcome Reply) :
    Replies heard system (system.resumeStack outcome stack).1 ∧
      IsAnswering heard (system.resumeStack outcome stack).2.frames ∧
        (system.resumeStack outcome stack).1.nextTask = system.nextTask := by
  have sessionFound : system.sessions[0]? = some found := by rw [only]; rfl
  have nothing : Replies heard system system := .of_unnoticed (.refl system)
  rcases answering with rfl | ⟨id, isReply, rfl⟩ | ⟨link, frame, isReply, rfl⟩
  · exact ⟨nothing, Or.inl rfl, rfl⟩
  · cases outcome with
    | returned reply =>
        rw [System.resumeStack_begin]
        obtain ⟨replies, answering⟩ := Replies.write isReply sessionFound
        exact ⟨replies, answering, system.write_nextTask 0 "response" (answerMessage id)⟩
    | failed failure => exact ⟨nothing, Or.inl rfl, rfl⟩
    | cancelled => exact ⟨nothing, Or.inl rfl, rfl⟩
  · rcases System.resumeStack_sending system link frame "response" [] outcome with
      ⟨_, _, _, accepted⟩ | ⟨_, _, _, unwritten⟩
    · rw [accepted]
      exact ⟨.accept isReply system link, Or.inl rfl, rfl⟩
    · rw [unwritten]
      exact ⟨nothing, Or.inl rfl, rfl⟩

end Answers

section Steps

variable {request : WorkspaceRequest} {heard later : String → Prop} {registered : List Registration}
  {system after : System} {input : Input}

/-! ## The parts of the invariant -/

/-- Results come from texts that were heard. -/
theorem HandshakeWorld.results_step
    (world : HandshakeWorld request heard registered system)
    (hears : ∀ text, heard text ∨ system.heardText? 0 input = some text → later text)
    (step : SessionStep registered registered
      (fun registration => OutcomeSource system input registration) system after) :
    ∀ registration ∈ registered, ∀ value,
      after.loop.outcome? registration.entry.promise = some (.returned (.result value)) →
        ∃ text, later text ∧ AnswersWith text (requestId 1) value := by
  intro registration member value settled
  cases earlier : system.loop.outcome? registration.entry.promise with
  | some outcome =>
      have kept := step.kept _ _ earlier
      rw [settled] at kept
      obtain rfl := Option.some.inj kept
      obtain ⟨text, isHeard, answers⟩ := world.results registration member value earlier
      exact ⟨text, hears text (Or.inl isHeard), answers⟩
  | none =>
      have plain := world.session.parts.plain registration member
      rcases step.gained _ _ (Or.inl plain) earlier settled registration member rfl with
        abandoned | source
      · rcases abandoned with same | ⟨_, _, _, same⟩ <;> cases same
      · cases source with
        | result heardNow answers =>
            exact ⟨_, hears _ (Or.inr heardNow), world.ids registration member ▸ answers⟩

/-- Calls that begin in a handshake register no request. -/
theorem HandshakeWorld.registrationIn?_eq_none
    (world : HandshakeWorld request heard registered system)
    {rest : ClientLoop} {callback : Callback Action}
    (taken : Scheduler.Taken system.loop callback rest) :
    ({ system with loop := rest } : System).registrationIn? callback = none := by
  cases callback with
  | resume task =>
      cases begun : ({ system with loop := rest } : System).begunCall? task with
      | none => simp only [System.registrationIn?, begun, Option.bind_none]
      | some call =>
          obtain ⟨found, entry, begins⟩ := Option.bind_eq_some_iff.mp begun
          simp only [taken.tasks] at entry
          have stackEq : found.stack = [.begin call] := by
            split at begins
            · cases begins
            · split at begins
              · rename_i other isBegin
                rw [isBegin, Option.some.inj begins]
              · cases begins
          by_cases isFirst : task = 0
          · subst isFirst
            obtain ⟨first, firstEntry, place⟩ := world.creation
            rw [entry] at firstEntry
            obtain rfl := Option.some.inj firstEntry
            rw [stackEq] at place
            cases place
          · rcases world.answers task found isFirst entry with
              ended | ⟨id, _, answers⟩ | ⟨_, _, _, sends⟩
            · rw [ended] at stackEq
              cases stackEq
            · rw [answers] at stackEq
              cases stackEq
              simp only [System.registrationIn?, begun, Option.bind_some, System.registrationBy?]
            · rw [sends] at stackEq
              cases stackEq
  | _ => rfl

theorem HandshakeWorld.registration?_eq_none
    (world : HandshakeWorld request heard registered system) (input : Input) :
    system.registration? input = none := by
  cases input with
  | turn =>
      unfold System.registration?
      cases next : system.loop.next? with
      | none => rfl
      | some found =>
          exact world.registrationIn?_eq_none (Scheduler.taken_of_next? next)
  | _ => rfl

/-- An input is a step of the session and of its table. -/
theorem HandshakeWorld.sessionStep
    (world : HandshakeWorld request heard registered system) (onHandshake : input.OnHandshake) :
    SessionStep registered registered
        (fun registration => OutcomeSource system input registration) system (system.step input) ∧
      TableStep registered system (system.step input) := by
  have step := input_step world.session onHandshake.onSession
  have table := input_table world.session onHandshake.onSession world.table world.wakeful
  rw [world.registration?_eq_none input, Option.toList_none, List.append_nil] at step table
  exact ⟨step, table⟩

/-- A step keeps the invariant when the first task is at a place again and all others answer. -/
theorem HandshakeWorld.of_step
    (world : HandshakeWorld request heard registered system) (onHandshake : input.OnHandshake)
    (hears : ∀ text, heard text ∨ system.heardText? 0 input = some text → later text)
    (creation : ∃ found, (system.step input).loop.tasks[0]? = some found ∧
      HandshakePlace request later registered (system.step input) found.stack found.awaiting
        ((system.step input).ending? 0))
    (answers : ∀ task found, task ≠ 0 → (system.step input).loop.tasks[task]? = some found →
      IsAnswering later found.stack)
    (silent : (system.step input).handedFrames = [] →
      (system.step input).nextTask = 1 ∧ IsShut (system.step input)) :
    HandshakeWorld request later registered (system.step input) := by
  obtain ⟨step, table⟩ := world.sessionStep onHandshake
  exact {
    session := step.world
    table := table.table
    wakeful := table.wakeful
    ids := world.ids
    results := world.results_step hears step
    creation
    answers
    silent }

/-! ## Inputs in which no task goes on -/

/-- Nothing is said, and at most a task is started that answers a request. -/
structure Listens (input : Input) (before after : System) : Prop where
  handed : after.handedFrames = before.handedFrames
  accepted : after.acceptedFrames = before.acceptedFrames
  detained : ∀ promise ∈ before.peer.detained, after.Withholds promise
  tasks : after.nextTask = before.nextTask ∨
    ¬ IsShut before ∧ ∃ text id, before.heardText? 0 input = some text ∧ IsRequest text id ∧
      after.nextTask = before.nextTask + 1 ∧
        ∀ found, after.loop.tasks[before.nextTask]? = some found →
          found.stack = [.begin (.answer 0 id)]

theorem Listens.of_unnoticed (unnoticed : system.Unnoticed after) : Listens input system after where
  handed := unnoticed.handed
  accepted := unnoticed.accepted
  detained := fun promise member => Or.inl (unnoticed.detained promise member)
  tasks := Or.inl unnoticed.nextTask

theorem Listens.receive
    {before : System} {link : Nat} {text : String} (parts : SessionParts registered before)
    (heardNow : link = 0 → system.heardText? 0 input = some text)
    (unnoticed : system.Unnoticed before) (sessions : before.sessions = system.sessions) :
    Listens input system (before.receive link text) := by
  rcases System.receive_answers before parts.unopened link text with
    goesUnnoticed | ⟨session, id, listens, isRequest, answering⟩
  · exact .of_unnoticed (unnoticed.trans goesUnnoticed)
  · obtain ⟨rfl, rfl⟩ := parts.links link session listens
    exact {
      handed := answering.handed.trans unnoticed.handed
      accepted := answering.accepted.trans unnoticed.accepted
      detained := fun promise member =>
        Or.inl (answering.detained promise (unnoticed.detained promise member))
      tasks := by
        refine Or.inr ⟨?_, text, id, heardNow rfl, isRequest, ?_, ?_⟩
        · rintro ⟨only, isOnly, shut⟩
          obtain ⟨found, sessionFound, isOpen⟩ := answering.isOpen
          rw [sessions, isOnly] at sessionFound
          obtain rfl : only = found := Option.some.inj sessionFound
          rw [shut] at isOpen
          cases isOpen
        · rw [answering.nextTask, unnoticed.nextTask]
        · rw [← unnoticed.nextTask]
          exact answering.started }

theorem HandshakeWorld.of_listens
    (world : HandshakeWorld request heard registered system) (onHandshake : input.OnHandshake)
    (hears : ∀ text, heard text ∨ system.heardText? 0 input = some text → later text)
    (keeps : ∀ task < system.nextTask, system.KeepsTask (system.step input) task)
    (listens : Listens input system (system.step input)) :
    HandshakeWorld request later registered (system.step input) := by
  obtain ⟨step, table⟩ := world.sessionStep onHandshake
  have hearsBefore : ∀ text, heard text → later text := fun text isHeard => hears text (Or.inl isHeard)
  have aloof : Aloof later system (system.step input) := {
    handed := ⟨[], by rw [listens.handed, List.append_nil], by simp, by simp⟩
    accepted := ⟨[], by rw [listens.accepted, List.append_nil], by simp⟩
    detained := listens.detained
    kept := step.kept
    shut := table.shut }
  refine world.of_step onHandshake hears ?_ ?_ ?_
  · obtain ⟨found, entry, place⟩ := world.creation
    have kept := keeps 0 (List.getElem?_eq_some_iff.mp entry).1
    obtain ⟨cancelRequested, laterEntry⟩ := kept.entry found entry
    refine ⟨_, laterEntry, ?_⟩
    rw [kept.ending]
    exact (place.mono hearsBefore).of_aloof aloof
  · intro task found other entry
    rcases Nat.lt_or_ge task system.nextTask with known | unknown
    · have earlierEntry : system.loop.tasks[task]? = some _ := List.getElem?_eq_getElem known
      obtain ⟨cancelRequested, laterEntry⟩ := (keeps task known).entry _ earlierEntry
      rw [entry] at laterEntry
      obtain rfl := Option.some.inj laterEntry
      exact (world.answers task _ other earlierEntry).mono hearsBefore
    · have inside : task < (system.step input).nextTask := (List.getElem?_eq_some_iff.mp entry).1
      rcases listens.tasks with same | ⟨_, text, id, heardNow, isRequest, oneMore, started⟩
      · exact (Nat.not_lt_of_le unknown (same ▸ inside)).elim
      · obtain rfl : task = system.nextTask := by omega
        exact Or.inr (Or.inl ⟨id, ⟨text, id, hears text (Or.inr heardNow), isRequest, rfl⟩,
          started found entry⟩)
  · intro nothingSaid
    rw [listens.handed] at nothingSaid
    obtain ⟨alone, shut⟩ := world.silent nothingSaid
    refine ⟨?_, table.shut shut⟩
    rcases listens.tasks with same | ⟨isOpen, _⟩
    · rw [same, alone]
    · exact (isOpen shut).elim

/-- What the peer lets go is settled. -/
theorem HandshakeWorld.settles
    (world : HandshakeWorld request heard registered system) {promise : Nat} {peer : Peer}
    (isDetained : promise ∈ system.peer.detained)
    (others : ∀ other ∈ system.peer.detained, other = promise ∨ other ∈ peer.detained) :
    Listens input system (({ system with peer } : System).settle promise (.returned .nothing)) where
  handed := rfl
  accepted := rfl
  detained := fun other member => by
    rcases others other member with rfl | still
    · right
      have known : other < system.loop.nextPromise :=
        (world.session.parts.detained other isDetained).1.known
      change (system.loop.settle other (.returned .nothing)).outcome? other ≠ none
      cases earlier : system.loop.outcome? other with
      | none =>
          rw [Scheduler.settle_outcome?_self _ known earlier]
          exact Option.some_ne_none _
      | some outcome =>
          rw [Scheduler.settle_outcome?_of_some _ earlier]
          exact Option.some_ne_none _
    · exact Or.inl still
  tasks := Or.inl (congrArg List.length (Scheduler.settle_tasks promise _ system.loop))

/-- What the peer lets go changes nothing else. -/
theorem HandshakeWorld.releases
    (world : HandshakeWorld request heard registered system) (releases : system.Releases after) :
    Listens input system after := by
  cases releases with
  | nothing => exact .of_unnoticed (.refl system)
  | promise detained fewer kept => exact world.settles detained kept

/-- The inputs other than turns. -/
theorem HandshakeWorld.listens
    (world : HandshakeWorld request heard registered system) (onHandshake : input.OnHandshake)
    (noTurn : input ≠ .turn) : Listens input system (system.step input) := by
  cases input with
  | turn => exact (noTurn rfl).elim
  | cancel task => exact .of_unnoticed (.cancel system task)
  | receive link text =>
      refine Listens.receive world.session.parts ?_ (.refl system) rfl
      intro isFirst
      simp only [System.heardText?, isFirst, if_true]
  | drop link => exact .of_unnoticed (System.drop_unnoticed system link)
  | behave peer => exact .of_unnoticed ⟨rfl, rfl, fun _ => id, rfl⟩
  | release place => exact world.releases (system.releaseFrame_releases place)
  | releaseClose place => exact world.releases (system.releaseClosing_releases place)
  | tick moment => exact .of_unnoticed (.of_same rfl rfl rfl)
  | call _ => exact onHandshake.elim
  | listen _ _ => exact onHandshake.elim
  | attach _ _ _ => exact onHandshake.elim
  | edit _ _ => exact onHandshake.elim
  | editText _ _ => exact onHandshake.elim

/-! ## Turns -/

/-- A callback that lets no task go on. -/
theorem HandshakeWorld.callback_listens
    (world : HandshakeWorld request heard registered system) {callback : Callback Action}
    {rest : ClientLoop} (next : system.loop.next? = some (callback, rest))
    (other : callback.resumed? = none) :
    Listens .turn system (({ system with loop := rest } : System).runCallback callback) := by
  have taken := Scheduler.taken_of_next? next
  have coming : system.comingCallback? = some callback := by
    simp only [System.comingCallback?, next, Option.map_some]
  have unnoticed : system.Unnoticed { system with loop := rest } :=
    .of_same rfl rfl (congrArg List.length taken.tasks)
  obtain ⟨worldRest, allowed⟩ := world.session.taken taken
  cases callback with
  | resume task => cases other
  | memberEnded group => exact allowed.elim
  | skipped => exact .of_unnoticed unnoticed
  | fire timer action =>
      obtain ⟨registration, _, _, _, rfl⟩ := allowed
      exact .of_unnoticed (unnoticed.trans (System.expire_unnoticed _ 0 _))
  | act action =>
      cases action with
      | discard session id =>
          exact .of_unnoticed (unnoticed.trans (System.discard_unnoticed _ session id))
      | answerEnded session task =>
          exact .of_unnoticed (unnoticed.trans (System.endAnswer_unnoticed _ session task))
      | deliver link text =>
          refine Listens.receive worldRest.parts ?_ unnoticed rfl
          intro isFirst
          simp only [System.heardText?, coming, isFirst, if_true]
      | expire _ _ => exact allowed.elim
      | debounce _ => exact allowed.elim
      | sendEnded _ _ => exact allowed.elim
      | wake _ => exact allowed.elim

/-- The turn of a task ends with the task where its stack has been left. -/
theorem HandshakeWorld.resumption_passage
    (world : HandshakeWorld request heard registered system) {task : Nat} {rest : ClientLoop}
    {found : TaskState Frame} (resumes : System.Resumes system task rest found) :
    StepPassage registered (some task) (fun _ _ => True) (system.resumed rest task)
      (system.resumption rest task found) := by
  have ran := world.session.resumption_passage resumes
  rwa [world.registrationIn?_eq_none resumes.taken, Option.toList_none, List.append_nil] at ran

/-- When a task is left as its stack has been left, nobody else sees a difference. -/
theorem Aloof.settleTask (task completion : Nat) (step : Step) :
    Aloof heard step.1 (System.settleTask task completion step) where
  handed := ⟨[], by rw [(settleTask_unnoticed task completion step).handed, List.append_nil],
    by simp, by simp⟩
  accepted := ⟨[], by rw [(settleTask_unnoticed task completion step).accepted, List.append_nil],
    by simp⟩
  detained := fun promise member =>
    Or.inl ((settleTask_unnoticed task completion step).detained promise member)
  kept := fun _ _ settled => settleTask_outcome? step settled
  shut := fun shut => shut.of_tables (by rw [settleTask_sessions])

theorem HandshakePlace.frames
    {stack : List Frame} {awaiting : Option Nat} {ending : Option (Outcome Reply)}
    (place : HandshakePlace request heard registered system stack awaiting ending) :
    ∀ frame ∈ stack, IsSessionFrame registered frame := by
  cases place with
  | asking link held registration member => simpa [IsSessionFrame] using ⟨registration, member, rfl⟩
  | awaiting => simp [IsSessionFrame]
  | confirming => simp [IsSessionFrame]
  | closing => simp [IsSessionFrame]
  | created => simp
  | failed => simp

section Resumes

variable {task : Nat} {rest : ClientLoop} {found : TaskState Frame}
  (world : HandshakeWorld request heard registered system)
  (resumes : System.Resumes system task rest found)

include world resumes

omit world in
theorem System.Resumes.aloof : Aloof heard system (system.resumed rest task) where
  handed := ⟨[], (List.append_nil _).symm, by simp, by simp⟩
  accepted := ⟨[], (List.append_nil _).symm, by simp⟩
  detained := fun promise member => Or.inl member
  kept := fun promise outcome settled => (resumes.resumed_outcome? promise).trans settled
  shut := fun shut => shut.of_tables rfl

/-- The tasks that do not take their turn go on as before. -/
theorem HandshakeWorld.others_turn
    (hears : ∀ text, heard text → later text)
    (nextTask : (system.resumption rest task found).1.nextTask = system.nextTask) :
    ∀ other state, other ≠ task → other ≠ 0 → (system.step .turn).loop.tasks[other]? = some state →
      IsAnswering later state.stack := by
  intro other state different notFirst entry
  have passage := (world.resumption_passage resumes).passage.loop
  have known : other < system.nextTask := by
    have inside : other < (system.step .turn).nextTask := (List.getElem?_eq_some_iff.mp entry).1
    rwa [resumes.step_turn, (settleTask_unnoticed _ _ _).nextTask, nextTask] at inside
  have earlierEntry : system.loop.tasks[other]? = some _ := List.getElem?_eq_getElem known
  obtain ⟨cancelRequested, laterEntry⟩ :=
    (resumes.keepsTask_turn passage different known).entry _ earlierEntry
  rw [entry] at laterEntry
  obtain rfl := Option.some.inj laterEntry
  exact (world.answers other _ notFirst earlierEntry).mono hears

end Resumes

/-- What the first task hands over in its turn: the confirmation if it may confirm, or nothing. -/
theorem HandshakeWorld.first_confirms
    {rest : ClientLoop} {found : TaskState Frame}
    (world : HandshakeWorld request heard registered system)
    (resumes : System.Resumes system 0 rest found) :
    MayConfirm request system found.stack found.awaiting (system.signalOf found) ∧
        handshakeConfirmation ∉ system.handedFrames ∧
        (system.step .turn).handedFrames = system.handedFrames ++ [handshakeConfirmation] ∨
      ¬ MayConfirm request system found.stack found.awaiting (system.signalOf found) ∧
        (system.step .turn).handedFrames = system.handedFrames := by
  have sameOutcome := resumes.resumed_outcome?
  have sameMay : MayConfirm request (system.resumed rest 0) found.stack found.awaiting
      (system.signalOf found) ↔
        MayConfirm request system found.stack found.awaiting (system.signalOf found) := by
    refine ⟨fun may => ⟨may.goesOn, may.written, ?_, may.isOpen⟩,
      fun may => ⟨may.goesOn, may.written, ?_, may.isOpen⟩⟩
    · simpa only [sameOutcome] using may.answered
    · simpa only [sameOutcome] using may.answered
  obtain ⟨state, only, _⟩ := world.session.parts.session
  have onlyResumed : (system.resumed rest 0).sessions = [state] := only
  obtain ⟨first, entry, place⟩ := world.creation
  rw [resumes.entry] at entry
  obtain rfl := Option.some.inj entry
  rw [ending?_of_unended resumes.unended] at place
  have heeds : ∀ promise, found.awaiting = some promise → system.signalOf found = .cancelled ∨
      (system.resumed rest 0).loop.outcome? promise = some (system.signalOf found) := by
    intro promise awaits
    rw [sameOutcome]
    exact System.signalOf_of_settled awaits (resumes.settled world.session.punctual awaits)
  have confirms := (place.of_aloof (resumes.aloof)).confirms onlyResumed heeds
  rw [sameMay] at confirms
  rw [resumes.step_turn, (settleTask_unnoticed _ _ _).handed]
  exact confirms

/-- The turn of the first task. -/
theorem HandshakeWorld.first_turn
    {rest : ClientLoop} {found : TaskState Frame}
    (world : HandshakeWorld request heard registered system)
    (resumes : System.Resumes system 0 rest found)
    (hears : ∀ text, heard text ∨ system.heardText? 0 .turn = some text → later text) :
    HandshakeWorld request later registered (system.step .turn) := by
  have hearsBefore : ∀ text, heard text → later text := fun text isHeard => hears text (Or.inl isHeard)
  have passage := (world.resumption_passage resumes).passage
  obtain ⟨state, only, _⟩ := world.session.parts.session
  have onlyResumed : (system.resumed rest 0).sessions = [state] := only
  obtain ⟨first, entry, place⟩ := world.creation
  rw [resumes.entry] at entry
  obtain rfl := Option.some.inj entry
  rw [ending?_of_unended resumes.unended] at place
  have resumedPlace := (place.of_aloof (resumes.aloof)).mono hearsBefore
  have placed : (system.resumption rest 0 found).InHandshake request later registered :=
    resumedPlace.goesOn onlyResumed _
  have nextTask : (system.resumption rest 0 found).1.nextTask = system.nextTask :=
    (System.resumeStack_nextTask _ resumedPlace.frames _).trans resumes.resumed_nextTask
  have aloof : Aloof later (system.resumption rest 0 found).1 (system.step .turn) := by
    rw [resumes.step_turn]
    exact .settleTask 0 found.completion _
  obtain ⟨⟨cancelRequested, left⟩, ending⟩ := resumes.leaves_turn passage.loop
  obtain ⟨_, table⟩ : _ ∧ TableStep registered system (system.step .turn) :=
    world.sessionStep trivial
  refine world.of_step trivial hears ⟨_, left, ?_⟩ ?_ ?_
  · rw [ending]
    exact placed.of_aloof aloof
  · intro task state notFirst isTask
    exact world.others_turn resumes hearsBefore nextTask task state notFirst notFirst isTask
  · intro nothingSaid
    rcases world.first_confirms resumes with ⟨_, _, handed⟩ | ⟨_, handed⟩
    · rw [handed] at nothingSaid
      simp at nothingSaid
    · obtain ⟨alone, shut⟩ := world.silent (handed ▸ nothingSaid)
      refine ⟨?_, table.shut shut⟩
      rw [resumes.step_turn, (settleTask_unnoticed _ _ _).nextTask, nextTask, alone]

/-- The turn of a task that answers a request. -/
theorem HandshakeWorld.answer_turn
    {task : Nat} {rest : ClientLoop} {found : TaskState Frame}
    (world : HandshakeWorld request heard registered system)
    (resumes : System.Resumes system task rest found) (notFirst : task ≠ 0)
    (hears : ∀ text, heard text ∨ system.heardText? 0 .turn = some text → later text) :
    Aloof heard system (system.step .turn) ∧
      HandshakeWorld request later registered (system.step .turn) := by
  have hearsBefore : ∀ text, heard text → later text := fun text isHeard => hears text (Or.inl isHeard)
  have passage := (world.resumption_passage resumes).passage
  have known : task < system.nextTask := (List.getElem?_eq_some_iff.mp resumes.entry).1
  -- A client that has said nothing has no task that answers.
  have spoke : system.handedFrames ≠ [] := by
    intro nothing
    have alone := (world.silent nothing).1
    omega
  obtain ⟨state, only, _⟩ := world.session.parts.session
  have onlyResumed : (system.resumed rest task).sessions = [state] := only
  obtain ⟨replies, answering, resumedTask⟩ :=
    (world.answers task found notFirst resumes.entry).goesOn onlyResumed (system.signalOf found)
  have nextTask : (system.resumption rest task found).1.nextTask = system.nextTask :=
    resumedTask.trans resumes.resumed_nextTask
  obtain ⟨step, table⟩ : _ ∧ TableStep registered system (system.step .turn) :=
    world.sessionStep trivial
  have left := settleTask_unnoticed task found.completion (system.resumption rest task found)
  rw [← resumes.step_turn] at left
  have aloof : Aloof heard system (system.step .turn) := {
    handed := by
      obtain ⟨more, handed, replied⟩ := replies.handed
      exact ⟨more, left.handed.trans handed, replied, fun _ => spoke⟩
    accepted := by
      obtain ⟨more, accepted, replied⟩ := replies.accepted
      exact ⟨more, left.accepted.trans accepted, replied⟩
    detained := fun promise member =>
      Or.inl (left.detained promise (replies.detained promise member))
    kept := step.kept
    shut := table.shut }
  obtain ⟨⟨cancelRequested, laterEntry⟩, _⟩ := resumes.leaves_turn passage.loop
  refine ⟨aloof, world.of_step trivial hears ?_ ?_ ?_⟩
  · obtain ⟨first, entry, place⟩ := world.creation
    have kept := resumes.keepsTask_turn passage.loop (Ne.symm notFirst)
      (List.getElem?_eq_some_iff.mp entry).1
    obtain ⟨firstCancel, firstEntry⟩ := kept.entry first entry
    refine ⟨_, firstEntry, ?_⟩
    rw [kept.ending]
    exact (place.of_aloof aloof).mono hearsBefore
  · intro other otherState otherNotFirst isTask
    by_cases same : other = task
    · subst same
      rw [laterEntry] at isTask
      obtain rfl := Option.some.inj isTask
      exact answering.mono hearsBefore
    · exact world.others_turn resumes hearsBefore nextTask other otherState same otherNotFirst
        isTask
  · intro nothingSaid
    obtain ⟨more, handed, _⟩ := aloof.handed
    rw [handed, List.append_eq_nil_iff] at nothingSaid
    exact (spoke nothingSaid.1).elim

/-! ## All inputs -/

/-- No task goes on in an input, or it is the turn of one. -/
theorem HandshakeWorld.input_cases
    (world : HandshakeWorld request heard registered system) (onHandshake : input.OnHandshake) :
    (Listens input system (system.step input) ∧
        (∀ task < system.nextTask, system.KeepsTask (system.step input) task) ∧
        (input = .turn → ∀ task rest found, ¬ System.Resumes system task rest found)) ∨
      input = .turn ∧ ∃ task rest found, System.Resumes system task rest found := by
  by_cases isTurn : input = .turn
  · subst isTurn
    rcases system.step_turn_cases with ⟨nothing, same⟩ | ⟨callback, rest, next, runs⟩
    · left
      rw [same]
      refine ⟨.of_unnoticed (.refl system), fun _ _ => .of_same rfl rfl, ?_⟩
      intro _ task rest found resumes
      rw [resumes.next] at nothing
      cases nothing
    · have taken := Scheduler.taken_of_next? next
      have keepsRest : ∀ task, system.KeepsTask { system with loop := rest } task :=
        fun _ => .of_same taken.tasks taken.promises
      cases goesOn : callback.resumed? with
      | none =>
          have passage := callback_passage world.session next goesOn
          rw [← runs] at passage
          refine Or.inl ⟨runs ▸ world.callback_listens next goesOn, ?_, ?_⟩
          · intro task known
            refine (keepsRest task).trans (keepsTask_of_advances passage.loop.advances ?_)
            exact Nat.lt_of_lt_of_eq known (congrArg List.length taken.tasks).symm
          · intro _ task otherRest found resumes
            have sameNext := resumes.next.symm.trans next
            simp only [Option.some.injEq, Prod.mk.injEq] at sameNext
            rw [← sameNext.1] at goesOn
            cases goesOn
      | some task =>
          obtain rfl := Callback.resumed?_eq_some_iff.mp goesOn
          rcases System.resume_cases next with turns | ⟨ended, stays⟩
          · exact Or.inr ⟨rfl, task, rest, turns⟩
          · left
            rw [runs, stays]
            refine ⟨.of_unnoticed (.of_same rfl rfl (congrArg List.length taken.tasks)),
              fun other _ => keepsRest other, ?_⟩
            intro _ other otherRest found resumes
            have sameNext := resumes.next.symm.trans next
            simp only [Option.some.injEq, Prod.mk.injEq, Callback.resume.injEq] at sameNext
            obtain ⟨rfl, rfl⟩ := sameNext
            exact Bool.false_ne_true (resumes.unended.symm.trans ended)
  · left
    refine ⟨world.listens onHandshake isTurn, ?_, fun same => (isTurn same).elim⟩
    intro task known
    by_cases isTick : ∃ moment, input = .tick moment
    · obtain ⟨moment, rfl⟩ := isTick
      exact .of_same rfl rfl
    · have passage := input_passage world.session onHandshake.onSession isTurn
        fun moment same => isTick ⟨moment, same⟩
      exact keepsTask_of_advances passage.loop.advances known

/-- Every input keeps the invariant. -/
theorem HandshakeWorld.step
    (world : HandshakeWorld request heard registered system) (onHandshake : input.OnHandshake)
    (hears : ∀ text, heard text ∨ system.heardText? 0 input = some text → later text) :
    HandshakeWorld request later registered (system.step input) := by
  rcases world.input_cases onHandshake with ⟨listens, keeps, _⟩ | ⟨rfl, task, rest, found, resumes⟩
  · exact world.of_listens onHandshake hears keeps listens
  · by_cases isFirst : task = 0
    · subst isFirst
      exact world.first_turn resumes hears
    · exact (world.answer_turn resumes isFirst hears).2

/-- The input is the turn of the first task, which may confirm the handshake in it. -/
def System.Confirms
    (request : WorkspaceRequest) (system : System) (input : Input) : Prop :=
  input = .turn ∧ ∃ rest found, System.Resumes system 0 rest found ∧
    MayConfirm request system found.stack found.awaiting (system.signalOf found)

/-- The confirmation is handed over exactly when the first task may confirm. -/
theorem HandshakeWorld.confirms_iff
    (world : HandshakeWorld request heard registered system) (onHandshake : input.OnHandshake) :
    (handshakeConfirmation ∉ system.handedFrames ∧
      handshakeConfirmation ∈ (system.step input).handedFrames) ↔
        system.Confirms request input := by
  rcases world.input_cases onHandshake with
    ⟨listens, _, noTurn⟩ | ⟨rfl, task, rest, found, resumes⟩
  · rw [listens.handed]
    refine iff_of_false (fun ⟨unsaid, said⟩ => unsaid said) ?_
    rintro ⟨isTurn, rest, found, resumes, _⟩
    exact noTurn isTurn 0 rest found resumes
  · by_cases isFirst : task = 0
    · subst isFirst
      have confirms : system.Confirms request .turn ↔
          MayConfirm request system found.stack found.awaiting (system.signalOf found) := by
        refine ⟨fun ⟨_, otherRest, other, otherResumes, may⟩ => ?_,
          fun may => ⟨rfl, rest, found, resumes, may⟩⟩
        have sameEntry := otherResumes.entry.symm.trans resumes.entry
        obtain rfl := Option.some.inj sameEntry
        exact may
      rw [confirms]
      rcases world.first_confirms resumes with ⟨may, unsaid, handed⟩ | ⟨mayNot, handed⟩
      · rw [handed]
        exact iff_of_true ⟨unsaid, List.mem_append_right _ (List.mem_singleton.mpr rfl)⟩ may
      · rw [handed]
        exact iff_of_false (fun ⟨unsaid, said⟩ => unsaid said) mayNot
    · have aloof := (world.answer_turn resumes isFirst fun _ => id).1
      rw [aloof.handed_confirmation]
      refine iff_of_false (fun ⟨unsaid, said⟩ => unsaid said) ?_
      rintro ⟨_, otherRest, other, otherResumes, _⟩
      have sameNext := otherResumes.next.symm.trans resumes.next
      simp only [Option.some.injEq, Prod.mk.injEq, Callback.resume.injEq] at sameNext
      exact isFirst sameNext.1.symm

end Steps

end LanguageClient.Client
