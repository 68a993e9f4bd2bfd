import LanguageClient.Proofs.Session.Steps

/-!
# Request correlation

In every run of one session, requests and responses belong together: no two requests share an id, a
call returns a result or an error of the peer only because a response to its own id came in time, it
fails with a timeout only because its own timer fired, one text settles at most one request, and what
a request was settled with never changes.

The argument is an induction over the inputs of a run. The invariant is `SessionWorld` for the
requests that were registered so far; `RequestPlace` follows the task of one request.
-/

namespace LanguageClient.Client

open LanguageClient.Json LanguageClient.Loop LanguageClient.Number

/-! ## One text -/

section OneText

variable {registered : List Registration} {system : System}

theorem takeRequest_outcome? (system : System) (session : Nat) (id : Value) (promise : Nat) :
    (system.takeRequest session id).loop.outcome? promise = system.loop.outcome? promise := by
  unfold System.takeRequest
  split
  · rfl
  · split
    · rfl
    · simp only [System.modifySession, System.whenEnded]
      split
      · exact Scheduler.spawn_outcome? promise _ system.loop
      · simp only [System.onLoop, Scheduler.whenSettled_outcome?]
        exact Scheduler.spawn_outcome? promise _ system.loop

theorem takeResponse_settles_one (system : System) (session : Nat) (id : String) (message : Value) :
    ∃ settled, ∀ promise, promise ≠ settled →
      (system.takeResponse session id message).1.loop.outcome? promise =
        system.loop.outcome? promise := by
  unfold System.takeResponse
  split
  · exact ⟨0, fun _ _ => rfl⟩
  · rename_i entry _
    refine ⟨entry.promise, fun promise different => ?_⟩
    split
    · exact Scheduler.settle_outcome?_of_ne _ system.loop different
    · split
      · exact Scheduler.settle_outcome?_of_ne _ system.loop different
      · rfl

theorem takeNotification_outcome?
    (unopened : ∀ found ∈ system.workspaces, found.openFiles = [])
    (tell : System → Nat → Protocol.PublishedDiagnostics → System × Option Failure)
    (workspace : Nat) (method params : Value) (promise : Nat) :
    (System.takeNotification tell system workspace method params).1.loop.outcome? promise =
      system.loop.outcome? promise := by
  rcases System.takeNotification_of_unopened unopened tell workspace method params with
    same | ⟨level, text, logs⟩
  · rw [same]
  · rw [logs]
    rfl

theorem receive_settles_one
    (parts : SessionParts registered system) (link : Nat) (text : String) :
    ∃ settled, ∀ promise, promise ≠ settled →
      (system.receive link text).loop.outcome? promise = system.loop.outcome? promise := by
  have ofMessage : ∃ settled, ∀ promise, promise ≠ settled →
      (system.takeMessage 0 text (System.takeNotification System.showDiagnostics)).1.loop.outcome?
        promise = system.loop.outcome? promise := by
    unfold System.takeMessage
    split
    · exact ⟨0, fun _ _ => rfl⟩
    · exact ⟨0, fun _ _ => rfl⟩
    · rename_i members _
      simp only
      split
      · exact ⟨0, fun promise _ => takeRequest_outcome? system 0 _ promise⟩
      · split
        · exact ⟨0, fun _ _ => rfl⟩
        · exact ⟨0, fun _ _ => rfl⟩
        · rename_i method _ _ _ listener _ _
          cases listener with
          | nobody =>
              exact ⟨0, fun _ _ => rfl⟩
          | workspace workspace =>
              have told := takeNotification_outcome? parts.unopened System.showDiagnostics workspace
                method (((Value.object members).get? "params").getD .null)
              simp only
              split
              · exact ⟨0, fun promise _ => told promise⟩
              · exact ⟨0, fun promise _ => told promise⟩
          | host fails =>
              simp only
              split <;> exact ⟨0, fun _ _ => rfl⟩
      · exact takeResponse_settles_one system 0 _ _
      · exact ⟨0, fun _ _ => rfl⟩
    · exact ⟨0, fun _ _ => rfl⟩
  unfold System.receive
  split
  · exact ⟨0, fun _ _ => rfl⟩
  · rename_i session listens
    obtain ⟨_, rfl⟩ := parts.links link session listens
    obtain ⟨settled, others⟩ := ofMessage
    refine ⟨settled, fun promise different => ?_⟩
    have unchanged := others promise different
    split
    · rename_i later result
      rw [result] at unchanged
      exact unchanged
    · rename_i later failure result
      rw [result] at unchanged
      exact unchanged

theorem heard_settles_one
    {input : Input} {text : String} {left right : Nat} {leftOutcome rightOutcome : Outcome Reply}
    (world : SessionWorld registered system) (heard : system.heardText? 0 input = some text)
    (leftUnsettled : system.loop.outcome? left = none)
    (leftSettled : (system.step input).loop.outcome? left = some leftOutcome)
    (rightUnsettled : system.loop.outcome? right = none)
    (rightSettled : (system.step input).loop.outcome? right = some rightOutcome) :
    left = right := by
  have one : ∃ settled, ∀ promise, promise ≠ settled →
      (system.step input).loop.outcome? promise = system.loop.outcome? promise := by
    cases input with
    | receive link received =>
        exact receive_settles_one world.parts link received
    | turn =>
        cases next : system.loop.next? with
        | none =>
            simp [System.heardText?, System.comingCallback?, next] at heard
        | some found =>
            obtain ⟨callback, rest⟩ := found
            simp only [System.heardText?, System.comingCallback?, next, Option.map_some] at heard
            split at heard
            · rename_i link received isDelivery
              have taken := Scheduler.taken_of_next? next
              obtain ⟨settled, others⟩ :=
                receive_settles_one (world.taken taken).1.parts link received
              refine ⟨settled, fun promise different => ?_⟩
              have unchanged := others promise different
              obtain rfl := Option.some.inj isDelivery
              rw [System.step_turn_of_next next]
              exact unchanged.trans (taken.outcome?_eq promise)
            · cases heard
    | _ => cases heard
  obtain ⟨settled, others⟩ := one
  have settles : ∀ (promise : Nat) (outcome : Outcome Reply),
      system.loop.outcome? promise = none →
      (system.step input).loop.outcome? promise = some outcome → promise = settled := by
    intro promise outcome unsettled isSettled
    by_contra different
    rw [others promise different, unsettled] at isSettled
    cases isSettled
  rw [settles left leftOutcome leftUnsettled leftSettled,
    settles right rightOutcome rightUnsettled rightSettled]

end OneText

/-! ## Registrations -/

/-- A request is registered with a new promise, by a turn that lets a task go on. -/
theorem of_registration?
    {system : System} {input : Input} {registration : Registration}
    (registers : system.registration? input = some registration) :
    input = .turn ∧ (∃ task, system.comingCallback? = some (.resume task)) ∧
      registration.entry.promise = system.nextPromise := by
  cases input with
  | turn =>
      simp only [System.registration?, Option.bind_eq_some_iff] at registers
      obtain ⟨⟨callback, rest⟩, next, registers⟩ := registers
      have taken := Scheduler.taken_of_next? next
      cases callback with
      | resume task =>
          refine ⟨rfl, ⟨task, by simp only [System.comingCallback?, next, Option.map_some]⟩, ?_⟩
          simp only [System.registrationIn?, Option.bind_eq_some_iff] at registers
          obtain ⟨call, _, registers⟩ := registers
          cases call with
          | request session method params timeout =>
              simp only [System.registrationBy?, Option.bind_eq_some_iff] at registers
              obtain ⟨found, _, registers⟩ := registers
              split at registers
              · cases registers
              · obtain ⟨delay, _, rfl⟩ := Option.map_eq_some_iff.mp registers
                exact taken.nextPromise_eq
          | _ => cases registers
      | _ => cases registers
  | _ => cases registers

theorem not_source_of_registration
    {system : System} {input : Input} {new registration : Registration} {outcome : Outcome Reply}
    (registers : system.registration? input = some new)
    (source : OutcomeSource system input registration outcome) :
    False := by
  obtain ⟨rfl, ⟨task, coming⟩, _⟩ := of_registration? registers
  cases source with
  | result heard _ => simp [System.heardText?, coming] at heard
  | error heard _ => simp [System.heardText?, coming] at heard
  | deadline _ fires _ => simp [coming] at fires

/-! ## Runs -/

theorem not_isAbandonment_of_isAnswer
    {outcome : Outcome Reply} (isAnswer : IsAnswer outcome) :
    ¬ IsAbandonment outcome := by
  rintro (rfl | ⟨_, _, _, rfl⟩)
  · exact isAnswer
  · exact isAnswer

/-- In a run, a request that was registered by one input is settled by a later one. -/
structure SettledBy
    (run : Nat → System) (inputs : Nat → Input) (registration : Registration) (made place : Nat)
    (outcome : Outcome Reply) :
    Prop where
  later : made < place
  registers : (run made).registration? (inputs made) = some registration
  unsettled : (run place).loop.outcome? registration.entry.promise = none
  settled : (run (place + 1)).loop.outcome? registration.entry.promise = some outcome

section Runs

theorem ofSession_world (resolution : Rat) (defaultTimeout : Quantity) :
    SessionWorld [] (System.ofSession resolution defaultTimeout) where
  parts := {
    session := ⟨_, rfl, by simp, by simp⟩
    links := by
      intro link session listens
      cases link with
      | zero =>
          simp [System.ofSession, System.addLink, System.addSession] at listens
          simp [listens]
      | succ other =>
          simp [System.ofSession, System.addLink, System.addSession] at listens
    unopened := by simp [System.ofSession, System.addLink, System.addSession]
    plain := by simp
    detained := by simp [System.ofSession, System.addLink, System.addSession, Peer.detained]
    promisesDistinct := List.nodup_nil
    idsDistinct := List.nodup_nil }
  orderly := .of_empty rfl rfl rfl rfl
  punctual := .of_empty rfl rfl rfl

variable {start : System} {inputs : Nat → Input} (world : SessionWorld [] start)
  (onSession : ∀ place, (inputs place).OnSession)

include world onSession

theorem session_world (count : Nat) :
    SessionWorld (start.registrations inputs count) (start.after inputs count) := by
  induction count with
  | zero =>
      exact world
  | succ count inductionHypothesis =>
      exact (input_step inductionHypothesis (onSession count)).world

theorem session_step (count : Nat) :
    SessionStep (start.registrations inputs count) (start.registrations inputs (count + 1))
      (fun registration => OutcomeSource (start.after inputs count) (inputs count) registration)
      (start.after inputs count) (start.after inputs (count + 1)) :=
  input_step (session_world world onSession count) (onSession count)

theorem session_outcome_kept
    {promise first second : Nat} {outcome : Outcome Reply} (passes : first ≤ second)
    (settled : (start.after inputs first).loop.outcome? promise = some outcome) :
    (start.after inputs second).loop.outcome? promise = some outcome := by
  obtain ⟨more, rfl⟩ := Nat.exists_eq_add_of_le passes
  induction more with
  | zero =>
      exact settled
  | succ more inductionHypothesis =>
      exact (session_step world onSession (first + more)).kept promise outcome
        (inductionHypothesis (Nat.le_add_right first more))

/-- The place of a request is kept from the input that starts its task. -/
theorem session_place
    {started count : Nat} {method : String} {params : Option Value} {timeout : Option Quantity}
    (starts : inputs started = .call (.request 0 method params timeout))
    (passes : started < count) :
    RequestPlace (start.registrations inputs count) (start.after inputs count)
      (start.after inputs started).nextTask (.request 0 method params timeout) := by
  obtain ⟨more, rfl⟩ := Nat.exists_eq_add_of_lt passes
  induction more with
  | zero =>
      simp only [Nat.add_zero, System.after, starts, System.step]
      refine ⟨{
        stack := [.begin (.request 0 method params timeout)]
        awaiting := none
        cancelRequested := false
        completion := (start.after inputs started).nextPromise }, ?_, Or.inr ⟨?_, Or.inl ⟨rfl, rfl⟩⟩⟩
      · simp [System.spawn, System.onLoop, Scheduler.spawn, Scheduler.enqueue, System.nextTask,
          Scheduler.nextTask, System.nextPromise]
      · simp only [System.spawn, System.onLoop, Scheduler.spawn_outcome?]
        exact Scheduler.outcome?_eq_none_of_le (Nat.le_refl _)
  | succ more inductionHypothesis =>
      exact (session_step world onSession (started + more + 1)).places _ _ _ _
        (inductionHypothesis (by omega))

/-- The outcome of a request that was not abandoned comes from an input after its registration. -/
theorem session_source
    {registration : Registration} {outcome : Outcome Reply} {count : Nat}
    (registered : registration ∈ start.registrations inputs count)
    (settled : (start.after inputs count).loop.outcome? registration.entry.promise = some outcome)
    (notAbandoned : ¬ IsAbandonment outcome) :
    ∃ made place, place < count ∧
      SettledBy (start.after inputs) inputs registration made place outcome ∧
      OutcomeSource (start.after inputs place) (inputs place) registration outcome := by
  induction count with
  | zero =>
      cases registered
  | succ count inductionHypothesis =>
      have step := session_step world onSession count
      have places : registration ∈ start.registrations inputs count ∨
          (start.after inputs count).registration? (inputs count) = some registration := by
        simpa [System.registrations] using registered
      have fresh : (start.after inputs count).loop.IsPlain registration.entry.promise ∨
          (start.after inputs count).nextPromise ≤ registration.entry.promise := by
        rcases places with earlier | new
        · exact Or.inl ((session_world world onSession count).parts.plain registration earlier)
        · exact Or.inr (Nat.le_of_eq (of_registration? new).2.2.symm)
      cases before : (start.after inputs count).loop.outcome? registration.entry.promise with
      | some earlierOutcome =>
          have kept := step.kept _ _ before
          rw [settled] at kept
          obtain rfl := Option.some.inj kept
          rcases places with earlier | new
          · obtain ⟨made, place, inside, rest⟩ := inductionHypothesis earlier before
            exact ⟨made, place, Nat.lt_succ_of_lt inside, rest⟩
          · rw [(of_registration? new).2.2] at before
            exact (Nat.lt_irrefl _ (Scheduler.lt_nextPromise_of_outcome? before)).elim
      | none =>
          rcases step.gained _ outcome fresh before settled registration registered rfl with
            abandoned | source
          · exact (notAbandoned abandoned).elim
          · rcases places with earlier | new
            · obtain ⟨made, inside, registers⟩ := System.mem_registrations.mp earlier
              exact ⟨made, count, Nat.lt_succ_self count, ⟨inside, registers, before, settled⟩, source⟩
            · exact (not_source_of_registration new source).elim

/-- A request that has ended with an answer was registered, and its promise has that outcome. -/
theorem session_ending
    {started count : Nat} {method : String} {params : Option Value} {timeout : Option Quantity}
    {outcome : Outcome Reply}
    (starts : inputs started = .call (.request 0 method params timeout)) (passes : started < count)
    (ended : (start.after inputs count).ending? (start.after inputs started).nextTask = some outcome)
    (isAnswer : IsAnswer outcome) :
    ∃ registration ∈ start.registrations inputs count,
      registration.task = (start.after inputs started).nextTask ∧
        (start.after inputs count).loop.outcome? registration.entry.promise = some outcome := by
  obtain ⟨found, entry, state⟩ := session_place world onSession starts passes
  simp only [System.ending?, entry, Option.bind_some] at ended
  rcases state with ⟨ending, isEnding, answered⟩ | ⟨unended, _⟩
  · rw [ended] at isEnding
    obtain rfl := Option.some.inj isEnding
    exact answered isAnswer
  · rw [ended] at unended
    cases unended

theorem session_ids_distinct
    {first second : Nat} {left right : Registration} (passes : first < second)
    (leftRegisters : (start.after inputs first).registration? (inputs first) = some left)
    (rightRegisters : (start.after inputs second).registration? (inputs second) = some right) :
    left.entry.id ≠ right.entry.id := by
  have distinct := (session_world world onSession (second + 1)).parts.idsDistinct
  have isEarlier : left ∈ start.registrations inputs second :=
    System.mem_registrations.mpr ⟨first, passes, leftRegisters⟩
  simp only [System.registrations, rightRegisters, Option.toList_some, List.map_append,
    List.map_cons, List.map_nil] at distinct
  obtain ⟨_, _, disjoint⟩ := List.nodup_append.mp distinct
  exact disjoint _ (List.mem_map.mpr ⟨left, isEarlier, rfl⟩) _ (List.mem_singleton.mpr rfl)

/-- A request that ends with an answer was settled with it by an input that is the source of it. -/
theorem session_answer
    {started count : Nat} {method : String} {params : Option Value} {timeout : Option Quantity}
    {outcome : Outcome Reply}
    (starts : inputs started = .call (.request 0 method params timeout)) (passes : started < count)
    (ended : (start.after inputs count).ending? (start.after inputs started).nextTask = some outcome)
    (isAnswer : IsAnswer outcome) :
    ∃ registration made place,
      registration.task = (start.after inputs started).nextTask ∧ place < count ∧
        SettledBy (start.after inputs) inputs registration made place outcome ∧
        OutcomeSource (start.after inputs place) (inputs place) registration outcome := by
  obtain ⟨registration, registered, isTask, settled⟩ :=
    session_ending world onSession starts passes ended isAnswer
  obtain ⟨made, place, inside, settledBy, source⟩ :=
    session_source world onSession registered settled (not_isAbandonment_of_isAnswer isAnswer)
  exact ⟨registration, made, place, isTask, inside, settledBy, source⟩

theorem session_pending
    {count : Nat} {session : Session} {entry : PendingRequest}
    (isSession : (start.after inputs count).sessions[0]? = some session)
    (member : entry ∈ session.pending) :
    ∃ place < count, ∃ registration,
      (start.after inputs place).registration? (inputs place) = some registration ∧
        registration.entry = entry := by
  obtain ⟨only, isOnly, parts⟩ := (session_world world onSession count).parts.session
  have found : [only][0]? = some session := by
    rw [← isOnly]
    exact isSession
  obtain rfl := Option.some.inj found
  obtain ⟨registration, registered, isEntry⟩ := parts.pending entry member
  obtain ⟨place, inside, registers⟩ := System.mem_registrations.mp registered
  exact ⟨place, inside, registration, registers, isEntry⟩

/-- Two requests that one text settles are the same. -/
theorem session_settles_one
    {place leftMade rightMade : Nat} {text : String} {left right : Registration}
    {leftOutcome rightOutcome : Outcome Reply}
    (heard : (start.after inputs place).heardText? 0 (inputs place) = some text)
    (leftSettled : SettledBy (start.after inputs) inputs left leftMade place leftOutcome)
    (rightSettled : SettledBy (start.after inputs) inputs right rightMade place rightOutcome) :
    left = right := by
  have now := session_world world onSession place
  have samePromise := heard_settles_one now heard leftSettled.unsettled leftSettled.settled
    rightSettled.unsettled rightSettled.settled
  exact registration_of_promise now.parts
    (System.mem_registrations.mpr ⟨leftMade, leftSettled.later, leftSettled.registers⟩)
    (System.mem_registrations.mpr ⟨rightMade, rightSettled.later, rightSettled.registers⟩)
    samePromise

end Runs

theorem responseFailure_isResponse
    {error : Value} {failure : Failure} (isFailure : responseFailure error = .ok failure) :
    ∃ response, failure = .response response := by
  simp only [responseFailure] at isFailure
  -- The members of the error do not matter, only whether its code is in range.
  split at isFailure
  · split at isFailure
    · exact ⟨_, (Except.ok.inj isFailure).symm⟩
    · cases isFailure
  · split at isFailure
    · exact ⟨_, (Except.ok.inj isFailure).symm⟩
    · cases isFailure

/-- Requests and responses of a session are correlated, whatever the host, the peer and the clock do
and in whatever order the callbacks run. -/
theorem requests_correlated
    (resolution : Rat) (defaultTimeout : Quantity) (inputs : Nat → Input)
    (onSession : ∀ place, (inputs place).OnSession) :
    let run := (System.ofSession resolution defaultTimeout).after inputs
    -- Whatever is in the table was registered, and no two requests have the same id.
    (∀ count session entry, (run count).sessions[0]? = some session → entry ∈ session.pending →
      ∃ place < count, ∃ registration,
        (run place).registration? (inputs place) = some registration ∧
          registration.entry = entry) ∧
    (∀ first second left right, first < second →
      (run first).registration? (inputs first) = some left →
      (run second).registration? (inputs second) = some right →
        left.entry.id ≠ right.entry.id) ∧
    -- A call ends with an answer only because that answer to its own request came in time.
    (∀ started count method params timeout, started < count →
      inputs started = .call (.request 0 method params timeout) →
      (∀ reply, (run count).ending? (run started).nextTask = some (.returned reply) →
        ∃ registration made place text value,
          registration.task = (run started).nextTask ∧ place < count ∧
          SettledBy run inputs registration made place (.returned reply) ∧
          (run place).heardText? 0 (inputs place) = some text ∧
          AnswersWith text registration.entry.id value ∧ reply = .result value) ∧
      (∀ error,
        (run count).ending? (run started).nextTask = some (.failed (.response error)) →
        ∃ registration made place text,
          registration.task = (run started).nextTask ∧ place < count ∧
          SettledBy run inputs registration made place (.failed (.response error)) ∧
          (run place).heardText? 0 (inputs place) = some text ∧
          AnswersWithError text registration.entry.id (.response error)) ∧
      (∀ name id limit,
        (run count).ending? (run started).nextTask = some (.failed (.timedOut name id limit)) →
        ∃ registration made place,
          registration.task = (run started).nextTask ∧ place < count ∧
          SettledBy run inputs registration made place (.failed (.timedOut name id limit)) ∧
          id = registration.entry.id ∧
          (run place).comingCallback? =
            some (.fire registration.entry.timer (.expire 0 registration.entry.id)) ∧
          registration.IsDue (run place).loop.now (run place).loop.resolution)) ∧
    -- One text settles one request at most.
    (∀ place text left right leftMade rightMade leftOutcome rightOutcome,
      (run place).heardText? 0 (inputs place) = some text →
      SettledBy run inputs left leftMade place leftOutcome →
      SettledBy run inputs right rightMade place rightOutcome → left = right) ∧
    -- What a promise was settled with stays.
    (∀ promise outcome first second, first ≤ second →
      (run first).loop.outcome? promise = some outcome →
        (run second).loop.outcome? promise = some outcome) := by
  intro run
  have world := ofSession_world resolution defaultTimeout
  refine ⟨?_, ?_, ?_, ?_, ?_⟩
  · intro count session entry isSession member
    exact session_pending world onSession isSession member
  · intro first second left right passes
    exact session_ids_distinct world onSession passes
  · intro started count method params timeout passes starts
    refine ⟨?_, ?_, ?_⟩
    · intro reply ended
      obtain ⟨registration, made, place, isTask, inside, settledBy, source⟩ :=
        session_answer world onSession starts passes ended trivial
      cases source with
      | result heard answers =>
          exact ⟨registration, made, place, _, _, isTask, inside, settledBy, heard, answers, rfl⟩
    · intro error ended
      obtain ⟨registration, made, place, isTask, inside, settledBy, source⟩ :=
        session_answer world onSession starts passes ended trivial
      cases source with
      | error heard answers =>
          exact ⟨registration, made, place, _, isTask, inside, settledBy, heard, answers⟩
    · intro name id limit ended
      obtain ⟨registration, made, place, isTask, inside, settledBy, source⟩ :=
        session_answer world onSession starts passes ended trivial
      cases source with
      | deadline _ fires due =>
          exact ⟨registration, made, place, isTask, inside, settledBy, rfl, fires, due⟩
      | error _ answers =>
          obtain ⟨_, _, _, _, isFailure⟩ := answers
          obtain ⟨_, isResponse⟩ := responseFailure_isResponse isFailure
          cases isResponse
  · intro place text left right leftMade rightMade leftOutcome rightOutcome heard leftSettled
    exact session_settles_one world onSession heard leftSettled
  · intro promise outcome first second passes settled
    exact session_outcome_kept world onSession passes settled

/-- Two requests, of which the first is answered. -/
def answeredRequest : Nat → Input
  | 0 => .call (.request 0 "first" none none)
  | 1 => .call (.request 0 "second" none none)
  | 4 => .receive 0 "\x7b\"id\": \"1\", \"result\": 7\x7d"
  | _ => .turn

theorem requests_correlated_answeredRequest :
    (∀ place, (answeredRequest place).OnSession) ∧
    let run := (System.ofSession 0 (.float (.infinite false))).after answeredRequest
    (run 7).ending? 0 = some (.returned (.result (.int 7))) ∧
      ∃ registration made place text value,
        registration.task = 0 ∧ place < 7 ∧
        SettledBy run answeredRequest registration made place (.returned (.result (.int 7))) ∧
        (run place).heardText? 0 (answeredRequest place) = some text ∧
        AnswersWith text registration.entry.id value ∧ Reply.result (.int 7) = .result value := by
  have onSession : ∀ place, (answeredRequest place).OnSession := by
    intro place
    unfold answeredRequest
    split
    · exact rfl
    · exact rfl
    · trivial
    · trivial
  have ended : ((System.ofSession 0 (.float (.infinite false))).after answeredRequest 7).ending? 0 =
      some (.returned (.result (.int 7))) := by
    decide +kernel
  have correlated := requests_correlated 0 (.float (.infinite false)) answeredRequest onSession
  exact ⟨onSession, ended,
    (correlated.2.2.1 0 7 "first" none none (by omega) rfl).1 (.result (.int 7)) ended⟩

end LanguageClient.Client
