import LanguageClient.Proofs.Session.Turns

/-!
# The steps of a session

Every input of a run of one session is a step: it keeps the invariant, and the promise of a request
is settled only by a text that answers the request, by the timer of the request, or because the
request is abandoned.
-/

namespace LanguageClient.Client

open LanguageClient.Json LanguageClient.Loop LanguageClient.Number

/-- Why the promise of a request may be settled with an outcome during an input: a text that is heard
with it answers the request, or the timer of the request fires because its time is over. -/
inductive OutcomeSource (system : System) (input : Input) (registration : Registration) :
    Outcome Reply → Prop where
  | result {text : String} {value : Value}
      (heard : system.heardText? 0 input = some text)
      (answers : AnswersWith text registration.entry.id value) :
      OutcomeSource system input registration (.returned (.result value))
  | error {text : String} {failure : Failure}
      (heard : system.heardText? 0 input = some text)
      (answers : AnswersWithError text registration.entry.id failure) :
      OutcomeSource system input registration (.failed failure)
  | deadline
      (turns : input = .turn)
      (fires : system.comingCallback? =
        some (.fire registration.entry.timer (.expire 0 registration.entry.id)))
      (due : registration.IsDue system.loop.now system.loop.resolution) :
      OutcomeSource system input registration
        (.failed (.timedOut registration.entry.method registration.entry.id
          registration.entry.timeout))

section Steps

variable {registered : List Registration} {source : Registration → Outcome Reply → Prop}
  {system : System}

/-! ## One task -/

theorem RequestPlace.of_awaitsAnswer
    {later : List Registration} {final : System} {step : Step} {task : Nat} {call : Call}
    {registration : Registration} {state : TaskState Frame}
    (member : registration ∈ later) (isTask : registration.task = task)
    (awaits : AwaitsAnswer registration.entry.promise step)
    (entry : final.loop.tasks[task]? = some state)
    (suspended : ∀ frames promise, step.2 = .suspended frames promise →
      state.stack = frames ∧ state.awaiting = some promise ∧
        final.loop.outcome? state.completion = none)
    (ended : ∀ outcome, step.2 = .ended outcome →
      final.loop.outcome? state.completion = some outcome)
    (kept : ∀ promise outcome,
      step.1.loop.outcome? promise = some outcome → final.loop.outcome? promise = some outcome) :
    RequestPlace later final task call := by
  refine ⟨state, entry, ?_⟩
  rcases awaits with ⟨link, frame, subject, held, sends⟩ | waits | ⟨outcome, ends, answered⟩
  · obtain ⟨stackEq, _, unended⟩ := suspended _ _ sends
    exact Or.inr ⟨unended, Or.inr ⟨registration, member, isTask,
      Or.inl ⟨link, frame, subject, stackEq⟩⟩⟩
  · obtain ⟨stackEq, awaiting, unended⟩ := suspended _ _ waits
    exact Or.inr ⟨unended, Or.inr ⟨registration, member, isTask, Or.inr ⟨stackEq, awaiting⟩⟩⟩
  · exact Or.inl ⟨outcome, ended outcome ends, fun isAnswer =>
      ⟨registration, member, isTask, kept _ _ (answered isAnswer)⟩⟩

/-- The turn of a task is a step when the task itself ends up in its place. -/
theorem step_of_turn
    {later : List Registration} {final : System} {task : Nat}
    (world : SessionWorld registered system) (worldLater : SessionWorld later final)
    (turn : Scheduler.TaskTurn True (MayEnd later source) task system.loop final.loop)
    (more : ∀ registration ∈ registered, registration ∈ later)
    (self : ∀ method params timeout,
      RequestPlace registered system task (.request 0 method params timeout) →
        RequestPlace later final task (.request 0 method params timeout)) :
    SessionStep registered later source system final where
  world := worldLater
  kept := turn.kept
  gained := fun promise outcome fresh => by
    refine turn.gained promise outcome ?_
    rcases fresh with plain | unknown
    · exact plain.noCompletion
    · intro member
      exact Nat.lt_irrefl _
        (Nat.lt_of_lt_of_le (world.orderly.completionsKnown promise member) unknown)
  places := fun other method params timeout place => by
    by_cases same : other = task
    · subst same
      exact self method params timeout place
    · obtain ⟨found, entry, _⟩ := id place
      obtain ⟨⟨cancelRequested, entryLater, _⟩, completion⟩ := turn.others other found same entry
      exact place.of_same entry entryLater completion turn.kept more

section Turns

variable {later : List Registration} {task : Nat} {found : TaskState Frame} {middle : System}
  (world : SessionWorld registered system) (entry : system.loop.tasks[task]? = some found)
  (unended : system.loop.outcome? found.completion = none)
  (more : ∀ registration ∈ registered, registration ∈ later)

include world entry unended more

omit world unended more in
/-- The invariant holds when a task has been left as its stack has been left. -/
theorem StepPassage.settled_world
    {step : Step}
    (ran : StepPassage later (some task) source (system.onLoop (·.clearTask task)) step) :
    SessionWorld later (System.settleTask task found.completion step) := by
  obtain ⟨middle, outcome | ⟨frames, promise⟩⟩ := step
  · obtain ⟨orderly, punctual, _⟩ := ran.passage.loop.finish outcome entry
    refine ⟨ran.passage.parts.of_plain rfl rfl rfl rfl fun _ plain =>
      plain.of_le (Scheduler.settle_completions _ _ middle.loop)
        (Nat.le_of_eq (Scheduler.settle_nextPromise _ _ middle.loop).symm), ?_, punctual⟩
    rwa [← Scheduler.settle_now found.completion outcome middle.loop,
      ← Scheduler.settle_resolution found.completion outcome middle.loop] at orderly
  · obtain ⟨framesAllowed, plain⟩ := ran.suspended frames promise rfl
    obtain ⟨orderly, punctual, _⟩ :=
      ran.passage.loop.suspend entry (Or.inr framesAllowed) plain trivial
    refine ⟨ran.passage.parts.of_plain rfl rfl rfl rfl fun _ isPlain =>
      isPlain.of_le (Scheduler.suspend_completions _ _ _ middle.loop)
        (Nat.le_of_eq (Scheduler.suspend_nextPromise _ _ _ middle.loop).symm), ?_, punctual⟩
    rwa [← Scheduler.suspend_now task frames promise middle.loop,
      ← Scheduler.suspend_resolution task frames promise middle.loop] at orderly

/-- The task of a request is in its place after it has ended. -/
theorem endTask_step
    {outcome : Outcome Reply}
    (ran : StepPassage later (some task) source (system.onLoop (·.clearTask task))
      (middle, .ended outcome))
    (answers : ∀ method params timeout,
      RequestPlace registered system task (.request 0 method params timeout) →
        (∃ registration ∈ later, registration.task = task ∧
          AwaitsAnswer registration.entry.promise (middle, .ended outcome)) ∨
          ¬ IsAnswer outcome) :
    SessionStep registered later source system
      (System.settleTask task found.completion (middle, .ended outcome)) := by
  have isCompletion : found.completion ∈ system.loop.completions :=
    List.mem_map.mpr ⟨found, List.mem_of_getElem? entry, rfl⟩
  have cleared : found.completion ∈ (system.loop.clearTask task).completions := by
    rw [Scheduler.clearTask_completions]
    exact isCompletion
  have known : found.completion < middle.loop.nextPromise :=
    Nat.lt_of_lt_of_le (world.orderly.completionsKnown _ isCompletion)
      ran.passage.loop.advances.grown
  obtain ⟨_, _, turn, _, state⟩ := ran.passage.loop.finish outcome entry
  have ended : (middle.loop.settle found.completion outcome).outcome? found.completion =
      some outcome :=
    Scheduler.settle_outcome?_self outcome known
      ((ran.passage.loop.advances.completions _ cleared).trans unended)
  refine step_of_turn world (ran.settled_world entry) turn more ?_
  intro method params timeout place
  rcases answers method params timeout place with ⟨registration, member, isTask, awaits⟩ | noAnswer
  · refine RequestPlace.of_awaitsAnswer member isTask awaits state ?_ ?_ ?_
    · intro frames promise suspended
      cases suspended
    · intro ending ends
      cases ends
      exact ended
    · intro promise earlier isOutcome
      exact Scheduler.settle_outcome?_of_some outcome isOutcome
  · exact ⟨_, state, Or.inl ⟨outcome, ended, fun isAnswer => (noAnswer isAnswer).elim⟩⟩

/-- The task of a request is in its place after it was suspended. -/
theorem suspendTask_step
    {frames : List Frame} {promise : Nat}
    (ran : StepPassage later (some task) source (system.onLoop (·.clearTask task))
      (middle, .suspended frames promise))
    (answers : ∀ method params timeout,
      RequestPlace registered system task (.request 0 method params timeout) →
        ∃ registration ∈ later, registration.task = task ∧
          AwaitsAnswer registration.entry.promise (middle, .suspended frames promise)) :
    SessionStep registered later source system
      (System.settleTask task found.completion (middle, .suspended frames promise)) := by
  have cleared : found.completion ∈ (system.loop.clearTask task).completions := by
    rw [Scheduler.clearTask_completions]
    exact List.mem_map.mpr ⟨found, List.mem_of_getElem? entry, rfl⟩
  have unendedLater : middle.loop.outcome? found.completion = none :=
    (ran.passage.loop.advances.completions _ cleared).trans unended
  obtain ⟨framesAllowed, plain⟩ := ran.suspended frames promise rfl
  obtain ⟨_, _, turn, _, state⟩ :=
    ran.passage.loop.suspend entry (Or.inr framesAllowed) plain trivial
  refine step_of_turn world (ran.settled_world entry) turn more ?_
  intro method params timeout place
  obtain ⟨registration, member, isTask, awaits⟩ := answers method params timeout place
  refine RequestPlace.of_awaitsAnswer member isTask awaits state ?_ ?_ ?_
  · intro otherFrames otherPromise suspended
    cases suspended
    exact ⟨rfl, rfl, (Scheduler.suspend_outcome? _ _ _ _ middle.loop).trans unendedLater⟩
  · intro ending ends
    cases ends
  · intro other earlier isOutcome
    exact (Scheduler.suspend_outcome? _ _ _ _ middle.loop).trans isOutcome

/-- The task of a request is in its place after its turn. -/
theorem settleTask_step
    {step : Step}
    (ran : StepPassage later (some task) source (system.onLoop (·.clearTask task)) step)
    (answers : ∀ method params timeout,
      RequestPlace registered system task (.request 0 method params timeout) →
        (∃ registration ∈ later, registration.task = task ∧
          AwaitsAnswer registration.entry.promise step) ∨
          ∃ outcome, step.2 = .ended outcome ∧ ¬ IsAnswer outcome) :
    SessionStep registered later source system (System.settleTask task found.completion step) := by
  obtain ⟨middle, outcome | ⟨frames, promise⟩⟩ := step
  · refine endTask_step world entry unended more ran fun method params timeout place => ?_
    refine (answers method params timeout place).imp id ?_
    rintro ⟨ending, ends, noAnswer⟩
    cases ends
    exact noAnswer
  · refine suspendTask_step world entry unended more ran fun method params timeout place => ?_
    refine (answers method params timeout place).resolve_right ?_
    rintro ⟨ending, ends, _⟩
    cases ends

end Turns

theorem resumeTask_step
    {task : Nat} (world : SessionWorld registered system)
    (notReady : task ∉ resumed system.loop.ready)
    (settled : ∀ found : TaskState Frame, system.loop.tasks[task]? = some found →
      ∀ promise, found.awaiting = some promise → system.loop.outcome? promise ≠ none) :
    SessionStep registered (registered ++ (system.registrationIn? (.resume task)).toList) source
      system (system.resumeTask task) := by
  cases entry : system.loop.tasks[task]? with
  | none =>
      have nothing : system.registrationIn? (.resume task) = none := by
        simp [System.registrationIn?, System.begunCall?, entry]
      have same : system.resumeTask task = system := by
        simp only [System.resumeTask, entry]
      rw [nothing, same, Option.toList_none, List.append_nil]
      exact world.start.step
  | some found =>
      cases unended : system.loop.hasEnded task with
      | true =>
          have nothing : system.registrationIn? (.resume task) = none := by
            simp [System.registrationIn?, System.begunCall?, entry, unended]
          have same : system.resumeTask task = system := by
            simp only [System.resumeTask, entry, unended, if_true]
          rw [nothing, same, Option.toList_none, List.append_nil]
          exact world.start.step
      | false =>
          have isTurn : system.resumeTask task = System.settleTask task found.completion
              ((system.onLoop (·.clearTask task)).resumeStack (system.signalOf found)
                found.stack) := by
            simp only [System.resumeTask, entry, unended, Bool.false_eq_true, if_false]
            rfl
          have unsettled : system.loop.outcome? found.completion = none := by
            simpa [Scheduler.hasEnded, entry, Scheduler.isSettled] using unended
          rw [isTurn]
          exact settleTask_step world entry unsettled (fun _ => List.mem_append_left _)
            (runTask_passage world entry unended notReady (settled found entry))
            fun _ _ _ place =>
              runTask_awaitsAnswer world place entry unended notReady (settled found entry)

/-! ## The other inputs -/

/-- As time goes on, more requests are due. -/
theorem sessionScope_within_later
    {now later : Rat} (registered : List Registration) (resolution : Rat) (passes : now ≤ later) :
    (sessionScope registered now resolution).Within
      (sessionScope registered later resolution) where
  task := fun _ _ allowed => allowed
  callback := fun callback allowed => by
    cases callback with
    | fire timer action =>
        obtain ⟨registration, member, ⟨deadline, hasDeadline, elapsed⟩, rest⟩ := allowed
        refine ⟨registration, member, ⟨deadline, hasDeadline, ?_⟩, rest⟩
        rcases elapsed with past | near
        · exact Or.inl (Rat.le_trans past passes)
        · right
          exact Std.lt_of_lt_of_le near (Rat.add_le_add_right.mpr passes)
    | act action => cases action <;> exact allowed
    | resume _ => trivial
    | skipped => trivial
    | memberEnded _ => exact allowed.elim
  timer := fun _ allowed => allowed
  group := fun _ allowed => allowed

theorem tick_step (world : SessionWorld registered system) (moment : Rat) :
    SessionStep registered registered source system (system.onLoop (·.moveClock moment)) where
  world := {
    parts := world.parts.of_plain rfl rfl rfl rfl fun _ plain => plain.of_le rfl (Nat.le_refl _)
    orderly := by
      refine (world.orderly.moveClock moment).mono (sessionScope_within_later _ _ ?_)
      simp only [System.onLoop, Scheduler.moveClock]
      split
      · assumption
      · exact Rat.le_refl
    punctual := world.punctual.moveClock moment }
  kept := fun _ _ settled => settled
  gained := fun promise outcome _ unsettled settled => by
    have same : system.loop.outcome? promise = some outcome := settled
    rw [unsettled] at same
    cases same
  places := fun _ _ _ _ place => place

/-- What the peer lets go is settled. -/
theorem releases_passage
    {after : System} (world : SessionWorld registered system) (releases : system.Releases after) :
    SessionPassage registered none source system after := by
  cases releases with
  | nothing => exact world.start
  | @promise promise peer detained fewer kept =>
      obtain ⟨plain, different⟩ := world.parts.detained promise detained
      exact (world.start.withPeer peer fewer).settle plain fun registration inside same =>
        (different registration inside same).elim

/-! ## Turns -/

/-- Taking a callback keeps the invariant, and the callback is one that the session may run. -/
theorem SessionWorld.taken
    {callback : Callback Action} {rest : ClientLoop} (world : SessionWorld registered system)
    (taken : Scheduler.Taken system.loop callback rest) :
    SessionWorld registered { system with loop := rest } ∧
      (sessionScope registered system.loop.now system.loop.resolution).callback callback := by
  have fires : ∀ timer,
      (sessionScope registered system.loop.now system.loop.resolution).timer timer →
        system.loop.isDue timer = true →
          (sessionScope registered system.loop.now system.loop.resolution).callback
            (.fire timer.id timer.action) := by
    rintro timer ⟨registration, member, rfl⟩ due
    refine ⟨registration, member, ?_, rfl, rfl⟩
    simp only [Scheduler.isDue] at due
    split at due
    · cases due
    · rename_i deadline hasDeadline
      simp only [Bool.or_eq_true, decide_eq_true_eq] at due
      exact ⟨deadline, hasDeadline, due⟩
  obtain ⟨orderly, allowed⟩ := world.orderly.taken taken fires
  refine ⟨⟨?_, ?_, (world.punctual.taken taken).1⟩, allowed⟩
  · exact world.parts.of_plain rfl rfl rfl rfl fun _ => taken.isPlain
  · simp only [taken.now, taken.resolution]
    exact orderly

theorem SessionStep.of_taken
    {later : List Registration} {callback : Callback Action} {rest : ClientLoop} {final : System}
    (step : SessionStep registered later source { system with loop := rest } final)
    (taken : Scheduler.Taken system.loop callback rest) :
    SessionStep registered later source system final := by
  have sameOutcome := taken.outcome?_eq
  exact {
    world := step.world
    kept := fun promise outcome settled =>
      step.kept promise outcome ((sameOutcome promise).trans settled)
    gained := fun promise outcome fresh unsettled settled => by
      refine step.gained promise outcome ?_ ((sameOutcome promise).trans unsettled) settled
      rcases fresh with plain | unknown
      · exact Or.inl (taken.isPlain plain)
      · exact Or.inr (Nat.le_trans (Nat.le_of_eq taken.nextPromise_eq) unknown)
    places := fun task method params timeout place => by
      refine step.places task method params timeout ?_
      obtain ⟨found, entry, state⟩ := place
      refine ⟨found, by rw [← entry]; exact congrArg (·[task]?) taken.tasks, ?_⟩
      simpa only [sameOutcome] using state }

theorem textMayEnd_of_heard
    {input : Input} {text : String} (heard : system.heardText? 0 input = some text) :
    TextMayEnd registered (fun registration => OutcomeSource system input registration) text :=
  fun _ _ => ⟨fun _ answers => .result heard answers, fun _ answers => .error heard answers⟩

/-- What a callback does that lets no task go on. -/
theorem callback_passage
    {callback : Callback Action} {rest : ClientLoop} (world : SessionWorld registered system)
    (next : system.loop.next? = some (callback, rest)) (other : callback.resumed? = none) :
    SessionPassage registered none (fun registration => OutcomeSource system .turn registration)
      { system with loop := rest } (({ system with loop := rest } : System).runCallback callback) := by
  have taken := Scheduler.taken_of_next? next
  have coming : system.comingCallback? = some callback := by
    simp only [System.comingCallback?, next, Option.map_some]
  obtain ⟨worldRest, allowed⟩ := world.taken taken
  cases callback with
  | resume task => cases other
  | memberEnded group => exact allowed.elim
  | skipped => exact worldRest.start
  | fire timer action =>
      obtain ⟨registration, member, due, rfl, rfl⟩ := allowed
      refine expire_passage 0 registration.entry.id worldRest.start ?_
      intro other otherMember sameId
      have same : other = registration :=
        List.inj_on_of_nodup_map world.parts.idsDistinct otherMember member sameId
      subst same
      exact .deadline rfl coming due
  | act action =>
      cases action with
      | discard session id => exact discard_passage session id worldRest.start
      | answerEnded session task => exact endAnswer_passage session task worldRest.start
      | deliver link text =>
          refine receive_passage link text worldRest.start ?_
          intro isFirst
          apply textMayEnd_of_heard
          simp only [System.heardText?, coming, isFirst, if_true]
      | expire _ _ => exact allowed.elim
      | debounce _ => exact allowed.elim
      | sendEnded _ _ => exact allowed.elim
      | wake _ => exact allowed.elim

theorem callback_step
    {callback : Callback Action} {rest : ClientLoop} (world : SessionWorld registered system)
    (next : system.loop.next? = some (callback, rest)) :
    SessionStep registered
      (registered ++ (({ system with loop := rest } : System).registrationIn? callback).toList)
      (fun registration => OutcomeSource system .turn registration) system
      (({ system with loop := rest } : System).runCallback callback) := by
  have taken := Scheduler.taken_of_next? next
  have worldRest := (world.taken taken).1
  refine SessionStep.of_taken ?_ taken
  cases callback with
  | resume task =>
      obtain ⟨notReady, settled⟩ := world.punctual.resumed_of_taken taken
      exact resumeTask_step worldRest notReady settled
  | _ =>
      simp only [System.registrationIn?, Option.toList_none, List.append_nil]
      exact (callback_passage world next rfl).step

/-- An input that is neither a turn nor a tick. -/
theorem input_passage
    {input : Input} (world : SessionWorld registered system) (onSession : input.OnSession)
    (noTurn : input ≠ .turn) (noTick : ∀ moment, input ≠ .tick moment) :
    SessionPassage registered none (fun registration => OutcomeSource system input registration)
      system (system.step input) := by
  cases input with
  | turn => exact (noTurn rfl).elim
  | tick moment => exact (noTick moment rfl).elim
  | call call => exact world.start.spawn onSession
  | cancel task => exact world.start.cancel task
  | listen session listener =>
      exact world.start.modifySession session fun _ isSession => ⟨isSession.pending, isSession.ids⟩
  | receive link text =>
      refine receive_passage link text world.start ?_
      intro isFirst
      apply textMayEnd_of_heard
      simp only [System.heardText?, isFirst, if_true]
  | drop link => exact drop_passage link world.start
  | behave peer =>
      exact world.start.withPeer { peer with
        held := system.peer.held
        heldCloses := system.peer.heldCloses } fun _ member => member
  | release place => exact releases_passage world (system.releaseFrame_releases place)
  | releaseClose place => exact releases_passage world (system.releaseClosing_releases place)
  | attach _ _ _ => exact onSession.elim
  | edit _ _ => exact onSession.elim
  | editText _ _ => exact onSession.elim

theorem input_step
    {input : Input} (world : SessionWorld registered system) (onSession : input.OnSession) :
    SessionStep registered (registered ++ (system.registration? input).toList)
      (fun registration => OutcomeSource system input registration) system (system.step input) := by
  cases input with
  | turn =>
      rcases system.step_turn_cases with ⟨nothing, same⟩ | ⟨callback, rest, next, runs⟩
      · simp only [same, System.registration?, nothing, Option.bind_none, Option.toList_none,
          List.append_nil]
        exact world.start.step
      · simp only [runs, System.registration?, next, Option.bind_some]
        exact callback_step world next
  | tick moment =>
      simp only [System.registration?, Option.toList_none, List.append_nil]
      exact tick_step world moment
  | _ =>
      simp only [System.registration?, Option.toList_none, List.append_nil]
      exact (input_passage world onSession (by simp) (by simp)).step

end Steps

end LanguageClient.Client
