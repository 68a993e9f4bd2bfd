import LanguageClient.Proofs.Session.TableChanges

/-!
# The table along a run

Every input of a run of one session keeps the table in order, loses no task, and opens no session
that was closed.
-/

namespace LanguageClient.Client

open LanguageClient.Json LanguageClient.Loop LanguageClient.Number

/-- What the code of a session leaves of a client in which no other callback is running. -/
structure TablePassage (later : List Registration) (before after : System) : Prop where
  table : HasTable later [] after
  loop : Scheduler.Continues (fun _ => True) before.loop after.loop
  shut : IsShut before → IsShut after

/-- What one input leaves of a client. -/
structure TableStep (later : List Registration) (before after : System) : Prop where
  table : HasTable later [] after
  wakeful : after.loop.Wakeful none
  shut : IsShut before → IsShut after
  grown : before.nextTask ≤ after.nextTask

section Steps

variable {registered later : List Registration} {before middle after system : System}

theorem TablePassage.step
    (passage : TablePassage later before after) (wakeful : before.loop.Wakeful none) :
    TableStep later before after :=
  ⟨passage.table, wakeful.continues passage.loop, passage.shut, passage.loop.grown⟩

theorem TablePassage.course
    (passage : TablePassage later before middle) (course : Course middle after) :
    TablePassage later before after where
  table := passage.table.course course
  loop := passage.loop.trans (course.continues.mono fun _ _ => trivial)
  shut := fun shut => (passage.shut shut).of_tables course.tables

theorem HasTable.passage
    (table : HasTable registered [] before) (course : Course before after) :
    TablePassage registered before after :=
  TablePassage.course ⟨table, before.loop.continues_refl, id⟩ course

theorem discard_continues (system : System) (session : Nat) (id : String) :
    Scheduler.Continues (fun _ => True) system.loop (system.discard session id).loop := by
  unfold System.discard
  split
  · exact system.loop.continues_refl
  · exact system.loop.disarm_continues _ trivial

theorem IsShut.discard (shut : IsShut system) (session : Nat) (id : String) :
    IsShut (system.discard session id) := by
  obtain ⟨found, only, closed⟩ := shut
  unfold System.discard
  split
  · exact ⟨found, only, closed⟩
  · simp only [IsShut, System.disarm, System.onLoop, System.modifySession, only]
    cases session with
    | zero => exact ⟨_, rfl, closed⟩
    | succ other => exact ⟨found, by simp, closed⟩

/-! ## Calls -/

theorem TablePassage.shutDown
    (table : HasTable registered [] system)
    (known : ∀ registration ∈ registered, registration.entry.promise < system.nextPromise)
    (reason : SessionEnd) :
    TablePassage registered system (system.shut reason) := by
  obtain ⟨later, isShut, continues⟩ := table.shut known reason
  exact ⟨later, continues.mono fun _ _ => trivial, fun _ => isShut⟩

theorem cancels_course (tasks : List Nat) (system : System) :
    Course system (system.onLoop fun loop => tasks.foldl (fun loop task => loop.cancel task) loop) := by
  induction tasks generalizing system with
  | nil =>
      exact .refl
  | cons head others inductionHypothesis =>
      exact (Relation.ReflTransGen.single (.cancel head)).trans (inductionHypothesis _)

theorem closeSession_table
    (table : HasTable registered [] system)
    (known : ∀ registration ∈ registered, registration.entry.promise < system.nextPromise)
    (session : Nat) : TablePassage registered system (system.closeSession session).1 := by
  obtain ⟨found, only, _⟩ := id table
  unfold System.closeSession
  cases session with
  | succ other =>
      simp only [only, List.getElem?_cons_succ, List.getElem?_nil]
      exact table.passage .refl
  | zero =>
      simp only [only, List.getElem?_cons_zero]
      split
      · exact table.passage .refl
      · refine (TablePassage.shutDown table known .closed).course ?_
        refine (cancels_course found.answers _).trans ?_
        exact andThen_course _ (closeLink_course _ _) resumeClosingLink_course

theorem loseConnection_table
    (table : HasTable registered [] system)
    (known : ∀ registration ∈ registered, registration.entry.promise < system.nextPromise) :
    TablePassage registered system (system.loseConnection 0) := by
  obtain ⟨found, only, _⟩ := id table
  have sessionFound : system.sessions[0]? = some found := by rw [only]; rfl
  unfold System.loseConnection
  simp only [sessionFound]
  split
  · exact table.passage .refl
  · have logs : Course system
        (system.log .warning .session "connection lost, failing outstanding requests") :=
      log_course system _ _ _
    have lost := TablePassage.shutDown (table.course logs) known .lost
    exact {
      table := lost.table
      loop := lost.loop
      shut := lost.shut }

theorem request_table
    (table : HasTable registered [] system) (task : Nat) (method : String)
    (params : Option Value) (timeout : Option Quantity) :
    TablePassage
      (registered ++ (system.registrationBy? task (.request 0 method params timeout)).toList)
      system (system.request 0 method params timeout).1 := by
  obtain ⟨found, only, _⟩ := id table
  have sessionFound : system.sessions[0]? = some found := by rw [only]; rfl
  simp only [System.registrationBy?, System.request, sessionFound, Option.bind_some]
  cases isOpen : found.closed with
  | true =>
      simp only [if_true, Option.toList_none, List.append_nil]
      exact table.passage .refl
  | false =>
      simp only [Bool.false_eq_true, if_false]
      cases counted : (timeout.getD found.defaultTimeout).delay? with
      | none =>
          simp only [Option.map_none, Option.toList_none, List.append_nil]
          exact table.passage (.single (.session 0 fun _ => rfl))
      | some delay =>
          simp only [Option.map_some, Option.toList_some]
          generalize newEq : ({
            task
            entry := {
              id := requestId (found.requests + 1)
              method
              timeout := timeout.getD found.defaultTimeout
              promise := system.nextPromise
              timer := system.loop.timersArmed }
            deadline := system.loop.deadline delay } : Registration) = new
          have next : new.IsNext system found delay := by
            rw [← newEq]
            exact ⟨rfl, rfl, rfl, rfl⟩
          obtain ⟨laterTable, continues⟩ := table.register next only isOpen
          have entered : TablePassage (registered ++ [new]) system
              (system.register new delay) := by
            refine ⟨laterTable, continues, ?_⟩
            rintro ⟨other, otherOnly, closed⟩
            rw [only] at otherOnly
            rw [← List.singleton_inj.mp otherOnly, isOpen] at closed
            cases closed
          rw [← newEq] at entered ⊢
          split
          · exact entered.course (andThen_course _ (write_course _ 0 method _) fun _ =>
              resumeRequesting_course _ _)
          · exact entered

/-- A call of the session, with the request that it registers. -/
theorem call_table
    {call : Call} (table : HasTable registered [] system) (onSession : call.OnSession)
    (known : ∀ registration ∈ registered, registration.entry.promise < system.nextPromise)
    (task : Nat) :
    TablePassage (registered ++ (system.registrationBy? task call).toList) system
      (system.call call).1 := by
  cases call with
  | request session method params timeout =>
      obtain rfl : session = 0 := onSession
      exact request_table table task method params timeout
  | notify session method params =>
      simp only [System.registrationBy?, Option.toList_none, List.append_nil]
      exact table.passage (notify_course system session method params)
  | closeSession session =>
      simp only [System.registrationBy?, Option.toList_none, List.append_nil]
      exact closeSession_table table known session
  | answer session id =>
      simp only [System.registrationBy?, Option.toList_none, List.append_nil]
      exact table.passage (write_course system session "response" _)
  | _ => exact onSession.elim

/-! ## The handshake -/

section Handshakes

variable {running : Option Nat} {source : Registration → Outcome Reply → Prop} {start : System}

theorem TablePassage.trans
    (first : TablePassage registered before middle) (second : TablePassage registered middle after) :
    TablePassage registered before after :=
  ⟨second.table, first.loop.trans second.loop, second.shut ∘ first.shut⟩

theorem SessionPassage.promises_known
    (passage : SessionPassage registered running source start system) :
    ∀ registration ∈ registered, registration.entry.promise < system.nextPromise :=
  fun registration member => (passage.parts.plain registration member).known

theorem abandonHandshake_table
    (session : Nat) (serverUri : String) (ending : Outcome Reply)
    (passage : SessionPassage registered running source start system)
    (table : HasTable registered [] system) :
    TablePassage registered system (system.abandonHandshake session serverUri ending).1 := by
  have logged := table.passage (log_course system .error .workspace
    ("initialize failed for " ++ serverUri ++ ": " ++ endingText ending))
  have closed := logged.trans (closeSession_table logged.table
    (passage.log _ _ _).promises_known session)
  unfold System.abandonHandshake
  simp only
  generalize (System.log _ _ _ _).closeSession session = step at closed ⊢
  obtain ⟨later, outcome | ⟨frames, promise⟩⟩ := step
  · cases outcome <;> exact closed
  · exact closed

theorem resumeConfirming_table
    (session : Nat) (serverUri : String) (result : Protocol.InitializeResult)
    (outcome : Outcome Reply) (passage : SessionPassage registered running source start system)
    (table : HasTable registered [] system) :
    TablePassage registered system
      (System.resumeConfirming session serverUri result system outcome).1 := by
  cases outcome with
  | returned _ =>
      have added : Course system { system with workspaces := system.workspaces ++ [{
          session, capabilities := result.capabilities, serverInfo := result.serverInfo }] } :=
        .single (.workspaces _)
      exact table.passage (added.tail (.session session fun _ => rfl))
  | failed _ => exact abandonHandshake_table session serverUri _ passage table
  | cancelled => exact abandonHandshake_table session serverUri _ passage table

theorem resumeHandshaking_table
    (session : Nat) (serverUri : String) (outcome : Outcome Reply)
    (passage : SessionPassage registered running source start system)
    (table : HasTable registered [] system) :
    TablePassage registered system
      (System.resumeHandshaking session serverUri system outcome).1 := by
  unfold System.resumeHandshaking
  split
  · split
    · exact abandonHandshake_table session serverUri _ passage table
    · rename_i result _
      have told := notify_passage passage session Protocol.Method.handshakeDone (some (.object []))
      have first := table.passage
        (notify_course system session Protocol.Method.handshakeDone (some (.object [])))
      generalize system.notify session _ _ = step at told first ⊢
      obtain ⟨later, ending | ⟨frames, promise⟩⟩ := step
      · exact first.trans
          (resumeConfirming_table session serverUri result ending told.passage first.table)
      · exact first
  · exact abandonHandshake_table session serverUri _ passage table
  · exact abandonHandshake_table session serverUri _ passage table
  · exact abandonHandshake_table session serverUri _ passage table

/-! ## A task goes on -/

theorem resumeFrame_table
    {frame : Frame} (allowed : IsSessionFrame registered frame) (outcome : Outcome Reply)
    (passage : SessionPassage registered running source start system)
    (table : HasTable registered [] system) :
    TablePassage registered system (System.resumeFrame frame system outcome).1 := by
  cases frame with
  | sending link value => exact table.passage (resumeSending_course system link value outcome)
  | writing subject => exact table.passage (resumeWriting_course system subject outcome)
  | requesting promise => exact table.passage (resumeRequesting_course system promise outcome)
  | closingLink => exact table.passage (resumeClosingLink_course system outcome)
  | handshaking session serverUri =>
      exact resumeHandshaking_table session serverUri outcome passage table
  | confirming session serverUri result =>
      exact resumeConfirming_table session serverUri result outcome passage table
  | abandoningHandshake ending => cases outcome <;> exact table.passage .refl
  | _ => exact allowed.elim

theorem resumeStack_table
    {stack : List Frame} (allowed : ∀ frame ∈ stack, IsSessionFrame registered frame)
    (outcome : Outcome Reply) (passage : SessionPassage registered running source start system)
    (table : HasTable registered [] system) :
    TablePassage registered system (system.resumeStack outcome stack).1 := by
  induction stack generalizing system outcome with
  | nil =>
      exact table.passage .refl
  | cons frame outer inductionHypothesis =>
      have ran := resumeFrame_passage (allowed frame List.mem_cons_self) outcome passage
      have resumed :=
        resumeFrame_table (allowed frame List.mem_cons_self) outcome passage table
      simp only [System.resumeStack]
      split
      · rename_i later ending result
        rw [result] at ran resumed
        exact resumed.trans (inductionHypothesis
          (fun other member => allowed other (List.mem_cons_of_mem _ member)) ending ran.passage
          resumed.table)
      · rename_i result
        rw [result] at resumed
        exact resumed

end Handshakes

theorem HasTable.clearTask (table : HasTable registered [] system) (task : Nat) :
    HasTable registered [] (system.onLoop (·.clearTask task)) :=
  table.of_same rfl (system.loop.modifyTask_carries task _) ⟨rfl, rfl, fun _ => id⟩

theorem runTask_table
    {task : Nat} {found : TaskState Frame} (world : SessionWorld registered system)
    (table : HasTable registered [] system) (entry : system.loop.tasks[task]? = some found)
    (unended : system.loop.hasEnded task = false) (notReady : task ∉ resumed system.loop.ready)
    (settled : ∀ promise, found.awaiting = some promise → system.loop.outcome? promise ≠ none) :
    TablePassage (registered ++ (system.registrationIn? (.resume task)).toList)
      (system.onLoop (·.clearTask task))
      ((system.onLoop (·.clearTask task)).resumeStack (system.signalOf found) found.stack).1 := by
  have cleared := table.clearTask task
  rcases world.orderly.tasks found (List.mem_of_getElem? entry) with
    ⟨call, onSession, stackEq, idle⟩ | frames
  · cases cancelled : found.cancelRequested with
    | true =>
        have nothing : system.registrationIn? (.resume task) = none := by
          simp [System.registrationIn?, System.begunCall?, entry, cancelled]
        rw [nothing, Option.toList_none, List.append_nil, System.signalOf_of_cancel cancelled,
          stackEq, System.resumeStack_not_begin _ _ (by simp)]
        exact cleared.passage .refl
    | false =>
        have registers : system.registrationIn? (.resume task) =
            (system.onLoop (·.clearTask task)).registrationBy? task call := by
          rw [registrationBy?_clearTask]
          simp [System.registrationIn?, System.begunCall?, entry, unended, cancelled, stackEq]
        rw [registers, System.signalOf_of_idle cancelled idle, stackEq, System.resumeStack_begin]
        exact call_table cleared onSession (fun registration member =>
          (world.parts.plain registration member).known) task
  · have nothing : system.registrationIn? (.resume task) = none := by
      simp only [System.registrationIn?, System.begunCall?, entry, Option.bind_some]
      split
      · rfl
      · split
        · rename_i call stackEq
          exact (frames (.begin call) (by rw [stackEq]; exact List.mem_cons_self)).elim
        · rfl
    rw [nothing, Option.toList_none, List.append_nil]
    have start : SessionPassage registered (some task) (fun _ _ => True) _ _ :=
      world.start_task entry notReady settled
    exact resumeStack_table frames _ start cleared

theorem HasTable.settleTask
    {task : Nat} {found : TaskState Frame} {step : Step}
    (wakeful : system.loop.Wakeful (some task)) (entry : system.loop.tasks[task]? = some found)
    (completionKnown : found.completion < system.nextPromise)
    (ran : StepPassage later (some task) (fun _ _ => True) (system.onLoop (·.clearTask task)) step)
    (passage : TablePassage later (system.onLoop (·.clearTask task)) step.1) :
    TableStep later system (System.settleTask task found.completion step) := by
  have wakefulLater : step.1.loop.Wakeful (some task) := wakeful.run.continues passage.loop
  have grown : system.nextTask ≤ step.1.nextTask := by
    have sameTasks : (system.onLoop (·.clearTask task)).nextTask = system.nextTask := by
      simp [System.nextTask, System.onLoop, Scheduler.nextTask, Scheduler.clearTask,
        Scheduler.modifyTask]
    rw [← sameTasks]
    exact passage.loop.grown
  obtain ⟨middle, outcome | ⟨frames, promise⟩⟩ := step
  · have known : found.completion < middle.loop.nextPromise :=
      Nat.lt_of_lt_of_le completionKnown ran.passage.loop.advances.grown
    obtain ⟨state, stateEntry, _, completion⟩ :=
      passage.loop.tasks task _ (Scheduler.clearTask_self entry)
    have ends : Course middle
        ((middle.note (.ended task outcome)).settle found.completion outcome) :=
      (Relation.ReflTransGen.single (.note _)).tail (.settle _ _)
    have later := passage.course ends
    refine ⟨later.table, ?_, later.shut, ?_⟩
    · have finished := wakefulLater.finish stateEntry (by rw [completion]; exact known) outcome
      rw [completion] at finished
      exact finished
    · refine Nat.le_trans grown ?_
      simp [System.settleTask, System.settle, System.nextTask, System.onLoop, Scheduler.nextTask,
        System.note]
  · obtain ⟨_, plain⟩ := ran.suspended frames promise rfl
    generalize modifiedEq : middle.loop.modifyTask task (fun found =>
      { found with stack := frames, awaiting := some promise }) = modified
    have modifies : Scheduler.Carries IsOrdinary middle.loop modified := by
      rw [← modifiedEq]
      exact middle.loop.modifyTask_carries task _
    have waits : Scheduler.Continues IsOrdinary modified
        (modified.whenSettled promise (.resume task)) :=
      modified.whenSettled_continues promise trivial
    have suspended : (System.settleTask task found.completion
        (middle, .suspended frames promise)).loop = modified.whenSettled promise (.resume task) := by
      rw [← modifiedEq]
      rfl
    refine ⟨?_, wakefulLater.suspend frames plain.known, ?_, ?_⟩
    · refine passage.table.of_same rfl ?_ ?_
      · rw [suspended]
        exact modifies.trans waits.toCarries
      · rw [suspended]
        have untimed : Scheduler.Untimed middle.loop modified := by
          rw [← modifiedEq]
          exact ⟨rfl, rfl, fun _ => id⟩
        exact untimed.trans (modified.whenSettled_untimed _ _)
    · exact fun shut => (passage.shut shut).of_tables rfl
    · refine Nat.le_trans grown (Nat.le_of_eq ?_)
      simp only [System.nextTask, Scheduler.nextTask, suspended, Scheduler.whenSettled_tasks]
      rw [← modifiedEq]
      simp [Scheduler.modifyTask]

theorem HasTable.resumeTask
    {task : Nat} (world : SessionWorld registered system) (table : HasTable registered [] system)
    (wakeful : system.loop.Wakeful (some task)) (notReady : task ∉ resumed system.loop.ready)
    (settled : ∀ found : TaskState Frame, system.loop.tasks[task]? = some found →
      ∀ promise, found.awaiting = some promise → system.loop.outcome? promise ≠ none) :
    TableStep (registered ++ (system.registrationIn? (.resume task)).toList) system
      (system.resumeTask task) := by
  cases entry : system.loop.tasks[task]? with
  | none =>
      have nothing : system.registrationIn? (.resume task) = none := by
        simp [System.registrationIn?, System.begunCall?, entry]
      have same : system.resumeTask task = system := by
        simp only [System.resumeTask, entry]
      rw [nothing, same, Option.toList_none, List.append_nil]
      refine ⟨table, wakeful.stop ?_, id, Nat.le_refl _⟩
      intro found isTask
      rw [entry] at isTask
      cases isTask
  | some found =>
      cases unended : system.loop.hasEnded task with
      | true =>
          have nothing : system.registrationIn? (.resume task) = none := by
            simp [System.registrationIn?, System.begunCall?, entry, unended]
          have same : system.resumeTask task = system := by
            simp only [System.resumeTask, entry, unended, if_true]
          rw [nothing, same, Option.toList_none, List.append_nil]
          refine ⟨table, wakeful.stop ?_, id, Nat.le_refl _⟩
          intro other isTask
          rw [entry] at isTask
          obtain rfl := Option.some.inj isTask
          simpa [Scheduler.hasEnded, entry, Scheduler.isSettled, Option.isSome_iff_ne_none]
            using unended
      | false =>
          have isTurn : system.resumeTask task = System.settleTask task found.completion
              ((system.onLoop (·.clearTask task)).resumeStack (system.signalOf found)
                found.stack) := by
            simp only [System.resumeTask, entry, unended, Bool.false_eq_true, if_false]
            rfl
          have isCompletion : found.completion ∈ system.loop.completions :=
            List.mem_map.mpr ⟨found, List.mem_of_getElem? entry, rfl⟩
          rw [isTurn]
          exact HasTable.settleTask wakeful entry (world.orderly.completionsKnown _ isCompletion)
            (runTask_passage world entry unended notReady (settled found entry))
            (runTask_table world table entry unended notReady (settled found entry))

/-! ## Inputs -/

theorem receive_table
    (world : SessionWorld registered system) (table : HasTable registered [] system)
    (link : Nat) (text : String) :
    TablePassage registered system (system.receive link text) :=
  table.passage (receive_course system link text world.parts.unopened)

theorem drop_table
    (world : SessionWorld registered system) (table : HasTable registered [] system) (link : Nat) :
    TablePassage registered system (system.drop link) := by
  unfold System.drop
  split
  · exact table.passage .refl
  · rename_i session listens
    obtain ⟨_, rfl⟩ := world.parts.links link session listens
    exact loseConnection_table table fun registration member =>
      (world.parts.plain registration member).known

theorem callback_table
    {callback : Callback Action} {rest : ClientLoop} (world : SessionWorld registered system)
    (table : HasTable registered [] system) (wakeful : system.loop.Wakeful none)
    (next : system.loop.next? = some (callback, rest)) :
    TableStep
      (registered ++ (({ system with loop := rest } : System).registrationIn? callback).toList)
      system (({ system with loop := rest } : System).runCallback callback) := by
  have taken := Scheduler.taken_of_next? next
  obtain ⟨worldRest, allowed⟩ := world.taken taken
  have tableRest := table.taken next
  have wakefulRest := wakeful.taken taken
  have known : ∀ registration ∈ registered,
      registration.entry.promise < ({ system with loop := rest } : System).nextPromise :=
    fun registration member => (worldRest.parts.plain registration member).known
  have ids := world.parts.idsDistinct
  have sameTasks : ({ system with loop := rest } : System).nextTask = system.nextTask := by
    simp only [System.nextTask, Scheduler.nextTask, taken.tasks]
  have ofStep : ∀ {later : List Registration} {after : System},
      TableStep later { system with loop := rest } after → TableStep later system after := by
    intro later after step
    exact ⟨step.table, step.wakeful, fun shut => step.shut (shut.of_tables rfl),
      sameTasks ▸ step.grown⟩
  apply ofStep
  cases callback with
  | resume task =>
      obtain ⟨notReady, settled⟩ := world.punctual.resumed_of_taken taken
      exact HasTable.resumeTask worldRest (tableRest.ran_ordinary trivial) wakefulRest notReady
        settled
  | memberEnded group =>
      exact allowed.elim
  | skipped =>
      simp only [System.registrationIn?, Option.toList_none, List.append_nil]
      exact ((tableRest.ran_ordinary trivial).passage .refl).step wakefulRest
  | fire timer action =>
      simp only [System.registrationIn?, Option.toList_none, List.append_nil]
      obtain ⟨registration, member, _, rfl, rfl⟩ := allowed
      have course := expire_course { system with loop := rest } 0 registration.entry.id
      refine TablePassage.step ⟨tableRest.expire ids member (known registration member), ?_, ?_⟩
        wakefulRest
      · exact course.continues.mono fun _ _ => trivial
      · exact fun shut => shut.of_tables course.tables
  | act action =>
      simp only [System.registrationIn?, Option.toList_none, List.append_nil]
      cases action with
      | discard session id =>
          refine TablePassage.step ⟨tableRest.discard ids, ?_, ?_⟩ wakefulRest
          · exact discard_continues _ session id
          · exact fun shut => shut.discard session id
      | answerEnded session task =>
          exact ((tableRest.ran_ordinary trivial).passage
            (endAnswer_course _ session task)).step wakefulRest
      | deliver link text =>
          exact (receive_table worldRest (tableRest.ran_ordinary trivial) link text).step
            wakefulRest
      | expire _ _ => exact allowed.elim
      | debounce _ => exact allowed.elim
      | sendEnded _ _ => exact allowed.elim
      | wake _ => exact allowed.elim

theorem input_table
    {input : Input} (world : SessionWorld registered system) (onSession : input.OnSession)
    (table : HasTable registered [] system) (wakeful : system.loop.Wakeful none) :
    TableStep (registered ++ (system.registration? input).toList) system (system.step input) := by
  cases input with
  | turn =>
      rcases system.step_turn_cases with ⟨nothing, same⟩ | ⟨callback, rest, next, runs⟩
      · simp only [same, System.registration?, nothing, Option.bind_none, Option.toList_none,
          List.append_nil]
        exact (table.passage .refl).step wakeful
      · simp only [runs, System.registration?, next, Option.bind_some]
        exact callback_table world table wakeful next
  | call call =>
      simp only [System.registration?, Option.toList_none, List.append_nil]
      exact (table.passage (.single (.spawn call))).step wakeful
  | cancel task =>
      simp only [System.registration?, Option.toList_none, List.append_nil]
      exact (table.passage (.single (.cancel task))).step wakeful
  | listen session listener =>
      simp only [System.registration?, Option.toList_none, List.append_nil]
      have listens : Move system
          (system.modifySession session fun found => { found with listener }) :=
        .session session fun _ => rfl
      exact (table.passage (.single listens)).step wakeful
  | receive link text =>
      simp only [System.registration?, Option.toList_none, List.append_nil]
      exact (receive_table world table link text).step wakeful
  | drop link =>
      simp only [System.registration?, Option.toList_none, List.append_nil]
      exact (drop_table world table link).step wakeful
  | behave peer =>
      simp only [System.registration?, Option.toList_none, List.append_nil]
      exact (table.passage (.single (.peer _))).step wakeful
  | release place =>
      simp only [System.registration?, Option.toList_none, List.append_nil]
      exact (table.passage (releases_course system (system.releaseFrame_releases place))).step wakeful
  | releaseClose place =>
      simp only [System.registration?, Option.toList_none, List.append_nil]
      exact (table.passage (releases_course system (system.releaseClosing_releases place))).step wakeful
  | tick moment =>
      simp only [System.registration?, Option.toList_none, List.append_nil]
      have moves : Scheduler.Continues IsOrdinary system.loop (system.loop.moveClock moment) :=
        system.loop.moveClock_continues moment
      refine TablePassage.step ⟨?_, moves.mono fun _ _ => trivial, fun shut => shut.of_tables rfl⟩
        wakeful
      exact table.of_same rfl moves.toCarries ⟨rfl, rfl, fun _ => id⟩
  | attach _ _ _ => exact onSession.elim
  | edit _ _ => exact onSession.elim
  | editText _ _ => exact onSession.elim

end Steps

end LanguageClient.Client
