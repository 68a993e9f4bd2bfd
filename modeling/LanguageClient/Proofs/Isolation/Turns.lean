import LanguageClient.Proofs.Inquiry.World
import LanguageClient.Proofs.Isolation.Calls
import LanguageClient.Proofs.Session.Responses

/-!
# Turns of others and texts of the peer

When clients that are alike let the same task go on, and the task is not the one of the request, then it
learns the same on both sides, gets equally far, and leaves the clients alike.

A text of the peer that answers the request is seen by nobody else. Any other text does the same to two
clients that are alike: it starts an answer in both, ends the same request in both, or changes nothing that
others see.
-/

namespace LanguageClient.Client

open LanguageClient.Json LanguageClient.Loop LanguageClient.Number LanguageClient.Protocol

/-- A client in a run in which the request is made by its task only, and what comes next. -/
structure Target.Proceeds
    (target : Target) (registered : List Registration) (system : System) (input : Input) : Prop where
  world : SessionWorld registered system
  table : HasTable registered [] system
  onSession : input.OnSession
  called : system.nextTask = target.task → (system.step input).nextTask ≠ system.nextTask →
    ∃ method params timeout, input = .call (.request 0 method params timeout)
  numbered : ∀ registration, system.registration? input = some registration →
    (registration.task = target.task ↔ registration.entry.id = target.id)

theorem HasTable.distinct
    {registered : List Registration} {running : List (Callback Action)} {system : System}
    (table : HasTable registered running system) (parts : SessionParts registered system) :
    system.Distinct := by
  obtain ⟨found, only, tracked, _⟩ := table
  constructor <;> intro session inside
  · rw [only, List.mem_singleton] at inside
    subst inside
    refine (tracked.entries.map (·.id)).nodup ?_
    simpa [List.map_map, Function.comp_def] using parts.idsDistinct
  · rw [only, List.mem_singleton] at inside
    subst inside
    refine (tracked.entries.map (·.promise)).nodup ?_
    simpa [List.map_map, Function.comp_def] using parts.promisesDistinct

section Turns

variable {target : Target} {paired : Nat → Nat → Prop} {left right system : System}
  {registered registeredThere : List Registration} {task : Nat} {rest restThere : ClientLoop}
  {found foundThere : TaskState Frame}

/-! ## Frames and calls -/

namespace Abreast

variable (abreast : Abreast target paired left right)

include abreast

theorem resumeFrame
    {frame frameThere : Frame} (same : FrameAlike target paired frame frameThere)
    (outcome : Outcome Reply) :
    StepAlike target paired (System.resumeFrame frame left outcome)
      (System.resumeFrame frameThere right outcome) := by
  cases same with
  | sending link other =>
      cases outcome with
      | returned reply => exact abreast.takeFrame link _
      | failed failure => exact abreast.ended _
      | cancelled => exact abreast.ended _
  | writing subject => exact abreast.resumeWriting subject outcome
  | requesting pair => exact abreast.resumeRequesting pair outcome
  | closingLink => cases outcome <;> exact abreast.ended _

/-- Stacks of others go on in the same way, frame by frame. -/
theorem resumeStack
    {stack stackThere : List Frame} (same : List.Forall₂ (FrameAlike target paired) stack stackThere)
    (outcome : Outcome Reply) :
    StepAlike target paired (left.resumeStack outcome stack) (right.resumeStack outcome stackThere) := by
  induction stack generalizing stackThere paired left right outcome with
  | nil =>
      cases same
      exact abreast.ended outcome
  | cons frame outer inductionHypothesis =>
      obtain ⟨frameThere, outerThere, head, others, rfl⟩ := List.forall₂_cons_left_iff.mp same
      have goesOn := abreast.resumeFrame head outcome
      rcases result : System.resumeFrame frame left outcome with ⟨later, progress⟩
      rcases resultThere : System.resumeFrame frameThere right outcome with ⟨laterThere, progressThere⟩
      rw [result, resultThere] at goesOn
      cases goesOn with
      | ends widens laterAbreast ending =>
          rw [System.resumeStack_of_ended _ result, System.resumeStack_of_ended _ resultThere]
          exact (inductionHypothesis laterAbreast (others.imp fun _ _ frame => frame.mono widens)
            ending).of_wider widens
      | waits widens alike framesAlike meets =>
          rw [System.resumeStack_of_suspended _ result, System.resumeStack_of_suspended _ resultThere]
          exact .waits widens alike
            (List.rel_append framesAlike (others.imp fun _ _ frame => frame.mono widens)) meets

theorem call
    {call : Call} (task : Nat) (onSession : call.OnSession) (distinct : left.Distinct)
    (distinctThere : right.Distinct)
    (other : ∀ registration, left.registrationBy? task call = some registration →
      registration.entry.id ≠ target.id) :
    StepAlike target paired (left.call call) (right.call call) := by
  cases call with
  | request session method params timeout =>
      obtain rfl : session = 0 := onSession
      exact abreast.request task method params timeout other
  | notify session method params =>
      obtain rfl : session = 0 := onSession
      exact abreast.notify method params
  | closeSession session =>
      obtain rfl : session = 0 := onSession
      exact abreast.closeSession distinct distinctThere
  | answer session id =>
      obtain rfl : session = 0 := onSession
      exact abreast.write "response" (target.bears_answerMessage id)
  | _ => exact onSession.elim

end Abreast

/-! ## The turn of a task -/

/-- A task of somebody else is left on both sides as its call is. -/
theorem StepAlike.settleTask
    {step stepThere : Step} {completion completionThere : Nat}
    (same : StepAlike target paired step stepThere) (isOther : task ≠ target.task)
    (pair : paired completion completionThere)
    (idle : ∃ state, step.1.loop.tasks[task]? = some state ∧ state.awaiting = none)
    (idleThere : ∃ state, stepThere.1.loop.tasks[task]? = some state ∧ state.awaiting = none) :
    ∃ wider, Widens paired wider ∧ Alike target wider (System.settleTask task completion step)
      (System.settleTask task completionThere stepThere) := by
  cases same with
  | @ends wider _ _ widens abreast outcome =>
      exact ⟨wider, widens, (abreast.alike.note (.ended task outcome)).settle (widens _ _ pair) outcome⟩
  | @waits wider _ _ frames framesThere promise counterpart widens alike framesAlike meets =>
      obtain ⟨state, entry, isIdle⟩ := idle
      obtain ⟨stateThere, entryThere, isIdleThere⟩ := idleThere
      have attends := alike.attend isOther meets framesAlike entry isIdle entryThere isIdleThere
      exact ⟨_, widens.trans (widens_joined wider promise counterpart),
        attends.unseen (.whenSettled _ promise (.resume task)) (.whenSettled _ counterpart (.resume task))⟩

namespace System.Resumes

variable (resumes : System.Resumes system task rest found)

include resumes

/-- While a task runs, it waits for nothing. -/
theorem idle (world : SessionWorld registered system) :
    ∃ state, (system.resumption rest task found).1.loop.tasks[task]? = some state ∧
      state.awaiting = none := by
  obtain ⟨_, later⟩ := (world.resumption_passage resumes).passage.loop.running_task resumes.restEntry
  exact ⟨_, later, rfl⟩

end System.Resumes

/-- The clients are alike while a task of somebody else goes on in both. -/
theorem Alike.resumed
    (alike : Alike target paired left right) (world : SessionWorld registered left)
    (worldThere : SessionWorld registeredThere right) (isOther : task ≠ target.task)
    (resumes : System.Resumes left task rest found)
    (resumesThere : System.Resumes right task restThere foundThere) :
    Alike target paired (left.resumed rest task) (right.resumed restThere task) := by
  -- What the task waited for is settled, so nobody has to wait for it any more.
  have waits {system : System} {rest : ClientLoop} {found : TaskState Frame}
      {registered : List Registration} (world : SessionWorld registered system)
      (resumes : System.Resumes system task rest found) (state : TaskState Frame) (promise : Nat)
      (entry : rest.tasks[task]? = some state) (awaits : state.awaiting = some promise)
      (unsettled : rest.outcome? promise = none) :
      (none : Option Nat) = some promise := by
    rw [resumes.restEntry] at entry
    obtain rfl := Option.some.inj entry
    rw [resumes.taken.outcome?_eq] at unsettled
    exact (resumes.settled world.punctual awaits unsettled).elim
  exact (alike.unseen (.of_taken resumes.taken) (.of_taken resumesThere.taken)).modifyTask isOther
    (fun found => { found with stack := [], awaiting := none, cancelRequested := false })
    (fun _ => rfl) (fun _ _ same => ⟨.goesOn .nil, .none, rfl, same.completion⟩)
    (waits world resumes) (waits worldThere resumesThere)

/-- A task of somebody else learns the same on both sides. -/
theorem TaskAlike.signalOf_eq
    (alike : Alike target paired left right) (same : TaskAlike target paired found foundThere) :
    left.signalOf found = right.signalOf foundThere := by
  have awaiting := same.awaiting
  simp only [System.signalOf, same.cancelRequested]
  generalize found.awaiting = awaited, foundThere.awaiting = awaitedThere at awaiting
  cases awaiting with
  | none => rfl
  | some pair => simp only [Option.bind_some, alike.outcomes _ _ pair]

/-- A task of somebody else takes its turn on both sides. -/
theorem Alike.turn
    (alike : Alike target paired left right) (proceeds : target.Proceeds registered left .turn)
    (proceedsThere : target.Proceeds registeredThere right .turn) (isOther : task ≠ target.task)
    (resumes : System.Resumes left task rest found)
    (resumesThere : System.Resumes right task restThere foundThere)
    (manner : left.peer.manner = right.peer.manner) :
    ∃ wider, Widens paired wider ∧ Alike target wider (left.step .turn) (right.step .turn) := by
  have same : TaskAlike target paired found foundThere := by
    have related := alike.tasks task isOther
    rw [resumes.entry, resumesThere.entry] at related
    cases related with
    | some same => exact same
  have abreast : Abreast target paired (left.resumed rest task) (right.resumed restThere task) :=
    ⟨alike.resumed proceeds.world proceedsThere.world isOther resumes resumesThere, manner⟩
  rw [resumes.step_turn, resumesThere.step_turn]
  refine StepAlike.settleTask ?_ isOther same.completion (resumes.idle proceeds.world)
    (resumesThere.idle proceedsThere.world)
  unfold System.resumption
  rw [← same.signalOf_eq alike]
  have stack := same.stack
  generalize stackEq : found.stack = frames, stackEqThere : foundThere.stack = framesThere at stack
  cases stack with
  | goesOn framesAlike => exact abreast.resumeStack framesAlike _
  | @begins call onSession =>
      by_cases begins : ∃ reply, left.signalOf found = .returned reply
      · obtain ⟨reply, signal⟩ := begins
        rw [signal, System.resumeStack_begin, System.resumeStack_begin]
        refine abreast.call task onSession
          ((proceeds.table.distinct proceeds.world.parts).of_pending rfl)
          ((proceedsThere.table.distinct proceedsThere.world.parts).of_pending rfl) ?_
        intro registration registers isOwn
        have isTask := task_of_registrationBy? registers
        rw [← resumes.registration?_of_begin (System.uncancelled_of_returned signal) stackEq]
          at registers
        exact isOther (isTask.symm.trans ((proceeds.numbered registration registers).mpr isOwn))
      · have notReturned (reply : Reply) : left.signalOf found ≠ .returned reply := fun same =>
          begins ⟨reply, same⟩
        rw [System.resumeStack_not_begin _ _ notReturned, System.resumeStack_not_begin _ _ notReturned]
        exact abreast.ended _

end Turns

/-! ## Texts of the peer -/

theorem responseId?_eq_some_iff {text id : String} :
    responseId? text = some id ↔ ∃ message, IsResponse text id message := by
  constructor
  · intro responds
    unfold responseId? at responds
    split at responds
    · rename_i members parsed
      split at responds
      · cases responds
      · rename_i noMethod
        obtain ⟨value, hasId, shown⟩ := Option.map_eq_some_iff.mp responds
        exact ⟨_, parsed, ⟨members, rfl⟩, noMethod, value, hasId, shown⟩
    · cases responds
  · rintro ⟨_, parsed, ⟨members, rfl⟩, noMethod, value, hasId, shown⟩
    simp only [responseId?, parsed, noMethod, hasId, Option.map_some, shown]

section Texts

variable {target : Target} {foreign : Nat → Prop} {paired : Nat → Nat → Prop}
  {system left right : System} {text : String}

/-! ## Texts that nobody notices -/

theorem Unseen.noteEscaped
    {before : System} {result : System × Option Failure} (unseen : Unseen before result.1) :
    Unseen before (System.noteEscaped result) := by
  obtain ⟨later, failure⟩ := result
  cases failure with
  | none => exact unseen
  | some failure => exact unseen.trans (.note later rfl rfl)

theorem takeNotification_unseen
    (unopened : ∀ found ∈ system.workspaces, found.openFiles = [])
    (tell : System → Nat → PublishedDiagnostics → System × Option Failure)
    (workspace : Nat) (method params : Value) :
    Unseen system (System.takeNotification tell system workspace method params).1 := by
  rcases System.takeNotification_of_unopened unopened tell workspace method params with
    same | ⟨level, text, logs⟩
  · rw [same]
    exact .refl system
  · rw [logs]
    exact .log system _ _ _

/-- A text that is neither a request nor a response is noticed by nobody. -/
theorem takeMessage_unseen
    (unopened : ∀ found ∈ system.workspaces, found.openFiles = [])
    (unrequested : requestedId? text = none) (unanswered : responseId? text = none) (session : Nat) :
    Unseen system
      (system.takeMessage session text (System.takeNotification System.showDiagnostics)).1 := by
  unfold System.takeMessage
  split
  · exact .log system _ _ _
  · exact .refl system
  · rename_i members parsed
    simp only
    split
    · rename_i method id hasMethod hasId
      simp [requestedId?, parsed, hasMethod, hasId] at unrequested
    · split
      · exact .log system _ _ _
      · exact .log system _ _ _
      · rename_i method _ _ _ listener _ _
        cases listener with
        | nobody => exact .refl system
        | workspace workspace =>
            have told := takeNotification_unseen unopened System.showDiagnostics workspace method
              (((Value.object members).get? "params").getD .null)
            simp only
            split
            · exact told
            · exact told.trans (.log _ _ _ _)
        | host fails =>
            simp only
            split
            · exact .note system rfl rfl
            · exact (Unseen.note system rfl rfl).trans (.log _ _ _ _)
    · rename_i id noMethod hasId
      simp [responseId?, parsed, noMethod, hasId] at unanswered
    · exact .log system _ _ _
  · exact .log system _ _ _

/-- What a session hears over its connection. -/
theorem receive_eq {session : Nat} (listens : (system.links[0]?).bind (·.session) = some session) :
    system.receive 0 text = System.noteEscaped
      (system.takeMessage session text (System.takeNotification System.showDiagnostics)) := by
  simp only [System.receive, listens]
  cases system.takeMessage session text (System.takeNotification System.showDiagnostics) with
  | mk later failure => cases failure <;> rfl

/-! ## The response to the request -/

namespace Secluded

variable (secluded : Secluded target foreign system)

include secluded

/-- The promise of an entry of the request belongs to nobody else. -/
theorem apart_entry
    {session : Nat} {entry : PendingRequest}
    (isOpen : system.openRequest? session target.id = some entry) : ¬ foreign entry.promise := by
  obtain ⟨found, sessionFound, listed, isOwn, _⟩ := entry_of_openRequest? isOpen
  exact (secluded.owned entry.promise
    (Or.inr ⟨found, List.mem_of_getElem? sessionFound, entry, listed, isOwn, rfl⟩)).2

theorem takeResponse_hides (session : Nat) (message : Value) :
    Hides target foreign system (system.takeResponse session target.id message).1 := by
  unfold System.takeResponse
  split
  · exact (Unseen.log system _ _ _).hides secluded
  · rename_i entry isOpen
    have apart := secluded.apart_entry isOpen
    split
    · exact secluded.settle_hides apart _
    · split
      · exact secluded.settle_hides apart _
      · exact .refl secluded

/-- Others do not notice a text that answers the request, nor one that nobody listens to. -/
theorem receive_hides
    {registered : List Registration} (parts : SessionParts registered system) (link : Nat)
    (silent : link = 0 → responseId? text = some target.id) :
    Hides target foreign system (system.receive link text) := by
  cases listens : (system.links[link]?).bind (·.session) with
  | none =>
      have same : system.receive link text = system := by simp only [System.receive, listens]
      rw [same]
      exact .refl secluded
  | some session =>
      obtain ⟨rfl, rfl⟩ := parts.links link session listens
      obtain ⟨message, isResponse⟩ := responseId?_eq_some_iff.mp (silent rfl)
      rw [receive_eq listens, takeMessage_of_response _ isResponse]
      have taken := secluded.takeResponse_hides 0 message
      generalize system.takeResponse 0 target.id message = result at taken
      obtain ⟨later, failure⟩ := result
      cases failure with
      | none => exact taken
      | some failure => exact taken.unseen (.note later rfl rfl)

end Secluded

/-! ## Requests of others that are open -/

theorem openRequest?_eq_some_iff
    {found : Session} {id : String} {entry : PendingRequest} (only : system.sessions = [found])
    (distinct : system.Distinct) :
    system.openRequest? 0 id = some entry ↔ system.Opens entry ∧ entry.id = id := by
  have sessionFound : system.sessions[0]? = some found := by rw [only]; rfl
  constructor
  · intro isOpen
    obtain ⟨session, inside, listed, sameId, unsettled⟩ := entry_of_openRequest? isOpen
    exact ⟨⟨⟨session, List.mem_of_getElem? inside, listed⟩, unsettled⟩, sameId⟩
  · rintro ⟨⟨⟨session, inside, listed⟩, unsettled⟩, rfl⟩
    rw [only, List.mem_singleton] at inside
    subst inside
    have ids := distinct.ids session (by simp [only])
    have isFound : session.find? entry.id = some entry := by
      cases result : session.find? entry.id with
      | none =>
          have differs := List.find?_eq_none.mp result entry listed
          simp at differs
      | some other =>
          have sameId : other.id = entry.id := by simpa using List.find?_some result
          rw [List.inj_on_of_nodup_map ids (List.mem_of_find?_eq_some result) listed sameId]
    simp [System.openRequest?, sessionFound, isFound, Scheduler.isSettled, unsettled]

namespace Alike

variable (alike : Alike target paired left right)

include alike

/-- What answers a request of somebody else finds the same request on both sides. -/
theorem openRequest?_alike
    (distinct : left.Distinct) (distinctThere : right.Distinct) {id : String} (other : id ≠ target.id) :
    Option.Rel (EntryAlike paired) (left.openRequest? 0 id) (right.openRequest? 0 id) := by
  obtain ⟨found, foundThere, only, onlyThere, _⟩ := alike.sessions
  cases isEntry : left.openRequest? 0 id with
  | some entry =>
      obtain ⟨isOpen, rfl⟩ := (openRequest?_eq_some_iff only distinct).mp isEntry
      obtain ⟨entryThere, isOpenThere, same⟩ := alike.opens entry other isOpen
      rw [(openRequest?_eq_some_iff onlyThere distinctThere).mpr ⟨isOpenThere, same.id.symm⟩]
      exact .some same
  | none =>
      cases isEntryThere : right.openRequest? 0 id with
      | none => exact .none
      | some entryThere =>
          obtain ⟨isOpenThere, rfl⟩ :=
            (openRequest?_eq_some_iff onlyThere distinctThere).mp isEntryThere
          obtain ⟨entry, isOpen, same⟩ := alike.opened entryThere other isOpenThere
          rw [(openRequest?_eq_some_iff only distinct).mpr ⟨isOpen, same.id⟩] at isEntry
          cases isEntry

/-- A response to somebody else does the same on both sides. -/
theorem takeResponse
    (distinct : left.Distinct) (distinctThere : right.Distinct) {id : String} (other : id ≠ target.id)
    (message : Value) :
    Alike target paired (left.takeResponse 0 id message).1 (right.takeResponse 0 id message).1 := by
  have same := alike.openRequest?_alike distinct distinctThere other
  unfold System.takeResponse
  generalize left.openRequest? 0 id = first, right.openRequest? 0 id = second at same
  cases same with
  | none => exact alike.unseen (.log left _ _ _) (.log right _ _ _)
  | some same =>
      dsimp only
      split
      · exact alike.settle same.promise _
      · split
        · exact alike.settle same.promise _
        · exact alike

/-- A request of the peer is answered by a task of the same number on both sides. -/
theorem takeRequest
    (id : Value)
    (fresh : left.nextTask = target.task → (left.takeRequest 0 id).nextTask = left.nextTask) :
    ∃ wider, Widens paired wider ∧ Alike target wider (left.takeRequest 0 id)
      (right.takeRequest 0 id) := by
  obtain ⟨found, _, sessionFound, sessionFoundThere, _, _, _, _, sameClosed⟩ := alike.session_found
  simp only [System.takeRequest, sessionFound, sessionFoundThere, sameClosed] at fresh ⊢
  split
  · exact ⟨paired, .refl paired, alike⟩
  · rename_i isOpen
    simp only [isOpen, if_false, Bool.false_eq_true] at fresh
    have isOther : left.nextTask ≠ target.task := fun isOwn => by
      have grown := congrArg List.length (Unseen.whenEnded (left.spawn (.answer 0 id)) left.nextTask
        (.answerEnded 0 left.nextTask)).tasks
      have more : (left.spawn (.answer 0 id)).loop.tasks.length = left.nextTask + 1 :=
        List.length_append
      exact Nat.succ_ne_self _ ((grown.trans more).symm.trans (fresh isOwn))
    have onSession : (Call.answer 0 id).OnSession := rfl
    have spawned := alike.spawn onSession isOther
    have watched := spawned.unseen
      (.whenEnded _ left.nextTask (.answerEnded 0 left.nextTask))
      (.whenEnded _ right.nextTask (.answerEnded 0 right.nextTask))
    refine ⟨_, widens_joined paired left.nextPromise right.nextPromise, ?_⟩
    rw [← alike.nextTask] at watched ⊢
    refine watched.modifySession _ (fun _ => rfl) fun state stateThere same => ?_
    obtain ⟨link, timeout, requests, answers, closed⟩ := outline_eq_iff.mp same
    exact outline_eq_iff.mpr ⟨link, timeout, requests, congrArg (· ++ [left.nextTask]) answers, closed⟩

/-- The same session listens to the connection on both sides. -/
theorem listens_eq : (left.links[0]?).bind (·.session) = (right.links[0]?).bind (·.session) := by
  have same := congrArg (fun links => (links[0]?).bind id) (congrArg Prod.snd alike.outline)
  simpa [System.outline, List.getElem?_map, Option.bind_map, Function.comp_def] using same

/-- Two clients hear the same text, which does not answer the request. -/
theorem receive
    {registered registeredThere : List Registration} (parts : SessionParts registered left)
    (partsThere : SessionParts registeredThere right) (distinct : left.Distinct)
    (distinctThere : right.Distinct) (other : responseId? text ≠ some target.id)
    (fresh : left.nextTask = target.task → (left.receive 0 text).nextTask = left.nextTask) :
    ∃ wider, Widens paired wider ∧ Alike target wider (left.receive 0 text) (right.receive 0 text) := by
  have sameListens := alike.listens_eq
  cases listens : (left.links[0]?).bind (·.session) with
  | none =>
      have deaf {system : System} (nobody : (system.links[0]?).bind (·.session) = none) :
          system.receive 0 text = system := by simp only [System.receive, nobody]
      rw [deaf listens, deaf (sameListens.symm.trans listens)]
      exact ⟨paired, .refl paired, alike⟩
  | some session =>
      obtain ⟨_, rfl⟩ := parts.links 0 session listens
      rw [receive_eq listens] at fresh ⊢
      rw [receive_eq (sameListens.symm.trans listens)]
      cases requested : requestedId? text with
      | some id =>
          simp only [System.takeMessage_of_request _ requested] at fresh ⊢
          exact alike.takeRequest id fresh
      | none =>
          cases responds : responseId? text with
          | none =>
              exact ⟨paired, .refl paired, alike.unseen
                (takeMessage_unseen parts.unopened requested responds 0).noteEscaped
                (takeMessage_unseen partsThere.unopened requested responds 0).noteEscaped⟩
          | some id =>
              obtain ⟨message, isResponse⟩ := responseId?_eq_some_iff.mp responds
              have otherId : id ≠ target.id := fun same => other (same ▸ responds)
              rw [takeMessage_of_response _ isResponse, takeMessage_of_response _ isResponse]
              have taken := alike.takeResponse distinct distinctThere otherId message
              exact ⟨paired, .refl paired,
                taken.unseen (.noteEscaped (.refl _)) (.noteEscaped (.refl _))⟩

end Alike

end Texts

end LanguageClient.Client
