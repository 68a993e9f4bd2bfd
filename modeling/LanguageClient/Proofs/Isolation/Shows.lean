import LanguageClient.Proofs.Isolation.Silence

/-!
# Events that others notice

What an event apart from the request does to a client. When two clients are alike, the same event does the
same to both.
-/

namespace LanguageClient.Client

open LanguageClient.Json LanguageClient.Loop LanguageClient.Number LanguageClient.Protocol

/-- What an input does to a client if it is an event apart from the request. -/
inductive Shows (target : Target) (system : System) (input : Input) : Event → Prop where
  | calls {shown call : Call} (steps : system.step input = system.spawn call)
      (onSession : call.OnSession)
      (isShown : shown = if system.nextTask = target.task then call.untimed else call)
      (called : system.nextTask = target.task →
        ∃ method params timeout, call = .request 0 method params timeout) :
    Shows target system input (.calls shown)
  | cancels {task : Nat} (steps : system.step input = system.onLoop (·.cancel task))
      (isOther : task ≠ target.task) :
    Shows target system input (.cancels task)
  | hears {text : String} {rest : ClientLoop}
      (steps : system.step input = ({ system with loop := rest } : System).receive 0 text)
      (takes : Takes system rest) (other : responseId? text ≠ some target.id)
      (fresh : system.nextTask = target.task → (system.step input).nextTask = system.nextTask) :
    Shows target system input (.hears text)
  | drops (steps : system.step input = system.drop 0) : Shows target system input .drops
  | releases {task promise : Nat} {peer : Peer}
      (steps : system.step input =
        ({ system with peer } : System).settle promise (.returned .nothing))
      (isOther : task ≠ target.task)
      (awaits : (system.loop.tasks[task]?).bind (·.awaiting) = some promise)
      (fewer : ∀ other ∈ peer.detained, other ∈ system.peer.detained) :
    Shows target system input (.releases task)
  | issues {rest : ClientLoop} {found : TaskState Frame} (isTurn : input = .turn)
      (resumes : System.Resumes system target.task rest found)
      (issues : system.issues target.task = true) :
    Shows target system input .issues
  | goesOn {task : Nat} {manner : Peer} {rest : ClientLoop} {found : TaskState Frame}
      (isTurn : input = .turn) (isOther : task ≠ target.task)
      (resumes : System.Resumes system task rest found) (isManner : manner = system.peer.manner) :
    Shows target system input (.goesOn task manner)
  | expires {id : String} {rest : ClientLoop}
      (steps : system.step input = ({ system with loop := rest } : System).expire 0 id)
      (takes : Takes system rest) (other : id ≠ target.id) :
    Shows target system input (.expires id)
  | notes {session task : Nat} {rest : ClientLoop}
      (steps : system.step input = ({ system with loop := rest } : System).endAnswer session task)
      (takes : Takes system rest) :
    Shows target system input (.notes session task)

section Shows

variable {target : Target} {paired : Nat → Nat → Prop} {left right system : System}
  {registered registeredThere : List Registration} {input inputThere : Input} {event : Event}
  {rest restThere : ClientLoop} {found foundThere : TaskState Frame}

/-! ## Which event an input is -/

theorem awaits_of_release?
    {promise : Nat} (isEvent : system.release? target promise = some event) :
    ∃ task, event = .releases task ∧ task ≠ target.task ∧
      (system.loop.tasks[task]?).bind (·.awaiting) = some promise := by
  unfold System.release? at isEvent
  split at isEvent
  · cases isEvent
  · obtain ⟨task, isAwaiter, rfl⟩ := Option.map_eq_some_iff.mp isEvent
    exact ⟨task, rfl, awaits_of_awaiter? isAwaiter⟩

/-- Which event a callback is. -/
theorem callbackEvent?_shows
    {callback : Callback Action} (proceeds : target.Proceeds registered system .turn)
    (next : system.loop.next? = some (callback, rest))
    (isEvent : system.callbackEvent? target callback = some event) :
    Shows target system .turn event := by
  have takes := Takes.of_next next
  have runs := System.step_turn_of_next next
  have allowed := (proceeds.world.taken (Scheduler.taken_of_next? next)).2
  cases callback with
  | resume task =>
      rcases System.resume_cases next with ⟨found, resumes⟩ | ⟨ended, _⟩
      · by_cases isOwn : task = target.task
        · subst isOwn
          cases issues : system.issues target.task with
          | true =>
              obtain rfl : Event.issues = event := by
                simpa [System.callbackEvent?, resumes.unended, issues] using isEvent
              exact .issues rfl resumes issues
          | false => simp [System.callbackEvent?, resumes.unended, issues] at isEvent
        · obtain rfl : Event.goesOn task system.peer.manner = event := by
            simpa [System.callbackEvent?, resumes.unended, isOwn] using isEvent
          exact .goesOn rfl isOwn resumes rfl
      · simp [System.callbackEvent?, ended] at isEvent
  | memberEnded group => exact allowed.elim
  | skipped => cases isEvent
  | fire timer action =>
      obtain ⟨registration, _, _, _, rfl⟩ := allowed
      by_cases isOwn : registration.entry.id = target.id
      · simp [System.callbackEvent?, System.actionEvent?, isOwn] at isEvent
      · obtain ⟨_, _, rfl⟩ : ∃ entry, system.openRequest? 0 registration.entry.id = some entry ∧
            Event.expires registration.entry.id = event := by
          simpa [System.callbackEvent?, System.actionEvent?, isOwn] using isEvent
        exact .expires runs takes isOwn
  | act action =>
      cases action with
      | deliver link text =>
          have heard : link = 0 ∧ target.hearing? text = some event := by
            simpa [System.callbackEvent?, System.actionEvent?] using isEvent
          obtain ⟨rfl, hears⟩ := heard
          unfold Target.hearing? at hears
          split at hears
          · cases hears
          · rename_i other
            obtain rfl := Option.some.inj hears
            refine .hears runs takes other fun isTask => ?_
            by_contra grown
            obtain ⟨_, _, _, isCall⟩ := proceeds.called isTask grown
            cases isCall
      | answerEnded session task =>
          obtain rfl := Option.some.inj isEvent
          exact .notes runs takes
      | discard session id => cases isEvent
      | expire _ _ => exact allowed.elim
      | debounce _ => exact allowed.elim
      | sendEnded _ _ => exact allowed.elim
      | wake _ => exact allowed.elim

/-- Which event an input is. -/
theorem event?_shows
    (proceeds : target.Proceeds registered system input)
    (isEvent : system.event? target input = some event) :
    Shows target system input event := by
  cases input with
  | call call =>
      obtain rfl := Option.some.inj isEvent
      refine .calls rfl proceeds.onSession rfl fun isOwn => ?_
      have grown : (system.step (.call call)).nextTask ≠ system.nextTask := by
        simp [System.step, System.spawn, System.onLoop, System.nextTask, Scheduler.spawn,
          Scheduler.enqueue, Scheduler.nextTask]
      obtain ⟨method, params, timeout, isCall⟩ := proceeds.called isOwn grown
      exact ⟨method, params, timeout, Input.call.inj isCall⟩
  | cancel task =>
      by_cases isOwn : task = target.task
      · simp [System.event?, isOwn] at isEvent
      · obtain rfl : Event.cancels task = event := by simpa [System.event?, isOwn] using isEvent
        exact .cancels rfl isOwn
  | receive link text =>
      have heard : link = 0 ∧ target.hearing? text = some event := by
        simpa [System.event?] using isEvent
      obtain ⟨rfl, hears⟩ := heard
      unfold Target.hearing? at hears
      split at hears
      · cases hears
      · rename_i other
        obtain rfl := Option.some.inj hears
        refine .hears rfl (.refl system) other fun isTask => ?_
        by_contra grown
        obtain ⟨_, _, _, isCall⟩ := proceeds.called isTask grown
        cases isCall
  | drop link =>
      obtain ⟨rfl, rfl⟩ : link = 0 ∧ Event.drops = event := by simpa [System.event?] using isEvent
      exact .drops rfl
  | release place =>
      obtain ⟨promise, isHeld, released⟩ := Option.bind_eq_some_iff.mp isEvent
      obtain ⟨task, rfl, isOther, awaits⟩ := awaits_of_release? released
      have steps : system.step (.release place) = ({ system with
          peer := { system.peer with held := system.peer.held.eraseIdx place } } : System).settle
            promise (.returned .nothing) := by
        simp only [System.step, System.releaseFrame, isHeld]
      exact .releases steps isOther awaits fun _ => detained_of_frame_released
  | releaseClose place =>
      obtain ⟨promise, isHeld, released⟩ := Option.bind_eq_some_iff.mp isEvent
      obtain ⟨task, rfl, isOther, awaits⟩ := awaits_of_release? released
      have steps : system.step (.releaseClose place) = ({ system with
          peer := { system.peer with heldCloses := system.peer.heldCloses.eraseIdx place } } :
            System).settle promise (.returned .nothing) := by
        simp only [System.step, System.releaseClosing, isHeld]
      exact .releases steps isOther awaits fun _ => detained_of_closing_released
  | turn =>
      obtain ⟨callback, comes, isCallbackEvent⟩ := Option.bind_eq_some_iff.mp isEvent
      obtain ⟨⟨callback, rest⟩, next, rfl⟩ := Option.map_eq_some_iff.mp comes
      exact callbackEvent?_shows proceeds next isCallbackEvent
  | _ => cases isEvent

/-! ## The same event on both sides -/

/-- The turn in which the request takes its id does no more than that as others see it. -/
theorem Secluded.issue_hides
    {foreign : Nat → Prop}
    (secluded : Secluded target foreign ((system.resumed rest target.task).countRequest 0))
    (proceeds : target.Proceeds registered system .turn)
    (resumes : System.Resumes system target.task rest found)
    (issues : system.issues target.task = true) (stack : OwnStack target found.stack)
    (apart : ¬ foreign found.completion) :
    Hides target foreign ((system.resumed rest target.task).countRequest 0) (system.step .turn) := by
  obtain ⟨state, only, _⟩ := proceeds.table
  rw [resumes.step_turn]
  refine OwnStep.settleTask ?_ apart
  unfold System.resumption
  have uncancelled : found.cancelRequested = false := by
    by_contra cancelled
    simp [System.issues, System.begunCall?, resumes.entry, cancelled] at issues
  generalize stackEq : found.stack = frames at stack
  cases stack with
  | waits => simp [System.issues, System.begunCall?, resumes.entry, stackEq] at issues
  | writes link frame subject promise own =>
      simp [System.issues, System.begunCall?, resumes.entry, stackEq] at issues
  | begins method params timeout =>
      have idle : found.awaiting = none := by
        rcases proceeds.world.orderly.tasks found (List.mem_of_getElem? resumes.entry) with
          ⟨_, _, _, idle⟩ | begun
        · exact idle
        · exact (begun (.begin _) (by rw [stackEq]; exact List.mem_cons_self)).elim
      have isOpen : state.closed = false := by
        simpa [System.issues, System.begunCall?, resumes.entry, resumes.unended, uncancelled, stackEq,
          only] using issues
      have sessionFound : (system.resumed rest target.task).sessions[0]? = some state := by
        change system.sessions[0]? = some state
        rw [only]
        rfl
      have signal : system.signalOf found = .returned .nothing :=
        System.signalOf_of_idle uncancelled idle
      rw [signal, System.resumeStack_begin]
      refine secluded.request only isOpen method params timeout fun counted => ?_
      obtain ⟨registration, registers, isTask, isId⟩ :=
        registrationBy?_of_open target.task method params timeout sessionFound isOpen counted
      rw [← resumes.registration?_of_begin uncancelled stackEq] at registers
      exact isId.symm.trans ((proceeds.numbered registration registers).mp isTask)

namespace Alike

variable (alike : Alike target paired left right)

include alike

/-- A promise of somebody else that a task of others awaits has its counterpart. -/
theorem awaited_pair
    {task promise counterpart : Nat} (isOther : task ≠ target.task)
    (awaits : (left.loop.tasks[task]?).bind (·.awaiting) = some promise)
    (awaitsThere : (right.loop.tasks[task]?).bind (·.awaiting) = some counterpart) :
    paired promise counterpart := by
  have same := alike.tasks task isOther
  generalize left.loop.tasks[task]? = first, right.loop.tasks[task]? = second at *
  cases same with
  | none => cases awaits
  | @some found foundThere same =>
      have awaiting := same.awaiting
      rw [show found.awaiting = some promise from awaits,
        show foundThere.awaiting = some counterpart from awaitsThere] at awaiting
      cases awaiting with
      | some pair => exact pair

/-- The time of a request of somebody else is over on both sides. -/
theorem expire
    (distinct : left.Distinct) (distinctThere : right.Distinct) {id : String} (other : id ≠ target.id) :
    Alike target paired (left.expire 0 id) (right.expire 0 id) := by
  have same := alike.openRequest?_alike distinct distinctThere other
  unfold System.expire
  generalize left.openRequest? 0 id = first, right.openRequest? 0 id = second at same
  cases same with
  | none => exact alike
  | some same =>
      dsimp only
      rw [same.method, same.timeout]
      exact (alike.note _).settle same.promise _

theorem endAnswer (session task : Nat) :
    Alike target paired (left.endAnswer session task) (right.endAnswer session task) := by
  have removed : Alike target paired
      (left.modifySession session fun found =>
        { found with answers := found.answers.filter fun other => other ≠ task })
      (right.modifySession session fun found =>
        { found with answers := found.answers.filter fun other => other ≠ task }) := by
    cases session with
    | succ other =>
        rw [alike.secludedLeft.modifySession_succ, alike.secludedRight.modifySession_succ]
        exact alike
    | zero =>
        refine alike.modifySession _ (fun _ => rfl) fun state stateThere same => ?_
        obtain ⟨link, timeout, requests, answers, closed⟩ := outline_eq_iff.mp same
        exact outline_eq_iff.mpr ⟨link, timeout, requests,
          congrArg (List.filter fun other => other ≠ task) answers, closed⟩
  have logs (system : System) : Unseen
      (system.modifySession session fun found =>
        { found with answers := found.answers.filter fun other => other ≠ task })
      (system.endAnswer session task) := by
    unfold System.endAnswer
    simp only
    split
    · exact .log _ _ _ _
    · exact .refl _
    · exact .refl _
    · exact .refl _
  exact removed.unseen (logs left) (logs right)

theorem drop
    (parts : SessionParts registered left) (distinct : left.Distinct) (distinctThere : right.Distinct) :
    Alike target paired (left.drop 0) (right.drop 0) := by
  obtain ⟨found, _, sessionFound, sessionFoundThere, _, _, _, _, sameClosed⟩ := alike.session_found
  have sameListens := alike.listens_eq
  unfold System.drop
  rw [← sameListens]
  split
  · exact alike
  · rename_i session listens
    obtain ⟨_, rfl⟩ := parts.links 0 session listens
    simp only [System.loseConnection, sessionFound, sessionFoundThere, sameClosed]
    split
    · exact alike
    · have logged := alike.unseen
        (.log left .warning .session "connection lost, failing outstanding requests")
        (.log right .warning .session "connection lost, failing outstanding requests")
      exact logged.shut (distinct.of_pending rfl) (distinctThere.of_pending rfl) .lost

/-- The request takes its id on both sides. -/
theorem issue
    (proceeds : target.Proceeds registered left .turn)
    (proceedsThere : target.Proceeds registeredThere right .turn)
    (resumes : System.Resumes left target.task rest found)
    (resumesThere : System.Resumes right target.task restThere foundThere)
    (issues : left.issues target.task = true) (issuesThere : right.issues target.task = true) :
    Alike target paired (left.step .turn) (right.step .turn) := by
  have resumed := (alike.hide_left (alike.secludedLeft.resumed resumes)).hide_right
    (alike.secludedRight.resumed resumesThere)
  have counted := resumed.countRequest
  have ownCompletion {foreign : Nat → Prop} {system : System} {found : TaskState Frame}
      (secluded : Secluded target foreign system)
      (entry : system.loop.tasks[target.task]? = some found) : ¬ foreign found.completion :=
    (secluded.owned _ (Or.inl ⟨found, entry, Or.inl rfl⟩)).2
  exact (counted.hide_left (counted.secludedLeft.issue_hides proceeds resumes issues
    (alike.secludedLeft.stack found resumes.entry)
      (ownCompletion alike.secludedLeft resumes.entry))).hide_right
    (counted.secludedRight.issue_hides proceedsThere resumesThere issuesThere
      (alike.secludedRight.stack foundThere resumesThere.entry)
        (ownCompletion alike.secludedRight resumesThere.entry))

/-- The same event leaves two clients alike. -/
theorem shows
    (proceeds : target.Proceeds registered left input)
    (proceedsThere : target.Proceeds registeredThere right inputThere)
    (shown : Shows target left input event) (shownThere : Shows target right inputThere event) :
    ∃ wider, Widens paired wider ∧ Alike target wider (left.step input) (right.step inputThere) := by
  have distinct := proceeds.table.distinct proceeds.world.parts
  have distinctThere := proceedsThere.table.distinct proceedsThere.world.parts
  have here {later laterThere : System} (same : Alike target paired later laterThere) :
      ∃ wider, Widens paired wider ∧ Alike target wider later laterThere :=
    ⟨paired, .refl paired, same⟩
  cases shown with
  | @calls shown call steps onSession isShown called =>
      cases shownThere with
      | @calls _ callThere stepsThere _ isShownThere calledThere =>
          rw [steps, stepsThere]
          by_cases isOwn : left.nextTask = target.task
          · obtain ⟨method, params, timeout, rfl⟩ := called isOwn
            obtain ⟨_, _, _, rfl⟩ := calledThere (alike.nextTask.symm.trans isOwn)
            exact here (alike.spawn_own isOwn)
          · have isOtherThere : right.nextTask ≠ target.task := alike.nextTask ▸ isOwn
            rw [if_neg isOwn] at isShown
            rw [if_neg isOtherThere] at isShownThere
            obtain rfl := isShown.symm.trans isShownThere
            exact ⟨_, widens_joined paired _ _, alike.spawn onSession isOwn⟩
  | cancels steps isOther =>
      cases shownThere with
      | cancels stepsThere _ =>
          rw [steps, stepsThere]
          exact here (alike.cancel_other isOther)
  | hears steps takes other fresh =>
      cases shownThere with
      | hears stepsThere takesThere _ _ =>
          rw [steps] at fresh ⊢
          rw [stepsThere]
          have taken := alike.unseen takes.unseen takesThere.unseen
          exact taken.receive (takes.parts proceeds.world.parts)
            (takesThere.parts proceedsThere.world.parts) (distinct.of_pending rfl)
            (distinctThere.of_pending rfl) other fun isTask =>
              (fresh (takes.nextTask_eq.symm.trans isTask)).trans takes.nextTask_eq.symm
  | drops steps =>
      cases shownThere with
      | drops stepsThere =>
          rw [steps, stepsThere]
          exact here (alike.drop proceeds.world.parts distinct distinctThere)
  | releases steps isOther awaits fewer =>
      cases shownThere with
      | releases stepsThere _ awaitsThere fewerThere =>
          rw [steps, stepsThere]
          have freed := alike.unseen (.withPeer left _ fewer) (.withPeer right _ fewerThere)
          exact here (freed.settle (alike.awaited_pair isOther awaits awaitsThere) _)
  | issues isTurn resumes issues =>
      cases shownThere with
      | issues isTurnThere resumesThere issuesThere =>
          subst isTurn isTurnThere
          exact here (alike.issue proceeds proceedsThere resumes resumesThere issues issuesThere)
  | goesOn isTurn isOther resumes isManner =>
      cases shownThere with
      | goesOn isTurnThere _ resumesThere isMannerThere =>
          subst isTurn isTurnThere
          exact alike.turn proceeds proceedsThere isOther resumes resumesThere
            (isManner.symm.trans isMannerThere)
  | expires steps takes other =>
      cases shownThere with
      | expires stepsThere takesThere _ =>
          rw [steps, stepsThere]
          have taken := alike.unseen takes.unseen takesThere.unseen
          exact here (taken.expire (distinct.of_pending rfl) (distinctThere.of_pending rfl) other)
  | notes steps takes =>
      cases shownThere with
      | notes stepsThere takesThere =>
          rw [steps, stepsThere]
          have taken := alike.unseen takes.unseen takesThere.unseen
          exact here (taken.endAnswer _ _)

end Alike

end Shows

end LanguageClient.Client
