import LanguageClient.Proofs.Isolation.Ending

/-!
# Calls of others on both sides

Two clients are alike apart from a request, and their peers treat frames and closings in the same manner. A
call of somebody else then gets equally far in both: it ends with the same outcome, or waits in the same way
for promises that correspond. What it has done to the two clients leaves them alike.
-/

namespace LanguageClient.Client

open LanguageClient.Json LanguageClient.Loop LanguageClient.Number LanguageClient.Protocol

/-- Clients that are alike while their peers act in the same manner. -/
structure Abreast
    (target : Target) (paired : Nat → Nat → Prop) (left right : System) : Prop where
  alike : Alike target paired left right
  manner : left.peer.manner = right.peer.manner

/-- More promises correspond than before. -/
def Widens (paired wider : Nat → Nat → Prop) : Prop :=
  ∀ promise counterpart, paired promise counterpart → wider promise counterpart

/-- Calls of others that have got equally far. -/
inductive StepAlike (target : Target) (paired : Nat → Nat → Prop) : Step → Step → Prop where
  | ends {wider : Nat → Nat → Prop} {left right : System} (widens : Widens paired wider)
      (abreast : Abreast target wider left right) (outcome : Outcome Reply) :
    StepAlike target paired (left, .ended outcome) (right, .ended outcome)
  | waits {wider : Nat → Nat → Prop} {left right : System} {frames framesThere : List Frame}
      {promise counterpart : Nat} (widens : Widens paired wider) (alike : Alike target wider left right)
      (framesAlike : List.Forall₂ (FrameAlike target wider) frames framesThere)
      (meets : Meets target wider left right promise counterpart) :
    StepAlike target paired (left, .suspended frames promise) (right, .suspended framesThere counterpart)

/-- The outline of a session, field by field. -/
theorem outline_eq_iff {found counterpart : Session} :
    found.outline = counterpart.outline ↔
      found.link = counterpart.link ∧ found.defaultTimeout = counterpart.defaultTimeout ∧
        found.requests = counterpart.requests ∧ found.answers = counterpart.answers ∧
          found.closed = counterpart.closed := by
  simp [Session.outline]

/-- The sessions of the two agree in all that is no entry of a table. -/
theorem Alike.session_found
    {target : Target} {paired : Nat → Nat → Prop} {left right : System}
    (alike : Alike target paired left right) :
    ∃ found foundThere, left.sessions[0]? = some found ∧ right.sessions[0]? = some foundThere ∧
      foundThere.link = found.link ∧ foundThere.defaultTimeout = found.defaultTimeout ∧
        foundThere.requests = found.requests ∧ foundThere.answers = found.answers ∧
          foundThere.closed = found.closed := by
  obtain ⟨found, foundThere, only, onlyThere, outline⟩ := alike.sessions
  exact ⟨found, foundThere, by rw [only]; rfl, by rw [onlyThere]; rfl,
    outline_eq_iff.mp outline.symm⟩

theorem manner_eq_iff {peer other : Peer} :
    peer.manner = other.manner ↔
      peer.holding = other.holding ∧ peer.holdingClose = other.holdingClose ∧
        peer.refusal = other.refusal ∧ peer.closeFails = other.closeFails := by
  simp [Peer.manner]

section Steps

variable {target : Target} {paired wider : Nat → Nat → Prop} {left right : System}
  {step stepThere : Step}

theorem Widens.refl (paired : Nat → Nat → Prop) : Widens paired paired := fun _ _ => id

theorem Widens.trans
    {widest : Nat → Nat → Prop} (first : Widens paired wider) (second : Widens wider widest) :
    Widens paired widest :=
  fun promise counterpart pair => second promise counterpart (first promise counterpart pair)

theorem widens_joined (paired : Nat → Nat → Prop) (promise counterpart : Nat) :
    Widens paired (joined paired promise counterpart) :=
  fun _ _ => Or.inl

namespace StepAlike

theorem of_wider
    (widens : Widens paired wider) (same : StepAlike target wider step stepThere) :
    StepAlike target paired step stepThere := by
  cases same with
  | ends more abreast outcome => exact .ends (widens.trans more) abreast outcome
  | waits more alike framesAlike meets => exact .waits (widens.trans more) alike framesAlike meets

/-- A call of others goes on in the same way after a call inside it. -/
theorem andThen
    {frame frameThere : Frame} {rest restThere : System → Outcome Reply → Step}
    (same : StepAlike target paired step stepThere) (frameAlike : FrameAlike target paired frame frameThere)
    (goesOn : ∀ {wider : Nat → Nat → Prop} {left right : System} (outcome : Outcome Reply),
      Widens paired wider → Abreast target wider left right →
        StepAlike target wider (rest left outcome) (restThere right outcome)) :
    StepAlike target paired (step.andThen frame rest) (stepThere.andThen frameThere restThere) := by
  cases same with
  | ends widens abreast outcome => exact (goesOn outcome widens abreast).of_wider widens
  | waits widens alike framesAlike meets =>
      exact .waits widens alike
        (List.rel_append framesAlike (.cons (frameAlike.mono widens) .nil)) meets

end StepAlike

end Steps

namespace Abreast

variable {target : Target} {paired : Nat → Nat → Prop} {left right : System}
  (abreast : Abreast target paired left right)

include abreast

theorem ended (outcome : Outcome Reply) :
    StepAlike target paired (left, .ended outcome) (right, .ended outcome) :=
  .ends (.refl paired) abreast outcome

theorem refusalOf?_eq (frame : Value) : left.peer.refusalOf? frame = right.peer.refusalOf? frame := by
  obtain ⟨_, _, same, _⟩ := manner_eq_iff.mp abreast.manner
  simp only [Peer.refusalOf?, same]

theorem note (occurrence : Occurrence) :
    Abreast target paired (left.note occurrence) (right.note occurrence) :=
  ⟨abreast.alike.note occurrence, abreast.manner⟩

end Abreast

theorem System.Distinct.of_pending
    {before after : System} (distinct : before.Distinct)
    (same : after.sessions.map (·.pending) = before.sessions.map (·.pending)) : after.Distinct := by
  have earlier (found : Session) (inside : found ∈ after.sessions) :
      ∃ other ∈ before.sessions, other.pending = found.pending :=
    List.mem_map.mp (same ▸ List.mem_map_of_mem inside)
  constructor
  · intro found inside
    obtain ⟨other, isOther, samePending⟩ := earlier found inside
    exact samePending ▸ distinct.ids other isOther
  · intro found inside
    obtain ⟨other, isOther, samePending⟩ := earlier found inside
    exact samePending ▸ distinct.promises other isOther

/-- Both sessions are closed, and their requests are abandoned. -/
theorem Alike.shut
    {target : Target} {paired : Nat → Nat → Prop} {left right : System}
    (alike : Alike target paired left right) (distinct : left.Distinct)
    (distinctThere : right.Distinct) (reason : SessionEnd) :
    Alike target paired
      ((left.modifySession 0 fun found => { found with closed := true }).abandonRequests 0 reason)
      ((right.modifySession 0 fun found => { found with closed := true }).abandonRequests 0 reason) := by
  have closed := alike.modifySession (fun found => { found with closed := true })
    (fun _ => rfl) fun found counterpart same => by
      obtain ⟨link, timeout, requests, answers, _⟩ := outline_eq_iff.mp same
      exact outline_eq_iff.mpr ⟨link, timeout, requests, answers, rfl⟩
  obtain ⟨found, foundThere, only, onlyThere, _⟩ := alike.sessions
  exact closed.abandonRequests (distinct.of_pending (by simp [System.modifySession, only]))
    (distinctThere.of_pending (by simp [System.modifySession, onlyThere])) reason

theorem peer_abandonRequests (system : System) (reason : SessionEnd) :
    (system.abandonRequests 0 reason).peer = system.peer := by
  unfold System.abandonRequests
  split
  · rfl
  · rename_i found _
    have same := congrArg System.peer (foldl_abandon_eq reason found.pending system).1
    exact same

/-- An open session registers a request under the next id, if its time can be counted. -/
theorem registrationBy?_of_open
    {system : System} {session : Nat} {found : Session} (task : Nat) (method : String)
    (params : Option Value) (timeout : Option Quantity)
    (sessionFound : system.sessions[session]? = some found) (isOpen : found.closed = false)
    (counted : (timeout.getD found.defaultTimeout).delay? ≠ none) :
    ∃ registration,
      system.registrationBy? task (.request session method params timeout) = some registration ∧
        registration.task = task ∧ registration.entry.id = requestId (found.requests + 1) := by
  obtain ⟨delay, isDelay⟩ := Option.ne_none_iff_exists'.mp counted
  simp only [System.registrationBy?, sessionFound, Option.bind_some, isOpen, Bool.false_eq_true,
    if_false, isDelay, Option.map_some]
  exact ⟨_, rfl, rfl, rfl⟩

/-- Both sessions take an id for a request. -/
theorem Alike.countRequest
    {target : Target} {paired : Nat → Nat → Prop} {left right : System}
    (alike : Alike target paired left right) :
    Alike target paired (left.countRequest 0) (right.countRequest 0) :=
  alike.modifySession _ (fun _ => rfl) fun found counterpart same => by
    obtain ⟨link, timeout, requests, rest⟩ := outline_eq_iff.mp same
    exact outline_eq_iff.mpr ⟨link, timeout, congrArg (· + 1) requests, rest⟩

theorem manner_accept (peer : Peer) (frame : Value) : (peer.accept frame).2.manner = peer.manner := by
  unfold Peer.accept
  cases methodOf? frame with
  | none => rfl
  | some method => rfl

namespace Abreast

variable {target : Target} {paired : Nat → Nat → Prop} {left right : System}
  (abreast : Abreast target paired left right)

include abreast

/-! ## Frames -/

theorem accept (link : Nat) (frame : Value) :
    Abreast target paired (left.accept link frame) (right.accept link frame) where
  alike := by
    have unseen (system : System) : Unseen system { system with peer := (system.peer.accept frame).2 } :=
      .withPeer system _ fun promise member => detained_accept system.peer frame ▸ member
    have accepted := (abreast.alike.unseen (unseen left) (unseen right)).note (.accepted link frame)
    exact accepted.unseen (.onLoop _ _ rfl rfl) (.onLoop _ _ rfl rfl)
  manner := by
    have same (system : System) :
        (system.accept link frame).peer.manner = system.peer.manner :=
      manner_accept system.peer frame
    rw [same, same, abreast.manner]

/-- Somebody else waits on both sides for something that the peers hold back. -/
theorem holdBack
    {frames : List Frame} (framesAlike : List.Forall₂ (FrameAlike target paired) frames frames)
    (peerLeft peerRight : Peer)
    (detainedLeft : ∀ promise ∈ peerLeft.detained,
      promise ∈ left.peer.detained ∨ promise = left.nextPromise)
    (detainedRight : ∀ promise ∈ peerRight.detained,
      promise ∈ right.peer.detained ∨ promise = right.nextPromise) :
    StepAlike target paired
      ({ left.addPromise with peer := peerLeft }, .suspended frames left.nextPromise)
      ({ right.addPromise with peer := peerRight }, .suspended frames right.nextPromise) :=
  .waits (.refl paired)
    ((abreast.alike.hide_left
      (abreast.alike.secludedLeft.addPromise_hides peerLeft detainedLeft)).hide_right
        (abreast.alike.secludedRight.addPromise_hides peerRight detainedRight))
    framesAlike
    (.fresh (abreast.alike.secludedLeft.unclaimed_next peerLeft)
      (abreast.alike.secludedRight.unclaimed_next peerRight))

theorem takeFrame (link : Nat) (frame : Value) :
    StepAlike target paired (left.takeFrame link frame) (right.takeFrame link frame) := by
  have same := abreast.refusalOf?_eq frame
  cases refused : left.peer.refusalOf? frame with
  | some failure =>
      rw [System.takeFrame_of_refusal link refused,
        System.takeFrame_of_refusal link (same.symm.trans refused)]
      exact abreast.ended _
  | none =>
      rw [System.takeFrame_of_acceptance link refused,
        System.takeFrame_of_acceptance link (same.symm.trans refused)]
      exact (abreast.accept link frame).ended _

theorem send (link : Nat) {frame : Value} (other : target.bears frame = false) :
    StepAlike target paired (left.send link frame) (right.send link frame) := by
  have handed := abreast.note (.handed link frame)
  have same := (manner_eq_iff.mp abreast.manner).1
  cases holding : left.peer.holding with
  | false =>
      rw [System.send_of_not_holding link frame holding,
        System.send_of_not_holding link frame (same.symm.trans holding)]
      exact handed.takeFrame link frame
  | true =>
      rw [System.send_of_holding link frame holding,
        System.send_of_holding link frame (same.symm.trans holding)]
      refine handed.holdBack (.cons (.sending link other) .nil) _ _ ?_ ?_ <;>
      · intro promise member
        simp only [Peer.detained, List.mem_append, List.mem_singleton] at member ⊢
        tauto

theorem resumeWriting (subject : String) (outcome : Outcome Reply) :
    StepAlike target paired (System.resumeWriting subject left outcome)
      (System.resumeWriting subject right outcome) := by
  cases outcome <;> exact abreast.ended _

theorem write (subject : String) {frame : Value} (other : target.bears frame = false) :
    StepAlike target paired (left.write 0 subject frame) (right.write 0 subject frame) := by
  obtain ⟨found, _, sessionFound, sessionFoundThere, sameLink, _⟩ := abreast.alike.session_found
  simp only [System.write, sessionFound, sessionFoundThere, sameLink]
  exact (abreast.send found.link other).andThen (.writing subject)
    fun outcome _ later => later.resumeWriting subject outcome

/-! ## Requests -/

section Requesting

variable {promise counterpart : Nat} (pair : paired promise counterpart)

include pair

theorem await : StepAlike target paired (left.await promise) (right.await counterpart) := by
  have same := abreast.alike.outcomes promise counterpart pair
  cases settled : left.loop.outcome? promise with
  | some outcome =>
      rw [System.await_of_settled settled, System.await_of_settled (same.symm.trans settled)]
      exact abreast.ended outcome
  | none =>
      rw [System.await_of_unsettled settled, System.await_of_unsettled (same.symm.trans settled)]
      exact .waits (.refl paired) abreast.alike .nil (.paired pair)

theorem resumeRequesting (outcome : Outcome Reply) :
    StepAlike target paired (System.resumeRequesting promise left outcome)
      (System.resumeRequesting counterpart right outcome) := by
  have withdrawn (ending : Outcome Reply) :
      StepAlike target paired (left.settle promise .cancelled, .ended ending)
        (right.settle counterpart .cancelled, .ended ending) :=
    .ends (.refl paired) ⟨abreast.alike.settle pair .cancelled, abreast.manner⟩ ending
  cases outcome with
  | returned reply => exact abreast.await pair
  | failed failure => exact withdrawn _
  | cancelled => exact withdrawn _

end Requesting

theorem countRequest : Abreast target paired (left.countRequest 0) (right.countRequest 0) :=
  ⟨abreast.alike.countRequest, abreast.manner⟩

/-- A request of somebody else is entered in both tables. -/
theorem registerRequest
    {id : String} (other : id ≠ target.id) (method : String) (timeout : Quantity) (delay : Delay) :
    Abreast target (joined paired left.nextPromise right.nextPromise)
      (left.registerRequest 0 id method timeout delay)
      (right.registerRequest 0 id method timeout delay) where
  alike := by
    have armed := abreast.alike.addPromise_joined.unseen
      (.onLoop _ (·.arm delay (.expire 0 id)) rfl rfl) (.onLoop _ (·.arm delay (.expire 0 id)) rfl rfl)
    have watched := armed.unseen
      (.whenSettled _ left.nextPromise (.act (.discard 0 id)))
      (.whenSettled _ right.nextPromise (.act (.discard 0 id)))
    exact watched.enter ⟨rfl, rfl, rfl, Or.inr ⟨rfl, rfl⟩⟩ other
  manner := abreast.manner

theorem request
    (task : Nat) (method : String) (params : Option Value) (timeout : Option Quantity)
    (other : ∀ registration,
      left.registrationBy? task (.request 0 method params timeout) = some registration →
        registration.entry.id ≠ target.id) :
    StepAlike target paired (left.request 0 method params timeout)
      (right.request 0 method params timeout) := by
  obtain ⟨found, _, sessionFound, sessionFoundThere, _, sameDefault, sameRequests, _, sameClosed⟩ :=
    abreast.alike.session_found
  simp only [System.request, sessionFound, sessionFoundThere, sameClosed, sameRequests, sameDefault]
  cases isClosed : found.closed with
  | true => exact abreast.ended _
  | false =>
      simp only [Bool.false_eq_true, if_false]
      cases isDelay : (timeout.getD found.defaultTimeout).delay? with
      | none => exact abreast.countRequest.ended _
      | some delay =>
          obtain ⟨registration, registers, _, isId⟩ :=
            registrationBy?_of_open task method params timeout sessionFound isClosed
              (isDelay ▸ Option.some_ne_none delay)
          have otherId : requestId (found.requests + 1) ≠ target.id := isId ▸ other registration registers
          have registered := abreast.countRequest.registerRequest otherId method
            (timeout.getD found.defaultTimeout) delay
          refine StepAlike.of_wider (widens_joined paired (left.countRequest 0).nextPromise
            (right.countRequest 0).nextPromise) ?_
          dsimp only
          split
          · refine (registered.write method ?_).andThen (.requesting (Or.inr ⟨rfl, rfl⟩))
              fun outcome widens later => later.resumeRequesting (widens _ _ (Or.inr ⟨rfl, rfl⟩)) outcome
            rw [Target.bears_requestMessage]
            exact decide_eq_false otherId
          · exact registered.ended _

theorem notify (method : String) (params : Option Value) :
    StepAlike target paired (left.notify 0 method params) (right.notify 0 method params) := by
  obtain ⟨found, _, sessionFound, sessionFoundThere, _, _, _, _, sameClosed⟩ :=
    abreast.alike.session_found
  simp only [System.notify, sessionFound, sessionFoundThere, sameClosed]
  split
  · exact abreast.ended _
  · split
    · exact abreast.write method (target.bears_notificationMessage method params)
    · exact abreast.ended _

/-! ## The end of the session -/

theorem shut
    (distinct : left.Distinct) (distinctThere : right.Distinct) (reason : SessionEnd) :
    Abreast target paired
      ((left.modifySession 0 fun found => { found with closed := true }).abandonRequests 0 reason)
      ((right.modifySession 0 fun found => { found with closed := true }).abandonRequests 0 reason) where
  alike := abreast.alike.shut distinct distinctThere reason
  manner := by
    rw [peer_abandonRequests, peer_abandonRequests]
    exact abreast.manner

theorem closeLink (link : Nat) :
    StepAlike target paired (left.closeLink link) (right.closeLink link) := by
  obtain ⟨_, holdingClose, _, closeFails⟩ := manner_eq_iff.mp abreast.manner
  have closed : Abreast target paired
      { left.note (.closedLink link) with
        links := left.links.modify link fun found => { found with closed := true } }
      { right.note (.closedLink link) with
        links := right.links.modify link fun found => { found with closed := true } } :=
    ⟨abreast.alike.unseen (.closeLink left link) (.closeLink right link), abreast.manner⟩
  have unsettled (system : System) (peer : Peer) :
      ({ system.addPromise with peer } : System).loop.outcome? system.nextPromise = none :=
    Scheduler.addPromise_outcome?_new {} system.loop
  have sameHolding : (right.note (.closedLink link)).peer.holdingClose = left.peer.holdingClose :=
    holdingClose.symm
  have sameFails : (right.note (.closedLink link)).peer.closeFails = left.peer.closeFails :=
    closeFails.symm
  simp only [System.closeLink, sameHolding, sameFails]
  cases holds : left.peer.holdingClose with
  | true =>
      have holdsLeft : (left.note (.closedLink link)).peer.holdingClose = true := holds
      simp only [holdsLeft, if_true]
      rw [System.await_of_unsettled (unsettled _ _), System.await_of_unsettled (unsettled _ _)]
      refine closed.holdBack .nil _ _ ?_ ?_ <;>
      · intro promise member
        simp only [Peer.detained, List.mem_append, List.mem_singleton] at member ⊢
        tauto
  | false =>
      have holdsLeft : (left.note (.closedLink link)).peer.holdingClose = false := holds
      simp only [holdsLeft, Bool.false_eq_true, if_false]
      have failsLeft : (left.note (.closedLink link)).peer.closeFails = left.peer.closeFails := rfl
      rw [failsLeft]
      split
      · exact closed.ended _
      · exact closed.ended _

theorem closeSession
    (distinct : left.Distinct) (distinctThere : right.Distinct) :
    StepAlike target paired (left.closeSession 0) (right.closeSession 0) := by
  obtain ⟨found, _, sessionFound, sessionFoundThere, sameLink, _, _, sameAnswers, sameClosed⟩ :=
    abreast.alike.session_found
  simp only [System.closeSession, sessionFound, sessionFoundThere, sameLink, sameAnswers, sameClosed]
  split
  · exact abreast.ended _
  · have shut := abreast.shut distinct distinctThere .closed
    have cancelled : Abreast target paired _ _ := ⟨shut.alike.cancels found.answers, shut.manner⟩
    exact (cancelled.closeLink found.link).andThen .closingLink fun outcome _ later => by
      cases outcome <;> exact later.ended _

end Abreast

end LanguageClient.Client
