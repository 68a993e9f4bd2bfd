import LanguageClient.Proofs.Session.World

/-!
# The calls of a session

Every call of a session, and the rest of it after every point where it may be suspended, continues a
passage. A call for a request registers it first, and it ends with an answer only if the promise of
the request has that outcome.
-/

namespace LanguageClient.Client

open LanguageClient.Json LanguageClient.Loop LanguageClient.Number LanguageClient.Protocol

/-- What has happened when a call has ended or is suspended. -/
structure StepPassage
    (registered : List Registration) (running : Option Nat)
    (source : Registration → Outcome Reply → Prop) (before : System) (step : Step) :
    Prop where
  passage : SessionPassage registered running source before step.1
  suspended : ∀ frames promise, step.2 = .suspended frames promise →
    (∀ frame ∈ frames, IsSessionFrame registered frame) ∧ step.1.loop.IsPlain promise

/-- An outcome that only an answer of the peer or the end of its time can give to a request. -/
def IsAnswer : Outcome Reply → Prop
  | .returned _ | .failed (.response _) | .failed (.timedOut _ _ _) => True
  | .failed _ | .cancelled => False

theorem not_isAnswer_of_isTransport
    {failure : Failure} (isTransport : failure.isTransport = true) :
    ¬ IsAnswer (.failed failure) := by
  cases failure <;> first | exact id | cases isTransport

/-- Where a call for a request is: its frame is not accepted yet, it awaits its answer, or it has
ended, with an answer only if that is the outcome of its promise. -/
def AwaitsAnswer (promise : Nat) (step : Step) : Prop :=
  (∃ link frame subject held,
      step.2 = .suspended [.sending link frame, .writing subject, .requesting promise] held) ∨
    step.2 = .suspended [] promise ∨
    ∃ outcome, step.2 = .ended outcome ∧
      (IsAnswer outcome → step.1.loop.outcome? promise = some outcome)

section Passages

variable {registered : List Registration} {running : Option Nat}
  {source : Registration → Outcome Reply → Prop} {before system : System}

theorem SessionPassage.ended
    (passage : SessionPassage registered running source before system)
    (outcome : Outcome Reply) :
    StepPassage registered running source before (system, .ended outcome) :=
  ⟨passage, fun _ _ suspended => by cases suspended⟩

theorem SessionPassage.suspended
    {frames : List Frame} {promise : Nat}
    (passage : SessionPassage registered running source before system)
    (allowed : ∀ frame ∈ frames, IsSessionFrame registered frame)
    (plain : system.loop.IsPlain promise) :
    StepPassage registered running source before (system, .suspended frames promise) :=
  ⟨passage, fun _ _ suspended => by
    cases suspended
    exact ⟨allowed, plain⟩⟩

theorem StepPassage.andThen
    {step : Step} {frame : Frame} {rest : System → Outcome Reply → Step}
    (first : StepPassage registered running source before step)
    (allowed : IsSessionFrame registered frame)
    (second : ∀ later outcome, SessionPassage registered running source before later →
      StepPassage registered running source before (rest later outcome)) :
    StepPassage registered running source before (step.andThen frame rest) := by
  obtain ⟨later, progress⟩ := step
  cases progress with
  | ended outcome =>
      exact second later outcome first.passage
  | suspended frames promise =>
      obtain ⟨framesAllowed, plain⟩ := first.suspended frames promise rfl
      refine first.passage.suspended ?_ plain
      intro other member
      rcases List.mem_append.mp member with earlier | added
      · exact framesAllowed other earlier
      · rw [List.mem_singleton.mp added]
        exact allowed

theorem await_passage
    {promise : Nat} (passage : SessionPassage registered running source before system)
    (plain : system.loop.IsPlain promise) :
    StepPassage registered running source before (system.await promise) := by
  cases settled : system.loop.outcome? promise with
  | none =>
      rw [System.await_of_unsettled settled]
      exact passage.suspended (by simp) plain
  | some outcome =>
      rw [System.await_of_settled settled]
      exact passage.ended outcome

/-! ## Writing -/

theorem accept_passage
    (passage : SessionPassage registered running source before system) (link : Nat)
    (frame : Value) :
    SessionPassage registered running source before (system.accept link frame) := by
  have behaved := passage.withPeer (system.peer.accept frame).2 fun promise member => by
    rw [detained_accept] at member
    exact member
  exact (behaved.note (.accepted link frame)).deliver link _

theorem takeFrame_passage
    (passage : SessionPassage registered running source before system) (link : Nat)
    (frame : Value) :
    StepPassage registered running source before (system.takeFrame link frame) := by
  cases refused : system.peer.refusalOf? frame with
  | none =>
      rw [System.takeFrame_of_acceptance link refused]
      exact (accept_passage passage link frame).ended _
  | some failure =>
      rw [System.takeFrame_of_refusal link refused]
      exact passage.ended _

theorem resumeSending_passage
    (link : Nat) (frame : Value) (outcome : Outcome Reply)
    (passage : SessionPassage registered running source before system) :
    StepPassage registered running source before
      (System.resumeSending link frame system outcome) := by
  cases outcome with
  | returned _ => exact takeFrame_passage passage link frame
  | failed _ => exact passage.ended _
  | cancelled => exact passage.ended _

theorem resumeWriting_passage
    (subject : String) (outcome : Outcome Reply)
    (passage : SessionPassage registered running source before system) :
    StepPassage registered running source before (System.resumeWriting subject system outcome) := by
  cases outcome <;> exact passage.ended _

theorem holdBack_passage
    (passage : SessionPassage registered running source before system) :
    SessionPassage registered running source before system.holdBack ∧
      system.holdBack.loop.IsPlain system.nextPromise := by
  refine passage.detain _ ?_
  intro promise member
  simp only [Peer.detained, List.mem_append, List.mem_singleton] at member ⊢
  rcases member with (earlier | added) | closing
  · exact Or.inl (Or.inl earlier)
  · exact Or.inr added
  · exact Or.inl (Or.inr closing)

theorem send_passage
    (passage : SessionPassage registered running source before system) (link : Nat)
    (frame : Value) :
    StepPassage registered running source before (system.send link frame) := by
  have noted := passage.note (.handed link frame)
  cases holding : system.peer.holding with
  | true =>
      rw [System.send_of_holding link frame holding]
      obtain ⟨held, plain⟩ := holdBack_passage noted
      refine held.suspended ?_ plain
      intro other member
      rw [List.mem_singleton.mp member]
      trivial
  | false =>
      rw [System.send_of_not_holding link frame holding]
      exact takeFrame_passage noted link frame

theorem write_passage
    (passage : SessionPassage registered running source before system) (session : Nat)
    (subject : String) (frame : Value) :
    StepPassage registered running source before (system.write session subject frame) := by
  unfold System.write
  split
  · exact passage.ended _
  · exact (send_passage passage _ frame).andThen trivial fun later outcome =>
      resumeWriting_passage subject outcome

theorem notify_passage
    (passage : SessionPassage registered running source before system) (session : Nat)
    (method : String) (params : Option Value) :
    StepPassage registered running source before (system.notify session method params) := by
  unfold System.notify
  split
  · exact passage.ended _
  · split
    · exact passage.ended _
    · split
      · exact write_passage passage session method _
      · exact passage.ended _

/-! ## Requests -/

theorem resumeRequesting_passage
    {promise : Nat} (outcome : Outcome Reply)
    (isRequest : ∃ registration ∈ registered, registration.entry.promise = promise)
    (passage : SessionPassage registered running source before system) :
    StepPassage registered running source before
      (System.resumeRequesting promise system outcome) := by
  obtain ⟨registration, member, rfl⟩ := isRequest
  have plain := passage.parts.plain registration member
  cases outcome with
  | returned _ => exact await_passage passage plain
  | failed _ => exact (passage.settle plain fun _ _ _ => Or.inl (Or.inl rfl)).ended _
  | cancelled => exact (passage.settle plain fun _ _ _ => Or.inl (Or.inl rfl)).ended _

theorem await_awaitsAnswer (system : System) (promise : Nat) :
    AwaitsAnswer promise (system.await promise) := by
  cases settled : system.loop.outcome? promise with
  | none =>
      rw [System.await_of_unsettled settled]
      exact Or.inr (Or.inl rfl)
  | some outcome =>
      rw [System.await_of_settled settled]
      exact Or.inr (Or.inr ⟨outcome, rfl, fun _ => settled⟩)

/-- A write ends without an answer, whatever the connection has said. -/
theorem resumeRequesting_awaitsAnswer
    (promise : Nat) (system : System) {outcome : Outcome Reply}
    (written : (∃ reply, outcome = .returned reply) ∨ ¬ IsAnswer outcome) :
    AwaitsAnswer promise (System.resumeRequesting promise system outcome) := by
  cases outcome with
  | returned reply =>
      exact await_awaitsAnswer system promise
  | failed failure =>
      rcases written with ⟨_, isReturned⟩ | noAnswer
      · cases isReturned
      · exact Or.inr (Or.inr ⟨_, rfl, fun isAnswer => (noAnswer isAnswer).elim⟩)
  | cancelled =>
      exact Or.inr (Or.inr ⟨_, rfl, fun isAnswer => isAnswer.elim⟩)

theorem write_awaitsAnswer
    {session : Nat} {found : Session} (promise : Nat) (subject : String) (frame : Value)
    (sessionFound : system.sessions[session]? = some found) :
    AwaitsAnswer promise ((system.write session subject frame).andThen (.requesting promise)
      (System.resumeRequesting promise)) := by
  cases holding : system.peer.holding with
  | true =>
      rw [System.write_of_holding subject frame sessionFound holding]
      exact Or.inl ⟨_, _, _, _, rfl⟩
  | false =>
      cases refused : system.peer.refusalOf? frame with
      | some failure =>
          rw [System.write_of_refusal subject sessionFound holding refused]
          exact resumeRequesting_awaitsAnswer promise _
            (Or.inr (not_isAnswer_of_isTransport (writeFailure_isTransport subject failure)))
      | none =>
          rw [System.write_of_acceptance subject sessionFound holding refused]
          exact await_awaitsAnswer _ promise

theorem requestId_injective {left right : Nat} (same : requestId left = requestId right) :
    left = right := by
  have notNegative : ∀ number : Nat, ¬ ((number : Int) < 0) := by
    intro number
    omega
  simp only [requestId, intText, notNegative, if_false, List.nil_append, Int.natAbs_natCast] at same
  have digits : Nat.toDigits 10 left = Nat.toDigits 10 right := String.ofList_injective same
  calc
    left = Nat.ofDigitChars 10 (Nat.toDigits 10 left) 0 := Nat.ofDigitChars_ten_toDigits.symm
    _ = Nat.ofDigitChars 10 (Nat.toDigits 10 right) 0 := by rw [digits]
    _ = right := Nat.ofDigitChars_ten_toDigits

/-! ## Registering a request -/

/-- The request that a session registers next. -/
structure Registration.IsNext
    (new : Registration) (system : System) (found : Session) (delay : Delay) :
    Prop where
  id : new.entry.id = requestId (found.requests + 1)
  promise : new.entry.promise = system.nextPromise
  timer : new.entry.timer = system.loop.timersArmed
  deadline : new.deadline = system.loop.deadline delay

/-- Counts a request and notes it. -/
def System.register (system : System) (new : Registration) (delay : Delay) : System :=
  (system.countRequest 0).registerRequest 0 new.entry.id new.entry.method new.entry.timeout delay

section Registering

variable {found : Session} {new : Registration} {delay : Delay}

theorem register_sessions
    (next : new.IsNext system found delay) (only : system.sessions = [found]) :
    (system.register new delay).sessions = [{ found with
      requests := found.requests + 1
      pending := found.pending ++ [new.entry] }] := by
  have isEntry : new.entry =
      { id := new.entry.id
        method := new.entry.method
        timeout := new.entry.timeout
        promise := system.nextPromise
        timer := system.loop.timersArmed } := by
    rw [← next.promise, ← next.timer]
  rw [isEntry]
  simp [System.register, System.registerRequest, System.countRequest, System.modifySession,
    System.onLoop, only, System.nextPromise]

theorem IsSession.register
    (isSession : IsSession registered found) (id : new.entry.id = requestId (found.requests + 1)) :
    IsSession (registered ++ [new]) { found with
      requests := found.requests + 1
      pending := found.pending ++ [new.entry] } where
  pending := fun entry member => by
    rcases List.mem_append.mp member with earlier | isNew
    · obtain ⟨registration, inside, isEntry⟩ := isSession.pending entry earlier
      exact ⟨registration, List.mem_append_left _ inside, isEntry⟩
    · exact ⟨new, List.mem_append_right _ (List.mem_singleton.mpr rfl),
        (List.mem_singleton.mp isNew).symm⟩
  ids := fun registration member => by
    rcases List.mem_append.mp member with earlier | isNew
    · obtain ⟨number, below, sameId⟩ := isSession.ids registration earlier
      exact ⟨number, Nat.lt_succ_of_lt below, sameId⟩
    · rw [List.mem_singleton.mp isNew, id]
      exact ⟨found.requests, Nat.lt_succ_self _, rfl⟩

/-- The id of a new request is not that of an earlier one. -/
theorem IsSession.id_is_new
    (isSession : IsSession registered found) (id : new.entry.id = requestId (found.requests + 1)) :
    new.entry.id ∉ registered.map (·.entry.id) := by
  intro member
  obtain ⟨registration, earlier, sameId⟩ := List.mem_map.mp member
  obtain ⟨number, below, isId⟩ := isSession.ids registration earlier
  have sameNumber : number + 1 = found.requests + 1 :=
    requestId_injective (isId.symm.trans (sameId.trans id))
  omega

theorem SessionParts.register
    (parts : SessionParts registered system) (next : new.IsNext system found delay)
    (only : system.sessions = [found]) (isSession : IsSession registered found)
    (plain : ∀ promise, system.loop.IsPlain promise →
      (system.register new delay).loop.IsPlain promise)
    (plainNew : (system.register new delay).loop.IsPlain system.nextPromise) :
    SessionParts (registered ++ [new]) (system.register new delay) where
  session := ⟨_, register_sessions next only, isSession.register next.id⟩
  links := parts.links
  unopened := parts.unopened
  plain := fun registration member => by
    rcases List.mem_append.mp member with earlier | isNew
    · exact plain _ (parts.plain registration earlier)
    · rw [List.mem_singleton.mp isNew, next.promise]
      exact plainNew
  detained := fun promise member => by
    obtain ⟨isPlain, different⟩ := parts.detained promise member
    refine ⟨plain promise isPlain, fun registration inside => ?_⟩
    rcases List.mem_append.mp inside with earlier | isNew
    · exact different registration earlier
    · rw [List.mem_singleton.mp isNew, next.promise]
      exact Ne.symm (Nat.ne_of_lt isPlain.known)
  promisesDistinct := by
    rw [List.map_append]
    refine nodup_append_singleton parts.promisesDistinct fun member => ?_
    obtain ⟨registration, earlier, same⟩ := List.mem_map.mp member
    have known := (parts.plain registration earlier).known
    have isNew : registration.entry.promise = system.nextPromise := same.trans next.promise
    rw [isNew] at known
    exact Nat.lt_irrefl _ known
  idsDistinct := by
    rw [List.map_append]
    exact nodup_append_singleton parts.idsDistinct (isSession.id_is_new next.id)

/-- The promise of a new request is not settled, so nothing that was settled concerns it. -/
theorem SessionPassage.widen
    (passage : SessionPassage registered running source before system)
    (promise : new.entry.promise = system.nextPromise) :
    Scheduler.Passage
      (sessionScope (registered ++ [new]) system.loop.now system.loop.resolution) running True
      (MayEnd (registered ++ [new]) source) before.loop system.loop := by
  refine passage.loop.mono
    (sessionScope_within (fun _ => List.mem_append_left [new]) _ _) ?_
  intro other outcome settled allowed registration member hasPromise
  rcases List.mem_append.mp member with earlier | isNew
  · exact allowed registration earlier hasPromise
  · rw [List.mem_singleton.mp isNew, promise] at hasPromise
    have known := Scheduler.lt_nextPromise_of_outcome? settled
    rw [← hasPromise] at known
    exact (Nat.lt_irrefl _ known).elim

theorem register_passage
    (passage : SessionPassage registered running source before system)
    (next : new.IsNext system found delay) (only : system.sessions = [found]) :
    SessionPassage (registered ++ [new]) running source before (system.register new delay) := by
  have widened := passage.widen next.promise
  have here : Scheduler.Passage
      (sessionScope (registered ++ [new]) system.loop.now system.loop.resolution) running True
      (MayEnd (registered ++ [new]) source) system.loop system.loop :=
    .refl widened.orderly widened.punctual fun _ => widened.runs_later
  have isMember : new ∈ registered ++ [new] := List.mem_append_right _ (List.mem_singleton.mpr rfl)
  have step : Scheduler.Passage
      (sessionScope (registered ++ [new]) system.loop.now system.loop.resolution) running True
      (MayEnd (registered ++ [new]) source) system.loop (system.register new delay).loop :=
    (here.addPromise.arm delay (.expire 0 new.entry.id)
      ⟨new, isMember, by rw [next.timer, next.deadline]; rfl⟩).whenSettled
        system.nextPromise (.act (.discard 0 new.entry.id)) trivial rfl
  obtain ⟨same, sameOnly, isSession⟩ := passage.parts.session
  rw [only] at sameOnly
  obtain rfl : found = same := List.singleton_inj.mp sameOnly
  exact {
    parts := passage.parts.register next only isSession step.advances.plain
      (passage.loop.orderly.armed_isPlain delay _ _)
    loop := {
      orderly := by
        rw [step.advances.now, step.advances.resolution]
        exact step.orderly
      punctual := step.punctual
      advances := widened.advances.trans step.advances
      runs := passage.loop.runs } }

end Registering

/-! ## Requests -/

theorem request_of_registration
    {method : String} {params : Option Value} {timeout : Option Quantity} {task : Nat}
    {new : Registration} (passage : SessionPassage registered running source before system)
    (registers : system.registrationBy? task (.request 0 method params timeout) = some new) :
    StepPassage (registered ++ [new]) running source before
        (system.request 0 method params timeout) ∧
      AwaitsAnswer new.entry.promise (system.request 0 method params timeout) := by
  obtain ⟨found, only, _⟩ := passage.parts.session
  have sessionFound : system.sessions[0]? = some found := by rw [only]; rfl
  simp only [System.registrationBy?, sessionFound, Option.bind_some] at registers
  cases closed : found.closed with
  | true =>
      simp [closed] at registers
  | false =>
      simp only [closed, Bool.false_eq_true, if_false, Option.map_eq_some_iff] at registers
      obtain ⟨delay, delayFound, isNew⟩ := registers
      have next : new.IsNext system found delay := by
        rw [← isNew]
        exact ⟨rfl, rfl, rfl, rfl⟩
      have isPromise : (system.countRequest 0).nextPromise = new.entry.promise :=
        next.promise.symm
      have isRegister : (system.countRequest 0).registerRequest 0 (requestId (found.requests + 1))
          method (timeout.getD found.defaultTimeout) delay = system.register new delay := by
        rw [← isNew]
        rfl
      simp only [System.request, sessionFound, closed, Bool.false_eq_true, if_false, delayFound,
        isPromise, isRegister]
      have registering := register_passage passage next only
      have isRequest : ∃ registration ∈ registered ++ [new],
          registration.entry.promise = new.entry.promise :=
        ⟨new, List.mem_append_right _ (List.mem_singleton.mpr rfl), rfl⟩
      by_cases writable : params.all isWritable = true
      · rw [if_pos writable]
        obtain ⟨later, laterOnly, _⟩ := registering.parts.session
        have laterFound : (system.register new delay).sessions[0]? = some later := by
          rw [laterOnly]
          rfl
        exact ⟨(write_passage registering 0 method _).andThen isRequest
          fun _ outcome => resumeRequesting_passage outcome isRequest,
          write_awaitsAnswer _ method _ laterFound⟩
      · rw [if_neg writable]
        exact ⟨registering.ended _, Or.inr (Or.inr ⟨_, rfl, fun isAnswer => isAnswer.elim⟩)⟩

theorem request_of_no_registration
    {method : String} {params : Option Value} {timeout : Option Quantity} {task : Nat}
    (passage : SessionPassage registered running source before system)
    (registers : system.registrationBy? task (.request 0 method params timeout) = none) :
    StepPassage registered running source before (system.request 0 method params timeout) ∧
      ∃ failure, (system.request 0 method params timeout).2 = .ended (.failed failure) ∧
        ¬ IsAnswer (.failed failure) := by
  obtain ⟨found, only, _⟩ := passage.parts.session
  have sessionFound : system.sessions[0]? = some found := by rw [only]; rfl
  simp only [System.registrationBy?, sessionFound, Option.bind_some] at registers
  cases closed : found.closed with
  | true =>
      simp only [System.request, sessionFound, closed, if_true]
      exact ⟨passage.ended _, _, rfl, id⟩
  | false =>
      simp only [closed, Bool.false_eq_true, if_false, Option.map_eq_none_iff] at registers
      simp only [System.request, sessionFound, closed, Bool.false_eq_true, if_false, registers]
      have counted : SessionPassage registered running source before (system.countRequest 0) :=
        passage.modifySession 0 fun session isSession => {
          pending := isSession.pending
          ids := fun registration member => by
            obtain ⟨number, below, sameId⟩ := isSession.ids registration member
            exact ⟨number, Nat.lt_succ_of_lt below, sameId⟩ }
      exact ⟨counted.ended _, _, rfl, id⟩

/-! ## Closing -/

theorem resumeClosingLink_passage
    (outcome : Outcome Reply)
    (passage : SessionPassage registered running source before system) :
    StepPassage registered running source before (system.resumeClosingLink outcome) := by
  cases outcome <;> exact passage.ended _

theorem closeLink_passage
    (passage : SessionPassage registered running source before system) (link : Nat) :
    StepPassage registered running source before (system.closeLink link) := by
  have closing : SessionPassage registered running source before
      { system.note (.closedLink link) with
        links := system.links.modify link fun found => { found with closed := true } } := by
    refine passage.of_sameLoop rfl passage.parts.session ?_ passage.parts.unopened
      fun _ member => member
    intro other session listens
    simp only [List.getElem?_modify] at listens
    refine passage.parts.links other session ?_
    cases entry : system.links[other]? with
    | none =>
        simp [entry] at listens
    | some found =>
        by_cases same : link = other
        · simpa [entry, same] using listens
        · simpa [entry, same] using listens
  unfold System.closeLink
  simp only
  split
  · obtain ⟨held, plain⟩ := closing.detain
      { system.peer with heldCloses := system.peer.heldCloses ++ [system.nextPromise] } (by
        intro promise member
        simp only [Peer.detained, List.mem_append, List.mem_singleton] at member ⊢
        rcases member with earlier | closed | added
        · exact Or.inl (Or.inl earlier)
        · exact Or.inl (Or.inr closed)
        · exact Or.inr added)
    exact await_passage held plain
  · split
    · exact closing.ended _
    · exact closing.ended _

theorem abandonRequest_passage
    (reason : SessionEnd) (entry : PendingRequest)
    (isRequest : ∃ registration ∈ registered, registration.entry = entry)
    (passage : SessionPassage registered running source before system) :
    SessionPassage registered running source before (system.abandonRequest reason entry) := by
  obtain ⟨registration, member, rfl⟩ := isRequest
  have disarmed := passage.disarm registration.entry.timer
  exact disarmed.settle (disarmed.parts.plain registration member) fun _ _ _ =>
    Or.inl (Or.inr ⟨_, _, _, rfl⟩)

theorem abandonRequests_passage
    (session : Nat) (reason : SessionEnd)
    (passage : SessionPassage registered running source before system) :
    SessionPassage registered running source before (system.abandonRequests session reason) := by
  have abandoned : ∀ (entries : List PendingRequest) (current : System),
      SessionPassage registered running source before current →
      (∀ entry ∈ entries, ∃ registration ∈ registered, registration.entry = entry) →
      SessionPassage registered running source before
        (entries.foldl (System.abandonRequest reason) current) := by
    intro entries
    induction entries with
    | nil =>
        exact fun _ currentPassage _ => currentPassage
    | cons head others inductionHypothesis =>
        intro current currentPassage areRequests
        refine inductionHypothesis _ ?_ fun entry member =>
          areRequests entry (List.mem_cons_of_mem head member)
        exact abandonRequest_passage reason head (areRequests head List.mem_cons_self)
          currentPassage
  unfold System.abandonRequests
  split
  · exact passage
  · rename_i found sessionFound
    obtain ⟨only, isOnly, isSession⟩ := passage.parts.session
    have sameSession : found = only := by
      rw [isOnly] at sessionFound
      exact List.mem_singleton.mp (List.mem_of_getElem? sessionFound)
    subst sameSession
    exact (abandoned found.pending system passage isSession.pending).modifySession session
      fun _ isSession => ⟨by simp, isSession.ids⟩

theorem closeSession_passage
    (passage : SessionPassage registered running source before system) (session : Nat) :
    StepPassage registered running source before (system.closeSession session) := by
  have cancelled : ∀ (tasks : List Nat) (current : System),
      SessionPassage registered running source before current →
      SessionPassage registered running source before
        (current.onLoop fun loop => tasks.foldl (fun loop task => loop.cancel task) loop) := by
    intro tasks
    induction tasks with
    | nil =>
        exact fun _ currentPassage => currentPassage
    | cons head others inductionHypothesis =>
        intro current currentPassage
        exact inductionHypothesis _ (currentPassage.cancel head)
  unfold System.closeSession
  split
  · exact passage.ended _
  · rename_i found _
    split
    · exact passage.ended _
    · have closed : SessionPassage registered running source before
          (system.modifySession session fun found => { found with closed := true }) :=
        passage.modifySession session fun _ isSession =>
          ⟨isSession.pending, isSession.ids⟩
      have abandoned := abandonRequests_passage session .closed closed
      exact (closeLink_passage (cancelled found.answers _ abandoned) found.link).andThen trivial
        fun _ outcome => resumeClosingLink_passage outcome

/-! ## The handshake -/

theorem resumeAbandoningHandshake_passage
    (ending outcome : Outcome Reply)
    (passage : SessionPassage registered running source before system) :
    StepPassage registered running source before
      (System.resumeAbandoningHandshake ending system outcome) := by
  cases outcome <;> exact passage.ended _

theorem abandonHandshake_passage
    (session : Nat) (serverUri : String) (ending : Outcome Reply)
    (passage : SessionPassage registered running source before system) :
    StepPassage registered running source before
      (system.abandonHandshake session serverUri ending) :=
  (closeSession_passage (passage.log .error .workspace _) session).andThen trivial
    fun _ outcome => resumeAbandoningHandshake_passage ending outcome

/-- A new workspace has no documents. -/
theorem addWorkspace_passage
    (session : Nat) (result : InitializeResult)
    (passage : SessionPassage registered running source before system) :
    SessionPassage registered running source before (system.addWorkspace session result) := by
  have added : SessionPassage registered running source before { system with
      workspaces := system.workspaces ++ [{
        session, capabilities := result.capabilities, serverInfo := result.serverInfo }] } := by
    refine passage.of_sameLoop rfl passage.parts.session passage.parts.links ?_ fun _ member => member
    intro found member
    rcases List.mem_append.mp member with earlier | isNew
    · exact passage.parts.unopened found earlier
    · rw [List.mem_singleton.mp isNew]
  exact added.modifySession session fun _ isSession => ⟨isSession.pending, isSession.ids⟩

theorem resumeConfirming_passage
    (session : Nat) (serverUri : String) (result : InitializeResult) (outcome : Outcome Reply)
    (passage : SessionPassage registered running source before system) :
    StepPassage registered running source before
      (System.resumeConfirming session serverUri result system outcome) := by
  cases outcome with
  | returned _ => exact (addWorkspace_passage session result passage).ended _
  | failed _ => exact abandonHandshake_passage session serverUri _ passage
  | cancelled => exact abandonHandshake_passage session serverUri _ passage

theorem resumeHandshaking_passage
    (session : Nat) (serverUri : String) (outcome : Outcome Reply)
    (passage : SessionPassage registered running source before system) :
    StepPassage registered running source before
      (System.resumeHandshaking session serverUri system outcome) := by
  unfold System.resumeHandshaking
  split
  · split
    · exact abandonHandshake_passage session serverUri _ passage
    · exact (notify_passage passage session _ _).andThen trivial fun _ outcome =>
        resumeConfirming_passage session serverUri _ outcome
  · exact abandonHandshake_passage session serverUri _ passage
  · exact abandonHandshake_passage session serverUri _ passage
  · exact abandonHandshake_passage session serverUri _ passage

end Passages

end LanguageClient.Client
