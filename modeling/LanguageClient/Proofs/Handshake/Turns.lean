import LanguageClient.Proofs.Handshake.World

/-!
# Turns in a handshake

What the task that creates a workspace does when it goes on, from the innermost call outwards: it is
at one of the places of the handshake again. It confirms in exactly one way.
-/

namespace LanguageClient.Client

open LanguageClient.Json LanguageClient.Loop LanguageClient.Number LanguageClient.Protocol

/-- A call has got to a place of the handshake. -/
def Step.InHandshake
    (request : WorkspaceRequest) (heard : String → Prop) (registered : List Registration)
    (step : Step) :
    Prop :=
  HandshakePlace request heard registered step.1 step.2.frames step.2.awaited step.2.ending?

section Turns

variable {request : WorkspaceRequest} {heard : String → Prop} {registered : List Registration}
  {system : System} {found : Session}

/-! ## Giving up -/

theorem closeLink_ends (system : System) (link : Nat) :
    (∃ outcome, (system.closeLink link).2 = .ended outcome ∧ outcome ≠ .cancelled) ∨
      ∃ promise ∈ (system.closeLink link).1.peer.detained,
        (system.closeLink link).2 = .suspended [] promise := by
  unfold System.closeLink
  simp only
  split
  · right
    refine ⟨system.nextPromise, ?_, ?_⟩
    · rw [System.await_of_unsettled (Scheduler.addPromise_outcome?_new {} system.loop)]
      simp [Peer.detained, System.nextPromise, System.note]
    · rw [System.await_of_unsettled (Scheduler.addPromise_outcome?_new {} system.loop)]
      rfl
  · left
    split
    · exact ⟨_, rfl, by simp⟩
    · exact ⟨_, rfl, by simp⟩

theorem closeLink_sessions (system : System) (link : Nat) :
    (system.closeLink link).1.sessions = system.sessions := by
  unfold System.closeLink
  simp only
  split
  · unfold System.await
    split <;> rfl
  · split <;> rfl

/-- Closing ends at once, unless the peer holds the closing of the connection back. -/
theorem closeSession_ends (only : system.sessions = [found]) :
    IsShut (system.closeSession 0).1 ∧
      ((system.closeSession 0).2 = .ended (.returned .nothing) ∨
        ∃ promise ∈ (system.closeSession 0).1.peer.detained,
          (system.closeSession 0).2 = .suspended [.closingLink] promise) := by
  unfold System.closeSession
  simp only [only, List.getElem?_cons_zero]
  cases isClosed : found.closed with
  | true =>
      simp only [if_true]
      exact ⟨⟨found, only, isClosed⟩, Or.inl rfl⟩
  | false =>
      simp only [Bool.false_eq_true, if_false]
      generalize endedEq : System.onLoop ((system.modifySession 0 _).abandonRequests 0 .closed) _ =
        ended
      have shut : ended.sessions = [{ found with pending := [], closed := true }] := by
        rw [← endedEq]
        exact shut_sessions only .closed
      have sessions := closeLink_sessions ended found.link
      rcases closeLink_ends ended found.link with
        ⟨outcome, ends, uncancelled⟩ | ⟨promise, isDetained, suspended⟩
      · generalize ended.closeLink found.link = step at sessions ends
        obtain ⟨later, _⟩ := step
        obtain rfl : _ = Progress.ended outcome := ends
        cases outcome with
        | returned reply => exact ⟨⟨_, sessions.trans shut, rfl⟩, Or.inl rfl⟩
        | failed failure => exact ⟨⟨_, sessions.trans shut, rfl⟩, Or.inl rfl⟩
        | cancelled => exact (uncancelled rfl).elim
      · generalize ended.closeLink found.link = step at sessions isDetained suspended
        obtain ⟨later, _⟩ := step
        obtain rfl : _ = Progress.suspended [] promise := suspended
        exact ⟨⟨_, sessions.trans shut, rfl⟩, Or.inr ⟨promise, isDetained, rfl⟩⟩

theorem abandonHandshake_place
    {ending : Outcome Reply} (only : system.sessions = [found])
    (unsuccessful : ∀ reply, ending ≠ .returned reply)
    (handshake : IsHandshake request heard system.handedFrames)
    (unconfirmed : handshakeConfirmation ∉ system.acceptedFrames) (serverUri : String) :
    (system.abandonHandshake 0 serverUri ending).InHandshake request heard registered := by
  have unnoticed := System.abandonHandshake_unnoticed system 0 serverUri ending
  unfold System.abandonHandshake at unnoticed ⊢
  generalize loggedEq : system.log .error .workspace
    ("initialize failed for " ++ serverUri ++ ": " ++ endingText ending) = logged at unnoticed ⊢
  have onlyLogged : logged.sessions = [found] := by
    rw [← loggedEq]
    exact only
  simp only at unnoticed ⊢
  obtain ⟨shut, closes⟩ := closeSession_ends onlyLogged
  generalize logged.closeSession 0 = step at unnoticed shut closes ⊢
  obtain ⟨later, progress⟩ := step
  rcases closes with rfl | ⟨promise, isDetained, rfl⟩
  · have handed : later.handedFrames = system.handedFrames := unnoticed.handed
    have accepted : later.acceptedFrames = system.acceptedFrames := unnoticed.accepted
    exact .failed ending unsuccessful (handed ▸ handshake) (accepted ▸ unconfirmed) shut
  · have handed : later.handedFrames = system.handedFrames := unnoticed.handed
    have accepted : later.acceptedFrames = system.acceptedFrames := unnoticed.accepted
    exact .closing promise ending unsuccessful (handed ▸ handshake) (accepted ▸ unconfirmed) shut
      (Or.inl isDetained)

/-! ## Confirming -/

theorem resumeConfirming_place
    {outcome : Outcome Reply} (only : system.sessions = [found])
    (confirmed : IsConfirmed request heard system.handedFrames)
    (accepted : (∃ reply, outcome = .returned reply) ↔
      handshakeConfirmation ∈ system.acceptedFrames)
    (result : InitializeResult) :
    (System.resumeConfirming 0 request.serverUri result system outcome).InHandshake request heard
      registered := by
  cases outcome with
  | returned reply => exact .created _ confirmed (accepted.mp ⟨reply, rfl⟩)
  | failed failure =>
      exact abandonHandshake_place only (by simp) (Or.inr (Or.inr confirmed))
        (mt accepted.mpr (by simp)) _
  | cancelled =>
      exact abandonHandshake_place only (by simp) (Or.inr (Or.inr confirmed))
        (mt accepted.mpr (by simp)) _

/-- The confirmation is held back, or it is decided at once whether the workspace is created. -/
theorem confirm_place
    (only : system.sessions = [found]) (asked : IsAsked request heard system.handedFrames)
    (unconfirmed : handshakeConfirmation ∉ system.acceptedFrames) (result : InitializeResult) :
    (Step.andThen (system.notify 0 Method.handshakeDone (some (.object [])))
      (.confirming 0 request.serverUri result)
      (System.resumeConfirming 0 request.serverUri result)).InHandshake request heard
        registered := by
  have sessionFound : system.sessions[0]? = some found := by rw [only]; rfl
  have writable : (some (Value.object [])).all isWritable = true := by decide
  unfold System.notify
  simp only [sessionFound]
  cases found.closed with
  | true =>
      simp only [if_true]
      exact abandonHandshake_place only (by simp) (Or.inr (Or.inl asked)) unconfirmed _
  | false =>
      simp only [Bool.false_eq_true, if_false, writable, if_true]
      change (Step.andThen (system.write 0 Method.handshakeDone handshakeConfirmation) _
        _).InHandshake _ _ _
      have onlyHanded :
          (system.note (.handed found.link handshakeConfirmation)).sessions = [found] := only
      have onlyAccepted : ((system.note (.handed found.link handshakeConfirmation)).accept
          found.link handshakeConfirmation).sessions = [found] := only
      have handed := System.handedFrames_handed system found.link handshakeConfirmation
      have unaccepted : handshakeConfirmation ∉
          (system.note (.handed found.link handshakeConfirmation)).acceptedFrames := by
        rw [System.acceptedFrames_handed]
        exact unconfirmed
      rcases System.write_cases Method.handshakeDone handshakeConfirmation sessionFound with
        ⟨failure, _, refused⟩ | held | accepted
      · rw [refused]
        simp only [Step.andThen]
        refine resumeConfirming_place onlyHanded ?_ ?_ result
        · rw [handed]
          exact asked.confirm
        · exact iff_of_false (by simp) unaccepted
      · rw [held]
        refine .confirming found.link system.nextPromise result ?_ unaccepted (Or.inl ?_)
        · exact (congrArg _ handed).mpr asked.confirm
        · simp [Step.andThen, System.holdBack, Peer.detained, System.nextPromise, System.note]
      · rw [accepted]
        simp only [Step.andThen]
        refine resumeConfirming_place onlyAccepted ?_ ?_ result
        · rw [System.handedFrames_accept, handed]
          exact asked.confirm
        · rw [System.acceptedFrames_accept]
          exact iff_of_true ⟨_, rfl⟩ (List.mem_append_right _ (List.mem_singleton.mpr rfl))

theorem resumeHandshaking_place
    (only : system.sessions = [found]) (asked : IsAsked request heard system.handedFrames)
    (unconfirmed : handshakeConfirmation ∉ system.acceptedFrames) (outcome : Outcome Reply) :
    (System.resumeHandshaking 0 request.serverUri system outcome).InHandshake request heard
      registered := by
  have abandoned : ∀ ending : Outcome Reply, (∀ reply, ending ≠ .returned reply) →
      (system.abandonHandshake 0 request.serverUri ending).InHandshake request heard registered :=
    fun ending unsuccessful =>
      abandonHandshake_place only unsuccessful (Or.inr (Or.inl asked)) unconfirmed _
  unfold System.resumeHandshaking
  split
  · split
    · exact abandoned _ (by simp)
    · exact confirm_place only asked unconfirmed _
  · exact abandoned _ (by simp)
  · exact abandoned _ (by simp)
  · exact abandoned _ (by simp)

/-! ## Going on -/

/-- Once the opening is written its answer is awaited. -/
theorem resumeRequesting_place
    {registration : Registration} (only : system.sessions = [found])
    (member : registration ∈ registered) (asked : IsAsked request heard system.handedFrames)
    (unconfirmed : handshakeConfirmation ∉ system.acceptedFrames) (outcome : Outcome Reply) :
    (Step.andThen (System.resumeRequesting registration.entry.promise system outcome)
      (.handshaking 0 request.serverUri)
      (System.resumeHandshaking 0 request.serverUri)).InHandshake request heard registered := by
  have onlyWithdrawn :
      (system.settle registration.entry.promise .cancelled).sessions = [found] := only
  have withdrawn : ∀ ending : Outcome Reply,
      (System.resumeHandshaking 0 request.serverUri
        (system.settle registration.entry.promise .cancelled) ending).InHandshake request heard
          registered :=
    fun ending => resumeHandshaking_place onlyWithdrawn asked unconfirmed ending
  cases outcome with
  | returned reply =>
      unfold System.resumeRequesting
      cases settled : system.loop.outcome? registration.entry.promise with
      | some ending =>
          rw [System.await_of_settled settled]
          exact resumeHandshaking_place only asked unconfirmed ending
      | none =>
          rw [System.await_of_unsettled settled]
          exact .awaiting registration member asked unconfirmed
  | failed failure => exact withdrawn (.failed failure)
  | cancelled => exact withdrawn .cancelled

/-- The task that creates a workspace goes from place to place. -/
theorem HandshakePlace.goesOn
    {stack : List Frame} {awaiting : Option Nat} (only : system.sessions = [found])
    (place : HandshakePlace request heard registered system stack awaiting none)
    (outcome : Outcome Reply) :
    (system.resumeStack outcome stack).InHandshake request heard registered := by
  cases place with
  | asking link held registration member asked unconfirmed withheld =>
      rcases System.resumeStack_sending system link request.opening Method.handshake
        [.requesting registration.entry.promise, .handshaking 0 request.serverUri] outcome with
        ⟨_, _, _, accepted⟩ | ⟨ending, _, _, unwritten⟩
      · have onlyAccepted : (system.accept link request.opening).sessions = [found] := only
        rw [accepted, System.resumeStack_pair]
        change ((System.resumeRequesting registration.entry.promise
          (system.accept link request.opening) (.returned .nothing)).andThen
            (.handshaking 0 request.serverUri)
            (System.resumeHandshaking 0 request.serverUri)).InHandshake _ _ _
        refine resumeRequesting_place onlyAccepted member ?_ ?_ _
        · rw [System.handedFrames_accept]
          exact asked
        · rw [System.acceptedFrames_accept, List.mem_append, List.mem_singleton]
          exact not_or.mpr ⟨unconfirmed, confirmation_ne_opening⟩
      · rw [unwritten, System.resumeStack_pair]
        exact resumeRequesting_place only member asked unconfirmed ending
  | awaiting registration member asked unconfirmed =>
      rw [System.resumeStack_singleton]
      exact resumeHandshaking_place only asked unconfirmed outcome
  | confirming link held result confirmed unconfirmed withheld =>
      rcases System.resumeStack_sending system link handshakeConfirmation Method.handshakeDone
        [.confirming 0 request.serverUri result] outcome with
        ⟨_, _, _, accepted⟩ | ⟨ending, unsuccessful, _, unwritten⟩
      · have onlyAccepted : (system.accept link handshakeConfirmation).sessions = [found] := only
        rw [accepted, System.resumeStack_singleton]
        refine resumeConfirming_place onlyAccepted ?_ ?_ result
        · rw [System.handedFrames_accept]
          exact confirmed
        · rw [System.acceptedFrames_accept]
          exact iff_of_true ⟨_, rfl⟩ (List.mem_append_right _ (List.mem_singleton.mpr rfl))
      · rw [unwritten, System.resumeStack_singleton]
        exact resumeConfirming_place only confirmed
          (iff_of_false (fun ⟨reply, same⟩ => unsuccessful reply same) unconfirmed) result
  | closing held ending unsuccessful handshake unconfirmed shut withheld =>
      cases outcome with
      | returned _ => exact .failed ending unsuccessful handshake unconfirmed shut
      | failed _ => exact .failed ending unsuccessful handshake unconfirmed shut
      | cancelled => exact .failed .cancelled (by simp) handshake unconfirmed shut

/-! ## What is confirmed -/

theorem resumeConfirming_unnoticed
    (system : System) (serverUri : String) (result : InitializeResult) (outcome : Outcome Reply) :
    System.Unnoticed system (System.resumeConfirming 0 serverUri result system outcome).1 := by
  cases outcome with
  | returned _ => exact .of_same rfl rfl rfl
  | failed _ => exact System.abandonHandshake_unnoticed system 0 serverUri _
  | cancelled => exact System.abandonHandshake_unnoticed system 0 serverUri _

/-- An outcome is the success that the handshake waits for. -/
def IsWelcome (outcome : Outcome Reply) : Prop :=
  ∃ raw result, outcome = .returned (.result raw) ∧ initializeResultOf raw = .ok result

/-- The confirmation is handed over when the answer is a success and the session is open, and nothing
else is. -/
theorem resumeHandshaking_handed
    (only : system.sessions = [found]) (serverUri : String) (outcome : Outcome Reply) :
    (IsWelcome outcome ∧ found.closed = false ∧
        (System.resumeHandshaking 0 serverUri system outcome).1.handedFrames =
          system.handedFrames ++ [handshakeConfirmation]) ∨
      ¬ (IsWelcome outcome ∧ found.closed = false) ∧
        (System.resumeHandshaking 0 serverUri system outcome).1.handedFrames =
          system.handedFrames := by
  have abandoned : ∀ ending : Outcome Reply,
      (system.abandonHandshake 0 serverUri ending).1.handedFrames = system.handedFrames :=
    fun ending => (System.abandonHandshake_unnoticed system 0 serverUri ending).handed
  have sessionFound : system.sessions[0]? = some found := by rw [only]; rfl
  unfold System.resumeHandshaking
  split
  · rename_i raw
    split
    · rename_i failure structured
      refine Or.inr ⟨?_, abandoned _⟩
      rintro ⟨⟨_, result, same, succeeds⟩, _⟩
      cases same
      rw [structured] at succeeds
      cases succeeds
    · rename_i result structured
      have welcome : IsWelcome (.returned (.result raw)) := ⟨raw, result, rfl, structured⟩
      have handed : ∀ step : Step, (step.andThen (.confirming 0 serverUri result)
          (System.resumeConfirming 0 serverUri result)).1.handedFrames = step.1.handedFrames := by
        rintro ⟨later, outcome | ⟨frames, promise⟩⟩
        · exact (resumeConfirming_unnoticed later serverUri result outcome).handed
        · rfl
      rw [handed]
      cases isClosed : found.closed with
      | true =>
          refine Or.inr ⟨by simp, ?_⟩
          simp only [System.notify, sessionFound, isClosed, if_true]
          rfl
      | false =>
          refine Or.inl ⟨welcome, rfl, ?_⟩
          have writable : (some (Value.object [])).all isWritable = true := by decide
          simp only [System.notify, sessionFound, isClosed, Bool.false_eq_true, if_false, writable,
            if_true]
          exact System.handedFrames_write sessionFound Method.handshakeDone handshakeConfirmation
  · rename_i noResult
    refine Or.inr ⟨?_, abandoned _⟩
    rintro ⟨⟨raw, _, same, _⟩, _⟩
    cases same
    exact noResult raw rfl
  · exact Or.inr ⟨by simp [IsWelcome], abandoned _⟩
  · exact Or.inr ⟨by simp [IsWelcome], abandoned _⟩

/-- A task waits for the answer to the opening, which comes with a promise. The opening may be held
back still. -/
inductive AwaitsOpening (request : WorkspaceRequest) (promise : Nat) :
    List Frame → Option Nat → Prop where
  | held (link held : Nat) :
    AwaitsOpening request promise
      [.sending link request.opening, .writing Method.handshake, .requesting promise,
        .handshaking 0 request.serverUri]
      (some held)
  | written : AwaitsOpening request promise [.handshaking 0 request.serverUri] (some promise)

theorem AwaitsOpening.sent_eq
    {promise link : Nat} {frame : Value} {outer : List Frame} {awaiting : Option Nat}
    (awaits : AwaitsOpening request promise (.sending link frame :: outer) awaiting) :
    frame = request.opening := by
  cases awaits
  rfl

/-- What it takes for a task to confirm the handshake when it goes on: it is not cancelled, the
opening is written or is accepted now, the answer is a success, and the session is open. -/
structure MayConfirm
    (request : WorkspaceRequest) (system : System) (stack : List Frame) (awaiting : Option Nat)
    (signal : Outcome Reply) : Prop where
  goesOn : ∃ reply, signal = .returned reply
  written : ∀ link outer, stack = .sending link request.opening :: outer →
    system.peer.refusalOf? request.opening = none
  answered : ∃ promise outcome, AwaitsOpening request promise stack awaiting ∧
    system.loop.outcome? promise = some outcome ∧ IsWelcome outcome
  isOpen : ¬ IsShut system

theorem not_isShut_iff (only : system.sessions = [found]) :
    ¬ IsShut system ↔ found.closed = false := by
  rw [← Bool.not_eq_true, not_iff_not]
  constructor
  · rintro ⟨other, sameOnly, shut⟩
    rw [only] at sameOnly
    rw [List.singleton_inj.mp sameOnly]
    exact shut
  · exact fun shut => ⟨found, only, shut⟩

/-- After the opening is written, the confirmation is handed over at once only if the answer has come
already and is a success. -/
theorem resumeRequesting_handed
    {registration : Registration} (only : system.sessions = [found]) (outcome : Outcome Reply) :
    let step := Step.andThen (System.resumeRequesting registration.entry.promise system outcome)
      (.handshaking 0 request.serverUri) (System.resumeHandshaking 0 request.serverUri)
    let welcome := (∃ reply, outcome = .returned reply) ∧
      (∃ answer, system.loop.outcome? registration.entry.promise = some answer ∧
        IsWelcome answer) ∧ found.closed = false
    welcome ∧ step.1.handedFrames = system.handedFrames ++ [handshakeConfirmation] ∨
      ¬ welcome ∧ step.1.handedFrames = system.handedFrames := by
  intro step welcome
  have unsuccessful : ∀ ending : Outcome Reply, (∀ reply, ending ≠ .returned reply) →
      (System.resumeHandshaking 0 request.serverUri
        (system.settle registration.entry.promise .cancelled) ending).1.handedFrames =
          system.handedFrames := by
    intro ending notReturned
    have onlyWithdrawn :
        (system.settle registration.entry.promise .cancelled).sessions = [found] := only
    rcases resumeHandshaking_handed onlyWithdrawn request.serverUri ending with
      ⟨⟨raw, _, same, _⟩, _⟩ | ⟨_, handed⟩
    · exact (notReturned _ same).elim
    · exact handed
  cases outcome with
  | returned reply =>
      cases settled : system.loop.outcome? registration.entry.promise with
      | some answer =>
          have isStep : step = System.resumeHandshaking 0 request.serverUri system answer := by
            simp only [step, System.resumeRequesting, System.await_of_settled settled, Step.andThen]
          rw [isStep]
          rcases resumeHandshaking_handed only request.serverUri answer with
            ⟨isWelcome, isOpen, handed⟩ | ⟨refused, handed⟩
          · exact Or.inl ⟨⟨⟨reply, rfl⟩, ⟨answer, settled, isWelcome⟩, isOpen⟩, handed⟩
          · refine Or.inr ⟨?_, handed⟩
            rintro ⟨_, ⟨other, isOther, isWelcome⟩, isOpen⟩
            rw [settled] at isOther
            obtain rfl := Option.some.inj isOther
            exact refused ⟨isWelcome, isOpen⟩
      | none =>
          refine Or.inr ⟨?_, ?_⟩
          · rintro ⟨_, ⟨other, isOther, _⟩, _⟩
            rw [settled] at isOther
            cases isOther
          · simp only [step, System.resumeRequesting, System.await_of_unsettled settled,
              Step.andThen]
  | failed failure =>
      exact Or.inr ⟨by simp [welcome], unsuccessful (.failed failure) (by simp)⟩
  | cancelled => exact Or.inr ⟨by simp [welcome], unsuccessful .cancelled (by simp)⟩

/-- A task that performs a handshake confirms it when it may, and says nothing otherwise. -/
theorem HandshakePlace.confirms
    {stack : List Frame} {awaiting : Option Nat} {signal : Outcome Reply}
    (only : system.sessions = [found])
    (place : HandshakePlace request heard registered system stack awaiting none)
    (heeds : ∀ promise, awaiting = some promise →
      signal = .cancelled ∨ system.loop.outcome? promise = some signal) :
    MayConfirm request system stack awaiting signal ∧
        handshakeConfirmation ∉ system.handedFrames ∧
        (system.resumeStack signal stack).1.handedFrames =
          system.handedFrames ++ [handshakeConfirmation] ∨
      ¬ MayConfirm request system stack awaiting signal ∧
        (system.resumeStack signal stack).1.handedFrames = system.handedFrames := by
  cases place with
  | asking link held registration member asked unconfirmed withheld =>
      rcases System.resumeStack_sending system link request.opening Method.handshake
        [.requesting registration.entry.promise, .handshaking 0 request.serverUri] signal with
        ⟨reply, returned, unrefused, accepted⟩ | ⟨ending, notReturned, refused, unwritten⟩
      · have onlyAccepted : (system.accept link request.opening).sessions = [found] := only
        have sameHanded := System.handedFrames_accept system link request.opening
        rw [accepted, System.resumeStack_pair, ← sameHanded]
        rcases resumeRequesting_handed onlyAccepted (.returned .nothing) with
          ⟨⟨_, ⟨answer, settled, isWelcome⟩, isOpen⟩, handed⟩ | ⟨refused, handed⟩
        · exact Or.inl ⟨⟨⟨reply, returned⟩, fun _ _ _ => unrefused,
            ⟨_, answer, .held link held, settled, isWelcome⟩, (not_isShut_iff only).mpr isOpen⟩,
            sameHanded ▸ asked.unconfirmed, handed⟩
        · refine Or.inr ⟨?_, handed⟩
          rintro ⟨_, _, ⟨promise, answer, awaits, settled, isWelcome⟩, isOpen⟩
          cases awaits with
          | held =>
              exact refused
                ⟨⟨_, rfl⟩, ⟨answer, settled, isWelcome⟩, (not_isShut_iff only).mp isOpen⟩
      · refine Or.inr ⟨fun may => refused may.goesOn (may.written link _ rfl), ?_⟩
        rw [unwritten, System.resumeStack_pair]
        rcases resumeRequesting_handed only ending with ⟨⟨⟨reply, returned⟩, _⟩, _⟩ | ⟨_, handed⟩
        · exact (notReturned reply returned).elim
        · exact handed
  | awaiting registration member asked unconfirmed =>
      rw [System.resumeStack_singleton]
      rcases resumeHandshaking_handed only request.serverUri signal with
        ⟨isWelcome, isOpen, handed⟩ | ⟨refused, handed⟩
      · refine Or.inl ⟨⟨?_, by simp, ⟨_, signal, .written, ?_, isWelcome⟩,
          (not_isShut_iff only).mpr isOpen⟩, asked.unconfirmed, handed⟩
        · obtain ⟨raw, _, same, _⟩ := isWelcome
          exact ⟨_, same⟩
        · refine (heeds _ rfl).resolve_left ?_
          rintro rfl
          obtain ⟨_, _, same, _⟩ := isWelcome
          cases same
      · refine Or.inr ⟨?_, handed⟩
        rintro ⟨⟨reply, returned⟩, _, ⟨promise, outcome, awaits, settled, isWelcome⟩, isOpen⟩
        cases awaits with
        | written =>
            have isSignal := (heeds _ rfl).resolve_left (by rw [returned]; simp)
            rw [settled] at isSignal
            obtain rfl := Option.some.inj isSignal
            exact refused ⟨isWelcome, (not_isShut_iff only).mp isOpen⟩
  | confirming link held result confirmed unconfirmed withheld =>
      refine Or.inr ⟨?_, ?_⟩
      · rintro ⟨_, _, ⟨promise, outcome, awaits, _⟩, _⟩
        exact confirmation_ne_opening awaits.sent_eq
      · rcases System.resumeStack_sending system link handshakeConfirmation Method.handshakeDone
          [.confirming 0 request.serverUri result] signal with
          ⟨_, _, _, accepted⟩ | ⟨ending, _, _, unwritten⟩
        · rw [accepted, System.resumeStack_singleton,
            ← System.handedFrames_accept system link handshakeConfirmation]
          exact (resumeConfirming_unnoticed _ _ result _).handed
        · rw [unwritten, System.resumeStack_singleton]
          exact (resumeConfirming_unnoticed system _ result ending).handed
  | closing held ending unsuccessful handshake unconfirmed shut withheld =>
      refine Or.inr ⟨fun mayConfirm => mayConfirm.isOpen shut, ?_⟩
      cases signal <;> rfl

/-! ## The first turn -/

/-- A workspace whose opening is about to be written goes on from there. It confirms nothing yet,
because the answer cannot have come. -/
theorem writeOpening_place
    {registration : Registration} (only : system.sessions = [found])
    (member : registration ∈ registered) (unsaid : system.handedFrames = [])
    (unaccepted : system.acceptedFrames = [])
    (unsettled : system.loop.outcome? registration.entry.promise = none) :
    let step := Step.andThen (Step.andThen (system.write 0 Method.handshake request.opening)
        (.requesting registration.entry.promise)
        (System.resumeRequesting registration.entry.promise))
      (.handshaking 0 request.serverUri) (System.resumeHandshaking 0 request.serverUri)
    step.InHandshake request heard registered ∧ handshakeConfirmation ∉ step.1.handedFrames := by
  intro step
  have sessionFound : system.sessions[0]? = some found := by rw [only]; rfl
  have asked : IsAsked request heard
      (system.note (.handed found.link request.opening)).handedFrames := by
    rw [System.handedFrames_handed, unsaid]
    exact .opened request heard
  have unconfirmed : handshakeConfirmation ∉
      (system.note (.handed found.link request.opening)).acceptedFrames := by
    rw [System.acceptedFrames_handed, unaccepted]
    simp
  -- Whatever becomes of the write, there is no answer to go on with.
  have goesOn : ∀ (later : System) (outcome : Outcome Reply), later.sessions = [found] →
      IsAsked request heard later.handedFrames → handshakeConfirmation ∉ later.acceptedFrames →
        later.loop.outcome? registration.entry.promise = none →
        step = Step.andThen (System.resumeRequesting registration.entry.promise later outcome)
          (.handshaking 0 request.serverUri) (System.resumeHandshaking 0 request.serverUri) →
        step.InHandshake request heard registered ∧
          handshakeConfirmation ∉ step.1.handedFrames := by
    intro later outcome onlyLater askedLater unconfirmedLater unsettledLater isStep
    rw [isStep]
    refine ⟨resumeRequesting_place onlyLater member askedLater unconfirmedLater outcome, ?_⟩
    rcases resumeRequesting_handed onlyLater outcome with
      ⟨⟨_, ⟨answer, settled, _⟩, _⟩, _⟩ | ⟨_, handed⟩
    · rw [unsettledLater] at settled
      cases settled
    · rw [handed]
      exact askedLater.unconfirmed
  rcases System.write_cases Method.handshake request.opening sessionFound with
    ⟨failure, _, refused⟩ | held | accepted
  · refine goesOn (system.note (.handed found.link request.opening))
      (.failed (writeFailure Method.handshake failure)) only asked unconfirmed unsettled ?_
    simp only [step, refused]
    rfl
  · have isStep : step = ((system.note (.handed found.link request.opening)).holdBack,
        .suspended [.sending found.link request.opening, .writing Method.handshake,
          .requesting registration.entry.promise, .handshaking 0 request.serverUri]
          system.nextPromise) := by
      simp only [step, held]
      rfl
    rw [isStep]
    refine ⟨.asking found.link system.nextPromise registration member asked unconfirmed
      (Or.inl ?_), asked.unconfirmed⟩
    simp [System.holdBack, Peer.detained, System.nextPromise, System.note]
  · refine goesOn ((system.note (.handed found.link request.opening)).accept found.link
      request.opening) (.returned .nothing) only ?_ ?_ unsettled ?_
    · rw [System.handedFrames_accept]
      exact asked
    · rw [System.acceptedFrames_accept, List.mem_append, List.mem_singleton]
      exact not_or.mpr ⟨unconfirmed, confirmation_ne_opening⟩
    · simp only [step, accepted]
      rfl

/-- A workspace whose opening cannot be written is given up in silence. -/
theorem abandonOpening_place
    (only : system.sessions = [found]) (unsaid : system.handedFrames = [])
    (unaccepted : system.acceptedFrames = []) (failure : Failure) :
    let step := system.abandonHandshake 0 request.serverUri (.failed failure)
    step.InHandshake request heard registered ∧ handshakeConfirmation ∉ step.1.handedFrames := by
  intro step
  refine ⟨abandonHandshake_place only (by simp) (Or.inl unsaid) (by rw [unaccepted]; simp) _, ?_⟩
  rw [(System.abandonHandshake_unnoticed system 0 request.serverUri _).handed, unsaid]
  simp

theorem register_outcome?_new
    {new : Registration} {delay : Delay} (next : new.IsNext system found delay) :
    (system.register new delay).loop.outcome? new.entry.promise = none := by
  rw [next.promise]
  exact (Scheduler.whenSettled_outcome? _ _ _ _).trans
    (Scheduler.addPromise_outcome?_new {} system.loop)

/-- A workspace that is about to be created opens the handshake, or gives up. -/
theorem openRequest_place
    (task : Nat) (only : system.sessions = [found]) (isOpen : found.closed = false)
    (fresh : found.requests = 0) (unsaid : system.handedFrames = [])
    (unaccepted : system.acceptedFrames = []) (timeout : Quantity) :
    let step := Step.andThen (system.request 0 Method.handshake
        (some (handshakeParams request.rootUri request.folders)) (some timeout))
      (.handshaking 0 request.serverUri) (System.resumeHandshaking 0 request.serverUri)
    step.InHandshake request heard
        (system.registrationBy? task (.request 0 Method.handshake
          (some (handshakeParams request.rootUri request.folders)) (some timeout))).toList ∧
      handshakeConfirmation ∉ step.1.handedFrames := by
  intro step
  have sessionFound : system.sessions[0]? = some found := by rw [only]; rfl
  simp only [step, System.request, System.registrationBy?, sessionFound, isOpen,
    Bool.false_eq_true, if_false, Option.bind_some, fresh, Option.getD_some]
  cases timeout.delay? with
  | none =>
      have onlyCounted : (system.countRequest 0).sessions =
          [{ found with requests := found.requests + 1 }] := by
        simp [System.countRequest, System.modifySession, only]
      exact abandonOpening_place onlyCounted unsaid unaccepted .tooLarge
  | some delay =>
      simp only [Option.map_some, Option.toList_some]
      generalize newEq : ({
        task
        entry := {
          id := requestId (0 + 1)
          method := Method.handshake
          timeout
          promise := system.nextPromise
          timer := system.loop.timersArmed }
        deadline := system.loop.deadline delay } : Registration) = new
      have next : new.IsNext system found delay := by
        subst newEq
        exact ⟨by rw [fresh], rfl, rfl, rfl⟩
      have countedPromise : (system.countRequest 0).nextPromise = new.entry.promise :=
        next.promise.symm
      have registeredEq : (system.countRequest 0).registerRequest 0 (requestId (0 + 1))
          Method.handshake timeout delay = system.register new delay := by
        subst newEq
        rfl
      rw [registeredEq, countedPromise]
      have onlyRegistered := register_sessions next only
      have unsettled := register_outcome?_new next
      cases (some (handshakeParams request.rootUri request.folders)).all isWritable with
      | false =>
          simp only [Bool.false_eq_true, if_false]
          exact abandonOpening_place onlyRegistered unsaid unaccepted .nestedTooDeep
      | true =>
          simp only [if_true]
          exact writeOpening_place onlyRegistered (List.mem_singleton.mpr rfl) unsaid unaccepted
            unsettled

end Turns

end LanguageClient.Client
