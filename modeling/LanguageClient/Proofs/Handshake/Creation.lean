import LanguageClient.Proofs.Handshake.Start

/-!
# The creation of a workspace

Whatever the peer, the connection and the clock do while a workspace is created, the handshake is said
in order, and its end is one of two: the confirmation was accepted and there is a workspace, or the call
fails and its session leaves nothing behind.
-/

namespace LanguageClient.Client

open LanguageClient.Json LanguageClient.Loop LanguageClient.Number LanguageClient.Protocol

/-- A text that was heard from the peer before some input of a run. -/
def System.HeardBefore (start : System) (inputs : Nat → Input) (count : Nat) (text : String) : Prop :=
  ∃ place < count, (start.after inputs place).heardText? 0 (inputs place) = some text

/-- How far the creation of a workspace has got. -/
inductive CreationPhase
    (request : WorkspaceRequest) (heard : String → Prop) (system : System) : Prop where
  | unbegun (unbegun : Unbegun request system)
  | unconnected (unconnected : Unconnected system)
  | connected (registered : List Registration)
      (world : HandshakeWorld request heard registered system)

/-- A creation waits for a frame or a closing that the peer holds back, or for the answer to its opening,
whose time is not over. -/
def System.WaitsInHandshake (system : System) : Prop :=
  ∃ found promise, system.loop.tasks[0]? = some found ∧ found.awaiting = some promise ∧
    system.loop.outcome? promise = none ∧
      (promise ∈ system.peer.detained ∨
        ∃ timer ∈ system.loop.timers, timer.action = .expire 0 (requestId 1) ∧
          system.loop.isDue timer = false)

/-- What holds of a client at every moment of a creation. -/
structure UpholdsHandshake
    (request : WorkspaceRequest) (heard : String → Prop) (system : System) : Prop where
  /-- The opening comes first, and up to the confirmation and after it there are answers only. -/
  frames : IsHandshake request heard system.handedFrames
  /-- It is confirmed only after a response to the opening that is a success and can be read. -/
  welcomed : handshakeConfirmation ∈ system.handedFrames →
    ∃ text raw result, heard text ∧ AnswersWith text (requestId 1) raw ∧
      initializeResultOf raw = .ok result
  /-- A workspace is returned exactly when the confirmation was accepted. -/
  accepted : handshakeConfirmation ∈ system.acceptedFrames ↔
    ∃ workspace, system.ending? 0 = some (.returned (.workspace workspace))
  /-- A call that ends in another way fails, and its session is closed, without pending requests and
  timers. -/
  cleared : ∀ ending, system.ending? 0 = some ending →
    (∀ workspace, ending ≠ .returned (.workspace workspace)) →
      (∀ reply, ending ≠ .returned reply) ∧
        (∀ session ∈ system.sessions, session.closed = true ∧ session.pending = []) ∧
          system.loop.timers = []
  /-- When nothing can run, the call has ended or has a reason to wait. -/
  ends : system.loop.isIdle = true →
    (∃ ending, system.ending? 0 = some ending) ∨ system.WaitsInHandshake

section Phases

variable {request : WorkspaceRequest} {heard later : String → Prop} {system : System}
  {registered : List Registration} {input : Input}

/-! ## What the phases uphold -/

theorem IsApart.frames (apart : IsApart system) : IsHandshake request heard system.handedFrames :=
  Or.inl apart.unsaid

theorem IsApart.unconfirmed (apart : IsApart system) :
    handshakeConfirmation ∉ system.handedFrames ∧ handshakeConfirmation ∉ system.acceptedFrames := by
  rw [apart.unsaid, apart.unaccepted]
  simp

theorem Unbegun.ending? (unbegun : Unbegun request system) : system.ending? 0 = none := by
  obtain ⟨cancelRequested, tasks⟩ := unbegun.task
  simp [System.ending?, tasks, Scheduler.outcome?, unbegun.promises]

theorem Unbegun.upholds (unbegun : Unbegun request system) : UpholdsHandshake request heard system where
  frames := unbegun.toIsApart.frames
  welcomed := fun said => (unbegun.toIsApart.unconfirmed.1 said).elim
  accepted := by
    rw [unbegun.ending?]
    simp [unbegun.toIsApart.unconfirmed.2]
  cleared := by simp [unbegun.ending?]
  ends := by simp [Scheduler.isIdle, unbegun.ready]

theorem Unconnected.upholds (unconnected : Unconnected system) :
    UpholdsHandshake request heard system := by
  obtain ⟨ending, ended, unsuccessful⟩ := unconnected.ended
  exact {
    frames := unconnected.toIsApart.frames
    welcomed := fun said => (unconnected.toIsApart.unconfirmed.1 said).elim
    accepted := by
      rw [ended]
      refine iff_of_false unconnected.toIsApart.unconfirmed.2 ?_
      rintro ⟨workspace, same⟩
      exact unsuccessful _ (Option.some.inj same)
    cleared := fun other otherEnded _ => by
      rw [ended] at otherEnded
      obtain rfl := Option.some.inj otherEnded
      exact ⟨unsuccessful, by simp [unconnected.sessions], unconnected.timers⟩
    ends := fun _ => Or.inl ⟨ending, ended⟩ }

/-- A session that is closed has no pending requests and no timers. -/
theorem HasTable.cleared
    (table : HasTable registered [] system) (shut : IsShut system) :
    (∀ session ∈ system.sessions, session.closed = true ∧ session.pending = []) ∧
      system.loop.timers = [] := by
  obtain ⟨found, only, _, timed, closes⟩ := table
  obtain ⟨other, otherOnly, closed⟩ := shut
  rw [only] at otherOnly
  obtain rfl := List.singleton_inj.mp otherOnly
  refine ⟨?_, List.eq_nil_iff_forall_not_mem.mpr fun timer armed => ?_⟩
  · intro session member
    rw [only, List.mem_singleton] at member
    subst member
    exact ⟨closed, closes closed⟩
  · obtain ⟨registration, member, rfl⟩ := List.mem_map.mp (timed.timers.subset armed)
    have listed := timed.listed registration member armed
    rw [closes closed] at listed
    cases listed

/-- When nothing can run, the first task has ended or has a reason to wait. -/
theorem HandshakeWorld.ends
    (world : HandshakeWorld request heard registered system) (idle : system.loop.isIdle = true) :
    (∃ ending, system.ending? 0 = some ending) ∨ system.WaitsInHandshake := by
  simp only [Scheduler.isIdle, Bool.and_eq_true, List.isEmpty_iff, Bool.not_eq_true',
    List.any_eq_false, Bool.not_eq_true] at idle
  obtain ⟨nothingReady, notDue⟩ := idle
  obtain ⟨found, entry, place⟩ := world.creation
  cases ended : system.ending? 0 with
  | some ending => exact Or.inl ⟨ending, rfl⟩
  | none =>
      right
      rw [ended] at place
      rw [ending?_of_entry entry] at ended
      obtain ⟨promise, awaits, unsettled⟩ := world.wakeful.awaits nothingReady entry ended
      refine ⟨found, promise, entry, awaits, unsettled, ?_⟩
      have detained (withheld : system.Withholds promise) : promise ∈ system.peer.detained :=
        withheld.resolve_right fun settled => settled unsettled
      generalize found.stack = stack at place
      rw [awaits] at place
      cases place with
      | asking _ _ _ _ _ _ withheld => exact Or.inl (detained withheld)
      | awaiting registration member =>
          obtain ⟨state, _, _, timed, _⟩ := world.table
          rcases timed.armed registration member unsettled with armed | fires
          · refine Or.inr ⟨_, armed, ?_, notDue _ armed⟩
            exact congrArg (Action.expire 0) (world.ids registration member)
          · rw [nothingReady] at fires
            cases fires
      | confirming _ _ _ _ _ withheld => exact Or.inl (detained withheld)
      | closing _ _ _ _ _ _ withheld => exact Or.inl (detained withheld)

theorem HandshakeWorld.upholds
    (world : HandshakeWorld request heard registered system)
    (welcomed : handshakeConfirmation ∈ system.handedFrames →
      ∃ text raw result, heard text ∧ AnswersWith text (requestId 1) raw ∧
        initializeResultOf raw = .ok result) :
    UpholdsHandshake request heard system := by
  obtain ⟨found, _, place⟩ := world.creation
  refine ⟨place.handshake, welcomed, ?_, ?_, world.ends⟩
  · generalize found.stack = stack at place
    generalize found.awaiting = awaiting at place
    generalize system.ending? 0 = ending at place ⊢
    cases place with
    | asking _ _ _ _ _ unconfirmed => simp [unconfirmed]
    | awaiting _ _ _ unconfirmed => simp [unconfirmed]
    | confirming _ _ _ _ unconfirmed => simp [unconfirmed]
    | closing _ _ _ _ unconfirmed => simp [unconfirmed]
    | created workspace _ accepted => exact iff_of_true accepted ⟨workspace, rfl⟩
    | failed ending unsuccessful _ unconfirmed =>
        refine iff_of_false unconfirmed ?_
        rintro ⟨workspace, same⟩
        exact unsuccessful _ (Option.some.inj same)
  · intro ending ended otherwise
    rw [ended] at place
    generalize found.stack = stack at place
    generalize found.awaiting = awaiting at place
    cases place with
    | created workspace => exact (otherwise workspace rfl).elim
    | failed _ unsuccessful _ _ shut => exact ⟨unsuccessful, world.table.cleared shut⟩

/-! ## Runs -/

theorem CreationPhase.step
    (phase : CreationPhase request heard system) (onHandshake : input.OnHandshake)
    (hears : ∀ text, heard text ∨ system.heardText? 0 input = some text → later text) :
    CreationPhase request later (system.step input) := by
  cases phase with
  | unbegun unbegun =>
      by_cases isTurn : input = .turn
      · subst isTurn
        have begun : Unconnected (system.step .turn) ∨
            ∃ registered, HandshakeWorld request later registered (system.step .turn) :=
          unbegun.turn.2
        rcases begun with unconnected | ⟨registered, world⟩
        · exact .unconnected unconnected
        · exact .connected registered world
      · exact .unbegun (unbegun.step onHandshake isTurn)
  | unconnected unconnected => exact .unconnected (unconnected.step onHandshake)
  | connected registered world => exact .connected registered (world.step onHandshake hears)

/-- Before the first task takes its turn, and in that turn, the handshake cannot be confirmed. -/
theorem Unbegun.unconfirming
    (unbegun : Unbegun request system) : ¬ system.Confirms request input := by
  rintro ⟨_, rest, found, resumes, may⟩
  obtain ⟨cancelRequested, tasks⟩ := unbegun.task
  have entry := resumes.entry
  rw [tasks] at entry
  obtain rfl := Option.some.inj entry
  obtain ⟨promise, outcome, awaits, _⟩ := may.answered
  cases awaits

theorem Unconnected.unconfirming
    (unconnected : Unconnected system) : ¬ system.Confirms request input := by
  rintro ⟨_, rest, found, resumes, _⟩
  obtain ⟨ending, ended, _⟩ := unconnected.ended
  rw [ending?_of_unended resumes.unended] at ended
  cases ended

/-- The confirmation is handed over exactly when the first task may confirm. -/
theorem CreationPhase.confirms_iff
    (phase : CreationPhase request heard system) (onHandshake : input.OnHandshake) :
    (handshakeConfirmation ∉ system.handedFrames ∧
      handshakeConfirmation ∈ (system.step input).handedFrames) ↔
        system.Confirms request input := by
  cases phase with
  | unbegun unbegun =>
      refine iff_of_false (fun ⟨_, said⟩ => ?_) unbegun.unconfirming
      by_cases isTurn : input = .turn
      · subst isTurn
        have unsaid : handshakeConfirmation ∉ (system.step .turn).handedFrames ∧
            (Unconnected (system.step .turn) ∨
              ∃ registered, HandshakeWorld request heard registered (system.step .turn)) :=
          unbegun.turn
        exact unsaid.1 said
      · exact (unbegun.step onHandshake isTurn).toIsApart.unconfirmed.1 said
  | unconnected unconnected =>
      refine iff_of_false (fun ⟨_, said⟩ => ?_) unconnected.unconfirming
      exact (unconnected.step onHandshake).toIsApart.unconfirmed.1 said
  | connected registered world => exact world.confirms_iff onHandshake

/-- What confirms a handshake is a success that was heard. -/
theorem CreationPhase.welcomed
    (phase : CreationPhase request heard system) (confirms : system.Confirms request input) :
    ∃ text raw result, heard text ∧ AnswersWith text (requestId 1) raw ∧
      initializeResultOf raw = .ok result := by
  cases phase with
  | unbegun unbegun => exact (unbegun.unconfirming confirms).elim
  | unconnected unconnected => exact (unconnected.unconfirming confirms).elim
  | connected registered world =>
      obtain ⟨_, rest, found, resumes, may⟩ := confirms
      obtain ⟨promise, outcome, awaits, settled, raw, result, rfl, structured⟩ := may.answered
      obtain ⟨first, entry, place⟩ := world.creation
      rw [resumes.entry] at entry
      obtain rfl := Option.some.inj entry
      obtain ⟨registration, member, rfl⟩ :
          ∃ registration ∈ registered, registration.entry.promise = promise := by
        generalize found.stack = stack at place awaits
        generalize found.awaiting = awaiting at place awaits
        generalize system.ending? 0 = ending at place
        cases place with
        | asking _ _ registration member =>
            cases awaits
            exact ⟨registration, member, rfl⟩
        | awaiting registration member =>
            cases awaits
            exact ⟨registration, member, rfl⟩
        | confirming => exact (confirmation_ne_opening awaits.sent_eq).elim
        | closing => cases awaits
        | created => cases awaits
        | failed => cases awaits
      obtain ⟨text, isHeard, answers⟩ := world.results registration member raw settled
      exact ⟨text, raw, result, isHeard, answers, structured⟩

/-- An input keeps what a creation upholds, with the texts that are heard by then. -/
theorem UpholdsHandshake.step
    (upholds : UpholdsHandshake request heard system) (phase : CreationPhase request heard system)
    (onHandshake : input.OnHandshake)
    (hears : ∀ text, heard text ∨ system.heardText? 0 input = some text → later text) :
    UpholdsHandshake request later (system.step input) := by
  have welcomed : handshakeConfirmation ∈ (system.step input).handedFrames →
      ∃ text raw result, later text ∧ AnswersWith text (requestId 1) raw ∧
        initializeResultOf raw = .ok result := by
    intro said
    obtain ⟨text, raw, result, isHeard, answers⟩ : ∃ text raw result, heard text ∧
        AnswersWith text (requestId 1) raw ∧ initializeResultOf raw = .ok result := by
      by_cases earlier : handshakeConfirmation ∈ system.handedFrames
      · exact upholds.welcomed earlier
      · exact phase.welcomed ((phase.confirms_iff onHandshake).mp ⟨earlier, said⟩)
    exact ⟨text, raw, result, hears text (Or.inl isHeard), answers⟩
  have after : CreationPhase request later (system.step input) := phase.step onHandshake hears
  cases after with
  | unbegun unbegun => exact unbegun.upholds
  | unconnected unconnected => exact unconnected.upholds
  | connected registered world => exact world.upholds welcomed

end Phases

section Run

variable {request : WorkspaceRequest} {inputs : Nat → Input}

theorem creation_phases
    (resolution : Rat) (request : WorkspaceRequest) (inputs : Nat → Input)
    (onHandshake : ∀ place, (inputs place).OnHandshake) (count : Nat) :
    let start := System.ofCreation resolution request
    CreationPhase request (start.HeardBefore inputs count) (start.after inputs count) ∧
      UpholdsHandshake request (start.HeardBefore inputs count) (start.after inputs count) := by
  intro start
  induction count with
  | zero => exact ⟨.unbegun (ofCreation_unbegun resolution request),
      (ofCreation_unbegun resolution request).upholds⟩
  | succ count inductionHypothesis =>
      obtain ⟨phase, upholds⟩ := inductionHypothesis
      have hears : ∀ text, start.HeardBefore inputs count text ∨
          (start.after inputs count).heardText? 0 (inputs count) = some text →
            start.HeardBefore inputs (count + 1) text := by
        rintro text (⟨place, before, heardThere⟩ | heardNow)
        · exact ⟨place, Nat.lt_succ_of_lt before, heardThere⟩
        · exact ⟨count, Nat.lt_succ_self count, heardNow⟩
      exact ⟨phase.step (onHandshake count) hears, upholds.step phase (onHandshake count) hears⟩

/-- In every run in which a workspace is created, whatever the peer, the connection and the clock do and
whenever the host cancels: the handshake is said in order, it is confirmed exactly when it may be, and
the creation ends with a workspace or with a session that leaves nothing behind. -/
theorem handshake_upheld
    (resolution : Rat) (request : WorkspaceRequest) (inputs : Nat → Input)
    (onHandshake : ∀ place, (inputs place).OnHandshake) (count : Nat) :
    let start := System.ofCreation resolution request
    let run := start.after inputs
    UpholdsHandshake request (start.HeardBefore inputs count) (run count) ∧
      ((handshakeConfirmation ∉ (run count).handedFrames ∧
        handshakeConfirmation ∈ (run (count + 1)).handedFrames) ↔
          (run count).Confirms request (inputs count)) := by
  intro start run
  obtain ⟨phase, upholds⟩ := creation_phases resolution request inputs onHandshake count
  exact ⟨upholds, phase.confirms_iff (onHandshake count)⟩

/-- The creation of a workspace over a connection that can be obtained. -/
def plainCreation : WorkspaceRequest where
  serverUri := "ws://localhost/lsp"
  rootUri := .null
  folders := none
  timeout := .int 1
  unreachable := none

/-- The plainest answer to a handshake. -/
def plainWelcome : String := "\x7b\"id\": \"1\", \"result\": \x7b\"capabilities\": \x7b\x7d\x7d\x7d"

/-- The peer asks for something and answers the handshake then. -/
def welcomedCreation : Nat → Input
  | 1 => .receive 0 "\x7b\"id\": 7, \"method\": \"workspace/configuration\"\x7d"
  | 3 => .receive 0 plainWelcome
  | _ => .turn

theorem welcomedCreation_onHandshake (place : Nat) : (welcomedCreation place).OnHandshake := by
  unfold welcomedCreation
  split <;> trivial

theorem handshake_upheld_welcomedCreation :
    (∀ place, (welcomedCreation place).OnHandshake) ∧
      let start := System.ofCreation 0 plainCreation
      let run := start.after welcomedCreation
      (run 6).Confirms plainCreation .turn ∧
      (∃ workspace, (run 7).ending? 0 = some (.returned (.workspace workspace))) ∧
      (run 7).handedFrames =
        [plainCreation.opening, answerMessage (.int 7), handshakeConfirmation] := by
  refine ⟨welcomedCreation_onHandshake, ?_⟩
  intro start run
  have upheld := handshake_upheld 0 plainCreation welcomedCreation welcomedCreation_onHandshake
  have unsaid : handshakeConfirmation ∉ (run 6).handedFrames := by decide +kernel
  have said : handshakeConfirmation ∈ (run 7).handedFrames := by decide +kernel
  have accepted : handshakeConfirmation ∈ (run 7).acceptedFrames := by decide +kernel
  exact ⟨(upheld 6).2.mp ⟨unsaid, said⟩, (upheld 7).1.accepted.mp accepted, by decide +kernel⟩

/-- The opening is held back until it has been answered, and is refused then. -/
def refusedOpening : Nat → Input
  | 0 => .behave { holding := true }
  | 2 => .receive 0 plainWelcome
  | 3 => .behave { refusal := some ⟨.reset, some [Method.handshake]⟩ }
  | 4 => .release 0
  | _ => .turn

/-- A success that comes before the opening is accepted does not suffice: when the creation goes on, the
answer has come, the session is open and nobody has cancelled, and still it is not confirmed. -/
theorem unconfirmed_refusedOpening :
    let start := System.ofCreation 0 plainCreation
    let run := start.after refusedOpening
    (∀ place, (refusedOpening place).OnHandshake) ∧
      (∃ raw result, (run 2).heardText? 0 (refusedOpening 2) = some plainWelcome ∧
        AnswersWith plainWelcome (requestId 1) raw ∧ initializeResultOf raw = .ok result) ∧
      (run 6).comingCallback? = some (.resume 0) ∧
      (run 6).sessions.map (·.closed) = [false] ∧
      (run 6).loop.tasks.map (·.cancelRequested) = [false] ∧
      (run 7).loop.isIdle = true ∧
      (run 7).ending? 0 = some (.failed (.unsent Method.handshake "socket is gone")) ∧
      handshakeConfirmation ∉ (run 7).handedFrames := by
  intro start run
  have onHandshake (place : Nat) : (refusedOpening place).OnHandshake := by
    unfold refusedOpening
    split <;> trivial
  have answers : AnswersWith plainWelcome (requestId 1) (.object [("capabilities", .object [])]) :=
    ⟨.object [("id", .string "1"), ("result", .object [("capabilities", .object [])])],
      ⟨by decide +kernel, ⟨_, rfl⟩, by decide +kernel, ⟨_, rfl, by decide +kernel⟩⟩,
      by decide +kernel, by decide +kernel⟩
  have structured : ∃ result, initializeResultOf (.object [("capabilities", .object [])]) =
      .ok result := ⟨_, rfl⟩
  obtain ⟨result, structured⟩ := structured
  exact ⟨onHandshake, ⟨_, result, rfl, answers, structured⟩, by decide +kernel, by decide +kernel,
    by decide +kernel, by decide +kernel, by decide +kernel, by decide +kernel⟩

end Run

end LanguageClient.Client
