import LanguageClient.Proofs.Editor.Flushes
import LanguageClient.Proofs.Editor.Positions

/-!
# How a query ends

A query that nobody disturbs ends with a result or without one, or it fails for one of few reasons: the
editor has lost its session while the query waited for its flush, a number is beyond its range, or the
server has sent a text that is none.

A request of an editor is refused for a reason that a query recovers from, or its answer is awaited
through a promise that nobody but the peer and the clock settles. It fails otherwise only if the editor
has no session, or if the time of the request is beyond all numbers of the clock.
-/

namespace LanguageClient.Client

open LanguageClient.Json LanguageClient.Loop LanguageClient.Number LanguageClient.Protocol

/-! ## How a request begins -/

/-- The session in which an editor asks, if it has one. -/
def System.editorSession? (system : System) (editor : Editor) : Option Session :=
  editor.workspace.bind system.sessionOf?

/-- What comes of a request of an editor: it fails, or it waits until it is sent, or for its
answer. -/
inductive Step.Requests (system : System) (editor : Editor) : Step → Prop where
  | fails (later : System) (failure : Failure)
      (reason : failure.isQueryFailure = true ∨
        failure = .missing ∧ system.editorSession? editor = none ∨
          failure = .tooLarge ∧ editor.timeout.delay? = none) :
    Requests system editor (later, .ended (.failed failure))
  | sends (later : System) (link : Nat) (frame : Value) (subject : String) (promise awaited : Nat)
      (fresh : later.IsFresh promise) (freshSend : later.IsFresh awaited)
      (noSignal : promise ∉ later.signals) :
    Requests system editor
      (later, .suspended [.sending link frame, .writing subject, .requesting promise] awaited)
  | waits (later : System) (promise : Nat) (fresh : later.IsFresh promise)
      (noSignal : promise ∉ later.signals) :
    Requests system editor (later, .suspended [] promise)

theorem Step.Requests.of_retains
    {before system : System} {editor : Editor} {step : Step} (requests : step.Requests system editor)
    (retains : Retains before system) : step.Requests before editor := by
  cases requests with
  | fails later failure reason =>
      refine .fails later failure (reason.imp_right (Or.imp_left fun ⟨same, nowhere⟩ => ⟨same, ?_⟩))
      rw [← nowhere]
      unfold System.editorSession? System.sessionOf?
      rw [retains.workspaces, retains.sessions]
  | sends later link frame subject promise awaited fresh freshSend noSignal =>
      exact .sends later link frame subject promise awaited fresh freshSend noSignal
  | waits later promise fresh noSignal => exact .waits later promise fresh noSignal

theorem isWritable_hoverParams (uri : String) (position : Position) :
    isWritable (hoverParams uri position) = true := by
  simp [isWritable, payloadDepth, hoverParams, documentMember, positionValue, Value.hasDepthWithin,
    membersHaveDepthWithin]

theorem isWritable_completionParams (uri : String) (position : Position) (trigger : Option Char) :
    isWritable (completionParams uri position trigger) = true := by
  cases trigger <;>
    simp [isWritable, payloadDepth, completionParams, completionContext, documentMember,
      positionValue, Value.hasDepthWithin, membersHaveDepthWithin]

namespace System

variable {system : System} {promise : Nat}

section Registered

variable (system) (session : Nat) (id method : String) (timeout : Quantity) (delay : Delay)

theorem registerRequest_isFresh :
    (system.registerRequest session id method timeout delay).IsFresh system.nextPromise where
  unsettled := by
    refine (Scheduler.whenSettled_outcome? _ _ _ _).trans ?_
    exact (addPromise_isFresh system).unsettled
  ungrouped := by
    have same := Scheduler.whenSettled_groups system.nextPromise system.nextPromise
      (.act (.discard session id)) ((system.loop.addPromise {}).arm delay (.expire session id))
    exact (congrArg Option.join same).trans (addPromise_isFresh system).ungrouped

theorem registerRequest_nextPromise :
    (system.registerRequest session id method timeout delay).nextPromise =
      system.nextPromise + 1 := by
  refine (Scheduler.whenSettled_nextPromise _ _ _).trans ?_
  exact Scheduler.addPromise_nextPromise {} system.loop

theorem registerRequest_session
    {found : Session} {system : System} (known : system.sessions[session]? = some found) :
    (system.registerRequest session id method timeout delay).sessions[session]? =
      some { found with pending := found.pending ++
        [{ id, method, timeout, promise := system.nextPromise, timer := system.loop.timersArmed }] } := by
  simp [registerRequest, modifySession, onLoop, known]

theorem countRequest_session
    {found : Session} {system : System} (known : system.sessions[session]? = some found) :
    (system.countRequest session).sessions[session]? =
      some { found with requests := found.requests + 1 } := by
  simp [countRequest, modifySession, known]

end Registered

/-- The frame of a request is written after the request was noted. -/
theorem write_requests
    {found : Session} {registered : System} {editor : Editor} (subject : String) (frame : Value)
    (session : Nat) (known : registered.sessions[session]? = some found)
    (fresh : registered.IsFresh promise) (inside : promise < registered.nextPromise)
    (noSignal : promise ∉ registered.signals) :
    ((registered.write session subject frame).andThen (.requesting promise)
      (resumeRequesting promise)).Requests system editor := by
  have here : Respects [] registered registered := .refl [] registered
  have stays {later : System} (respects : Respects [] registered later) :
      promise ∉ later.signals := by
    intro isSignal
    rcases respects.signals promise isSignal with earlier | ⟨isNew, _⟩
    · exact noSignal earlier
    · exact absurd inside (Nat.not_lt.mpr isNew)
  rcases write_cases subject frame known with ⟨failure, _, result⟩ | result | result
  · rw [result]
    exact .fails _ _ (Or.inl (isQueryFailure_of_isTransport (writeFailure_isTransport subject failure)))
  · rw [result]
    have held := (fresh.addPromise inside).of_promises
      (registered.note (.handed found.link frame)).holdBack rfl
    have send := (addPromise_isFresh registered).of_promises
      (registered.note (.handed found.link frame)).holdBack rfl
    exact .sends _ _ _ _ promise _ held send (stays (here.note _).holdBack)
  · rw [result]
    have taken := fresh.of_promises
      ((registered.note (.handed found.link frame)).accept found.link frame) rfl
    have awaits : resumeRequesting promise
        ((registered.note (.handed found.link frame)).accept found.link frame)
          (.returned .nothing) = _ := await_of_unsettled taken.unsettled
    simp only [Step.andThen]
    rw [awaits]
    exact .waits _ promise taken (stays ((here.note _).accept _ _))

theorem requestOf_requests
    (signals : ∀ promise ∈ system.signals, promise < system.nextPromise) (editor : Editor)
    (method : String) {params : Value} (writable : isWritable params = true) :
    (system.requestOf editor method params).Requests system editor := by
  have nowhere {workspace : Option Workspace}
      (known : (editor.workspace.bind fun number => system.workspaces[number]?) = workspace)
      (silent : (workspace.bind fun found => system.sessions[found.session]?) = none) :
      system.editorSession? editor = none := by
    rw [← silent, ← known, editorSession?, Option.bind_assoc]
    rfl
  unfold requestOf
  split
  · rename_i unknown
    exact .fails _ _ (Or.inr (Or.inl ⟨rfl, nowhere unknown rfl⟩))
  · rename_i workspace known
    unfold request
    split
    · rename_i unknown
      exact .fails _ _ (Or.inr (Or.inl ⟨rfl, nowhere known unknown⟩))
    · rename_i found sessionKnown
      split
      · exact .fails _ _ (Or.inl rfl)
      · simp only [Option.getD_some]
        split
        · rename_i endless
          exact .fails _ _ (Or.inr (Or.inr ⟨rfl, endless⟩))
        · rename_i delay _
          have registered := registerRequest_session workspace.session
            (requestId (found.requests + 1)) method editor.timeout delay
            (countRequest_session workspace.session sessionKnown)
          rw [if_pos (by simpa using writable)]
          refine write_requests method _ workspace.session registered
            (registerRequest_isFresh _ _ _ _ _ delay) ?_ fun isSignal => ?_
          · rw [registerRequest_nextPromise]
            exact Nat.lt_succ_self _
          · exact Nat.lt_irrefl _ (signals _ isSignal)

end System

/-! ## Answers and faults -/

/-- The results that a query may return. -/
inductive Call.ReturnsWith : Call → Reply → Prop where
  | hover (editor : Nat) (offset : Int) (result : Option Document.PlacedHover) :
    ReturnsWith (.hover editor offset) (.hover result)
  | complete (editor : Nat) (offset : Int) (explicit : Bool) (result : Option Completion.Ranked) :
    ReturnsWith (.complete editor offset explicit) (.completion result)

/-- The answer to the request of a task has come. -/
def System.Answered (system : System) (task : Nat) (raw : Value) : Prop :=
  ∃ found promise, system.loop.tasks[task]? = some found ∧
    promise ∈ heldPromises found.stack found.awaiting ∧
      system.loop.outcome? promise = some (.returned (.result raw))

/-- Why a query of the first editor fails in its turn although nobody has cancelled it. -/
inductive QueryFault (system : System) (task : Nat) : Call → Failure → Prop where
  /-- The editor has no session any more. -/
  | detached (call : Call) (editor : Editor) (known : system.editors[0]? = some editor)
      (nowhere : system.editorSession? editor = none) : QueryFault system task call .missing
  /-- The next version of the document does not fit into its field. -/
  | exhausted (call : Call) (used : system.Exhausted) : QueryFault system task call .outOfRange
  /-- The time of a request is beyond all numbers of the clock. -/
  | uncountable (call : Call) (editor : Editor) (known : system.editors[0]? = some editor)
      (endless : editor.timeout.delay? = none) : QueryFault system task call .tooLarge
  /-- The server has answered with a hover that was accepted and has no text. -/
  | textlessHover (offset : Int) (raw : Value) (hover : Hover) (answered : system.Answered task raw)
      (accepted : hoverResultOf raw = .ok (some hover))
      (textless : hover.contents.format = .error .missing) :
    QueryFault system task (.hover 0 offset) .missing
  /-- The server has answered with completions that were accepted, and one of them has a
  documentation without a text. -/
  | textlessItem (offset : Int) (explicit : Bool) (raw : Value) (items : List CompletionItem)
      (answered : system.Answered task raw)
      (accepted : completionResultOf raw = .ok (some items))
      (textless : Completion.candidatesOf (some items) = .error .missing) :
    QueryFault system task (.complete 0 offset explicit) .missing

/-- How a query ends in its turn. -/
def QueryEnd (system : System) (task : Nat) (call : Call) (outcome : Outcome Reply) : Prop :=
  (∃ reply, outcome = .returned reply ∧ call.ReturnsWith reply) ∨
    ∃ failure, outcome = .failed failure ∧ QueryFault system task call failure

/-! ## Where a query can be -/

/-- The frame with which a call waits until the edits are flushed. -/
inductive Call.FlushesWith : Call → Frame → Prop where
  | hover (offset : Int) : FlushesWith (.hover 0 offset) (.flushingForHover 0 offset)
  | complete (offset : Int) (explicit : Bool) (query : CompletionQuery) :
    FlushesWith (.complete 0 offset explicit) (.flushingForCompletion 0 query)

/-- The frame with which a call waits for its answer. -/
inductive Call.AsksWith : Call → Frame → Prop where
  | hover (offset : Int) (position : Position) :
    AsksWith (.hover 0 offset) (.hovering 0 position)
  | complete (offset : Int) (explicit : Bool) (query : CompletionQuery) :
    AsksWith (.complete 0 offset explicit) (.completing query)

/-- Where the task of a query can be, and what it awaits there. -/
inductive QueryShape (call : Call) : List Frame → Option Nat → Prop where
  | begins : QueryShape call [.begin call] none
  | locks (promise awaited : Nat) (force : Bool) (caller : Frame)
      (flushes : call.FlushesWith caller) :
    QueryShape call [.locking 0 promise force, caller] (some awaited)
  | changes (link : Nat) (frame : Value) (subject : String) (version : Nat) (wasDirty : Bool)
      (awaited : Nat) (caller : Frame) (flushes : call.FlushesWith caller) :
    QueryShape call [.sending link frame, .writing subject, .changing 0 version wasDirty, caller]
      (some awaited)
  | sends (link : Nat) (frame : Value) (subject : String) (promise awaited : Nat) (asker : Frame)
      (asks : call.AsksWith asker) :
    QueryShape call [.sending link frame, .writing subject, .requesting promise, asker]
      (some awaited)
  | asks (asker : Frame) (promise : Nat) (asks : call.AsksWith asker) :
    QueryShape call [asker] (some promise)

/-- What the turn of a query leads to: its end, or a wait for promises that are all fresh. -/
inductive Step.Queries (before : System) (task : Nat) (call : Call) : Step → Prop where
  | ends (later : System) (outcome : Outcome Reply) (ending : QueryEnd before task call outcome) :
    Queries before task call (later, .ended outcome)
  | waits (later : System) (frames : List Frame) (promise : Nat)
      (shape : QueryShape call frames (some promise))
      (fresh : ∀ other ∈ heldPromises frames (some promise), later.IsFresh other)
      (foreign : ∀ other, HoldsAnswer frames (some promise) other → other ∉ later.signals) :
    Queries before task call (later, .suspended frames promise)

/-! ## Texts that are none -/

theorem ContentsPart.format_error
    {part : ContentsPart} {failure : Failure} (fails : part.format = .error failure) :
    failure = .missing := by
  cases part with
  | plain text => cases fails
  | marked label text => cases fails
  | textless value => exact (Except.error.inj fails).symm

theorem joinedParts_error
    {parts : List ContentsPart} {failure : Failure} (fails : joinedParts parts = .error failure) :
    failure = .missing := by
  induction parts with
  | nil => cases fails
  | cons part others inductionHypothesis =>
      unfold joinedParts at fails
      cases first : part.format with
      | error other =>
          rw [first] at fails
          rw [← Except.error.inj fails]
          exact ContentsPart.format_error first
      | ok text =>
          cases rest : joinedParts others with
          | error other =>
              rw [first, rest] at fails
              exact inductionHypothesis (Except.error.inj fails ▸ rest)
          | ok following =>
              rw [first, rest] at fails
              cases fails

theorem Contents.format_error
    {contents : Contents} {failure : Failure} (fails : contents.format = .error failure) :
    failure = .missing := by
  cases contents with
  | single part => exact ContentsPart.format_error fails
  | list parts => exact joinedParts_error fails

theorem placeHover_error
    {snapshot : Document.Snapshot} {asked : Position} {hover : Option Hover} {failure : Failure}
    (fails : Document.placeHover snapshot asked hover = .error failure) :
    ∃ given, hover = some given ∧ given.contents.format = .error failure := by
  cases hover with
  | none => cases fails
  | some given =>
      refine ⟨given, rfl, ?_⟩
      unfold Document.placeHover at fails
      simp only at fails
      split at fails
      · cases fails
      · cases text : given.contents.format with
        | error other =>
            rw [text] at fails
            exact congrArg Except.error (Except.error.inj fails)
        | ok written =>
            rw [text] at fails
            cases fails

theorem documentationOf_error
    {contents : Option Contents} {failure : Failure}
    (fails : Completion.documentationOf contents = .error failure) : failure = .missing := by
  cases contents with
  | none => cases fails
  | some contents =>
      unfold Completion.documentationOf at fails
      simp only at fails
      split at fails
      · cases text : contents.format with
        | error other =>
            rw [text] at fails
            rw [← Except.error.inj fails]
            exact Contents.format_error text
        | ok written =>
            rw [text] at fails
            cases fails
      · cases fails

theorem candidatesOfItems_error
    {items : List CompletionItem} {failure : Failure}
    (fails : Completion.candidatesOfItems items = .error failure) : failure = .missing := by
  induction items with
  | nil => cases fails
  | cons item others inductionHypothesis =>
      unfold Completion.candidatesOfItems Completion.Candidate.ofItem at fails
      cases documentation : Completion.documentationOf item.documentation with
      | error other =>
          rw [documentation] at fails
          rw [← Except.error.inj fails]
          exact documentationOf_error documentation
      | ok text =>
          cases rest : Completion.candidatesOfItems others with
          | error other =>
              rw [documentation, rest] at fails
              exact inductionHypothesis (Except.error.inj fails ▸ rest)
          | ok candidates =>
              rw [documentation, rest] at fails
              cases fails

theorem candidatesOf_error
    {items : Option (List CompletionItem)} {failure : Failure}
    (fails : Completion.candidatesOf items = .error failure) :
    failure = .missing ∧ ∃ given, items = some given := by
  cases items with
  | none => cases fails
  | some given =>
      refine ⟨?_, given, rfl⟩
      unfold Completion.candidatesOf at fails
      simp only at fails
      cases candidates : Completion.candidatesOfItems given with
      | error other =>
          rw [candidates] at fails
          rw [← Except.error.inj fails]
          exact candidatesOfItems_error candidates
      | ok found =>
          rw [candidates] at fails
          cases fails

/-! ## How a query goes on -/

section Goes

open LanguageClient.Client.System

variable {call : Call} {caller asker : Frame} {before system : System} {task : Nat} {editor : Editor}

/-- A query that fails returns without a result, unless it has a fault. -/
theorem recover_queries
    {failure : Failure} {without : Reply} (returns : call.ReturnsWith without)
    (reason : failure.isQueryFailure = true ∨ QueryFault before task call failure) :
    (system.recover failure without).Queries before task call := by
  unfold recover
  split
  · exact .ends _ _ (Or.inl ⟨without, rfl, returns⟩)
  · rename_i fails
    exact .ends _ _ (Or.inr ⟨failure, rfl, reason.resolve_left fails⟩)

theorem Call.AsksWith.failed_queries
    {failure : Failure} (asks : call.AsksWith asker)
    (reason : failure.isQueryFailure = true ∨ QueryFault before task call failure) :
    (resumeFrame asker system (.failed failure)).Queries before task call := by
  cases asks with
  | hover offset position => exact recover_queries (.hover 0 offset none) reason
  | complete offset explicit query => exact recover_queries (.complete 0 offset explicit none) reason

theorem hover_answered_queries
    {raw : Value} (offset : Int) (position : Position) (known : system.editors[0]? = some editor)
    (answered : before.Answered task raw) :
    (resumeHovering 0 position system (.returned (.result raw))).Queries before task
      (.hover 0 offset) := by
  simp only [resumeHovering, known]
  split
  · rename_i failure refused
    have isMalformed : failure.isQueryFailure = true := by
      unfold hoverResultOf resultOf at refused
      split at refused
      · cases refused
      · rw [← Except.error.inj refused]
        rfl
    exact recover_queries (.hover 0 offset none) (Or.inl isMalformed)
  · rename_i hover accepted
    split
    · exact .ends _ _ (Or.inl ⟨_, rfl, .hover 0 offset _⟩)
    · rename_i failure unplaced
      obtain ⟨given, rfl, textless⟩ := placeHover_error unplaced
      obtain rfl := Contents.format_error textless
      exact .ends _ _ (Or.inr ⟨_, rfl, .textlessHover offset raw given answered accepted textless⟩)

theorem completion_answered_queries
    {raw : Value} (offset : Int) (explicit : Bool) (query : CompletionQuery)
    (answered : before.Answered task raw) :
    (resumeCompleting query system (.returned (.result raw))).Queries before task
      (.complete 0 offset explicit) := by
  simp only [resumeCompleting]
  split
  · rename_i failure fails
    refine recover_queries (.complete 0 offset explicit none) ?_
    cases accepted : completionResultOf raw with
    | error refusal =>
        rw [accepted] at fails
        rw [← Except.error.inj fails]
        unfold completionResultOf resultOf at accepted
        split at accepted
        · cases accepted
        · rw [← Except.error.inj accepted]
          exact Or.inl rfl
    | ok items =>
        rw [accepted] at fails
        obtain ⟨rfl, given, rfl⟩ := candidatesOf_error fails
        exact Or.inr (.textlessItem offset explicit raw given answered accepted fails)
  · exact .ends _ _ (Or.inl ⟨_, rfl, .complete 0 offset explicit none⟩)
  · exact .ends _ _ (Or.inl ⟨_, rfl, .complete 0 offset explicit _⟩)

/-- A query whose answer has come, or will not come. -/
theorem Call.AsksWith.verdict_queries
    {outcome : Outcome Reply} (asks : call.AsksWith asker)
    (known : system.editors[0]? = some editor) (verdict : IsVerdict outcome)
    (answered : ∀ raw, outcome = .returned (.result raw) → before.Answered task raw) :
    (resumeFrame asker system outcome).Queries before task call := by
  cases outcome with
  | returned reply =>
      cases reply with
      | result raw =>
          cases asks with
          | hover offset position =>
              exact hover_answered_queries offset position known (answered raw rfl)
          | complete offset explicit query =>
              exact completion_answered_queries offset explicit query (answered raw rfl)
      | _ => exact verdict.elim
  | failed failure => exact asks.failed_queries (Or.inl verdict)
  | cancelled => exact verdict.elim

/-- A query whose request has been made or was refused. -/
theorem Step.Requests.queries
    {step : Step} (requests : step.Requests before editor) (asks : call.AsksWith asker)
    (known : before.editors[0]? = some editor) :
    (step.andThen asker (resumeFrame asker)).Queries before task call := by
  cases requests with
  | fails later failure reason =>
      refine asks.failed_queries (reason.imp_right ?_)
      rintro (⟨rfl, nowhere⟩ | ⟨rfl, endless⟩)
      · exact .detached call editor known nowhere
      · exact .uncountable call editor known endless
  | sends later link frame subject promise awaited fresh freshSend noSignal =>
      refine .waits _ _ _ (.sends link frame subject promise awaited asker asks) ?_ ?_
      · intro other member
        have cases : other = awaited ∨ other = promise := by
          cases asks <;> simpa [heldPromises, Frame.promises] using member
        rcases cases with rfl | rfl
        · exact freshSend
        · exact fresh
      · rintro other (member | ⟨frame, single, _⟩)
        · have same : other = promise := by
            cases asks <;> simpa using member
          exact same ▸ noSignal
        · cases single
  | waits later promise fresh noSignal =>
      refine .waits _ _ _ (.asks asker promise asks) ?_ ?_
      · intro other member
        have same : other = promise := by
          cases asks <;> simpa [heldPromises, Frame.promises] using member
        exact same ▸ fresh
      · rintro other (member | ⟨_, _, _, same⟩)
        · cases asks <;> cases List.mem_singleton.mp member
        · exact Option.some.inj same ▸ noSignal

/-- A query whose edits have been flushed or not. -/
theorem Call.FlushesWith.queries
    {outcome : Outcome Reply} (flushes : call.FlushesWith caller)
    (known : before.editors[0]? = some editor) (retains : Retains before system)
    (signals : ∀ promise ∈ system.signals, promise < system.nextPromise)
    (ending : before.FlushEnd outcome) :
    (resumeFrame caller system outcome).Queries before task call := by
  have here : system.editors[0]? = some editor := by rw [retains.editors, known]
  have requested (method : String) {params : Value} (writable : isWritable params = true)
      {asker : Frame} (asks : call.AsksWith asker) :
      ((system.requestOf editor method params).andThen asker (resumeFrame asker)).Queries before
        task call :=
    ((requestOf_requests signals editor method writable).of_retains retains).queries asks known
  cases outcome with
  | returned reply =>
      cases flushes with
      | hover offset =>
          simp only [resumeFrame, resumeFlushingForHover, here]
          split
          · exact recover_queries (.hover 0 offset none) (Or.inl rfl)
          · rename_i position _
            exact requested _ (isWritable_hoverParams _ position) (.hover offset position)
      | complete offset explicit query =>
          simp only [resumeFrame, resumeFlushingForCompletion, here]
          exact requested _ (isWritable_completionParams _ query.position query.trigger)
            (.complete offset explicit query)
  | failed failure =>
      have reason : failure.isQueryFailure = true ∨ QueryFault before task call failure := by
        refine ending.imp id ?_
        rintro ⟨same, used⟩
        obtain rfl := Outcome.failed.inj same
        exact .exhausted call used
      cases flushes with
      | hover offset => exact recover_queries (.hover 0 offset none) reason
      | complete offset explicit query =>
          exact recover_queries (.complete 0 offset explicit none) reason
  | cancelled => exact (ending.not_cancelled rfl).elim

/-- A query that flushes the edits. -/
theorem Step.Flushes.queries
    {step : Step} (step_flushes : step.Flushes before) (flushes : call.FlushesWith caller)
    (known : before.editors[0]? = some editor)
    (signals : ∀ promise ∈ step.1.signals, promise < step.1.nextPromise) :
    (step.andThen caller (resumeFrame caller)).Queries before task call := by
  cases step_flushes with
  | ends later outcome retains ending => exact flushes.queries known retains signals ending
  | locks later promise force fresh =>
      refine .waits _ _ _ (.locks promise promise force caller flushes) ?_ ?_
      · intro other member
        have same : other = promise := by
          cases flushes <;> simpa [heldPromises, Frame.promises] using member
        exact same ▸ fresh
      · rintro other (member | ⟨frame, single, _⟩)
        · cases flushes <;> simp at member
        · cases single
  | sends later link frame subject version wasDirty promise fresh =>
      refine .waits _ _ _ (.changes link frame subject version wasDirty promise caller flushes) ?_ ?_
      · intro other member
        have same : other = promise := by
          cases flushes <;> simpa [heldPromises, Frame.promises] using member
        exact same ▸ fresh
      · rintro other (member | ⟨frame, single, _⟩)
        · cases flushes <;> simp at member
        · cases single

end Goes

end LanguageClient.Client
