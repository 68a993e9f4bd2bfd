import LanguageClient.Proofs.Closure.Runs

/-!
# The turns of a closing

A closing that the host does not cancel waits for the sends that the timer started, closes the document,
closes the workspace, and returns. It fails only when another closing has closed the workspace meanwhile.
-/

namespace LanguageClient.Client

open LanguageClient.Json LanguageClient.Loop LanguageClient.Number LanguageClient.Protocol

/-- Where a closing can be that awaits no group of tasks. -/
inductive ClosingShape : List Frame → Option Nat → Prop where
  | begins : ClosingShape [.begin (.closeEditor 0)] none
  | detaches (link : Nat) (frame : Value) (subject uri : String) (awaited : Nat) :
    ClosingShape [.sending link frame, .writing subject, .closingFile uri, .detaching 0,
      .closingSynchronizer 0] (some awaited)
  | leaves (awaited : Nat) :
    ClosingShape [.closingLink, .closingWorkspace 0 (.returned .nothing)] (some awaited)

/-- A promise stands for a group that nobody has broken off, and nobody else settles it. -/
structure System.Gathers (system : System) (promise : Nat) : Prop where
  group : ∃ group, system.loop.groupOf? promise = some group ∧ group.cancelRequested = false
  outcome : ∀ outcome, system.loop.outcome? promise = some outcome → outcome = .returned .nothing
  notDue : promise ∉ system.dues

/-- How far a step gets with the end of a document. -/
inductive Step.EndsDocument : Step → Prop where
  | ends (later : System) : Step.EndsDocument (later, .ended (.returned .nothing))
  | waits (later : System) (link : Nat) (frame : Value) (subject uri : String) (awaited : Nat)
      (fresh : later.IsFresh awaited) :
    Step.EndsDocument
      (later, .suspended [.sending link frame, .writing subject, .closingFile uri, .detaching 0] awaited)
  | gathers (later : System) (awaited : Nat) (unsettled : later.loop.outcome? awaited = none)
      (gathers : later.Gathers awaited) :
    Step.EndsDocument (later, .suspended [.settlingSends 0] awaited)

/-- How far a step gets with closing an editor. The stack that it began with is given. When the closing
is over the editor has no workspace; it fails if it has found it so after the end of the document. -/
inductive Step.Closes (before : System) (stack : List Frame) : Step → Prop where
  | ends (later : System) (gone : later.holdings.owned = [none])
      (inTime : .closingSynchronizer 0 ∈ stack → before.holdings.owned ≠ [none]) :
    Step.Closes before stack (later, .ended (.returned .nothing))
  | overtaken (later : System) (gone : later.holdings.owned = [none])
      (inside : .closingSynchronizer 0 ∈ stack) (late : before.holdings.owned = [none]) :
    Step.Closes before stack (later, .ended (.failed .missing))
  | waits (later : System) (frames : List Frame) (awaited : Nat)
      (shape : ClosingShape frames (some awaited)) (fresh : later.IsFresh awaited) :
    Step.Closes before stack (later, .suspended frames awaited)
  | gathers (later : System) (awaited : Nat) (unsettled : later.loop.outcome? awaited = none)
      (gathers : later.Gathers awaited) :
    Step.Closes before stack
      (later, .suspended [.settlingSends 0, .closingSynchronizer 0] awaited)

section Steps

open LanguageClient.Client.System

variable {task promise : Nat} {lost : Prop} {before system : System} {step : Step}
  {stack : List Frame}

/-- After the end of the document the workspace is closed, unless another closing has done so. -/
theorem Step.EndsDocument.closes
    (ends : step.EndsDocument) (holdings : step.1.holdings = system.holdings)
    (tenancy : Tenancy lost system.holdings)
    (inside : system.holdings.owned = [none] → .closingSynchronizer 0 ∈ stack) :
    Step.Closes system stack
      (step.andThen (.closingSynchronizer 0) (resumeClosingSynchronizer 0)) := by
  cases ends with
  | waits later link frame subject uri awaited fresh =>
      exact .waits later _ awaited (.detaches link frame subject uri awaited) fresh
  | gathers later awaited unsettled gathers => exact .gathers later awaited unsettled gathers
  | ends later =>
      have departs : Departs 0 0 lost (.closingWorkspace 0 (.returned .nothing)) (.returned .nothing)
          later (resumeClosingSynchronizer 0 later (.returned .nothing)) :=
        closeWorkspaceOf_departs (holdings ▸ tenancy) _ _
      change Step.Closes system stack (resumeClosingSynchronizer 0 later (.returned .nothing))
      generalize resumeClosingSynchronizer 0 later (.returned .nothing) = result at departs
      cases departs with
      | overtaken gone =>
          -- The end of the document leaves the workspace alone, so it was gone before this turn.
          have late : system.holdings.owned = [none] := holdings ▸ gone
          exact .overtaken later gone (inside late) late
      | leaves final heeds departs =>
          obtain ⟨owned, gone⟩ := departs.owned
          rw [holdings] at owned
          exact .ends final gone fun _ => by simp [owned]
      | waits final awaited fresh heeds departs => exact .waits final _ awaited (.leaves awaited) fresh

/-- Whether the end of a document was announced or not, it is forgotten. -/
theorem resumeClosingFile_endsDocument
    (system : System) (uri : String) {outcome : Outcome Reply} (uncancelled : outcome ≠ .cancelled) :
    ((resumeClosingFile uri system outcome).andThen (.detaching 0)
      (resumeDetaching 0)).EndsDocument := by
  cases outcome with
  | returned reply => exact .ends _
  | failed failure => exact .ends _
  | cancelled => exact (uncancelled rfl).elim

/-- The document that a synchronizer has is closed. -/
theorem closeAttached_endsDocument (anchored : system.Anchored) :
    (system.closeAttached 0).EndsDocument := by
  unfold closeAttached
  split
  · exact .ends system
  · rename_i file attached
    obtain ⟨synchronizer, entry, isFile⟩ := Option.bind_eq_some_iff.mp attached
    have inside := anchored synchronizer (List.mem_of_getElem? entry) file isFile
    have known : system.files[file]? = some system.files[file] := List.getElem?_eq_getElem inside
    simp only [closeFile, known]
    cases isOpen : system.isOpen file with
    | false => exact .ends _
    | true =>
        simp only [Bool.not_true, Bool.false_eq_true, if_false]
        generalize system.files[file] = found
        rcases notifyIn_cases (system.unregister found.workspace found.uri) found.workspace
          Method.didClose (didCloseParams found.uri) with
          ⟨_, failure, result⟩ | ⟨session, source, _, sessionKnown, result⟩
        · rw [result]
          have uncancelled : (.failed failure : Outcome Reply) ≠ .cancelled := by simp
          exact resumeClosingFile_endsDocument _ found.uri uncancelled
        · have writes := write_writes Method.didClose
            (notificationMessage Method.didClose (some (didCloseParams found.uri))) sessionKnown
          rw [result]
          generalize write _ session _ _ = written at writes
          cases writes with
          | ends later outcome _ kind =>
              exact resumeClosingFile_endsDocument later found.uri kind.not_cancelled
          | waits later link frame subject awaited fresh =>
              exact .waits later link frame subject found.uri awaited fresh

/-- A new group has not been broken off. -/
theorem gather_gathers (members : List Nat) (due : ∀ other ∈ system.dues, other < system.nextPromise) :
    (system.onLoop (·.gather members .nothing)).Gathers system.nextPromise where
  group := Scheduler.gather_unbroken members Reply.nothing system.loop
  outcome := fun outcome settled => by
    rcases Scheduler.gather_outcome? members Reply.nothing system.loop with unsettled | ended
    · have none : (system.onLoop (·.gather members .nothing)).loop.outcome? system.nextPromise = none :=
        unsettled
      rw [none] at settled
      cases settled
    · exact Option.some.inj (settled.symm.trans ended)
  notDue := fun isDue => Nat.lt_irrefl _ (due _ isDue)

theorem cancelTimer_dues (system : System) (synchronizer : Nat) :
    (system.cancelTimer synchronizer).dues = system.dues := by
  have waiters (items : List Synchronizer) : items.flatMap (·.lock.waiters) =
      (items.map (·.lock.waiters)).flatten := List.flatMap_def
  unfold cancelTimer
  split
  · rfl
  · refine congrArg (system.promised ++ ·) ?_
    rw [waiters, waiters]
    refine congrArg List.flatten (map_modify_of_keeps ?_ system.synchronizers synchronizer)
    exact fun _ => rfl

theorem cancelTimer_nextPromise (system : System) (synchronizer : Nat) :
    (system.cancelTimer synchronizer).nextPromise = system.nextPromise := by
  unfold cancelTimer
  split <;> rfl

/-- The sends that the timer started are awaited, or the document is closed at once. -/
theorem closeSynchronizer_endsDocument
    (anchored : system.Anchored) (due : ∀ other ∈ system.dues, other < system.nextPromise) :
    (system.closeSynchronizer 0).EndsDocument := by
  have cancelled : Abstains 0 0 system (system.cancelTimer 0) := cancelTimer_abstains system 0
  have laterDue : ∀ other ∈ (system.cancelTimer 0).dues,
      other < (system.cancelTimer 0).nextPromise := by
    rw [cancelTimer_dues, cancelTimer_nextPromise]
    exact due
  unfold closeSynchronizer
  simp only
  split
  · exact closeAttached_endsDocument (cancelled.anchored anchored)
  · have gathered := gather_gathers (((system.cancelTimer 0).synchronizers[0]?).map (·.sends) |>.getD [])
      laterDue
    have laterAnchored : ((system.cancelTimer 0).onLoop
        (·.gather (((system.cancelTimer 0).synchronizers[0]?).map (·.sends) |>.getD []) .nothing)).Anchored :=
      cancelled.anchored anchored
    generalize (system.cancelTimer 0).onLoop _ = later at gathered laterAnchored
    cases settled : later.loop.outcome? (system.cancelTimer 0).nextPromise with
    | none =>
        rw [await_of_unsettled settled]
        exact .gathers later _ settled gathered
    | some outcome =>
        obtain rfl := gathered.outcome outcome settled
        rw [await_of_settled settled]
        exact closeAttached_endsDocument laterAnchored

/-! ## The turn of a closing -/

theorem closeEditor_closes
    {found : Editor} (editors : system.editors = [found]) (own : found.synchronizer = 0)
    (tenancy : Tenancy lost system.holdings) (anchored : system.Anchored)
    (due : ∀ other ∈ system.dues, other < system.nextPromise) :
    Step.Closes system [.begin (.closeEditor 0)] (system.call (.closeEditor 0)) := by
  have known : system.editors[0]? = some found := by rw [editors]; rfl
  simp only [call, closeEditor, known]
  cases owned : found.workspace with
  | none => exact .ends system (by simp [holdings, editors, owned]) (by simp)
  | some workspace =>
      have abstains : Step.Abstains 0 0 system (system.closeSynchronizer 0) :=
        closeSynchronizer_abstains system 0
      simp only [own]
      refine (closeSynchronizer_endsDocument anchored due).closes abstains.state.holdings tenancy
        fun gone => ?_
      have nobody := ownedBy_of_holdings gone
      rw [known, Option.bind_some, owned] at nobody
      cases nobody

/-- A closing has waited until the end of the document was sent. -/
theorem detaching_closes
    (tenancy : Tenancy lost system.holdings) (link : Nat) (frame : Value) (subject uri : String)
    {outcome : Outcome Reply} (kind : IsKind outcome) :
    Step.Closes system
      [.sending link frame, .writing subject, .closingFile uri, .detaching 0, .closingSynchronizer 0]
      (system.resumeStack outcome [.sending link frame, .writing subject, .closingFile uri,
        .detaching 0, .closingSynchronizer 0]) := by
  have abstains : Step.Abstains 0 0 system (system.resumeStack outcome
      [.sending link frame, .writing subject, .closingFile uri, .detaching 0]) :=
    resumeStack_abstains (.refl system) (by simp [Frame.Abstains]) (by simp) outcome
  have isConcat := resumeStack_concat system
    [.sending link frame, .writing subject, .closingFile uri, .detaching 0] (.closingSynchronizer 0)
    outcome
  rw [List.cons_append, List.cons_append, List.cons_append, List.cons_append, List.nil_append]
    at isConcat
  rw [isConcat]
  refine Step.EndsDocument.closes ?_ abstains.state.holdings tenancy fun _ => by simp
  obtain ⟨later, ending, isKind, _, result⟩ :=
    resumeStack_sending_kind system link frame subject [.closingFile uri, .detaching 0] kind
  rw [result, resumeStack_pair]
  exact resumeClosingFile_endsDocument later uri isKind.not_cancelled

/-- A closing has waited until the connection was closed. -/
theorem leaving_closes
    (tenancy : Tenancy lost system.holdings) {outcome : Outcome Reply} (kind : IsKind outcome) :
    Step.Closes system [.closingLink, .closingWorkspace 0 (.returned .nothing)]
      (system.resumeStack outcome [.closingLink, .closingWorkspace 0 (.returned .nothing)]) := by
  obtain ⟨_, owned⟩ := tenancy.owned
  have gone : (system.modifyEditor 0 fun found => { found with workspace := none }).holdings.owned =
      [none] := by
    rw [holdings_modifyEditor owned none]
  rw [resumeStack_pair]
  cases outcome with
  | returned reply => exact .ends _ gone (by simp)
  | failed failure => exact .ends _ gone (by simp)
  | cancelled => exact kind.elim

/-- A closing has waited until the sends were over that the timer started. -/
theorem gathering_closes (tenancy : Tenancy lost system.holdings) (anchored : system.Anchored) :
    Step.Closes system [.settlingSends 0, .closingSynchronizer 0]
      (system.resumeStack (.returned .nothing) [.settlingSends 0, .closingSynchronizer 0]) := by
  have abstains : Step.Abstains 0 0 system (system.closeAttached 0) := closeAttached_abstains system 0
  rw [resumeStack_pair]
  exact (closeAttached_endsDocument anchored).closes abstains.state.holdings tenancy fun _ => by simp

end Steps

end LanguageClient.Client
