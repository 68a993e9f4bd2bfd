import LanguageClient.Proofs.Closure.Closings

/-!
# Closings that overlap

However many closings of an editor overlap, each that the host does not cancel returns, unless another
one has closed the workspace before it gets there. After that nothing is left to close.
-/

namespace LanguageClient.Client

open LanguageClient.Json LanguageClient.Loop LanguageClient.Number LanguageClient.Protocol

section Turns

open LanguageClient.Client.System

variable {uri : String} {opened : Bool} {holder : Option (Nat × Change)} {view : View}
  {task promise other : Nat} {lost : Prop} {before after system : System} {input : Input}
  {rest : ClientLoop} {found state : TaskState Frame}

/-! ## While somebody else runs -/

/-- A closing waits for the sends that the timer started, and nobody has broken that off. -/
structure HasGathering (system : System) (task promise : Nat) (found : TaskState Frame) : Prop where
  entry : system.loop.tasks[task]? = some found
  stack : found.stack = [.settlingSends 0, .closingSynchronizer 0]
  awaits : found.awaiting = some promise
  uncancelled : found.cancelRequested = false
  unminded : ¬ system.Minds task
  gathers : system.Gathers promise

theorem HasGathering.holds (gathering : HasGathering system task promise found) :
    promise ∈ heldPromises found.stack found.awaiting :=
  mem_heldPromises_of_awaits gathering.awaits

theorem HasGathering.collects
    (gathering : HasGathering system task promise found) (separate : Separate system) :
    system.Collects task promise where
  loop := {
    known := (List.getElem?_eq_some_iff.mp gathering.entry).1
    alone := fun other state entry awaits =>
      separate.apart other task state found promise entry gathering.entry
        (mem_heldPromises_of_awaits awaits) gathering.holds
    apart := fun other group isGroup member =>
      gathering.unminded (Or.inr ⟨other, group, isGroup, member⟩)
    group := gathering.gathers.group
    outcome := gathering.gathers.outcome }
  foreign := fun own => gathering.unminded (Or.inl own)
  notDue := gathering.gathers.notDue

theorem System.Collects.gathers (collects : system.Collects task promise) : system.Gathers promise :=
  ⟨collects.loop.group, collects.loop.outcome, collects.notDue⟩

theorem settleTask_gathers
    {completion : Nat} {step : Step} (gathers : step.1.Gathers promise)
    (different : ∀ outcome, step.2 = .ended outcome → promise ≠ completion) :
    (settleTask other completion step).Gathers promise where
  group := by
    rw [settleTask_groupOf?]
    exact gathers.group
  outcome := fun outcome settled =>
    gathers.outcome outcome ((settleTask_outcome?_of_ne different).symm.trans settled)
  notDue := by
    obtain ⟨later, ending | ⟨frames, awaited⟩⟩ := step
    · exact gathers.notDue
    · exact gathers.notDue

section Others

variable (world : EditorWorld uri opened holder view before) (separate : Separate before)
  (tenants : Tenants lost before) (gathering : HasGathering before task promise found)

include world separate tenants gathering

/-- Somebody else has his turn. -/
theorem HasGathering.gathers_turn
    (resumes : Resumes before other rest state) (different : task ≠ other) :
    (before.step .turn).Gathers promise := by
  have collects := gathering.collects separate
  have taken := resumes.taken
  have resumed : (before.resumed rest other).Collects task promise := {
    loop := (collects.loop.of_same taken.promises taken.tasks).clearTask other
    foreign := collects.foreign
    notDue := collects.notDue }
  -- The promise of the group is held by its closing alone, so it is not the one of a request.
  have requests (asked : Nat) (member : Frame.requesting asked ∈ state.stack)
      (_ : (before.resumed rest other).Collects task promise) : asked ≠ promise := by
    rintro rfl
    refine different (separate.apart task other found state asked gathering.entry resumes.entry
      gathering.holds ?_)
    exact List.mem_append_right _ (List.mem_flatMap.mpr ⟨_, member, List.mem_singleton.mpr rfl⟩)
  have ran : (before.resumption rest other state).1.Collects task promise := by
    rcases tenants.resumption resumes requests with ⟨_, arrives⟩ | ⟨_, visits⟩
    · exact arrives.continues.collects resumed
    · exact visits.heeds.collects resumed
  rw [resumes.step_turn]
  exact settleTask_gathers ran.gathers fun _ _ =>
    world.holdsPlain.ne_completion gathering.entry gathering.holds resumes.entry

theorem HasGathering.others
    (tracked : ∀ (task : Nat) (found : TaskState Frame), before.loop.tasks[task]? = some found →
      IsTracked found.stack)
    (allowed : input.OnEditor) (uncancelled : input ≠ .cancel task)
    (waits : ∀ rest state, input = .turn → ¬ Resumes before task rest state) :
    HasGathering (before.step input) task promise found where
  entry := entry_step tracked gathering.entry gathering.unminded uncancelled waits
  stack := gathering.stack
  awaits := gathering.awaits
  uncancelled := gathering.uncancelled
  unminded := unminded_step tracked (List.getElem?_eq_some_iff.mp gathering.entry).1
    gathering.unminded input
  gathers := by
    by_cases turns : ∃ other rest state, input = .turn ∧ Resumes before other rest state
    · obtain ⟨other, rest, state, rfl, resumes⟩ := turns
      refine gathering.gathers_turn world separate tenants resumes ?_
      rintro rfl
      exact waits rest state rfl resumes
    · have forgoes : Forgoes task promise True before (before.step input) :=
        step_forgoes world (tenants.tenancy.mono fun _ => trivial) allowed uncancelled
          (fun other rest state isTurn resumes => turns ⟨other, rest, state, isTurn, resumes⟩)
          fun _ _ => trivial
      exact (forgoes.collects (gathering.collects separate)).gathers

end Others

/-! ## One input -/

/-- A closing that has not ended, and that nobody has disturbed or broken off. -/
structure HasClosing (system : System) (task : Nat) : Prop where
  place : (∃ found, Undisturbed system task found ∧ ClosingShape found.stack found.awaiting) ∨
    ∃ found promise, HasGathering system task promise found
  unended : system.ending? task = none

/-- The document is through for a closing, and another one has closed the workspace meanwhile. -/
def System.Overtaken (system : System) (task : Nat) : Prop :=
  (∃ found, system.loop.tasks[task]? = some found ∧ .closingSynchronizer 0 ∈ found.stack) ∧
    system.editors.map (·.workspace) = [none]

/-- How a closing ends in its turn: it returns, unless it was overtaken. -/
def ClosingEnd (system : System) (task : Nat) (outcome : Outcome Reply) : Prop :=
  outcome = .returned .nothing ∧ ¬ system.Overtaken task ∨
    outcome = .failed .missing ∧ system.Overtaken task

theorem HasClosing.unminded (closing : HasClosing system task) : ¬ system.Minds task := by
  rcases closing.place with ⟨_, undisturbed, _⟩ | ⟨_, _, gathering⟩
  · exact undisturbed.unminded
  · exact gathering.unminded

theorem ClosingShape.promises
    {frames : List Frame} {awaited : Nat} (shape : ClosingShape frames (some awaited)) :
    frames.flatMap Frame.promises = [] := by
  cases shape <;> rfl

theorem ClosingShape.asks_nothing
    {frames : List Frame} {awaiting : Option Nat} (shape : ClosingShape frames awaiting) :
    ¬ HoldsAnswer frames awaiting promise := by
  rintro (member | ⟨frame, single, isAsking, _⟩)
  · cases shape <;> simp at member
  · cases shape with
    | begins =>
        rw [← (List.cons.inj single).1] at isAsking
        exact isAsking.elim
    | detaches link frame subject uri awaited => cases (List.cons.inj single).2
    | leaves awaited => cases (List.cons.inj single).2

theorem EditorWorld.dues_known (world : EditorWorld uri opened holder view before) :
    ∀ promise ∈ before.dues, promise < before.nextPromise := by
  intro promise due
  have same : before.dues = before.promised ++ view.synchronizer.lock.waiters := by
    rw [System.dues, world.parts.synchronizers, List.flatMap_singleton]
  rcases List.mem_append.mp (same ▸ due) with detained | waits
  · exact (world.parts.lock.detained promise detained).1.known
  · exact (world.parts.lock.waiters promise waits).1.known

section Inputs

variable (world : EditorWorld uri opened holder view before) (separate : Separate before)
  (tracked : ∀ (task : Nat) (found : TaskState Frame), before.loop.tasks[task]? = some found →
    IsTracked found.stack)
  (tenants : Tenants lost before) (closing : HasClosing before task)

include world separate tracked tenants closing

/-- A closing stays as it is while somebody else has his turn. -/
theorem HasClosing.others
    (allowed : input.OnEditor) (uncancelled : input ≠ .cancel task)
    (waits : ∀ rest state, input = .turn → ¬ Resumes before task rest state) :
    HasClosing (before.step input) task where
  place := closing.place.imp
    (fun ⟨found, undisturbed, shape⟩ => ⟨found, undisturbed.step world.holdsPlain separate tracked
      world.awake uncancelled waits, shape⟩)
    fun ⟨found, promise, gathering⟩ => ⟨found, promise, gathering.others world separate tenants tracked
      allowed uncancelled waits⟩
  unended := by
    have known : task < before.nextTask := by
      rcases closing.place with ⟨_, undisturbed, _⟩ | ⟨_, _, gathering⟩
      · exact (List.getElem?_eq_some_iff.mp undisturbed.entry).1
      · exact (List.getElem?_eq_some_iff.mp gathering.entry).1
    exact (world.keepsTask_step allowed known waits).ending.trans closing.unended

omit separate tracked in
/-- What a closing does in its own turn. -/
theorem HasClosing.resumption
    (resumes : Resumes before task rest found) :
    Step.Closes (before.resumed rest task) found.stack (before.resumption rest task found) := by
  have tenancy : Tenancy lost (before.resumed rest task).holdings := tenants.tenancy
  have anchored : (before.resumed rest task).Anchored := tenants.anchored
  have due : ∀ other ∈ (before.resumed rest task).dues,
      other < (before.resumed rest task).nextPromise := by
    rw [resumes.resumed_nextPromise]
    exact world.dues_known
  have settled (promise : Nat) (awaits : found.awaiting = some promise) :=
    resumes.settled world.punctual awaits
  unfold System.resumption
  rcases closing.place with ⟨state, undisturbed, shape⟩ | ⟨state, promise, gathering⟩
  · obtain rfl : state = found := Option.some.inj (undisturbed.entry.symm.trans resumes.entry)
    generalize stackEq : state.stack = stack at shape
    generalize awaitingEq : state.awaiting = awaiting at shape
    cases shape with
    | begins =>
        obtain ⟨editor, editors, own, _⟩ := world.parts.editor
        have sameEditors : (before.resumed rest task).editors = [editor] := editors
        rw [signalOf_of_idle undisturbed.uncancelled awaitingEq, resumeStack_begin]
        exact closeEditor_closes sameEditors own tenancy anchored due
    | detaches link frame subject uri awaited =>
        obtain ⟨outcome, _, signal, kind⟩ := undisturbed.signal awaitingEq settled
        rw [signal]
        exact detaching_closes tenancy link frame subject uri kind
    | leaves awaited =>
        obtain ⟨outcome, _, signal, kind⟩ := undisturbed.signal awaitingEq settled
        rw [signal]
        exact leaving_closes tenancy kind
  · obtain rfl : state = found := Option.some.inj (gathering.entry.symm.trans resumes.entry)
    obtain ⟨outcome, isSettled⟩ := Option.ne_none_iff_exists'.mp (settled promise gathering.awaits)
    rw [signalOf_of_awaiting gathering.uncancelled gathering.awaits isSettled,
      gathering.gathers.outcome outcome isSettled, gathering.stack]
    exact gathering_closes tenancy anchored

omit separate in
/-- In its own turn a closing ends, or it goes on to wait. -/
theorem HasClosing.own (resumes : Resumes before task rest found) :
    HasClosing (before.step .turn) task ∨
      ∃ outcome, (before.step .turn).ending? task = some outcome ∧ ClosingEnd before task outcome ∧
        (before.step .turn).holdings.owned = [none] := by
  have closes := closing.resumption world tenants resumes
  have conducts := before.resumption_conducts rest task (tracked task found resumes.entry)
  obtain ⟨unminded, leftEntry⟩ := resumes.left_unminded closing.unminded conducts
  have left : (before.step .turn).holdings.owned =
      (before.resumption rest task found).1.holdings.owned := by
    rw [resumes.step_turn, settleTask_holdings]
  generalize result : before.resumption rest task found = after at closes leftEntry left
  cases closes with
  | ends later gone inTime =>
      refine Or.inr ⟨_, world.ending?_of_ended resumes result, Or.inl ⟨rfl, ?_⟩, left ▸ gone⟩
      rintro ⟨⟨other, entry, inside⟩, late⟩
      rw [← Option.some.inj (resumes.entry.symm.trans entry)] at inside
      exact inTime inside late
  | overtaken later gone inside late =>
      exact Or.inr ⟨_, world.ending?_of_ended resumes result,
        Or.inr ⟨rfl, ⟨found, resumes.entry, inside⟩, late⟩, left ▸ gone⟩
  | waits later frames awaited shape fresh =>
      have allFresh (other : Nat) (member : other ∈ heldPromises frames (some awaited)) :
          later.IsFresh other := by
        rw [heldPromises, shape.promises, List.append_nil] at member
        rwa [List.mem_singleton.mp member]
      obtain ⟨left, sameStack, isAwaiting, undisturbed⟩ :=
        resumes.undisturbed closing.unminded conducts result allFresh
          fun other asks => (shape.asks_nothing asks).elim
      refine Or.inl ⟨Or.inl ⟨left, undisturbed, ?_⟩, world.ending?_of_suspended resumes result⟩
      rw [sameStack, isAwaiting]
      exact shape
  | gathers later awaited unsettled gathers =>
      refine Or.inl ⟨Or.inr ⟨_, awaited, leftEntry, rfl, rfl, rfl, unminded, ?_⟩,
        world.ending?_of_suspended resumes result⟩
      rw [resumes.step_turn, result]
      refine settleTask_gathers gathers fun outcome ends => ?_
      cases ends

/-- With one input a closing goes on, or it ends. -/
theorem HasClosing.step (allowed : input.OnEditor) (uncancelled : input ≠ .cancel task) :
    HasClosing (before.step input) task ∨
      ∃ outcome, (before.step input).ending? task = some outcome ∧ ClosingEnd before task outcome ∧
        (before.step input).holdings.owned = [none] := by
  by_cases own : ∃ rest state, input = .turn ∧ Resumes before task rest state
  · obtain ⟨rest, state, rfl, resumes⟩ := own
    exact closing.own world tracked tenants resumes
  · refine Or.inl (closing.others world separate tracked tenants allowed uncancelled ?_)
    exact fun rest state isTurn resumes => own ⟨rest, state, isTurn, resumes⟩

end Inputs

end Turns

/-! ## Runs -/

section Runs

open LanguageClient.Client.System

variable {inputs : Nat → Input} {task place : Nat}

/-- A closing begins undisturbed. -/
theorem spawn_hasClosing {system : System} (separate : Separate system) :
    HasClosing (system.spawn (.closeEditor 0)) system.nextTask := by
  obtain ⟨⟨found, undisturbed, begins, idle⟩, unended⟩ := spawn_undisturbed (.closeEditor 0) separate
  refine ⟨Or.inl ⟨found, undisturbed, ?_⟩, unended⟩
  rw [begins, idle]
  exact .begins

/-- A closing that the host does not cancel has ended as closings do, or it goes on. -/
theorem editorClosing_run
    (setup : EditorSetup) (allowed : ∀ place, (inputs place).OnEditor)
    (called : CalledAt setup.start inputs task place (.closeEditor 0)) {count : Nat}
    (since : place < count)
    (uncancelled : ∀ moment, place < moment → moment < count → inputs moment ≠ .cancel task) :
    HasClosing (setup.start.after inputs count) task ∨
      ∃ turn, place < turn ∧ turn < count ∧ ∃ outcome,
        (setup.start.after inputs turn).ending? task = none ∧
          (setup.start.after inputs (turn + 1)).ending? task = some outcome ∧
            ClosingEnd (setup.start.after inputs turn) task outcome ∧
              (setup.start.after inputs (turn + 1)).holdings.owned = [none] := by
  obtain ⟨made, rfl⟩ := called
  induction count, since using Nat.le_induction with
  | base =>
      have stepped : setup.start.after inputs (place + 1) =
          (setup.start.after inputs place).spawn (.closeEditor 0) := by
        rw [System.after, made]
        rfl
      rw [stepped]
      exact Or.inl (spawn_hasClosing (editor_separate setup allowed place))
  | succ count since inductionHypothesis =>
      obtain ⟨view, ⟨_, _, world⟩, _⟩ := known_run setup allowed count
      obtain ⟨stage, order⟩ := editor_order setup allowed count
      have earlier := inductionHypothesis fun moment after before =>
        uncancelled moment after (Nat.lt_succ_of_lt before)
      rcases earlier with closing | ⟨turn, after, before, ends⟩
      · rcases closing.step world (editor_separate setup allowed count) order.tracked
          (editor_tenants setup allowed count) (allowed count)
          (uncancelled count since (Nat.lt_succ_self count)) with stays | ⟨outcome, ended, isEnd, gone⟩
        · exact Or.inl stays
        · exact Or.inr ⟨count, since, Nat.lt_succ_self count, outcome, closing.unended, ended, isEnd,
            gone⟩
      · exact Or.inr ⟨turn, after, Nat.lt_succ_of_lt before, ends⟩

/-- The editor has given up its workspace and closed its session. The connection was told to close
once, unless it was lost before. -/
structure System.EditorClosed (lost : Prop) (system : System) : Prop where
  workspace : system.editors.map (·.workspace) = [none]
  session : ∃ session, system.sessions = [session] ∧ session.closed = true ∧
    (system.closings = [session.link] ∨ lost ∧ system.closings = [])

/-- An editor that had a workspace and has none now is closed. -/
theorem Tenancy.editorClosed
    {lost : Prop} {system : System} (tenancy : Tenancy lost system.holdings)
    (housed : system.holdings.workspaces = [0]) (gone : system.holdings.owned = [none]) :
    system.EditorClosed lost := by
  refine ⟨gone, ?_⟩
  have told : system.closings = system.holdings.closings := rfl
  rw [told]
  generalize same : system.holdings = holdings at *
  cases tenancy with
  | vacant handles => cases housed
  | meeting link closed handles closings parted => cases housed
  | holding link closed handles closings parted => cases gone
  | left link handles closings parted =>
      obtain ⟨session, sessions, rfl, isClosed⟩ :=
        session_of_holdings (congrArg Holdings.sessions same)
      refine ⟨session, sessions, isClosed, ?_⟩
      cases parted with
      | closed => exact Or.inl rfl
      | dropped isLost => exact Or.inr ⟨isLost, rfl⟩

/-- A closing of an editor that has started, if the host does not cancel it, fails just when another
closing closes the workspace while this one closes the document; otherwise it returns. Once it is over
the editor is closed, however many closings overlap and whatever becomes of the sends. The document is
closed once at most. -/
theorem closings_close_once
    (setup : EditorSetup) (inputs : Nat → Input) (allowed : ∀ place, (inputs place).OnEditor)
    (task place count : Nat) (reply : Reply)
    (started : (setup.start.after inputs place).ending? 0 = some (.returned reply))
    (called : CalledAt setup.start inputs task place (.closeEditor 0)) (since : place < count)
    (uncancelled : ∀ moment, place < moment → moment < count → inputs moment ≠ .cancel task)
    (outcome : Outcome Reply)
    (ended : (setup.start.after inputs count).ending? task = some outcome) :
    let run := setup.start.after inputs
    (∃ turn, place < turn ∧ turn < count ∧ (run turn).ending? task = none ∧
      (run (turn + 1)).ending? task = some outcome ∧ ClosingEnd (run turn) task outcome) ∧
    (run count).EditorClosed (LostBefore inputs count) ∧
    (run count).wire.countP (methodOf? · = some Method.didClose) ≤ 1 := by
  intro run
  rcases editorClosing_run setup allowed called since uncancelled with
    closing | ⟨turn, after, before, other, opens, ends, isEnd, gone⟩
  · rw [closing.unended] at ended
    cases ended
  · have otherEnded := editor_ending_stays setup allowed ends before
    obtain rfl : other = outcome := Option.some.inj (otherEnded.symm.trans ended)
    refine ⟨⟨turn, after, before, opens, ends, isEnd⟩, ?_, ?_⟩
    · -- The workspace was given up in that turn, and an editor that has started gets no other one.
      have tenants := editor_tenants setup allowed count
      have hasStarted := editor_ending_stays setup allowed started (Nat.le_of_lt since)
      have startedThen :=
        editor_ending_stays setup allowed started (Nat.le_of_lt (Nat.lt_succ_of_lt after))
      exact tenants.tenancy.editorClosed (tenants.housed reply hasStarted)
        ((editor_follows setup allowed startedThen before).left gone)
    · obtain ⟨stage, order⟩ := editor_order setup allowed count
      rw [order.exchange.closings_eq]
      split <;> decide

end Runs

/-! ## Two closings -/

/-- A second closing is through before the first one has closed the document. -/
def closedTwice : Nat → Input
  | 0 => .behave hoverServer
  | 6 => .behave { hoverServer with holding := true }
  | 7 => .call (.closeEditor 0)
  | 8 => .call (.closeEditor 0)
  | 11 => .release 0
  | _ => .turn

theorem closedTwice_onEditor (place : Nat) : (closedTwice place).OnEditor := by
  unfold closedTwice
  split <;> first | rfl | trivial

theorem closings_close_once_closedTwice :
    (∀ place, (closedTwice place).OnEditor) ∧
      let run := hoveredEditor.start.after closedTwice
      (run 7).ending? 0 = some (.returned .nothing) ∧
      CalledAt hoveredEditor.start closedTwice 1 7 (.closeEditor 0) ∧
      CalledAt hoveredEditor.start closedTwice 2 8 (.closeEditor 0) ∧
      (∀ task moment, closedTwice moment ≠ .cancel task) ∧
      (run 13).ending? 1 = some (.failed .missing) ∧
      (run 13).ending? 2 = some (.returned .nothing) ∧
      (∃ turn, 7 < turn ∧ turn < 13 ∧ (run turn).Overtaken 1) ∧
      (run 13).EditorClosed (LostBefore closedTwice 13) ∧
      (run 13).wire.countP (methodOf? · = some Method.didClose) ≤ 1 := by
  have started : (hoveredEditor.start.after closedTwice 7).ending? 0 = some (.returned .nothing) := by
    decide +kernel
  have called : CalledAt hoveredEditor.start closedTwice 1 7 (.closeEditor 0) :=
    ⟨rfl, by decide +kernel⟩
  have uncancelled (task moment : Nat) : closedTwice moment ≠ .cancel task := by
    unfold closedTwice
    split <;> nofun
  have ended : (hoveredEditor.start.after closedTwice 13).ending? 1 = some (.failed .missing) := by
    decide +kernel
  obtain ⟨⟨turn, after, before, _, _, isEnd⟩, closed, once⟩ :=
    closings_close_once hoveredEditor closedTwice closedTwice_onEditor 1 7 13 .nothing started called
      (by decide) (fun moment _ _ => uncancelled 1 moment) (.failed .missing) ended
  rcases isEnd with ⟨isReturned, _⟩ | ⟨_, overtaken⟩
  · cases isReturned
  · exact ⟨closedTwice_onEditor, started, called, ⟨rfl, by decide +kernel⟩, uncancelled, ended,
      by decide +kernel, ⟨turn, after, before, overtaken⟩, closed, once⟩

end LanguageClient.Client
