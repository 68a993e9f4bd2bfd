import LanguageClient.Proofs.Editor.Steps
import LanguageClient.Proofs.Conduct.Endings
import LanguageClient.Proofs.Editor.LateQueries
import LanguageClient.Proofs.Editor.QueryTurns

/-!
# The answers of queries

Whatever the host, the peer and the clock do, a query that the host does not cancel returns a result or
none, unless one of few things fails it: the editor was closed while the query waited for its flush, a
number is beyond its range, or the server has answered with a text that is none.
-/

namespace LanguageClient.Client

open LanguageClient.Json LanguageClient.Loop LanguageClient.Number LanguageClient.Protocol

/-!
## When tasks end

The end of a task of an editor comes in its own turn, and nothing else settles its completion.
-/

section Endings

variable {uri : String} {opened : Bool} {holder : Option (Nat × Change)} {view later : View}
  {before after system : System} {task other : Nat} {rest : ClientLoop} {found : TaskState Frame}

open LanguageClient.Client.System

theorem EditorPassage.keepsTask
    {running : Option Nat} (passage : EditorPassage uri running before view after)
    (known : task < before.nextTask) : before.KeepsTask after task :=
  keepsTask_of_advances passage.loop.advances known

theorem EditorEvent.keepsTask
    (event : EditorEvent uri view before after) (known : task < before.nextTask) :
    before.KeepsTask after task := by
  obtain ⟨_, _, passage⟩ := event
  exact passage.keepsTask known

/-! ## The turn of a task -/

section Turn

variable (world : EditorWorld uri opened holder view before)
  (resumes : Resumes before task rest found)

include world resumes

/-- Between the start and the end of a turn no completion is settled. -/
theorem EditorWorld.resumption_passage :
    ∃ later, EditorPassage uri (some task) (before.resumed rest task) later
      (before.resumption rest task found).1 := by
  obtain ⟨restWorld, _⟩ := world.taken resumes.taken
  obtain ⟨notReady, settled⟩ := world.punctual.resumed_of_taken resumes.taken
  obtain ⟨later, _, _, run⟩ :=
    restWorld.runTask resumes.restEntry notReady (settled found resumes.restEntry)
  have passage := run.passage
  rw [signalOf_of_taken resumes.taken] at passage
  exact ⟨later, passage⟩

theorem EditorWorld.ending?_of_ended
    {later : System} {outcome : Outcome Reply}
    (ends : before.resumption rest task found = (later, .ended outcome)) :
    (before.step .turn).ending? task = some outcome := by
  obtain ⟨_, passage⟩ := world.resumption_passage resumes
  rw [resumes.ending?_turn passage.loop, ends]
  rfl

theorem EditorWorld.ending?_of_suspended
    {later : System} {frames : List Frame} {promise : Nat}
    (suspends : before.resumption rest task found = (later, .suspended frames promise)) :
    (before.step .turn).ending? task = none := by
  obtain ⟨_, passage⟩ := world.resumption_passage resumes
  rw [resumes.ending?_turn passage.loop, suspends]
  rfl

end Turn

/-- A task stays where it is unless it has its turn. -/
theorem EditorWorld.keepsTask_step
    {input : Input} (world : EditorWorld uri opened holder view before) (allowed : input.OnEditor)
    (known : task < before.nextTask)
    (waits : ∀ rest found, input = .turn → ¬ Resumes before task rest found) :
    before.KeepsTask (before.step input) task := by
  have start := world.start
  cases input with
  | turn =>
      refine keepsTask_turn_of_waiting (fun callback rest next other => ?_)
        (fun other rest found resumes => (world.resumption_passage resumes).choose_spec.loop) known
        fun rest found => waits rest found rfl
      obtain ⟨restWorld, inScope⟩ := world.taken (Scheduler.taken_of_next? next)
      obtain ⟨_, _, passage⟩ := restWorld.start.runCallback inScope other
      exact passage.loop.advances
  | call call =>
      exact keepsTask_of_advances (world.spawn_passage (Call.of_onEditor allowed).1).advances known
  | editText editor text =>
      obtain rfl : editor = 0 := allowed
      obtain ⟨_, passage⟩ := world.edit_passage text
      exact passage.keepsTask known
  | tick moment => exact .of_same rfl rfl
  | cancel other => exact (start.cancel other).keepsTask known
  | receive link text => exact (start.receive link text).keepsTask known
  | drop link => exact (start.drop link).keepsTask known
  | behave peer => exact .of_same rfl rfl
  | release place => exact (start.releases (before.releaseFrame_releases place)).keepsTask known
  | releaseClose place => exact (start.releases (before.releaseClosing_releases place)).keepsTask known
  | _ => exact allowed.elim

end Endings

/-! ## What tasks hold -/

/-- Who waits for the lock awaits just the promise that the lock knows. -/
theorem EditorShape.awaits_lock
    {uri : String} {stack : List Frame} {awaiting : Option Nat} {synchronizer promise : Nat}
    {force : Bool} (shape : EditorShape uri stack awaiting)
    (member : .locking synchronizer promise force ∈ stack) : awaiting = some promise := by
  have notQuiet {frames : List Frame} (quiet : ∀ frame ∈ frames, frame.IsQuiet uri) :
      .locking synchronizer promise force ∉ frames := fun inside => quiet _ inside
  have notCaller {caller : Frame} (sends : caller.AwaitsSend) :
      .locking synchronizer promise force ≠ caller := by
    rintro rfl
    exact sends
  cases shape with
  | idle => cases member
  | begins call allowed => cases List.mem_singleton.mp member
  | quiet frames awaited quiet => exact (notQuiet quiet member).elim
  | locks awaited otherForce caller sends =>
      rcases List.mem_cons.mp member with same | isCaller
      · rw [(Frame.locking.inj same).2.1]
      · exact (notCaller sends (List.mem_singleton.mp isCaller)).elim
  | changes link change awaited caller sends =>
      rcases List.mem_append.mp member with isChange | isCaller
      · simp [changeFrames] at isChange
      · exact (notCaller sends (List.mem_singleton.mp isCaller)).elim
  | creates frames awaited quiet =>
      rcases List.mem_append.mp member with isQuiet | isLast
      · exact (notQuiet quiet isQuiet).elim
      · cases List.mem_singleton.mp isLast
  | opens link languageId text workspace file awaited =>
      simp [openingFrames] at member

section World

open LanguageClient.Client.System

variable {uri : String} {opened : Bool} {holder : Option (Nat × Change)} {view : View}
  {before system : System} {task : Nat} {found : TaskState Frame} {input : Input} {call : Call}

theorem EditorWorld.holdsPlain (world : EditorWorld uri opened holder view system) :
    system.HoldsPlain := by
  intro task found promise entry holds
  have inside := List.mem_of_getElem? entry
  rcases List.mem_append.mp holds with awaits | named
  · exact world.orderly.awaited found inside promise (Option.mem_toList.mp awaits)
  · obtain ⟨frame, member, names⟩ := List.mem_flatMap.mp named
    cases frame with
    | requesting other =>
        obtain rfl : promise = other := List.mem_singleton.mp names
        exact world.places.requests task found promise entry member
    | locking synchronizer other force =>
        obtain rfl : promise = other := List.mem_singleton.mp names
        exact world.orderly.awaited found inside promise
          ((world.orderly.tasks found inside).awaits_lock member)
    | _ => cases names

/-- No wait of the host is ended in the world of an editor. -/
theorem EditorWorld.awake (world : EditorWorld uri opened holder view system) (promise : Nat) :
    ¬ system.Wakes promise := by
  have inScope {callback : Callback Action} (coming : system.comingCallback? = some callback) :
      (editorScope uri).callback callback := by
    obtain ⟨⟨_, rest⟩, next, rfl⟩ := Option.map_eq_some_iff.mp coming
    exact (world.taken (Scheduler.taken_of_next? next)).2
  rintro (coming | ⟨timer, coming⟩)
  · exact inScope coming
  · exact inScope coming

/-! ## One input -/

/-- A query waits, and nobody has disturbed it. -/
structure System.HasQuery (system : System) (task : Nat) (call : Call) (found : TaskState Frame) :
    Prop where
  undisturbed : Undisturbed system task found
  shape : QueryShape call found.stack found.awaiting
  unended : system.ending? task = none

variable (world : EditorWorld uri opened holder view before) (separate : Separate before)
  (tracked : ∀ (task : Nat) (found : TaskState Frame), before.loop.tasks[task]? = some found →
    IsTracked found.stack)
  (queries : before.HasQuery task call found)

include world separate tracked queries

/-- A query stays as it is while somebody else has his turn. -/
theorem System.HasQuery.others
    (allowed : input.OnEditor) (uncancelled : input ≠ .cancel task)
    (waits : ∀ rest state, input = .turn → ¬ Resumes before task rest state) :
    (before.step input).HasQuery task call found := by
  have known : task < before.nextTask :=
    (List.getElem?_eq_some_iff.mp queries.undisturbed.entry).1
  exact ⟨queries.undisturbed.step world.holdsPlain separate tracked world.awake uncancelled waits,
    queries.shape, (world.keepsTask_step allowed known waits).ending.trans queries.unended⟩

/-- In its own turn a query ends, or it goes on to wait. -/
theorem System.HasQuery.own
    {rest : ClientLoop} {state : TaskState Frame} (voiced : before.Voiced) (isQuery : call.IsQuery)
    (ofEditor : (Input.call call).OnEditor) (resumes : Resumes before task rest state) :
    (∃ later, (before.step .turn).HasQuery task call later) ∨
      ∃ outcome, (before.step .turn).ending? task = some outcome ∧
        QueryEnd before task call outcome := by
  obtain rfl : found = state :=
    Option.some.inj (queries.undisturbed.entry.symm.trans resumes.entry)
  obtain ⟨editor, editors, own, _⟩ := world.parts.editor
  have attended : Attended before (before.resumed rest task) editor :=
    resumes.attended voiced separate.signals (by rw [editors]; rfl) own
      ⟨view.synchronizer, by rw [world.parts.synchronizers]; rfl⟩
  have conducts := before.resumption_conducts rest task (tracked task found resumes.entry)
  have step := queries.undisturbed.queries queries.shape isQuery ofEditor resumes
    (fun _ => resumes.settled world.punctual) attended
  generalize result : before.resumption rest task found = after at step
  cases step with
  | ends later outcome ending =>
      exact Or.inr ⟨outcome, world.ending?_of_ended resumes result, ending⟩
  | waits later frames promise shape fresh foreign =>
      obtain ⟨left, rfl, isAwaiting, undisturbed⟩ :=
        resumes.undisturbed queries.undisturbed.unminded conducts result fresh foreign
      exact Or.inl ⟨left, undisturbed, isAwaiting ▸ shape,
        world.ending?_of_suspended resumes result⟩

/-- With one input a query stays undisturbed, or it ends. -/
theorem System.HasQuery.step
    (voiced : before.Voiced) (isQuery : call.IsQuery) (ofEditor : (Input.call call).OnEditor)
    (allowed : input.OnEditor) (uncancelled : input ≠ .cancel task) :
    (∃ later, (before.step input).HasQuery task call later) ∨
      ∃ outcome, (before.step input).ending? task = some outcome ∧
        QueryEnd before task call outcome := by
  by_cases own : ∃ rest state, input = .turn ∧ Resumes before task rest state
  · obtain ⟨rest, state, rfl, resumes⟩ := own
    exact queries.own world separate tracked voiced isQuery ofEditor resumes
  · refine Or.inl ⟨found, queries.others world separate tracked allowed uncancelled ?_⟩
    exact fun rest state isTurn resumes => own ⟨rest, state, isTurn, resumes⟩

end World

/-! ## Runs -/

namespace EditorSetup

open LanguageClient.Client.System

variable (setup : EditorSetup)

theorem start_unminded (task : Nat) : ¬ setup.start.Minds task := by
  rintro (own | ⟨promise, group, isGroup, _⟩)
  · cases own
  · cases promise with
    | zero => cases isGroup
    | succ other => cases isGroup

theorem start_separate : Separate setup.start where
  apart := fun task other found otherFound promise entry otherEntry member _ => by
    cases task with
    | zero =>
        rw [← Option.some.inj entry] at member
        cases member
    | succ other => cases entry
  minded := fun task minds => (setup.start_unminded task minds).elim
  signals := nofun

theorem start_voiced : setup.start.Voiced := by
  intro workspace uri file registered
  have nothing : setup.start.openFile? workspace uri = none := rfl
  rw [nothing] at registered
  cases registered

end EditorSetup

section Runs

open LanguageClient.Client.System

variable {inputs : Nat → Input}

theorem editor_separate
    (setup : EditorSetup) (allowed : ∀ place, (inputs place).OnEditor) (count : Nat) :
    Separate (setup.start.after inputs count) := by
  induction count with
  | zero => exact setup.start_separate
  | succ count inductionHypothesis =>
      obtain ⟨view, ⟨_, _, world⟩, _⟩ := known_run setup allowed count
      obtain ⟨stage, order⟩ := editor_order setup allowed count
      exact inductionHypothesis.step world.holdsPlain order.tracked (inputs count)

theorem editor_voiced
    (setup : EditorSetup) (allowed : ∀ place, (inputs place).OnEditor) (count : Nat) :
    (setup.start.after inputs count).Voiced := by
  induction count with
  | zero => exact setup.start_voiced
  | succ count inductionHypothesis =>
      obtain ⟨stage, order⟩ := editor_order setup allowed count
      obtain ⟨deeds, step⟩ := order.step (allowed count)
      exact inductionHypothesis.of_does step.does

/-- A task that has ended has ended for good. -/
theorem editor_ending_stays
    (setup : EditorSetup) (allowed : ∀ place, (inputs place).OnEditor) {task early count : Nat}
    {outcome : Outcome Reply} (ended : (setup.start.after inputs early).ending? task = some outcome)
    (later : early ≤ count) : (setup.start.after inputs count).ending? task = some outcome := by
  induction count, later using Nat.le_induction with
  | base => exact ended
  | succ count later inductionHypothesis =>
      obtain ⟨view, ⟨_, _, world⟩, _⟩ := known_run setup allowed count
      rw [← inductionHypothesis]
      refine (world.keepsTask_step (allowed count) (known_of_ending inductionHypothesis)
        fun rest state _ resumes => ?_).ending
      rw [ending?_of_unended resumes.unended] at inductionHypothesis
      cases inductionHypothesis

/-- A call begins undisturbed. -/
theorem spawn_undisturbed (call : Call) {system : System} (separate : Separate system) :
    (∃ found, Undisturbed (system.spawn call) system.nextTask found ∧ found.stack = [.begin call] ∧
      found.awaiting = none) ∧ (system.spawn call).ending? system.nextTask = none := by
  have entry := spawn_task system call
  refine ⟨⟨_, ⟨entry, fun minds => ?_, rfl, nofun, nofun, ?_⟩, rfl, rfl⟩, ?_⟩
  · exact Nat.lt_irrefl _ (separate.minded _ (minds_of_spawn minds))
  · rintro promise (member | ⟨frame, single, asking, _⟩)
    · cases List.mem_singleton.mp member
    · rw [← (List.cons.inj single).1] at asking
      exact asking.elim
  · rw [ending?_of_entry entry]
    exact (Scheduler.spawn_outcome? _ [.begin call] system.loop).trans
      (Scheduler.outcome?_eq_none_of_le (Nat.le_refl _))

theorem spawn_hasQuery (call : Call) {system : System} (separate : Separate system) :
    ∃ found, (system.spawn call).HasQuery system.nextTask call found := by
  obtain ⟨⟨found, undisturbed, begins, idle⟩, unended⟩ := spawn_undisturbed call separate
  refine ⟨found, undisturbed, ?_, unended⟩
  rw [begins, idle]
  exact .begins

variable {task place : Nat} {call : Call}

/-- A query that the host does not cancel waits, or it has ended as queries do. -/
theorem query_run
    (setup : EditorSetup) (allowed : ∀ place, (inputs place).OnEditor)
    (called : CalledAt setup.start inputs task place call) (isQuery : call.IsQuery) {count : Nat}
    (since : place < count)
    (uncancelled : ∀ moment, place < moment → moment < count → inputs moment ≠ .cancel task) :
    (∃ found, (setup.start.after inputs count).HasQuery task call found) ∨
      ∃ turn, place < turn ∧ turn < count ∧ ∃ outcome,
        (setup.start.after inputs turn).ending? task = none ∧
          (setup.start.after inputs (turn + 1)).ending? task = some outcome ∧
            (setup.start.after inputs count).ending? task = some outcome ∧
              QueryEnd (setup.start.after inputs turn) task call outcome := by
  obtain ⟨made, rfl⟩ := called
  induction count, since using Nat.le_induction with
  | base =>
      left
      have stepped : setup.start.after inputs (place + 1) =
          (setup.start.after inputs place).spawn call := by
        rw [System.after, made]
        rfl
      rw [stepped]
      exact spawn_hasQuery call (editor_separate setup allowed place)
  | succ count since inductionHypothesis =>
      obtain ⟨view, ⟨_, _, world⟩, _⟩ := known_run setup allowed count
      obtain ⟨stage, order⟩ := editor_order setup allowed count
      have separate := editor_separate setup allowed count
      have earlier := inductionHypothesis fun moment after before =>
        uncancelled moment after (Nat.lt_succ_of_lt before)
      rcases earlier with ⟨found, query⟩ | ⟨turn, after, before, outcome, opens, ends, ended, isEnd⟩
      · rcases query.step world separate order.tracked (editor_voiced setup allowed count) isQuery
          (made ▸ allowed place) (allowed count) (uncancelled count since (Nat.lt_succ_self count))
          with stays | ⟨outcome, ended, isEnd⟩
        · exact Or.inl stays
        · exact Or.inr ⟨count, since, Nat.lt_succ_self count, outcome, query.unended, ended, ended,
            isEnd⟩
      · exact Or.inr ⟨turn, after, Nat.lt_succ_of_lt before, outcome, opens, ends,
          editor_ending_stays setup allowed ended (Nat.le_succ count), isEnd⟩

end Runs

/-! ## A hover without an editor -/

/-- The editor is closed, and its closing is through before the flush of a hover is. -/
def orphanedHover : Nat → Input
  | 0 => .behave hoverServer
  | 6 => .behave { hoverServer with holding := true }
  | 7 => .editText 0 "ab"
  | 8 => .call (.hover 0 2)
  | 10 => .call (.closeEditor 0)
  | 12 => .release 1
  | 14 => .release 0
  | _ => .turn

theorem orphanedHover_onEditor (place : Nat) : (orphanedHover place).OnEditor := by
  unfold orphanedHover
  split <;> first | rfl | trivial

end LanguageClient.Client
