import LanguageClient.Proofs.Editor.Answers
import LanguageClient.Proofs.Retry.Aside

/-!
# The turns of a start

A start goes on in its own turns only. Everybody else sustains it, and is left with frames that have
nothing to do with it.

One input leaves a call that starts or closes the editor where it is, unless the call has its turn, and
an editor at rest stays at rest until it is started or closed. Whether the peer can be reached makes no
difference to either.
-/

namespace LanguageClient.Client

open LanguageClient.Json LanguageClient.Loop LanguageClient.Number LanguageClient.Protocol

/-- All tasks but some have nothing to do with the start of an editor. -/
def System.Bystanders (others : Nat → Prop) (system : System) : Prop :=
  ∀ (task : Nat) (found : TaskState Frame), system.loop.tasks[task]? = some found →
    others task ∨ Bystander found.stack

/-- An input is no turn of one of some tasks. -/
def System.Passes (others : Nat → Prop) (input : Input) (system : System) : Prop :=
  ∀ (task : Nat) (rest : ClientLoop) (found : TaskState Frame), input = .turn →
    system.Resumes task rest found → ¬ others task

section Others

open LanguageClient.Client.System

variable {setup : EditorSetup} {uri : String} {opened : Bool} {holder : Option (Nat × Change)}
  {view : View} {before : System} {workspace alive : Option Nat} {others : Nat → Prop}
  {input : Input}

theorem Frame.IsForeign.isInner {frame : Frame} (foreign : frame.IsForeign) : frame.IsInner := by
  cases frame with
  | begin call => exact foreign.elim
  | startingCommand command => exact foreign.elim
  | hoveringCommand command => exact foreign.elim
  | completingCommand command => exact foreign.elim
  | waitingCommand command => exact foreign.elim
  | closingCommand ending => exact foreign.elim
  | _ => trivial

theorem Bystander.isTracked {frames : List Frame} (bystander : Bystander frames) :
    IsTracked frames := by
  cases bystander with
  | writes frames foreign => exact Or.inr fun frame member => (foreign frame member).isInner
  | begins call aside =>
      refine Or.inl ⟨call, rfl, ?_⟩
      cases call with
      | request session method params timeout => exact aside.elim
      | notify session method params => exact aside.elim
      | runCommand command => exact aside.elim
      | _ => trivial

/-- A step that is not one of a start sustains it. -/
theorem EditorWorld.sustains_step
    (world : EditorWorld uri opened holder view before)
    (unopened : Unopened setup workspace alive before) (bystanders : before.Bystanders others)
    (allowed : input.OnEditor) (passes : before.Passes others input) :
    Sustains setup before (before.step input) := by
  cases input with
  | turn =>
      rcases before.step_turn_cases with ⟨_, same⟩ | ⟨callback, rest, next, runs⟩
      · rw [same]
        exact (Bypasses.refl before).sustains
      · have taken := Scheduler.taken_of_next? next
        by_cases isResume : ∃ task, callback = .resume task
        · obtain ⟨task, rfl⟩ := isResume
          rcases resume_cases next with ⟨found, resumes⟩ | ⟨_, stays⟩
          · have bystander := (bystanders task found resumes.entry).resolve_left
              (passes task rest found rfl resumes)
            exact (resumes.turn_bypasses
              (resumes.bystander_bypasses bystander unopened).bypasses).sustains
          · rw [runs, stays]
            exact (taken_bypasses taken).sustains
        · have unoccupied := taken_bypasses taken
          rw [runs]
          exact (unoccupied.trans (runCallback_bypasses (unopened.of_bypasses unoccupied)
            (world.taken taken).2 (unopened.timers.taken taken).2
            fun task same => isResume ⟨task, same⟩)).sustains
  | call call => exact (Bypasses.onLoop before fun avoids => avoids.spawn _).sustains
  | editText editor text =>
      obtain rfl : editor = 0 := allowed
      exact (unopened.edited text).1
  | tick moment => exact (Bypasses.onLoop before fun avoids => avoids.of_same rfl rfl rfl).sustains
  | cancel task => exact (Bypasses.onLoop before fun avoids => avoids.cancel task).sustains
  | receive link text => exact (receive_bypasses before link text).sustains
  | drop link => exact (drop_bypasses before link).sustains
  | behave peer => exact (Bypasses.withPeer before _).sustains
  | release place => exact (releases_bypasses before (before.releaseFrame_releases place)).sustains
  | releaseClose place => exact (releases_bypasses before (before.releaseClosing_releases place)).sustains
  | _ => exact allowed.elim

/-- A task that has not just had its turn is a bystander still, and so is a new one. -/
theorem bystander_of_stays
    {task : Nat} {later : TaskState Frame} (bystanders : before.Bystanders others)
    (calls : ∀ call, input = .call call → call.IsAside) (stays : Stays before input task later) :
    others task ∨ Bystander later.stack := by
  rcases stays with ⟨earlier, entry, same, _⟩ | ⟨_, _, own | ⟨call, isCall, begins⟩⟩
  · rw [same]
    exact bystanders task earlier entry
  · rcases own with ⟨session, id, begins⟩ | ⟨synchronizer, begins⟩
    · exact Or.inr (begins ▸ .begins _ trivial)
    · exact Or.inr (begins ▸ .begins _ trivial)
  · exact Or.inr (begins ▸ .begins call (calls call isCall))

theorem System.Bystanders.step
    (bystanders : before.Bystanders others) (unopened : Unopened setup workspace alive before)
    (tracked : ∀ (task : Nat) (found : TaskState Frame), before.loop.tasks[task]? = some found →
      IsTracked found.stack)
    (calls : ∀ call, input = .call call → call.IsAside) (passes : before.Passes others input) :
    (before.step input).Bystanders others := by
  intro other later entry
  cases before.step_conducted tracked input with
  | aside aside tasks => exact bystander_of_stays bystanders calls (tasks other later entry)
  | turn task rest found isTurn resumes turned =>
      subst isTurn
      by_cases same : other = task
      · subst same
        have bystander := (bystanders other found resumes.entry).resolve_left
          (passes other rest found rfl resumes)
        obtain ⟨_, left, _⟩ := resumes.leftEntry
          (before.resumption_conducts rest other (tracked other found resumes.entry))
        rw [← Option.some.inj (left.symm.trans entry)]
        exact Or.inr (.writes _ (resumes.bystander_bypasses bystander unopened).frames)
      · exact bystander_of_stays bystanders calls (turned.others other later same entry)

end Others

/-! ## Where a start is -/

/-- Where a call that starts or closes the editor is between two turns. -/
inductive Engaged
    (setup : EditorSetup) (wire : List Value) (announces : String → Prop) (system : System) :
    Call → List Frame → Prop where
  | starts (frames : List Frame) (underway : Underway setup wire announces system frames) :
    Engaged setup wire announces system (.start 0) frames
  | closes (unopened : Unopened setup none none system) :
    Engaged setup wire announces system (.closeEditor 0) [.begin (.closeEditor 0)]

/-- The task of a call that starts or closes the editor has not ended, and it is left in peace while
its start is abandoned. -/
structure System.Engages
    (setup : EditorSetup) (wire : List Value) (announces : String → Prop) (call : Call) (task : Nat)
    (system : System) : Prop where
  place : ∃ found : TaskState Frame, system.loop.tasks[task]? = some found ∧
    Engaged setup wire announces system call found.stack ∧
    ((∃ frame ∈ found.stack, frame.Retreats) → system.Undisturbed task found)
  unended : system.ending? task = none
  unminded : ¬ system.Minds task
  bystanders : system.Bystanders (· = task)

/-- Nobody starts or closes the editor, which has no workspace and no session. -/
structure System.Rests (setup : EditorSetup) (system : System) : Prop where
  unopened : Unopened setup none none system
  bystanders : system.Bystanders fun _ => False

section Engaged

open LanguageClient.Client.System

variable {setup : EditorSetup} {wire : List Value} {announces more : String → Prop}
  {before after system : System} {call : Call} {task : Nat} {frames : List Frame}

theorem Underway.mono
    (underway : Underway setup wire announces system frames)
    (within : ∀ text, announces text → more text) : Underway setup wire more system frames := by
  cases underway with
  | begins unopened silent => exact .begins unopened silent
  | creates inner creating => exact .creates inner creating
  | opens link workspace file session text welcomes announced isAnnounced =>
      exact .opens link workspace file session text welcomes announced (within text isAnnounced)
  | retreats workspace ending unreturned unopened =>
      exact .retreats workspace ending unreturned unopened

theorem Creating.unopened (creating : Creating setup wire system frames) :
    ∃ alive, Unopened setup none alive system := by
  cases creating with
  | asks inner session serverUri foreign unopened silent => exact ⟨_, unopened⟩
  | confirms inner session serverUri result foreign unopened silent => exact ⟨_, unopened⟩
  | leaves ending unreturned unopened => exact ⟨_, unopened⟩

theorem Engaged.unopened (engaged : Engaged setup wire announces system call frames) :
    ∃ workspace alive, Unopened setup workspace alive system := by
  cases engaged with
  | closes unopened => exact ⟨_, _, unopened⟩
  | starts frames underway =>
      cases underway with
      | begins unopened silent => exact ⟨_, _, unopened⟩
      | creates inner creating => exact ⟨_, creating.unopened⟩
      | opens link workspace file session text welcomes announced isAnnounced =>
          exact ⟨_, _, welcomes.unopened⟩
      | retreats workspace ending unreturned unopened => exact ⟨_, _, unopened⟩

theorem Engaged.of_sustains
    (engaged : Engaged setup wire announces before call frames)
    (sustains : Sustains setup before after) : Engaged setup wire announces after call frames := by
  cases engaged with
  | starts frames underway => exact .starts frames (underway.of_sustains sustains)
  | closes unopened => exact .closes (sustains.unopened _ _ unopened)

theorem Frame.IsForeign.not_retreats {frame : Frame} (foreign : frame.IsForeign) :
    ¬ frame.Retreats := by
  cases frame with
  | abandoningStart editor ending => exact foreign.elim
  | _ => exact id

/-- The creation of a workspace has begun and abandons no start. -/
theorem Creating.frame_cases
    {frame : Frame} (creating : Creating setup wire system frames) (member : frame ∈ frames) :
    frame.IsInner ∧ ¬ frame.Retreats := by
  cases creating with
  | asks inner session serverUri foreign unopened silent =>
      rcases List.mem_append.mp member with inside | isLast
      · exact ⟨(foreign frame inside).isInner, (foreign frame inside).not_retreats⟩
      · rw [List.mem_singleton.mp isLast]
        exact ⟨trivial, id⟩
  | confirms inner session serverUri result foreign unopened silent =>
      rcases List.mem_append.mp member with inside | isLast
      · exact ⟨(foreign frame inside).isInner, (foreign frame inside).not_retreats⟩
      · rw [List.mem_singleton.mp isLast]
        exact ⟨trivial, id⟩
  | leaves ending unreturned unopened =>
      rcases List.mem_pair.mp member with rfl | rfl <;> exact ⟨trivial, id⟩

theorem Engaged.mono
    (engaged : Engaged setup wire announces system call frames)
    (within : ∀ text, announces text → more text) : Engaged setup wire more system call frames := by
  cases engaged with
  | starts frames underway => exact .starts _ (underway.mono within)
  | closes unopened => exact .closes unopened

theorem System.Engages.mono
    (engages : system.Engages setup wire announces call task)
    (within : ∀ text, announces text → more text) :
    system.Engages setup wire more call task := by
  obtain ⟨found, entry, engaged, undisturbed⟩ := engages.place
  exact ⟨⟨found, entry, engaged.mono within, undisturbed⟩, engages.unended, engages.unminded,
    engages.bystanders⟩

/-- A start that is abandoned waits for its session to be closed. -/
theorem Engaged.retreats_eq
    {frame : Frame} (engaged : Engaged setup wire announces system call frames)
    (member : frame ∈ frames) (retreats : frame.Retreats) :
    ∃ ending, frames = [.closingLink, .abandoningStart 0 ending] := by
  cases engaged with
  | closes unopened =>
      rw [List.mem_singleton.mp member] at retreats
      exact retreats.elim
  | starts frames underway =>
      cases underway with
      | begins unopened silent =>
          rw [List.mem_singleton.mp member] at retreats
          exact retreats.elim
      | creates inner creating =>
          rcases List.mem_append.mp member with inside | isLast
          · exact ((creating.frame_cases inside).2 retreats).elim
          · rw [List.mem_singleton.mp isLast] at retreats
            exact retreats.elim
      | opens link workspace file session text welcomes announced isAnnounced =>
          simp only [openingFrames, List.mem_cons, List.not_mem_nil, or_false] at member
          rcases member with rfl | rfl | rfl | rfl <;> exact retreats.elim
      | retreats workspace ending unreturned unopened => exact ⟨ending, rfl⟩

theorem Engaged.isTracked (engaged : Engaged setup wire announces system call frames) :
    IsTracked frames := by
  cases engaged with
  | closes unopened => exact Or.inl ⟨_, rfl, trivial⟩
  | starts frames underway =>
      cases underway with
      | begins unopened silent => exact Or.inl ⟨_, rfl, trivial⟩
      | creates inner creating =>
          refine Or.inr (List.forall_mem_append.mpr
            ⟨fun frame inside => (creating.frame_cases inside).1, fun frame isLast => ?_⟩)
          rw [List.mem_singleton.mp isLast]
          trivial
      | opens link workspace file session text welcomes announced isAnnounced =>
          exact Or.inr (by simp [openingFrames, Frame.IsInner])
      | retreats workspace ending unreturned unopened => exact Or.inr (by simp [Frame.IsInner])

theorem System.Engages.tracked
    (engages : system.Engages setup wire announces call task) (other : Nat)
    (found : TaskState Frame) (entry : system.loop.tasks[other]? = some found) :
    IsTracked found.stack := by
  rcases engages.bystanders other found entry with rfl | bystander
  · obtain ⟨state, stateEntry, engaged, _⟩ := engages.place
    rw [Option.some.inj (entry.symm.trans stateEntry)]
    exact engaged.isTracked
  · exact bystander.isTracked

theorem System.Rests.tracked
    (rests : system.Rests setup) (other : Nat) (found : TaskState Frame)
    (entry : system.loop.tasks[other]? = some found) : IsTracked found.stack :=
  ((rests.bystanders other found entry).resolve_left id).isTracked

end Engaged

/-! ## The turn of a start -/

/-- What the turn of a call that starts or closes the editor leaves. -/
inductive EngagedTurn
    (setup : EditorSetup) (wire : List Value) (announces : String → Prop) (call : Call) (task : Nat)
    (after : System) : Prop where
  | ends (outcome : Outcome Reply) (ended : after.ending? task = some outcome)
      (unsuccessful : call = .start 0 → ∀ reply, outcome ≠ .returned reply)
      (rests : after.Rests setup)
  | engages (engages : after.Engages setup wire announces call task)
  | attaches (text : String) (outcome : Outcome Reply) (ended : after.ending? task = some outcome)
      (isStart : call = .start 0) (isAnnounced : announces text)
      (attached : Attached setup wire text after)
      (ending : outcome = .returned .nothing ∨ setup.options.debounce.delay? = none)

section Turn

open LanguageClient.Client.System

variable {setup : EditorSetup} {wire : List Value} {announces more : String → Prop} {uri : String}
  {opened : Bool} {holder : Option (Nat × Change)} {view : View} {before later : System}
  {call : Call} {task promise : Nat} {rest : ClientLoop} {found : TaskState Frame}
  {frames : List Frame} {outcome : Outcome Reply}

variable (world : EditorWorld uri opened holder view before)
  (engages : before.Engages setup wire announces call task)
  (resumes : Resumes before task rest found)

include engages resumes

theorem System.Engages.turn_bystanders : (before.step .turn).Bystanders (· = task) := by
  intro other later entry
  by_cases same : other = task
  · exact Or.inl same
  · have stays := resumes.others
      (before.resumption_conducts rest task (engages.tracked task found resumes.entry)) same entry
    have noCall : ∀ call, Input.turn = .call call → call.IsAside := fun _ isCall => by cases isCall
    exact (bystander_of_stays engages.bystanders noCall stays :)

include world

/-- The call ends, and the editor rests. -/
theorem System.Engages.turn_rests
    (ends : before.resumption rest task found = (later, .ended outcome))
    (unopened : Unopened setup none none later) :
    (before.step .turn).ending? task = some outcome ∧ (before.step .turn).Rests setup := by
  refine ⟨world.ending?_of_ended resumes ends, ?_, fun other state entry => Or.inr ?_⟩
  · rw [resumes.step_turn, ends]
    exact unopened.of_bypasses (settleTask_bypasses task found.completion (later, .ended outcome))
  · rcases engages.turn_bystanders resumes other state entry with rfl | bystander
    · obtain ⟨_, left, _⟩ := resumes.leftEntry
        (before.resumption_conducts rest other (engages.tracked other found resumes.entry))
      rw [← Option.some.inj (left.symm.trans entry), ends]
      exact .writes [] fun _ member => absurd member List.not_mem_nil
    · exact bystander

/-- The call waits once more. -/
theorem System.Engages.turn_engages
    (suspends : before.resumption rest task found = (later, .suspended frames promise))
    (engaged : Engaged setup wire more later call frames)
    (fresh : ∀ ending, frames = [.closingLink, .abandoningStart 0 ending] → later.IsFresh promise) :
    (before.step .turn).Engages setup wire more call task := by
  have known : task < before.nextTask := (List.getElem?_eq_some_iff.mp resumes.entry).1
  have conducts := before.resumption_conducts rest task (engages.tracked task found resumes.entry)
  have stillEngaged : Engaged setup wire more (before.step .turn) call frames := by
    rw [resumes.step_turn, suspends]
    exact engaged.of_sustains (settleTask_bypasses task found.completion
      (later, .suspended frames promise)).sustains
  refine ⟨?_, world.ending?_of_suspended resumes suspends,
    unminded_step engages.tracked known engages.unminded .turn, engages.turn_bystanders resumes⟩
  by_cases retreats : ∃ frame ∈ frames, frame.Retreats
  · obtain ⟨frame, member, isRetreat⟩ := retreats
    obtain ⟨ending, rfl⟩ := engaged.retreats_eq member isRetreat
    have isFresh := fresh ending rfl
    obtain ⟨left, sameStack, _, undisturbed⟩ :=
      resumes.undisturbed engages.unminded conducts suspends
        (fun other member => by
          rw [List.mem_singleton.mp member]
          exact isFresh)
        (fun other holds => by
          rcases holds with member | ⟨_, single, _⟩
          · simp at member
          · cases single)
    exact ⟨left, undisturbed.entry, sameStack ▸ stillEngaged, fun _ => undisturbed⟩
  · obtain ⟨flag, left, _⟩ := resumes.leftEntry conducts
    rw [suspends] at left
    exact ⟨_, left, stillEngaged, fun isRetreat => (retreats isRetreat).elim⟩

/-- What the client is like after the turn of a start that opens the document. -/
theorem System.Engages.turn_opens
    {text : String} {size : Nat} (isStart : call = .start 0)
    (opens : (before.resumption rest task found).Opens setup wire text size)
    (isAnnounced : (before.step .turn).workspaces.length = size → more text) :
    EngagedTurn setup wire more call task (before.step .turn) := by
  subst isStart
  have stepped := settleTask_bypasses task found.completion (before.resumption rest task found)
  rw [← resumes.step_turn] at stepped
  generalize result : before.resumption rest task found = step at opens stepped
  cases opens with
  | fails later ending unreturned unopened =>
      obtain ⟨ended, rests⟩ := engages.turn_rests world resumes result unopened
      exact .ends ending ended (fun _ => unreturned) rests
  | retreats later workspace ending promise unreturned unopened fresh =>
      exact .engages (engages.turn_engages world resumes result
        (.starts _ (.retreats workspace ending unreturned unopened)) fun _ _ => fresh)
  | waits later link workspace file session promise welcomes announced sized =>
      have underway : Underway setup wire more later _ :=
        .opens link workspace file session text welcomes announced
          (isAnnounced (stepped.workspaces_length.trans sized))
      exact .engages (engages.turn_engages world resumes result (.starts _ underway) nofun)
  | attaches later outcome attached sized ending =>
      refine .attaches text outcome (world.ending?_of_ended resumes result) rfl
        (isAnnounced (stepped.workspaces_length.trans sized)) ⟨?_, ?_⟩ (ending.imp_right And.left)
      · rw [stepped.synchronizers]
        exact attached.synchronizer
      · exact stepped.wire.trans attached.announced

/-- The turn of a call that starts or closes the editor. A start announces the text that the editor
has when its workspace is added. -/
theorem System.Engages.turn :
    EngagedTurn setup wire
      (fun text => announces text ∨ text = before.documentText ∧
        before.workspaces.length < (before.step .turn).workspaces.length)
      call task (before.step .turn) := by
  have bypasses := resumes.resumed_bypasses
  obtain ⟨state, entry, engaged, undisturbed⟩ := engages.place
  obtain rfl : found = state := Option.some.inj (resumes.entry.symm.trans entry)
  generalize stackEq : found.stack = stack at engaged
  cases engaged with
  | closes unopened =>
      have result : ∃ outcome, before.resumption rest task found =
          (before.resumed rest task, .ended outcome) := by
        rcases before.resumption_begin rest task stackEq with calls | ⟨outcome, _, ends⟩
        · exact ⟨_, calls.trans (closeEditor_unopened (unopened.of_bypasses bypasses))⟩
        · exact ⟨outcome, ends⟩
      obtain ⟨outcome, ends⟩ := result
      obtain ⟨ended, rests⟩ := engages.turn_rests world resumes ends (unopened.of_bypasses bypasses)
      exact .ends outcome ended nofun rests
  | starts frames underway =>
      have spared : ∀ frame ∈ stack, frame.Retreats → before.signalOf found ≠ .cancelled := by
        intro frame member retreats
        exact (undisturbed ⟨frame, stackEq ▸ member, retreats⟩).signal_ne_cancelled
          (fun _ => resumes.settled world.punctual)
      have goesOn := (underway.of_sustains bypasses.sustains).resumes (before.signalOf found) spared
      rw [← stackEq] at goesOn
      rcases goesOn with starts | ⟨text, isAnnounced, opens⟩
      · generalize result : (before.resumed rest task).resumeStack (before.signalOf found)
          found.stack = step at starts
        cases starts with
        | fails later ending unreturned unopened =>
            obtain ⟨ended, rests⟩ := engages.turn_rests world resumes result unopened
            exact .ends ending ended (fun _ => unreturned) rests
        | creates later inner promise creating =>
            refine .engages (engages.turn_engages world resumes result
              (.starts _ (.creates inner creating)) fun ending isRetreat => ?_)
            have last := congrArg List.getLast? isRetreat
            simp at last
        | opens step opens =>
            subst result
            refine engages.turn_opens world resumes rfl opens fun sized => Or.inr ⟨rfl, ?_⟩
            have size : (before.resumed rest task).workspaces.length = before.workspaces.length := rfl
            omega
      · exact engages.turn_opens world resumes rfl opens fun _ => Or.inl isAnnounced

end Turn

/-! ## Who starts or closes the editor -/

/-- A call that starts or closes the editor. -/
def Call.IsLifecycle : Call → Prop
  | .start editor | .closeEditor editor => editor = 0
  | _ => False

/-- What the host may do with an editor that is started more than once. -/
def Input.IsAttempt (input : Input) : Prop := input = .call (.start 0) ∨ input.OnEditor

/-- The start of a task is abandoned: its session is closed before it ends. -/
def System.IsRetreating (system : System) (task : Nat) : Prop :=
  ∃ found : TaskState Frame, system.loop.tasks[task]? = some found ∧
    ∃ frame ∈ found.stack, frame.Retreats

/-- From now on the peer can be reached or not. -/
def System.facing (unreachable : Option Failure) (system : System) : System :=
  { system with editors := system.editors.map fun found => { found with unreachable } }

section Steps

open LanguageClient.Client.System

variable {setup : EditorSetup} {wire : List Value} {announces : String → Prop} {uri : String}
  {opened : Bool} {holder : Option (Nat × Change)} {view : View} {before system : System}
  {call : Call} {task : Nat} {input : Input} {unreachable : Option Failure}

/-! ## Reaching the peer -/

theorem sustains_facing (system : System) (unreachable : Option Failure) :
    Sustains setup system (system.facing unreachable) where
  unopened := fun workspace alive unopened => by
    obtain ⟨other, only⟩ := unopened.editor
    obtain ⟨found, isOnly, same⟩ := List.map_eq_singleton_iff.mp only
    refine { unopened with editor := ⟨unreachable, ?_⟩ }
    have faced : ({ found with unreachable } : Editor).unshown =
        { found.unshown with unreachable } := rfl
    simp only [System.facing, isOnly, List.map_cons, List.map_nil, faced, same]
  wire := rfl
  workspaces := rfl

theorem EditorWorld.facing
    (world : EditorWorld uri opened holder view system) (unreachable : Option Failure) :
    EditorWorld uri opened holder view (system.facing unreachable) := by
  obtain ⟨found, only, isFirst, documentUri⟩ := world.parts.editor
  exact { world with
    parts := { world.parts with
      editor := ⟨{ found with unreachable }, by simp [System.facing, only], isFirst, documentUri⟩ } }

theorem separate_facing (separate : Separate system) (unreachable : Option Failure) :
    Separate (system.facing unreachable) :=
  ⟨separate.apart, separate.minded, separate.signals⟩

theorem System.Engages.facing
    (engages : system.Engages setup wire announces call task) (unreachable : Option Failure) :
    (system.facing unreachable).Engages setup wire announces call task := by
  obtain ⟨found, entry, engaged, undisturbed⟩ := engages.place
  refine ⟨⟨found, entry, engaged.of_sustains (sustains_facing system unreachable),
    fun retreats => ?_⟩, engages.unended, engages.unminded, engages.bystanders⟩
  obtain ⟨entry, unminded, uncancelled, ungrouped, kind, answers⟩ := undisturbed retreats
  exact ⟨entry, unminded, uncancelled, ungrouped, kind, answers⟩

theorem System.Rests.facing (rests : system.Rests setup) (unreachable : Option Failure) :
    (system.facing unreachable).Rests setup :=
  ⟨(sustains_facing system unreachable).unopened _ _ rests.unopened, rests.bystanders⟩

/-! ## Calls -/

theorem Input.OnEditor.isAside
    (allowed : (Input.call call).OnEditor) (other : ¬ call.IsLifecycle) : call.IsAside := by
  cases call with
  | hover editor offset => exact allowed
  | complete editor offset explicit => exact allowed
  | refresh editor => exact allowed
  | closeEditor editor => exact (other allowed).elim
  | _ => exact allowed.elim

theorem Bystander.not_starting {frames : List Frame} (bystander : Bystander frames) :
    ¬ IsStarting frames := by
  rintro ⟨frame, member, starts⟩
  cases bystander with
  | begins call aside =>
      rw [List.mem_singleton.mp member] at starts
      cases call with
      | start editor => exact aside
      | _ => exact starts
  | writes frames foreign =>
      have isForeign := foreign frame member
      cases frame with
      | sending link frame => exact starts
      | writing subject => exact starts
      | requesting promise => exact starts
      | closingLink => exact starts
      | _ => exact isForeign

/-- The editor is started or closed when it is at rest. -/
theorem System.Rests.spawn_engages
    (rests : before.Rests setup) (world : EditorWorld uri opened holder view before)
    (separate : Separate before) (lifecycle : call.IsLifecycle) :
    (before.spawn call).Engages setup before.wire announces call before.nextTask := by
  have entry := spawn_task before call
  have bypasses : Bypasses before (before.spawn call) := .onLoop before fun avoids => avoids.spawn _
  have unopened := rests.unopened.of_bypasses bypasses
  refine ⟨⟨_, entry, ?_, ?_⟩, ?_, fun minds => ?_, fun other found otherEntry => ?_⟩
  · cases call with
    | start editor =>
        obtain rfl : editor = 0 := lifecycle
        exact .starts _ (.begins unopened bypasses.wire)
    | closeEditor editor =>
        obtain rfl : editor = 0 := lifecycle
        exact .closes unopened
    | _ => exact lifecycle.elim
  · rintro ⟨frame, member, retreats⟩
    rw [List.mem_singleton.mp member] at retreats
    exact retreats.elim
  · rw [ending?_of_entry entry]
    exact (Scheduler.spawn_outcome? _ [.begin call] before.loop).trans
      (Scheduler.outcome?_eq_none_of_le (Nat.le_refl _))
  · exact Nat.lt_irrefl _ (separate.minded _ (minds_of_spawn minds))
  · have allowed : call.AtEditor := by
      cases call with
      | start editor => exact lifecycle
      | closeEditor editor => exact lifecycle
      | _ => exact lifecycle.elim
    rcases world.spawn_cases allowed otherEntry with ⟨earlier, earlierEntry, same⟩ | ⟨isNew, _⟩
    · exact Or.inr (same ▸ (rests.bystanders other earlier earlierEntry).resolve_left id)
    · exact Or.inl isNew

/-! ## One input -/

variable (world : EditorWorld uri opened holder view before) (allowed : input.OnEditor)
  (calls : ∀ call, input = .call call → ¬ call.IsLifecycle)

include world

/-- A task that has ended stays so. -/
theorem EditorWorld.ended_step
    {outcome : Outcome Reply} (allowed : input.IsAttempt) (ended : before.ending? task = some outcome) :
    (before.step input).ending? task = some outcome := by
  have known := known_of_ending ended
  have keeps : before.KeepsTask (before.step input) task := by
    rcases allowed with rfl | onEditor
    · have atEditor : (Call.start 0).AtEditor := rfl
      exact keepsTask_of_advances (world.spawn_passage atEditor).advances known
    · refine world.keepsTask_step onEditor known fun rest found _ resumes => ?_
      rw [ending?_of_unended resumes.unended] at ended
      cases ended
  rw [keeps.ending]
  exact ended

include allowed calls

theorem System.Rests.step (rests : before.Rests setup) : (before.step input).Rests setup := by
  have passes : before.Passes (fun _ => False) input := fun _ _ _ _ _ => id
  have asides (call : Call) (isCall : input = .call call) : call.IsAside := by
    subst isCall
    exact allowed.isAside (calls call rfl)
  exact ⟨(world.sustains_step rests.unopened rests.bystanders allowed passes).unopened _ _
    rests.unopened, rests.bystanders.step rests.unopened rests.tracked asides passes⟩

/-- A call stays where it is while somebody else has his turn. -/
theorem System.Engages.others
    (engages : before.Engages setup wire announces call task) (separate : Separate before)
    (spared : input = .cancel task → ¬ before.IsRetreating task)
    (waits : ∀ rest found, input = .turn → ¬ Resumes before task rest found) :
    (before.step input).Engages setup wire announces call task := by
  obtain ⟨found, entry, engaged, undisturbed⟩ := engages.place
  obtain ⟨workspace, alive, unopened⟩ := engaged.unopened
  have known : task < before.nextTask := (List.getElem?_eq_some_iff.mp entry).1
  have keeps := world.keepsTask_step allowed known waits
  have passes : before.Passes (· = task) input := fun other rest state isTurn resumes same =>
    waits rest state isTurn (same ▸ resumes)
  have asides (call : Call) (isCall : input = .call call) : call.IsAside := by
    subst isCall
    exact allowed.isAside (calls call rfl)
  have sustains := world.sustains_step unopened engages.bystanders allowed passes
  refine ⟨?_, keeps.ending.trans engages.unended,
    unminded_step engages.tracked known engages.unminded input,
    engages.bystanders.step unopened engages.tracked asides passes⟩
  obtain ⟨cancelRequested, laterEntry⟩ := keeps.entry found entry
  refine ⟨_, laterEntry, engaged.of_sustains sustains, fun retreats => ?_⟩
  have still := (undisturbed retreats).step world.holdsPlain separate engages.tracked world.awake
    (fun isCancel => spared isCancel ⟨found, entry, retreats⟩) waits
  rw [Option.some.inj (laterEntry.symm.trans still.entry)]
  exact still

end Steps

end LanguageClient.Client
