import LanguageClient.Proofs.Session.Registration
import LanguageClient.Proofs.Workspace.Dialogue

/-!
# The discipline of handles

As long as no announcement fails, the frames about every document form a dialogue, and each handle has
one life: it is open from its announcement until it is closed or its workspace is, and after that it
neither hands anything over nor touches the register.
-/

namespace LanguageClient.Client

open LanguageClient.Json LanguageClient.Loop LanguageClient.Number LanguageClient.Protocol

/-- A client with one workspace whose handshake is over. -/
def System.ofWorkspace (resolution : Rat) (timeout : Quantity) (result : InitializeResult) : System :=
  (System.ofSession resolution timeout).addWorkspace 0 result

/-- A turn in which a task ends and nothing else happens: nothing is handed over, and all registers
stay. -/
structure System.OnlyEnds (before : System) (task : Nat) (outcome : Outcome Reply)
    (after : System) : Prop where
  journal : after.journal = before.journal ++ [.ended task outcome]
  registers : ∀ workspace uri, after.openFile? workspace uri = before.openFile? workspace uri

/-- A handle that is done for good from some moment of a run on. Changes through it fail, and closing
it once more does nothing. -/
structure System.Retires
    (start : System) (inputs : Nat → Input) (count file : Nat) (uri : String) : Prop where
  isClosed : ∀ later, count ≤ later → (start.after inputs later).isOpen file = false
  silent : ∀ later, count ≤ later → ∀ handover ∈
    (start.after inputs later).handoversIn (inputs later), handover.handle ≠ some file
  changes : ∀ (later task : Nat) (version : Int) (text : String), count ≤ later →
    inputs later = .turn → (start.after inputs later).comingCallback? = some (.resume task) →
      (start.after inputs later).begunCall? task = some (.changeFile file version text) →
        (start.after inputs later).OnlyEnds task (.failed (.documentClosed uri))
          (start.after inputs (later + 1))
  closes : ∀ later task : Nat, count ≤ later →
    inputs later = .turn → (start.after inputs later).comingCallback? = some (.resume task) →
      (start.after inputs later).begunCall? task = some (.closeFile file) →
        (start.after inputs later).OnlyEnds task (.returned .nothing)
          (start.after inputs (later + 1))

section Turn

open LanguageClient.Client.System

variable {before : System} {task file : Nat} {found : OpenFile}

/-! ## Handles that are closed -/

/-- The turn in which a call begins. -/
theorem resumes_of_begun
    {call : Call} (coming : before.comingCallback? = some (.resume task))
    (begun : before.begunCall? task = some call) :
    ∃ rest state, Resumes before task rest state ∧ state.cancelRequested = false ∧
      state.stack = [.begin call] := by
  obtain ⟨⟨callback, rest⟩, next, rfl⟩ := Option.map_eq_some_iff.mp coming
  obtain ⟨state, entry, begins⟩ := Option.bind_eq_some_iff.mp begun
  split at begins
  · cases begins
  · rename_i goesOn
    simp only [Bool.or_eq_true, not_or, Bool.not_eq_true] at goesOn
    refine ⟨rest, state, ⟨next, entry, goesOn.1⟩, goesOn.2, ?_⟩
    split at begins
    · rename_i isBegin
      rw [isBegin, Option.some.inj begins]
    · cases begins

/-- A call that ends at once leaves nothing but its end. -/
theorem step_of_begun
    {call : Call} {outcome : Outcome Reply} (world : WorkspaceWorld before)
    (coming : before.comingCallback? = some (.resume task))
    (begun : before.begunCall? task = some call)
    (ends : ∀ system : System, system.files = before.files →
      (∀ other, system.isOpen other = before.isOpen other) →
        system.call call = (system, .ended outcome)) :
    before.OnlyEnds task outcome (before.step .turn) := by
  obtain ⟨rest, state, resumes, uncancelled, begins⟩ := resumes_of_begun coming begun
  have idle : state.awaiting = none := by
    have shape := world.shapes task state resumes.entry
    rw [begins] at shape
    generalize state.awaiting = awaiting at shape
    cases shape with
    | begins call allowed => rfl
    | rests frames awaiting inner course => exact (inner _ List.mem_cons_self).elim
  have result : before.resumption rest task state =
      (before.resumed rest task, .ended outcome) := by
    unfold resumption
    rw [signalOf_of_idle uncancelled idle, begins, resumeStack_begin]
    exact ends _ rfl fun _ => rfl
  have noted := resumes.journal_of_ended result
  refine ⟨noted, fun workspace uri => ?_⟩
  have does : Does (before.resumed rest task) [] (before.resumption rest task state).1 := by
    rw [result]
    exact .refl _
  exact (resumes.does_of_resumption does).of_nil.openFile? workspace uri

theorem changeFile_of_closed
    {version : Int} {text : String} (world : WorkspaceWorld before)
    (coming : before.comingCallback? = some (.resume task))
    (begun : before.begunCall? task = some (.changeFile file version text))
    (known : before.files[file]? = some found) (isClosed : before.isOpen file = false) :
    before.OnlyEnds task (.failed (.documentClosed found.uri)) (before.step .turn) := by
  refine step_of_begun world coming begun fun system sameFiles sameOpen => ?_
  simp only [System.call, changeFile, sameFiles, known, sameOpen, isClosed, Bool.not_false, if_true,
    Step.failed]

theorem closeFile_of_closed
    (world : WorkspaceWorld before) (coming : before.comingCallback? = some (.resume task))
    (begun : before.begunCall? task = some (.closeFile file))
    (known : before.files[file]? = some found) (isClosed : before.isOpen file = false) :
    before.OnlyEnds task (.returned .nothing) (before.step .turn) := by
  refine step_of_begun world coming begun fun system sameFiles sameOpen => ?_
  simp only [System.call, closeFile, sameFiles, known, sameOpen, isClosed, Bool.not_false, if_true,
    Step.returned]

/-- Nothing is handed over through a handle that is closed. -/
theorem System.Moves.not_through
    {input : Input} (moves : System.Moves before input (before.step input))
    (known : before.files[file]? = some found) (isClosed : before.isOpen file = false) :
    ∀ handover ∈ before.handoversIn input, handover.handle ≠ some file := by
  intro handover member isHandle
  have acts : before.comingHandle? input = some file := by
    obtain ⟨frame, _, rfl⟩ := List.mem_map.mp member
    exact isHandle
  have notNew : file ≠ before.files.length := fun same =>
    Nat.lt_irrefl _ (same ▸ (List.getElem?_eq_some_iff.mp known).1)
  have silent (same : (before.step input).wire = before.wire) : False := by
    rw [handoversIn_of_silent same] at member
    exact List.not_mem_nil member
  have notUsed {here : System} (aside : Aside before here) : here.isOpen file ≠ true := by
    rw [aside.isOpen known, isClosed]
    exact Bool.false_ne_true
  cases moves with
  | quiet aside => exact silent aside.wire
  | clears workspace does =>
      obtain ⟨here, there, aside, performs, rest⟩ := does.single
      obtain ⟨_, rfl, wire⟩ := performs.wire
      exact silent (by rw [rest.wire, wire, List.append_nil, aside.wire])
  | changes task other version text isTurn coming does =>
      subst isTurn
      rw [comingHandle?_of_call coming] at acts
      obtain rfl : other = file := Option.some.inj acts
      obtain ⟨here, there, aside, performs, rest⟩ := does.single
      cases performs with
      | change _ record link version text recorded isOpen writable => exact notUsed aside isOpen
  | closes task other deed isTurn coming isClosing does =>
      subst isTurn
      rw [comingHandle?_of_call coming] at acts
      obtain rfl : other = file := Option.some.inj acts
      obtain ⟨here, there, aside, performs, rest⟩ := does.single
      rcases isClosing with rfl | rfl
      · cases performs with
        | retract _ record link recorded isOpen writable => exact notUsed aside isOpen
      · cases performs with
        | forget _ record recorded isOpen unwritable => exact notUsed aside isOpen
  | announces task workspace uri languageId text listeners isTurn coming does =>
      subst isTurn
      rw [comingHandle?_of_call coming] at acts
      exact notNew (Option.some.inj acts).symm
  | refused task workspace uri languageId text listeners failure isTurn coming does ended =>
      subst isTurn
      rw [comingHandle?_of_call coming] at acts
      exact notNew (Option.some.inj acts).symm
  | withdraws task workspace uri outcome opening does ended fails =>
      obtain ⟨here, there, aside, performs, rest⟩ := does.single
      obtain ⟨_, rfl, wire⟩ := performs.wire
      exact silent (by rw [rest.wire, wire, List.append_nil, aside.wire])

end Turn

/-! ## Runs of a workspace -/

section Run

open LanguageClient.Client.System

variable {start : System} {inputs : Nat → Input} {count file : Nat} {found : OpenFile}

theorem handovers_frames
    (worlds : ∀ place, WorkspaceWorld (start.after inputs place))
    (allowed : ∀ place, (inputs place).OnWorkspace) (nothing : start.wire = []) (count : Nat) :
    (start.handovers inputs count).map (·.frame) = (start.after inputs count).wire := by
  induction count with
  | zero => exact nothing.symm
  | succ count inductionHypothesis =>
      obtain ⟨deeds, does⟩ := ((worlds count).step (allowed count)).1.does
      obtain ⟨frames, wire⟩ := does.wire
      rw [handovers, List.map_append, inductionHypothesis, after, wire]
      simp [handoversIn, handedIn, wire, Function.comp_def]

/-- A handle that is known and closed is done for good. -/
theorem retires_of_closed
    (worlds : ∀ place, WorkspaceWorld (start.after inputs place))
    (allowed : ∀ place, (inputs place).OnWorkspace)
    (known : (start.after inputs count).files[file]? = some found)
    (isClosed : (start.after inputs count).isOpen file = false) :
    start.Retires inputs count file found.uri := by
  have stays (later : Nat) (since : count ≤ later) :
      (start.after inputs later).files[file]? = some found ∧
        (start.after inputs later).isOpen file = false := by
    induction later, since using Nat.le_induction with
    | base => exact ⟨known, isClosed⟩
    | succ later since inductionHypothesis =>
        obtain ⟨deeds, does⟩ := ((worlds later).step (allowed later)).1.does
        exact ⟨does.files inductionHypothesis.1,
          does.not_isOpen inductionHypothesis.1 inductionHypothesis.2⟩
  constructor
  · exact fun later since => (stays later since).2
  · intro later since
    obtain ⟨laterKnown, laterClosed⟩ := stays later since
    exact ((worlds later).step (allowed later)).1.not_through laterKnown laterClosed
  · intro later task version text since isTurn coming begun
    obtain ⟨laterKnown, laterClosed⟩ := stays later since
    rw [after, isTurn]
    exact changeFile_of_closed (worlds later) coming begun laterKnown laterClosed
  · intro later task since isTurn coming begun
    obtain ⟨laterKnown, laterClosed⟩ := stays later since
    rw [after, isTurn]
    exact closeFile_of_closed (worlds later) coming begun laterKnown laterClosed

theorem ofWorkspace_world (resolution : Rat) (timeout : Quantity) (result : InitializeResult) :
    WorkspaceWorld (System.ofWorkspace resolution timeout result) where
  shapes := fun task found entry => absurd (List.mem_of_getElem? entry) List.not_mem_nil
  unsynchronized := rfl
  registered := fun workspace file uri registered => by
    cases workspace with
    | zero => cases registered
    | succ workspace => cases registered

theorem ofWorkspace_told (resolution : Rat) (timeout : Quantity) (result : InitializeResult) :
    Told 0 [] (System.ofWorkspace resolution timeout result) where
  handles := fun _ member => absurd member List.not_mem_nil
  hosts := ⟨_, rfl⟩
  dialogues := fun _ => ⟨none, .nil, Or.inl rfl⟩

theorem workspace_worlds
    (resolution : Rat) (timeout : Quantity) (result : InitializeResult)
    (allowed : ∀ place, (inputs place).OnWorkspace) (count : Nat) :
    WorkspaceWorld ((System.ofWorkspace resolution timeout result).after inputs count) := by
  induction count with
  | zero => exact ofWorkspace_world resolution timeout result
  | succ count inductionHypothesis => exact (inductionHypothesis.step (allowed count)).2.1

theorem told_run
    (resolution : Rat) (timeout : Quantity) (result : InitializeResult)
    (allowed : ∀ place, (inputs place).OnWorkspace)
    (unfailing : (System.ofWorkspace resolution timeout result).AnnouncesUnfailingly inputs)
    (count : Nat) :
    ToldRun (System.ofWorkspace resolution timeout result) inputs 0 count := by
  induction count with
  | zero =>
      exact ⟨ofWorkspace_world resolution timeout result, ofWorkspace_told resolution timeout result,
        fun task found entry => absurd (List.mem_of_getElem? entry) List.not_mem_nil⟩
  | succ count inductionHypothesis =>
      exact inductionHypothesis.step unfailing (allowed count)

/-- In a run of a workspace in which no announcement fails, every frame about a document is handed over
by a call of a handle of this document, and the frames about each document form a dialogue. A handle
that is closed is done for good, and it is closed by itself or together with its workspace. -/
theorem handles_keep_discipline
    (resolution : Rat) (timeout : Quantity) (result : InitializeResult) (inputs : Nat → Input)
    (allowed : ∀ place, (inputs place).OnWorkspace)
    (unfailing : (System.ofWorkspace resolution timeout result).AnnouncesUnfailingly inputs)
    (count : Nat) :
    let start := System.ofWorkspace resolution timeout result
    let run := start.after inputs
    (start.handovers inputs count).map (·.frame) = (run count).wire ∧
    (∀ handover ∈ start.handovers inputs count, ∃ file found, handover.handle = some file ∧
      (run count).files[file]? = some found ∧
        documentUri? handover.frame = some (.string found.uri)) ∧
    (∀ uri, ∃ current,
      Dialogue ((start.handovers inputs count).filter ((run count).isAbout 0 uri)) current) ∧
    ∀ (file : Nat) (found : OpenFile), (run count).files[file]? = some found →
      ((run count).isOpen file = false → start.Retires inputs count file found.uri) ∧
      (found.workspace = 0 → (run count).isOpen file = true → (run (count + 1)).isOpen file = false →
        (inputs count = .turn ∧
          ∃ task, (run count).comingTask? = some (task, [.begin (.closeFile file)])) ∨
        (run (count + 1)).openLink? 0 = none ∧ ∀ uri, (run (count + 1)).openFile? 0 uri = none) := by
  intro start run
  have told := told_run resolution timeout result allowed unfailing count
  have worlds := workspace_worlds resolution timeout result allowed
  refine ⟨handovers_frames worlds allowed rfl count, told.told.handles, fun uri => ?_,
    fun file found known => ⟨retires_of_closed worlds allowed known, fun ofWorkspace => ?_⟩⟩
  · obtain ⟨current, dialogue, _⟩ := told.told.dialogues uri
    exact ⟨current, dialogue⟩
  · exact told.closer unfailing (allowed count) known ofWorkspace

/-! ## A document that is opened twice -/

def plainWorkspace : System :=
  System.ofWorkspace 0 (.int 10) {
    capabilities := { hover := false, completion := none }
    serverInfo := none }

/-- A document is opened, changed and closed, and opened once more. Then the first handle is used
again. -/
def reopenedDocument : Nat → Input
  | 0 => .call (.openFile 0 "file:///a" (.string "text") "a" [])
  | 2 => .call (.changeFile 0 1 "ab")
  | 4 => .call (.closeFile 0)
  | 6 => .call (.openFile 0 "file:///a" (.string "text") "b" [])
  | 8 => .call (.changeFile 0 2 "abc")
  | 10 => .call (.closeFile 0)
  | 12 => .call (.changeFile 1 1 "bc")
  | 1 | 3 | 5 | 7 | 9 | 11 | 13 => .turn
  | _ => .tick 0

theorem reopenedDocument_onWorkspace (place : Nat) : (reopenedDocument place).OnWorkspace := by
  unfold reopenedDocument
  split <;> trivial

theorem reopenedDocument_of_late {place : Nat} (late : 14 ≤ place) :
    reopenedDocument place = .tick 0 := by
  unfold reopenedDocument
  split <;> first | omega | rfl

/-- Nothing happens any more. -/
theorem reopenedDocument_rests (count : Nat) :
    plainWorkspace.after reopenedDocument (14 + count) =
      plainWorkspace.after reopenedDocument 14 := by
  induction count with
  | zero => rfl
  | succ count inductionHypothesis =>
      have still : (plainWorkspace.after reopenedDocument 14).step (.tick 0) =
          plainWorkspace.after reopenedDocument 14 := by
        decide +kernel
      rw [← Nat.add_assoc, after, reopenedDocument_of_late (Nat.le_add_right 14 count),
        inductionHypothesis, still]

/-- Whether something that happened is the end of a task that did not return. -/
def isFailureOf (task : Nat) : Occurrence → Bool
  | .ended _ (.returned _) => false
  | .ended ended _ => ended = task
  | _ => false

/-- Both announcements succeed. -/
theorem reopenedDocument_unfailing : plainWorkspace.AnnouncesUnfailingly reopenedDocument := by
  intro made count task outcome announces ended
  have early : made < 14 := by
    by_contra late
    rw [reopenedDocument_of_late (Nat.not_lt.mp late)] at announces
    cases announces
  have isMember : .ended task outcome ∈
      (plainWorkspace.after reopenedDocument (min count 14)).journal := by
    rcases Nat.le_total count 14 with before | late
    · rwa [Nat.min_eq_left before]
    · obtain ⟨more, rfl⟩ := Nat.exists_eq_add_of_le late
      rwa [Nat.min_eq_right late, ← reopenedDocument_rests more]
  have noFailure : ∀ made < 14, ∀ count < 15,
      ∀ task ∈ (plainWorkspace.after reopenedDocument made).announcer? (reopenedDocument made),
        ∀ occurrence ∈ (plainWorkspace.after reopenedDocument count).journal,
          isFailureOf task occurrence = false := by
    decide +kernel
  have returned := noFailure made early (min count 14)
    (Nat.lt_succ_of_le (Nat.min_le_right count 14)) task announces _ isMember
  cases outcome with
  | returned reply => exact ⟨reply, rfl⟩
  | failed failure => simp [isFailureOf] at returned
  | cancelled => simp [isFailureOf] at returned

theorem handles_keep_discipline_reopenedDocument :
    let run := plainWorkspace.after reopenedDocument
    (∀ place, (reopenedDocument place).OnWorkspace) ∧
      plainWorkspace.AnnouncesUnfailingly reopenedDocument ∧
      (plainWorkspace.handovers reopenedDocument 14).map (·.handle) =
        [some 0, some 0, some 0, some 1, some 1] ∧
      (plainWorkspace.handovers reopenedDocument 14).map (methodOf? ·.frame) =
        [some Method.didOpen, some Method.didChange, some Method.didClose, some Method.didOpen,
          some Method.didChange] ∧
      (∃ current, Dialogue ((plainWorkspace.handovers reopenedDocument 14).filter
        ((run 14).isAbout 0 "file:///a")) current) ∧
      (run 14).isOpen 0 = false ∧ (run 14).isOpen 1 = true ∧
      plainWorkspace.Retires reopenedDocument 6 0 "file:///a" := by
  intro run
  have discipline := handles_keep_discipline 0 (.int 10)
    { capabilities := { hover := false, completion := none }, serverInfo := none } reopenedDocument
    reopenedDocument_onWorkspace reopenedDocument_unfailing
  have known : ∃ found, (run 6).files[0]? = some found ∧ found.uri = "file:///a" :=
    ⟨_, rfl, by decide +kernel⟩
  obtain ⟨found, known, uri⟩ := known
  have retires := ((discipline 6).2.2.2 0 found known).1 (by decide +kernel)
  rw [uri] at retires
  exact ⟨reopenedDocument_onWorkspace, reopenedDocument_unfailing, by decide +kernel,
    by decide +kernel, (discipline 14).2.2.1 "file:///a", by decide +kernel, by decide +kernel,
    retires⟩

end Run

end LanguageClient.Client
