import LanguageClient.Proofs.Editor.Steps

/-!
# The positions of queries

A run begins when an editor is started. Two moments matter for every query: when its offset was
looked up, and when the text was taken that the peer has as the frame is handed on. Both lie between
the call and the frame. A hover looks its offset up last, a completion first, so the two texts may
differ when the host has edited the text in between.
-/

namespace LanguageClient.Client

open LanguageClient.Json LanguageClient.Loop LanguageClient.Number LanguageClient.Protocol

/-- What is known when an editor is started. -/
structure EditorSetup where
  resolution : Rat
  options : Options
  text : String
  listener : DiagnosticsListener
  unreachable : Option Failure

namespace EditorSetup

variable (setup : EditorSetup)

/-- The name of the document. -/
def uri : String := setup.options.documentUri.display

/-- The editor as it is created. -/
def editor : Editor where
  serverUri := setup.options.serverUri
  documentUri := setup.options.documentUri
  languageId := setup.options.languageId
  rootUri := setup.options.rootUri
  folders := setup.options.workspaceFolders
  timeout := setup.options.timeout
  synchronizer := 0
  listener := setup.listener
  unreachable := setup.unreachable

/-- A client with an editor. -/
def created : System :=
  ({ loop := { resolution := setup.resolution } } : System).addEditor setup.options setup.text
    setup.listener setup.unreachable

/-- A client whose editor is about to start. -/
def start : System := setup.created.spawn (.start 0)

/-- What is seen of the document before the start. -/
def view : View where
  synchronizer := {
    uri := setup.uri
    languageId := setup.options.languageId
    text := setup.text
    debounce := setup.options.debounce }
  delivered := []
  asked := []

theorem created_world : EditorWorld setup.uri false none setup.view setup.created where
  parts := {
    synchronizers := rfl
    editor := ⟨_, rfl, rfl, rfl⟩
    files := nofun
    delivered := rfl
    asked := rfl
    lock := ⟨nofun, nofun, nofun⟩ }
  account := .unopened rfl rfl rfl
  places := by constructor <;> exact nofun
  orderly := .of_empty rfl rfl rfl rfl
  punctual := .of_empty rfl rfl rfl

theorem start_world : EditorWorld setup.uri false none setup.view setup.start :=
  setup.created_world.spawn_start nofun

end EditorSetup

/-! ## Where a query comes from -/

/-- The text of the editor. -/
def System.documentText (system : System) : String :=
  ((system.synchronizers[0]?).map (·.text)).getD ""

/-- The offset of a call that asks a query. -/
def Call.offset? : Call → Option Int
  | .hover _ offset | .complete _ offset _ => some offset
  | _ => none

/-- The frame with which a call asks about a position. -/
inductive Call.AsksFor (uri : String) (position : Position) : Call → Value → Prop where
  | hover (offset : Int) (id : String) :
    AsksFor uri position (.hover 0 offset)
      (requestMessage id Method.hover (some (hoverParams uri position)))
  | complete (offset : Int) (explicit : Bool) (trigger : Option Char) (id : String) :
    AsksFor uri position (.complete 0 offset explicit)
      (requestMessage id Method.completion (some (completionParams uri position trigger)))

/-- A call that asks a query. -/
def Call.IsQuery : Call → Prop
  | .hover _ _ | .complete _ _ _ => True
  | _ => False

section Runs

variable (start : System) (inputs : Nat → Input)

/-- The host makes a call at some place of a run, which becomes a task. -/
def CalledAt (task place : Nat) (call : Call) : Prop :=
  inputs place = .call call ∧ (start.after inputs place).nextTask = task

/-- What a task does after its send comes from a call. A completion has looked its offset up at some
moment since then. -/
def ComesFrom (task seen : Nat) : Frame → Prop
  | .flushingForHover _ offset => ∃ place < seen, CalledAt start inputs task place (.hover 0 offset)
  | .flushingForCompletion _ query =>
    ∃ place < seen, ∃ offset explicit,
      CalledAt start inputs task place (.complete 0 offset explicit) ∧
        (Document.Snapshot.ofText (start.after inputs seen).documentText).toPosition offset =
          .ok query.position
  | _ => True

/-- What the frames of a task tell about the run before some moment. -/
structure Traced (uri : String) (task count : Nat) (stack : List Frame) : Prop where
  begins : ∀ call, stack = [.begin call] → call.IsQuery →
    ∃ place < count, CalledAt start inputs task place call
  locks : ∀ promise force caller, stack = [.locking 0 promise force, caller] →
    ∃ seen ≤ count, ComesFrom start inputs task seen caller
  changes : ∀ link change caller, stack = changeFrames uri link change ++ [caller] →
    ∃ seen sent, seen ≤ sent ∧ sent ≤ count ∧ ComesFrom start inputs task seen caller ∧
      change.text = (start.after inputs sent).documentText

variable {start inputs} {uri : String} {task count : Nat} {stack : List Frame}

theorem Traced.mono
    {later : Nat} (traced : Traced start inputs uri task count stack) (earlier : count ≤ later) :
    Traced start inputs uri task later stack where
  begins := fun call isBegin isQuery => by
    obtain ⟨place, before, called⟩ := traced.begins call isBegin isQuery
    exact ⟨place, Nat.lt_of_lt_of_le before earlier, called⟩
  locks := fun promise force caller isLocking => by
    obtain ⟨seen, before, comes⟩ := traced.locks promise force caller isLocking
    exact ⟨seen, Nat.le_trans before earlier, comes⟩
  changes := fun link change caller isChange => by
    obtain ⟨seen, sent, order, before, comes, text⟩ := traced.changes link change caller isChange
    exact ⟨seen, sent, order, Nat.le_trans before earlier, comes, text⟩

/-- A task that begins a call which is no query tells nothing. -/
theorem Traced.of_begin
    {call : Call} (called : call.IsQuery → ∃ place < count, CalledAt start inputs task place call)
    (begins : stack = [.begin call]) :
    Traced start inputs uri task count stack where
  begins := fun other isBegin isQuery => by
    rw [begins] at isBegin
    obtain rfl : call = other := Frame.begin.inj (List.cons.inj isBegin).1
    exact called isQuery
  locks := fun promise force caller isLocking => by
    rw [begins] at isLocking
    cases isLocking
  changes := fun link change caller isChange => by
    rw [begins] at isChange
    cases isChange

/-- When a task goes on after its send, the text of that send is one that the editor had since the
call. -/
theorem Traced.comesFrom
    {caller : Frame} {sentText : String} (traced : Traced start inputs uri task count stack)
    (sends : Sends uri (start.after inputs count).documentText stack caller sentText) :
    ∃ seen sent, seen ≤ sent ∧ sent ≤ count ∧ ComesFrom start inputs task seen caller ∧
      sentText = (start.after inputs sent).documentText := by
  cases sends with
  | begins call caller begins =>
      refine ⟨count, count, Nat.le_refl _, Nat.le_refl _, ?_, rfl⟩
      cases begins with
      | hover offset => exact traced.begins _ rfl trivial
      | complete offset explicit query resolved =>
          obtain ⟨place, before, called⟩ := traced.begins _ rfl trivial
          exact ⟨place, before, offset, explicit, called, resolved⟩
      | refresh => trivial
      | sendDebounced => trivial
  | locks promise force caller sends =>
      obtain ⟨seen, before, comes⟩ := traced.locks promise force caller rfl
      exact ⟨seen, count, before, Nat.le_refl _, comes, rfl⟩
  | changes link change caller sends => exact traced.changes link change caller rfl

theorem Traced.of_moves
    {frames : List Frame} (traced : Traced start inputs uri task count stack)
    (moves : Moves uri (start.after inputs count).documentText stack frames) :
    Traced start inputs uri task (count + 1) frames where
  begins := fun call isBegin _ => (moves.begins call isBegin).elim
  locks := fun promise force caller isLocking => by
    obtain ⟨seen, sent, order, before, comes, _⟩ :=
      traced.comesFrom (moves.locks promise force caller isLocking)
    exact ⟨seen, by omega, comes⟩
  changes := fun link change caller isChange => by
    obtain ⟨sends, same⟩ := moves.changes link change caller isChange
    obtain ⟨seen, sent, order, before, comes, text⟩ := traced.comesFrom sends
    exact ⟨seen, sent, order, by omega, comes, same.trans text⟩

/-- What is known of a run after some of its inputs. -/
def KnownRun (start : System) (inputs : Nat → Input) (uri : String) (count : Nat) (view : View) :
    Prop :=
  (∃ opened holder, EditorWorld uri opened holder view (start.after inputs count)) ∧
    ∀ task found, (start.after inputs count).loop.tasks[task]? = some found →
      Traced start inputs uri task count found.stack

theorem EditorParts.documentText
    {view : View} {system : System} (parts : EditorParts uri view system) :
    system.documentText = view.synchronizer.text := by
  rw [System.documentText, parts.synchronizers]
  rfl

theorem traced_of_still
    {found : TaskState Frame}
    (traced : ∀ task found, (start.after inputs count).loop.tasks[task]? = some found →
      Traced start inputs uri task count found.stack)
    (still : StandsStill (start.after inputs count).loop task found) :
    Traced start inputs uri task (count + 1) found.stack := by
  rcases still with ⟨earlier, entry, same⟩ | ⟨call, begins, own⟩
  · rw [same]
    exact (traced task earlier entry).mono (Nat.le_succ count)
  · refine .of_begin (fun isQuery => ?_) begins
    cases call with
    | hover editor offset => exact own.elim
    | complete editor offset explicit => exact own.elim
    | _ => exact isQuery.elim

theorem KnownRun.step
    {view : View} (known : KnownRun start inputs uri count view)
    (allowed : (inputs count).OnEditor) :
    ∃ later, KnownRun start inputs uri (count + 1) later ∧
      EditorStep uri (start.after inputs count) view (inputs count)
        (start.after inputs (count + 1)) later := by
  obtain ⟨⟨opened, holder, world⟩, traced⟩ := known
  obtain ⟨laterOpened, laterHolder, later, laterWorld, step, _⟩ := world.step allowed
  refine ⟨later, ⟨⟨laterOpened, laterHolder, laterWorld⟩, ?_⟩, step⟩
  intro task found entry
  have stepped : (start.after inputs (count + 1)) =
      (start.after inputs count).step (inputs count) := rfl
  rw [stepped] at entry
  generalize inputEq : inputs count = input at step entry
  cases step with
  | stands input after later text asked tasks =>
      exact traced_of_still traced (tasks task found entry)
  | edits text after later asked tasks => exact traced_of_still traced (tasks task found entry)
  | calls call after later text asked tasks =>
      rcases tasks task found entry with still | ⟨isNew, begins⟩
      · exact traced_of_still traced still
      · exact .of_begin (fun _ => ⟨count, Nat.lt_succ_self count, inputEq, isNew.symm⟩) begins
  | turns turning before after later coming beforeEntry turn =>
      rcases turn.tasks task found entry with still | ⟨same, moves⟩
      · exact traced_of_still traced still
      · subst same
        rw [← world.parts.documentText] at moves
        exact (traced task before beforeEntry).of_moves moves

theorem known_run
    (setup : EditorSetup) (allowed : ∀ place, (inputs place).OnEditor) (count : Nat) :
    ∃ view, KnownRun setup.start inputs setup.uri count view := by
  induction count with
  | zero =>
      refine ⟨setup.view, ⟨false, none, setup.start_world⟩, fun task found entry => ?_⟩
      cases task with
      | zero =>
          have begins : found.stack = [.begin (.start 0)] := by rw [← Option.some.inj entry]
          have noQuery : ¬ (Call.start 0).IsQuery := id
          exact .of_begin (fun isQuery => (noQuery isQuery).elim) begins
      | succ other => cases entry
  | succ count inductionHypothesis =>
      obtain ⟨view, known⟩ := inductionHypothesis
      obtain ⟨later, laterKnown, _⟩ := known.step (allowed count)
      exact ⟨later, laterKnown⟩

theorem EditorStep.documentText
    {input : Input} {before after : System} {view later : View}
    (step : EditorStep uri before view input after later)
    (noEdit : ∀ text, input ≠ .editText 0 text) :
    later.synchronizer.text = view.synchronizer.text := by
  cases step with
  | stands input after later text asked tasks => exact text
  | edits text after later asked tasks => exact (noEdit text rfl).elim
  | calls call after later text asked tasks => exact text
  | turns task found after later coming entry turn => exact turn.text

/-- The text stays the same for as long as it is not edited. -/
theorem documentText_of_unedited
    (setup : EditorSetup) (allowed : ∀ place, (inputs place).OnEditor) {first last : Nat}
    (order : first ≤ last)
    (unedited : ∀ moment, first ≤ moment → moment < last → ∀ text,
      inputs moment ≠ .editText 0 text) :
    (setup.start.after inputs last).documentText =
      (setup.start.after inputs first).documentText := by
  induction order with
  | refl => rfl
  | @step last order inductionHypothesis =>
      obtain ⟨view, known⟩ := known_run setup allowed last
      obtain ⟨later, laterKnown, step⟩ := known.step (allowed last)
      obtain ⟨⟨_, _, world⟩, _⟩ := known
      obtain ⟨⟨_, _, laterWorld⟩, _⟩ := laterKnown
      rw [laterWorld.parts.documentText,
        step.documentText (unedited last order (Nat.lt_succ_self last)),
        ← world.parts.documentText]
      exact inductionHypothesis fun moment since before =>
        unedited moment since (Nat.lt_succ_of_lt before)

/-- A query that is handed on while a step is taken has come from a task that goes on. -/
theorem KnownRun.asked
    {view : View} {frame : Value} (known : KnownRun start inputs uri count view)
    (allowed : (inputs count).OnEditor)
    (handed : frame ∈ (start.after inputs (count + 1)).queries.drop
      (start.after inputs count).queries.length) :
    ∃ task seen sent caller, (start.after inputs count).comingCallback? = some (.resume task) ∧
      seen ≤ sent ∧ sent ≤ count ∧ ComesFrom start inputs task seen caller ∧
      Asks uri (start.after inputs count).documentText caller frame ∧
      ((start.after inputs (count + 1)).isReady 0 = true →
        (start.after inputs (count + 1)).deliveredText? uri =
          some (start.after inputs sent).documentText) := by
  obtain ⟨later, laterKnown, step⟩ := known.step allowed
  obtain ⟨⟨_, _, world⟩, traced⟩ := known
  obtain ⟨⟨_, _, laterWorld⟩, _⟩ := laterKnown
  rw [laterWorld.parts.asked, world.parts.asked] at handed
  have silent : later.asked ≠ view.asked := by
    intro same
    rw [same, List.drop_length] at handed
    cases handed
  generalize inputs count = input at step
  generalize (start.after inputs (count + 1)) = after at step ⊢
  cases step with
  | stands input after later text asked tasks => exact (silent asked).elim
  | edits text after later asked tasks => exact (silent asked).elim
  | calls call after later text asked tasks => exact (silent asked).elim
  | turns task found after later coming entry turn =>
      rcases turn.asked with same | ⟨query, caller, sentText, sends, asks, added, delivered⟩
      · exact (silent same).elim
      · rw [added, List.drop_left, List.mem_singleton] at handed
        rw [← world.parts.documentText] at sends asks
        obtain ⟨seen, sent, order, before, comes, text⟩ := (traced task found entry).comesFrom sends
        rw [text] at delivered
        exact ⟨task, seen, sent, caller, coming, order, before, comes, handed ▸ asks, delivered⟩

end Runs

/-! ## The positions of a run -/

/-- Every query that is handed on in a run has been asked by a call of the host. Its position is
that of the offset in the text that the editor had at some moment since the call, and while the
document is open the peer has the text of such a moment as well. A hover looks its offset up at the
very last, a completion no later than the text is taken that the peer has. The two texts are the
same if the text has not been edited since the call. -/
theorem queries_resolve_seen_text
    (setup : EditorSetup) (inputs : Nat → Input) (allowed : ∀ place, (inputs place).OnEditor)
    (count : Nat) (frame : Value)
    (handed : frame ∈ (setup.start.after inputs (count + 1)).queries.drop
      (setup.start.after inputs count).queries.length) :
    let run := setup.start.after inputs
    ∃ place call offset position seen sent,
      inputs place = .call call ∧ call.offset? = some offset ∧
      (run count).comingCallback? = some (.resume (run place).nextTask) ∧
      place < seen ∧ seen ≤ count ∧ place < sent ∧ sent ≤ count ∧
      (call = .hover 0 offset ∧ seen = count ∨
        (∃ explicit, call = .complete 0 offset explicit) ∧ seen ≤ sent) ∧
      call.AsksFor setup.uri position frame ∧
      (Document.Snapshot.ofText (run seen).documentText).toPosition offset = .ok position ∧
      ((run (count + 1)).isReady 0 = true →
        (run (count + 1)).deliveredText? setup.uri = some (run sent).documentText) ∧
      ((∀ moment, place < moment → moment < count → ∀ text,
        inputs moment ≠ .editText 0 text) →
          (run seen).documentText = (run sent).documentText) := by
  intro run
  obtain ⟨view, known⟩ := known_run setup allowed count
  obtain ⟨task, looked, sent, caller, coming, order, before, comes, asks, delivered⟩ :=
    known.asked (allowed count) handed
  -- Without an edit, both texts are the one right after the call.
  have sameText (place seen : Nat) (afterCall : place < seen) (notLater : seen ≤ count)
      (sentAfterCall : place < sent)
      (unedited : ∀ moment, place < moment → moment < count → ∀ text,
        inputs moment ≠ .editText 0 text) :
      (run seen).documentText = (run sent).documentText := by
    have since (moment : Nat) (isAfter : place < moment) (notAfter : moment ≤ count) :
        (run moment).documentText = (run (place + 1)).documentText :=
      documentText_of_unedited setup allowed isAfter fun other since earlier =>
        unedited other since (Nat.lt_of_lt_of_le earlier notAfter)
    rw [since seen afterCall notLater, since sent sentAfterCall before]
  cases asks with
  | hover offset position id resolved =>
      obtain ⟨place, beforeLook, called, isTask⟩ := comes
      have afterCall : place < count := by omega
      have sentAfterCall : place < sent := by omega
      exact ⟨place, .hover 0 offset, offset, position, count, sent, called, rfl, isTask ▸ coming,
        afterCall, Nat.le_refl _, sentAfterCall, before, Or.inl ⟨rfl, rfl⟩, .hover offset id,
        resolved, delivered, sameText place count afterCall (Nat.le_refl _) sentAfterCall⟩
  | completion query id =>
      obtain ⟨place, beforeLook, offset, explicit, ⟨called, isTask⟩, resolved⟩ := comes
      have notLater : looked ≤ count := by omega
      have sentAfterCall : place < sent := by omega
      exact ⟨place, .complete 0 offset explicit, offset, query.position, looked, sent, called, rfl,
        isTask ▸ coming, beforeLook, notLater, sentAfterCall, before,
        Or.inr ⟨⟨explicit, rfl⟩, order⟩, .complete offset explicit query.trigger id, resolved,
        delivered, sameText place looked beforeLook notLater sentAfterCall⟩

/-! ## A run -/

def hoveredEditor : EditorSetup where
  resolution := 0
  options := {
    serverUri := "ws://localhost"
    documentUri := .string "file:///document"
    languageId := .string "text"
    timeout := .int 10
    debounce := .int 1 }
  text := "a"
  listener := .nobody
  unreachable := none

/-- A server that offers hovers. -/
def hoverServer : Peer where
  script := [(Method.handshake, .always (some (.answer
    [("result", .object [("capabilities", .object [("hoverProvider", .bool true)])])])))]

/-- The text is edited once more while the flush of a hover still sends the edit before. -/
def editedHover : Nat → Input
  | 0 => .behave hoverServer
  | 6 => .behave { hoverServer with holding := true }
  | 7 => .editText 0 "ab"
  | 8 => .call (.hover 0 2)
  | 10 => .editText 0 "x\nab"
  | 11 => .release 0
  | _ => .turn

theorem editedHover_onEditor (place : Nat) : (editedHover place).OnEditor := by
  unfold editedHover
  split <;> first | rfl | trivial

/-- The hover asks about the second line, while the peer has a text of one line. -/
theorem queries_resolve_seen_text_editedHover :
    (∀ place, (editedHover place).OnEditor) ∧
      let run := hoveredEditor.start.after editedHover
      ∃ frame ∈ (run 13).queries.drop (run 12).queries.length,
        (Call.hover 0 2).AsksFor hoveredEditor.uri ⟨1, 0⟩ frame ∧
        (Document.Snapshot.ofText (run 12).documentText).toPosition 2 = .ok ⟨1, 0⟩ ∧
        (run 13).deliveredText? hoveredEditor.uri = some "ab" ∧
        (Document.Snapshot.ofText "ab").toPosition 2 = .ok ⟨0, 2⟩ ∧
        ∃ sent, 8 < sent ∧ sent < 12 ∧ (run sent).documentText = "ab" := by
  refine ⟨editedHover_onEditor, ?_⟩
  intro run
  have state : ((run 13).queries.drop (run 12).queries.length, (run 13).isReady 0,
      (run 13).deliveredText? hoveredEditor.uri, (run 12).documentText) =
        ([requestMessage "2" Method.hover (some (hoverParams hoveredEditor.uri ⟨1, 0⟩))], true,
          some "ab", "x\nab") := by
    decide +kernel
  simp only [Prod.mk.injEq] at state
  obtain ⟨handed, isReady, delivered, text⟩ := state
  have member : requestMessage "2" Method.hover (some (hoverParams hoveredEditor.uri ⟨1, 0⟩)) ∈
      (run 13).queries.drop (run 12).queries.length := by
    rw [handed]
    exact List.mem_cons_self
  obtain ⟨place, call, offset, position, seen, sent, made, _, _, _, _, afterCall, before, _, _, _,
    deliveredSent, _⟩ :=
      queries_resolve_seen_text hoveredEditor editedHover editedHover_onEditor 12 _ member
  have isHover : place = 8 := by
    unfold editedHover at made
    split at made <;> first | rfl | cases made
  have sentText : (run sent).documentText = "ab" :=
    Option.some.inj ((deliveredSent isReady).symm.trans delivered)
  refine ⟨_, member, .hover 2 "2", ?_, delivered, by decide, sent, by omega, ?_, sentText⟩
  · rw [text]
    decide
  · have different : sent ≠ 12 := by
      rintro rfl
      rw [text] at sentText
      exact absurd sentText (by decide)
    omega

end LanguageClient.Client
