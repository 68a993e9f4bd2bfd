import LanguageClient.Proofs.Retry.Opening

/-!
# What happens beside a start

While the document of an editor is not open, its queries return at once, a send finds nothing to send,
and a closing that finds no workspace does nothing. So a step that is not one of a start sustains the
start, and an edit changes nothing but the text.
-/

namespace LanguageClient.Client

open LanguageClient.Json LanguageClient.Loop LanguageClient.Number LanguageClient.Protocol

/-- What happens leaves a start as it is. -/
structure Sustains (setup : EditorSetup) (before after : System) : Prop where
  unopened : ∀ workspace alive, Unopened setup workspace alive before →
    Unopened setup workspace alive after
  wire : after.wire = before.wire
  workspaces : after.workspaces.map (·.session) = before.workspaces.map (·.session)

section Sustains

variable {setup : EditorSetup} {before middle after system : System} {wire : List Value}
  {announces : String → Prop} {frames : List Frame} {workspace alive : Option Nat}

theorem Bypasses.sustains (bypasses : Bypasses before after) : Sustains setup before after where
  unopened := fun _ _ unopened => unopened.of_bypasses bypasses
  wire := bypasses.wire
  workspaces := bypasses.workspaces

theorem Sustains.trans (first : Sustains setup before middle) (second : Sustains setup middle after) :
    Sustains setup before after where
  unopened := fun workspace alive unopened =>
    second.unopened workspace alive (first.unopened workspace alive unopened)
  wire := second.wire.trans first.wire
  workspaces := second.workspaces.trans first.workspaces

theorem Creating.of_sustains
    (creating : Creating setup wire before frames) (sustains : Sustains setup before after) :
    Creating setup wire after frames := by
  cases creating with
  | asks inner session serverUri foreign unopened silent =>
      exact .asks inner session serverUri foreign (sustains.unopened _ _ unopened)
        (sustains.wire.trans silent)
  | confirms inner session serverUri result foreign unopened silent =>
      exact .confirms inner session serverUri result foreign (sustains.unopened _ _ unopened)
        (sustains.wire.trans silent)
  | leaves ending unreturned unopened =>
      exact .leaves ending unreturned (sustains.unopened _ _ unopened)

theorem Underway.of_sustains
    (underway : Underway setup wire announces before frames) (sustains : Sustains setup before after) :
    Underway setup wire announces after frames := by
  cases underway with
  | begins unopened silent =>
      exact .begins (sustains.unopened _ _ unopened) (sustains.wire.trans silent)
  | creates inner creating => exact .creates inner (creating.of_sustains sustains)
  | opens link workspace file session text welcomes announced isAnnounced =>
      have stillWelcomes : Welcomes setup workspace session after :=
        ⟨sustains.unopened _ _ welcomes.unopened, sustains.workspaces ▸ welcomes.owner⟩
      exact .opens link workspace file session text stillWelcomes (sustains.wire.trans announced)
        isAnnounced
  | retreats workspace ending unreturned unopened =>
      exact .retreats workspace ending unreturned (sustains.unopened _ _ unopened)

/-- An edit changes the text, which is sent when the document is opened. -/
theorem Unopened.edited (unopened : Unopened setup workspace alive system) (text : String) :
    Sustains setup system (System.noteEscaped (system.editText 0 text)) ∧
      (System.noteEscaped (system.editText 0 text)).documentText = text := by
  obtain ⟨found, editors, isFirst, _⟩ := unopened.editors_eq
  obtain ⟨current, dirty, only⟩ := unopened.synchronizer
  have edited : system.editText 0 text =
      (system.modifySynchronizer 0 fun found => { found with text, dirty := true }, none) := by
    simp [System.editText, editors, isFirst, System.edit, System.isReady, System.modifySynchronizer,
      only, EditorSetup.view]
  rw [edited]
  refine ⟨⟨fun workspace alive unopened => ?_, rfl, rfl⟩, ?_⟩
  · obtain ⟨earlier, wasDirty, isOnly⟩ := unopened.synchronizer
    refine { unopened with synchronizer := ⟨text, true, ?_⟩ }
    simp [System.noteEscaped, System.modifySynchronizer, isOnly]
  · simp [System.noteEscaped, System.documentText, System.modifySynchronizer, only]

end Sustains

/-! ## Calls that find nothing open -/

/-- A call that has nothing to do with the start of an editor. -/
def Call.IsAside : Call → Prop
  | .hover editor _ | .complete editor _ _ | .refresh editor => editor = 0
  | .sendDebounced _ | .answer _ _ => True
  | _ => False

/-- The frames of a task that has nothing to do with the start of an editor. -/
inductive Bystander : List Frame → Prop where
  | begins (call : Call) (aside : call.IsAside) : Bystander [.begin call]
  | writes (frames : List Frame) (foreign : ∀ frame ∈ frames, frame.IsForeign) : Bystander frames

namespace System

variable {setup : EditorSetup} {system : System} {workspace alive : Option Nat}

theorem readyWorkspace?_of_unopened (unopened : Unopened setup workspace alive system)
    {found : Editor} (isFirst : found.synchronizer = 0) : system.readyWorkspace? found = none := by
  simp [readyWorkspace?, isFirst, unopened.isReady_eq]

/-- There is one synchronizer. -/
theorem modifySynchronizer_of_unopened
    (unopened : Unopened setup workspace alive system) (other : Nat)
    (change : Synchronizer → Synchronizer) :
    system.modifySynchronizer (other + 1) change = system := by
  obtain ⟨text, dirty, only⟩ := unopened.synchronizer
  have same : system.synchronizers.modify (other + 1) change = system.synchronizers := by
    simp [only]
  rw [modifySynchronizer, same]

/-- A send that finds no document gives the lock back. -/
theorem sendDebounced_bypasses
    (unopened : Unopened setup workspace alive system) (synchronizer : Nat) :
    (system.sendDebounced synchronizer).Bypasses system := by
  cases synchronizer with
  | zero =>
      obtain ⟨text, dirty, only⟩ := unopened.synchronizer
      cases system
      obtain rfl := only
      exact .ended (.refl _) _
  | succ other =>
      have unknown : system.synchronizers[other + 1]? = none := by
        obtain ⟨text, dirty, only⟩ := unopened.synchronizer
        simp [only]
      have misses : system.sendChange (other + 1) false = .failed system .missing := by
        simp [sendChange, lockOf, unknown, modifyLock, changeLocked,
          modifySynchronizer_of_unopened unopened]
      rw [sendDebounced, misses]
      exact .ended (log_bypasses _ _ _ _) _

theorem call_bypasses
    {call : Call} (unopened : Unopened setup workspace alive system) (aside : call.IsAside) :
    (system.call call).Bypasses system := by
  obtain ⟨found, editors, isFirst, _⟩ := unopened.editors_eq
  have unready := readyWorkspace?_of_unopened unopened isFirst
  cases call with
  | hover editor offset =>
      obtain rfl : editor = 0 := aside
      simp only [call, hover, editors, List.getElem?_cons_zero, unready]
      exact .ended (.refl system) _
  | complete editor offset explicit =>
      obtain rfl : editor = 0 := aside
      simp only [call, complete, editors, List.getElem?_cons_zero, unready, Option.bind_none]
      exact .ended (.refl system) _
  | refresh editor =>
      obtain rfl : editor = 0 := aside
      simp only [call, refresh, editors, List.getElem?_cons_zero, unready]
      exact .ended (.refl system) _
  | sendDebounced synchronizer => exact sendDebounced_bypasses unopened synchronizer
  | answer session id => exact answer_bypasses system session id
  | _ => exact aside.elim

/-- A closing that finds no workspace does nothing. -/
theorem closeEditor_unopened (unopened : Unopened setup none alive system) :
    system.closeEditor 0 = (system, .ended (.returned .nothing)) := by
  obtain ⟨found, editors, _, noWorkspace, _⟩ := unopened.editors_eq
  simp only [closeEditor, editors, List.getElem?_cons_zero, noWorkspace]
  rfl

theorem resumeStack_bystander
    {frames : List Frame} (bystander : Bystander frames)
    (unopened : Unopened setup workspace alive system) (outcome : Outcome Reply) :
    (system.resumeStack outcome frames).Bypasses system := by
  cases bystander with
  | writes frames foreign => exact resumeStack_bypasses system foreign outcome
  | begins call aside =>
      rw [resumeStack_singleton]
      cases outcome with
      | returned reply => exact call_bypasses unopened aside
      | failed failure => exact .ended (.refl system) _
      | cancelled => exact .ended (.refl system) _

/-! ## Callbacks -/

theorem endSend_unopened
    (unopened : Unopened setup workspace alive system) (synchronizer task : Nat) :
    system.endSend synchronizer task = system := by
  cases synchronizer with
  | zero =>
      obtain ⟨text, dirty, only⟩ := unopened.synchronizer
      cases system
      obtain rfl := only
      rfl
  | succ other => exact modifySynchronizer_of_unopened unopened other _

/-- A callback that lets no task go on. -/
theorem runCallback_bypasses
    {uri : String} {callback : Callback Action} (unopened : Unopened setup workspace alive system)
    (inScope : (editorScope uri).callback callback) (avoids : callback.Avoids Action.IsDebounce)
    (other : ∀ task, callback ≠ .resume task) :
    Bypasses system (system.runCallback callback) := by
  cases callback with
  | resume task => exact (other task rfl).elim
  | memberEnded group => exact .onLoop system fun avoids => avoids.endMember group _
  | skipped => exact .refl system
  | fire timer action =>
      cases action with
      | debounce synchronizer => exact (avoids trivial).elim
      | expire session id => exact expire_bypasses system session id
      | _ => exact inScope.elim
  | act action =>
      cases action with
      | discard session id => exact discard_bypasses system session id
      | answerEnded session task => exact endAnswer_bypasses system session task
      | deliver link text => exact receive_bypasses system link text
      | sendEnded synchronizer task =>
          have same : system.runCallback (.act (.sendEnded synchronizer task)) = system :=
            endSend_unopened unopened synchronizer task
          rw [same]
          exact .refl system
      | _ => exact inScope.elim

/-! ## Turns -/

theorem settleTask_bypasses (task completion : Nat) (step : Step) :
    Bypasses step.1 (settleTask task completion step) := by
  obtain ⟨later, outcome | ⟨frames, promise⟩⟩ := step
  · exact (Bypasses.note later rfl).trans (.settle _ _ _)
  · exact .onLoop later fun avoids => avoids.suspend _ _ _

section Turn

variable {before : System} {task : Nat} {rest : ClientLoop} {found : TaskState Frame}

theorem taken_bypasses {callback : Callback Action} (taken : Scheduler.Taken before.loop callback rest) :
    Bypasses before { before with loop := rest } :=
  .of_same rfl rfl rfl rfl rfl fun avoids => (avoids.taken taken).1

theorem Resumes.resumed_bypasses (resumes : Resumes before task rest found) :
    Bypasses before (before.resumed rest task) :=
  (taken_bypasses resumes.taken).trans
    (.onLoop _ fun avoids => avoids.modifyTask _ _)

theorem Resumes.turn_bypasses
    (resumes : Resumes before task rest found)
    (bypasses : Bypasses (before.resumed rest task) (before.resumption rest task found).1) :
    Bypasses before (before.step .turn) := by
  rw [resumes.step_turn]
  exact (resumes.resumed_bypasses.trans bypasses).trans (settleTask_bypasses _ _ _)

/-- A task that has nothing to do with the start has its turn. -/
theorem Resumes.bystander_bypasses
    (resumes : Resumes before task rest found) (bystander : Bystander found.stack)
    (unopened : Unopened setup workspace alive before) :
    (before.resumption rest task found).Bypasses (before.resumed rest task) :=
  resumeStack_bystander bystander (unopened.of_bypasses resumes.resumed_bypasses) _

end Turn

end System

end LanguageClient.Client
