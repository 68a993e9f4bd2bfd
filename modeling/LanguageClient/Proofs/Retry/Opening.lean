import LanguageClient.Proofs.Retry.Unopened

/-!
# Openings that fail

When the workspace of an editor is there, the document is announced with the text of that moment. If
that fails the workspace is closed and forgotten; otherwise the synchronizer is attached at version
zero, with an edit to send exactly if the text has changed meanwhile.
-/

namespace LanguageClient.Client

open LanguageClient.Json LanguageClient.Loop LanguageClient.Number LanguageClient.Protocol

/-- The document was announced with a text after some frames, and the synchronizer is attached. -/
structure Attached (setup : EditorSetup) (wire : List Value) (text : String) (system : System) :
    Prop where
  synchronizer : ∃ found : Synchronizer, system.synchronizers = [found] ∧ found.version = 0 ∧
    found.file ≠ none ∧ (found.dirty = true ↔ found.text ≠ text)
  announced : system.wire = wire ++ [didOpenFrame setup.uri setup.options.languageId text]

/-- How far a step gets with the opening of the document, when there are so many workspaces. Attaching
fails only if no clock can count the time without edits. -/
inductive Step.Opens (setup : EditorSetup) (wire : List Value) (text : String) (size : Nat) :
    Step → Prop where
  | fails (later : System) (ending : Outcome Reply) (unreturned : ∀ reply, ending ≠ .returned reply)
      (unopened : Unopened setup none none later) :
    Step.Opens setup wire text size (later, .ended ending)
  | retreats (later : System) (workspace : Nat) (ending : Outcome Reply) (promise : Nat)
      (unreturned : ∀ reply, ending ≠ .returned reply)
      (unopened : Unopened setup (some workspace) none later) (fresh : later.IsFresh promise) :
    Step.Opens setup wire text size
      (later, .suspended [.closingLink, .abandoningStart 0 ending] promise)
  | waits (later : System) (link workspace file session promise : Nat)
      (welcomes : Welcomes setup workspace session later)
      (announced : later.wire = wire ++ [didOpenFrame setup.uri setup.options.languageId text])
      (sized : later.workspaces.length = size) :
    Step.Opens setup wire text size
      (later, .suspended
        (openingFrames setup.uri link setup.options.languageId text workspace file) promise)
  | attaches (later : System) (outcome : Outcome Reply) (attached : Attached setup wire text later)
      (sized : later.workspaces.length = size)
      (ending : outcome = .returned .nothing ∨
        setup.options.debounce.delay? = none ∧ ∃ failure, outcome = .failed failure) :
    Step.Opens setup wire text size (later, .ended outcome)

variable {setup : EditorSetup} {wire : List Value} {text : String} {size workspace session : Nat}
  {before system : System} {ending : Outcome Reply}

theorem Welcomes.of_bypasses (welcomes : Welcomes setup workspace session before)
    (bypasses : Bypasses before system) : Welcomes setup workspace session system where
  unopened := welcomes.unopened.of_bypasses bypasses
  owner := bypasses.workspaces ▸ welcomes.owner

/-- A workspace whose document was not opened is closed and forgotten. -/
theorem Welcomes.closes
    (welcomes : Welcomes setup workspace session system)
    (unreturned : ∀ reply, ending ≠ .returned reply) :
    (system.closeWorkspaceOf 0 (.abandoningStart 0 ending)
      (System.resumeAbandoningStart 0 ending)).Opens setup wire text size := by
  obtain ⟨found, editors, _, isWorkspace, _⟩ := welcomes.unopened.editors_eq
  obtain ⟨state, entry, rfl⟩ : ∃ state : Workspace,
      system.workspaces[workspace]? = some state ∧ state.session = session := by
    simpa using welcomes.owner
  have cleared : Bypasses system
      (system.modifyWorkspace workspace fun found => { found with openFiles := [] }) :=
    .modifyWorkspace system workspace fun _ => rfl
  simp only [System.closeWorkspaceOf, editors, List.getElem?_cons_zero, Option.bind_some,
    isWorkspace, System.closeWorkspace, entry]
  obtain ⟨later, _, closed, result | ⟨promise, fresh, result⟩⟩ :=
    System.closeSession_unopened (welcomes.unopened.of_bypasses cleared)
  · rw [result]
    exact .fails _ ending unreturned (closed.modifyEditor none)
  · rw [result]
    exact .retreats later workspace ending promise unreturned closed fresh

/-! ## Attaching -/

/-- The synchronizer is attached, and a send is due if the text has changed. -/
theorem Unopened.attach
    {workspace alive : Option Nat} (unopened : Unopened setup workspace alive system) (file : Nat)
    (text : String) :
    ∃ later failure?, system.attach 0 file text = (later, failure?) ∧
      (∃ found : Synchronizer, later.synchronizers = [found] ∧ found.version = 0 ∧
        found.file ≠ none ∧ (found.dirty = true ↔ found.text ≠ text)) ∧
      later.wire = system.wire ∧ later.workspaces = system.workspaces ∧
      (failure? = none ∨ setup.options.debounce.delay? = none) := by
  obtain ⟨current, dirty, only⟩ := unopened.synchronizer
  have hasFile : some file ≠ none := Option.some_ne_none file
  unfold System.attach System.schedule System.cancelTimer
  simp only [System.modifySynchronizer, only, List.modify_zero_cons, List.getElem?_cons_zero,
    Option.map_some, Option.getD_some, Option.bind_some, EditorSetup.view]
  split
  · split
    · rename_i noDelay
      exact ⟨_, _, rfl, ⟨_, rfl, rfl, hasFile, decide_eq_true_iff⟩, rfl, rfl, Or.inr noDelay⟩
    · exact ⟨_, _, rfl, ⟨_, rfl, rfl, hasFile, decide_eq_true_iff⟩, rfl, rfl, Or.inl rfl⟩
  · exact ⟨_, _, rfl, ⟨_, rfl, rfl, hasFile, decide_eq_true_iff⟩, rfl, rfl, Or.inl rfl⟩

theorem Welcomes.attaches
    (welcomes : Welcomes setup workspace session system)
    (announced : system.wire = wire ++ [didOpenFrame setup.uri setup.options.languageId text])
    (sized : system.workspaces.length = size) (file : Nat) :
    (System.resumeOpeningDocument 0 text system (.returned (.file file))).Opens setup wire text
      size := by
  obtain ⟨found, editors, isFirst, _⟩ := welcomes.unopened.editors_eq
  obtain ⟨later, failure?, result, synchronizer, sameWire, sameWorkspaces, noFailure⟩ :=
    welcomes.unopened.attach file text
  have attached : Attached setup wire text later := ⟨synchronizer, sameWire.trans announced⟩
  have laterSized : later.workspaces.length = size := sameWorkspaces ▸ sized
  simp only [System.resumeOpeningDocument, editors, List.getElem?_cons_zero, isFirst, result]
  cases failure? with
  | none => exact .attaches later _ attached laterSized (Or.inl rfl)
  | some failure =>
      have noDelay := noFailure.resolve_left (Option.some_ne_none failure)
      exact .attaches later _ attached laterSized (Or.inr ⟨noDelay, failure, rfl⟩)

theorem Welcomes.abandons
    (welcomes : Welcomes setup workspace session system)
    (unreturned : ∀ reply, ending ≠ .returned reply) :
    (System.resumeOpeningDocument 0 text system ending).Opens setup wire text size := by
  cases ending with
  | returned reply => exact (unreturned reply rfl).elim
  | failed failure => exact welcomes.closes (by simp)
  | cancelled => exact welcomes.closes (by simp)

/-! ## Announcing -/

/-- An announcement that did not succeed is withdrawn, and the start is abandoned. -/
theorem Welcomes.withdraws
    (welcomes : Welcomes setup workspace session system)
    (unreturned : ∀ reply, ending ≠ .returned reply) (uri : String) (file : Nat) :
    (Step.andThen (System.resumeOpening workspace uri file system ending) (.openingDocument 0 text)
      (System.resumeOpeningDocument 0 text)).Opens setup wire text size := by
  have withdrawn : Bypasses system (system.unregister workspace uri) :=
    .modifyWorkspace system workspace fun _ => rfl
  cases ending with
  | returned reply => exact (unreturned reply rfl).elim
  | failed failure =>
      have failed : ∀ reply : Reply, Outcome.failed failure ≠ .returned reply := nofun
      exact (welcomes.of_bypasses withdrawn).abandons failed
  | cancelled =>
      have cancelled : ∀ reply : Reply, Outcome.cancelled ≠ .returned reply := nofun
      exact (welcomes.of_bypasses withdrawn).abandons cancelled

/-- The document is announced with a text. -/
theorem Welcomes.openFile
    (welcomes : Welcomes setup workspace session system) (silent : system.wire = wire)
    (sized : system.workspaces.length = size) (text : String)
    (listeners : List (String × DocumentListener)) :
    (Step.andThen (system.openFile workspace setup.uri setup.options.languageId text listeners)
      (.openingDocument 0 text) (System.resumeOpeningDocument 0 text)).Opens setup wire text
        size := by
  unfold System.openFile
  split
  · have taken : ∀ reply : Reply,
        Outcome.failed (.documentAlreadyOpen setup.uri) ≠ .returned reply := nofun
    exact welcomes.abandons taken
  · have added : Bypasses system (system.addFile {
        workspace, uri := setup.uri, languageId := setup.options.languageId, listeners }) :=
      .addFile system _
    have laterWelcomes := welcomes.of_bypasses added
    have laterSilent := added.wire.trans silent
    have laterSized := added.workspaces_length.trans sized
    simp only
    generalize system.addFile {
      workspace, uri := setup.uri, languageId := setup.options.languageId, listeners } = current
      at laterWelcomes laterSilent laterSized ⊢
    generalize system.files.length = file
    have fails (failure : Failure) (later : System)
        (stillWelcomes : Welcomes setup workspace session later) :
        (Step.andThen (System.resumeOpening workspace setup.uri file later (.failed failure))
          (.openingDocument 0 text) (System.resumeOpeningDocument 0 text)).Opens setup wire text
            size := by
      have failed : ∀ reply : Reply, Outcome.failed failure ≠ .returned reply := nofun
      exact stillWelcomes.withdraws failed setup.uri file
    obtain ⟨state, entry, rfl⟩ : ∃ state : Workspace,
        current.workspaces[workspace]? = some state ∧ state.session = session := by
      simpa using laterWelcomes.owner
    simp only [System.notifyIn, entry, System.notify]
    split
    · exact fails _ _ laterWelcomes
    · rename_i found sessionFound
      split
      · exact fails _ _ laterWelcomes
      · split
        · have handed : Welcomes setup workspace state.session (current.note
              (.handed found.link (didOpenFrame setup.uri setup.options.languageId text))) :=
            ⟨laterWelcomes.unopened.note _, laterWelcomes.owner⟩
          have announced : (current.note (.handed found.link
              (didOpenFrame setup.uri setup.options.languageId text))).wire =
                wire ++ [didOpenFrame setup.uri setup.options.languageId text] := by
            have isDocument : Method.didOpen ∈ documentMethods := by decide
            rw [System.wire_note, laterSilent, Occurrence.documentFrame?, didOpenFrame,
              concernsDocument_notification _ isDocument]
            rfl
          rcases System.write_cases Method.didOpen
            (didOpenFrame setup.uri setup.options.languageId text) sessionFound with
            ⟨failure, _, result⟩ | result | result
          · rw [didOpenFrame] at result
            rw [result]
            exact fails _ _ handed
          · rw [didOpenFrame] at result
            rw [result]
            have waits : Bypasses _ (current.note (.handed found.link
                (didOpenFrame setup.uri setup.options.languageId text))).holdBack :=
              (Bypasses.addPromise _).trans (.withPeer _ _)
            exact .waits _ found.link workspace file state.session _ (handed.of_bypasses waits)
              (waits.wire.trans announced) laterSized
          · rw [didOpenFrame] at result
            rw [result]
            have accepted := System.accept_bypasses (current.note (.handed found.link
              (didOpenFrame setup.uri setup.options.languageId text))) found.link
                (didOpenFrame setup.uri setup.options.languageId text)
            exact (handed.of_bypasses accepted).attaches (accepted.wire.trans announced)
              (accepted.workspaces_length.trans laterSized) file
        · exact fails _ _ laterWelcomes

/-- The announcement that was held back goes on. -/
theorem Welcomes.resumes
    (welcomes : Welcomes setup workspace session system)
    (announced : system.wire = wire ++ [didOpenFrame setup.uri setup.options.languageId text])
    (link file : Nat) (outcome : Outcome Reply) :
    (system.resumeStack outcome
      (openingFrames setup.uri link setup.options.languageId text workspace file)).Opens setup wire
        text system.workspaces.length := by
  rcases System.resumeStack_sending system link
    (didOpenFrame setup.uri setup.options.languageId text) Method.didOpen
      [.opening workspace setup.uri file, .openingDocument 0 text] outcome with
    ⟨reply, _, _, result⟩ | ⟨ending, unreturned, _, result⟩
  · have accepted := System.accept_bypasses system link
      (didOpenFrame setup.uri setup.options.languageId text)
    rw [openingFrames, result, System.resumeStack_of_ended _ rfl, System.resumeStack_singleton]
    exact (welcomes.of_bypasses accepted).attaches (accepted.wire.trans announced)
      accepted.workspaces_length file
  · rw [openingFrames, result, System.resumeStack_pair]
    exact welcomes.withdraws unreturned setup.uri file

/-! ## Starts -/

/-- How far a step gets with a start. The text of the announcement is the one that the editor has when
the workspace is added. -/
inductive Step.Starts (setup : EditorSetup) (wire : List Value) (before : System) : Step → Prop where
  | fails (later : System) (ending : Outcome Reply) (unreturned : ∀ reply, ending ≠ .returned reply)
      (unopened : Unopened setup none none later) :
    Step.Starts setup wire before (later, .ended ending)
  | creates (later : System) (frames : List Frame) (promise : Nat)
      (creating : Creating setup wire later frames) :
    Step.Starts setup wire before (later, .suspended (frames ++ [.creatingWorkspace 0]) promise)
  | opens (step : Step)
      (opens : step.Opens setup wire before.documentText (before.workspaces.length + 1)) :
    Step.Starts setup wire before step

/-- The document is opened as soon as the workspace is there. -/
theorem Step.Creates.starts {step : Step} (creates : step.Creates setup wire before) :
    (step.andThen (.creatingWorkspace 0) (System.resumeCreatingWorkspace 0)).Starts setup wire
      before := by
  cases creates with
  | fails later ending unreturned unopened =>
      cases ending with
      | returned reply => exact (unreturned reply rfl).elim
      | failed failure => exact .fails later _ unreturned unopened
      | cancelled => exact .fails later _ unreturned unopened
  | waits later frames promise creating => exact .creates later frames promise creating
  | succeeds later workspace session unopened owner silent text grown =>
      obtain ⟨found, editors, isFirst, _, documentUri, languageId⟩ := unopened.editors_eq
      have welcomes : Welcomes setup workspace session (later.modifyEditor 0 fun found =>
          { found with workspace := some workspace }) :=
        ⟨unopened.modifyEditor (some workspace), owner⟩
      have isText : (later.modifyEditor 0 fun found =>
          { found with workspace := some workspace }).editorText found = before.documentText := by
        rw [← text, System.editorText, isFirst]
        rfl
      refine .opens _ ?_
      simp only [Step.andThen, System.resumeCreatingWorkspace, editors, List.getElem?_cons_zero,
        isText]
      unfold System.openDocument
      rw [documentUri, languageId]
      cases isUri : setup.options.documentUri with
      | string uri =>
          have same : setup.uri = uri := by
            rw [EditorSetup.uri, isUri]
            rfl
          subst same
          exact welcomes.openFile silent grown before.documentText _
      | _ =>
          have mistyped : ∀ reply : Reply, Outcome.failed .wrongType ≠ .returned reply := by
            intro reply same
            cases same
          exact welcomes.abandons mistyped

theorem start_starts (unopened : Unopened setup none none system) (silent : system.wire = wire) :
    (system.start 0).Starts setup wire system := by
  obtain ⟨found, editors, _⟩ := unopened.editors_eq
  simp only [System.start, editors, List.getElem?_cons_zero]
  exact (createWorkspace_creates unopened silent _).starts

/-- Where a start is between two turns. The text of an announcement is one that may be announced. -/
inductive Underway
    (setup : EditorSetup) (wire : List Value) (announces : String → Prop) (system : System) :
    List Frame → Prop where
  | begins (unopened : Unopened setup none none system) (silent : system.wire = wire) :
    Underway setup wire announces system [.begin (.start 0)]
  | creates (frames : List Frame) (creating : Creating setup wire system frames) :
    Underway setup wire announces system (frames ++ [.creatingWorkspace 0])
  | opens (link workspace file session : Nat) (text : String)
      (welcomes : Welcomes setup workspace session system)
      (announced : system.wire = wire ++ [didOpenFrame setup.uri setup.options.languageId text])
      (isAnnounced : announces text) :
    Underway setup wire announces system
      (openingFrames setup.uri link setup.options.languageId text workspace file)
  | retreats (workspace : Nat) (ending : Outcome Reply)
      (unreturned : ∀ reply, ending ≠ .returned reply)
      (unopened : Unopened setup (some workspace) none system) :
    Underway setup wire announces system [.closingLink, .abandoningStart 0 ending]

/-- A frame of a start that is abandoned. -/
def Frame.Retreats : Frame → Prop
  | .abandoningStart _ _ => True
  | _ => False

variable {announces : String → Prop} {frames : List Frame}

/-- A start goes on. One that is abandoned is not cancelled. -/
theorem Underway.resumes
    (underway : Underway setup wire announces system frames) (outcome : Outcome Reply)
    (spared : ∀ frame ∈ frames, frame.Retreats → outcome ≠ .cancelled) :
    (system.resumeStack outcome frames).Starts setup wire system ∨
      ∃ text, announces text ∧
        (system.resumeStack outcome frames).Opens setup wire text system.workspaces.length := by
  cases underway with
  | begins unopened silent =>
      left
      cases outcome with
      | returned reply =>
          rw [System.resumeStack_begin]
          exact start_starts unopened silent
      | failed failure => exact .fails system _ (by simp) unopened
      | cancelled => exact .fails system _ (by simp) unopened
  | creates inner creating =>
      left
      rw [System.resumeStack_concat]
      exact (creating.resumes outcome).starts
  | opens link workspace file session text welcomes announced isAnnounced =>
      exact Or.inr ⟨text, isAnnounced, welcomes.resumes announced link file outcome⟩
  | retreats workspace ending unreturned unopened =>
      left
      rw [System.resumeStack_pair]
      cases outcome with
      | returned reply => exact .fails _ ending unreturned (unopened.modifyEditor none)
      | failed failure => exact .fails _ ending unreturned (unopened.modifyEditor none)
      | cancelled => exact (spared (.abandoningStart 0 ending) (by simp) trivial rfl).elim

end LanguageClient.Client
