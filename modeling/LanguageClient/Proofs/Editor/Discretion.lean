import LanguageClient.Proofs.History
import LanguageClient.Proofs.Workspace.Register

/-!
# What a client keeps to itself

The host sees diagnostics of a document only when the server publishes some. Everything else that a
client does leaves the diagnostics of its editors as they are, tells no callback of any, and keeps
the listeners of open documents right: whoever listens to a document is the editor that shows it.
-/

namespace LanguageClient.Client

open LanguageClient.Json LanguageClient.Loop LanguageClient.Number LanguageClient.Protocol

/-- An editor apart from its workspace. -/
def Editor.detached (editor : Editor) : Editor := { editor with workspace := none }

/-- The diagnostics that a callback of the host is told. -/
def Occurrence.diagnostics? : Occurrence → Option (List Document.PlacedDiagnostic)
  | .told (.diagnostics diagnostics) => some diagnostics
  | _ => none

namespace System

/-- What callbacks of the host were told about diagnostics, in order. -/
def toldDiagnostics (system : System) : List (List Document.PlacedDiagnostic) :=
  system.journal.filterMap Occurrence.diagnostics?

/-- A handle stands for the document of an editor, and nobody but the editor listens to it. -/
structure IsShownBy (system : System) (uri : String) (handle : OpenFile) (number : Nat)
    (editor : Editor) :
    Prop where
  listeners : handle.listeners = [(Method.publishDiagnostics, .editor number)]
  known : system.editors[number]? = some editor
  uri : editor.documentUri = .string uri

/-- Whatever is open under a uri is the document of an editor. -/
def Attributed (system : System) : Prop :=
  ∀ workspace uri file, system.openFile? workspace uri = some file →
    ∃ handle number editor, system.files[file]? = some handle ∧
      system.IsShownBy uri handle number editor

/-- The host has seen no diagnostics, and open documents still belong to their editors. -/
structure Discreet (before after : System) : Prop where
  editors : after.editors.map Editor.detached = before.editors.map Editor.detached
  told : after.toldDiagnostics = before.toldDiagnostics
  attributed : before.Attributed → after.Attributed

/-! ## Discreet changes -/

theorem toldDiagnostics_note
    {occurrence : Occurrence} (system : System) (silent : occurrence.diagnostics? = none) :
    (system.note occurrence).toldDiagnostics = system.toldDiagnostics := by
  simp [toldDiagnostics, note, silent]

/-- Whatever is open was open before, and the editors have their documents still. -/
theorem Attributed.of_registers
    {before after : System} (attributed : before.Attributed)
    (uris : after.editors.map Editor.documentUri = before.editors.map Editor.documentUri)
    (files : after.files = before.files)
    (registers : ∀ workspace uri file, after.openFile? workspace uri = some file →
      before.openFile? workspace uri = some file) :
    after.Attributed := by
  intro workspace uri file registered
  obtain ⟨handle, number, editor, known, shown⟩ :=
    attributed workspace uri file (registers workspace uri file registered)
  have sameUri : (after.editors.map Editor.documentUri)[number]? = some editor.documentUri := by
    rw [uris, List.getElem?_map, shown.known, Option.map_some]
  rw [List.getElem?_map] at sameUri
  obtain ⟨later, laterKnown, same⟩ := Option.map_eq_some_iff.mp sameUri
  exact ⟨handle, number, later, files ▸ known, shown.listeners, laterKnown, same.trans shown.uri⟩

namespace Discreet

variable {before middle after : System}

theorem refl (system : System) : Discreet system system := ⟨rfl, rfl, id⟩

theorem trans (first : Discreet before middle) (second : Discreet middle after) :
    Discreet before after where
  editors := second.editors.trans first.editors
  told := second.told.trans first.told
  attributed := second.attributed ∘ first.attributed

/-- Whatever is open was open before. -/
theorem of_registers
    (editors : after.editors.map Editor.detached = before.editors.map Editor.detached)
    (told : after.toldDiagnostics = before.toldDiagnostics) (files : after.files = before.files)
    (registers : ∀ workspace uri file, after.openFile? workspace uri = some file →
      before.openFile? workspace uri = some file) :
    Discreet before after where
  editors
  told
  attributed := fun attributed => by
    have uris := congrArg (List.map Editor.documentUri) editors
    simp only [List.map_map] at uris
    exact attributed.of_registers uris files registers

/-- Nothing happens to editors, documents and the host. -/
theorem of_same
    (editors : after.editors = before.editors) (workspaces : after.workspaces = before.workspaces)
    (files : after.files = before.files) (told : after.toldDiagnostics = before.toldDiagnostics) :
    Discreet before after := by
  refine of_registers (by rw [editors]) told files fun workspace uri file registered => ?_
  unfold openFile? at registered ⊢
  rwa [workspaces] at registered

theorem note
    {occurrence : Occurrence} (system : System) (silent : occurrence.diagnostics? = none) :
    Discreet system (system.note occurrence) :=
  of_same rfl rfl rfl (toldDiagnostics_note system silent)

theorem onLoop (system : System) (change : ClientLoop → ClientLoop) :
    Discreet system (system.onLoop change) :=
  of_same rfl rfl rfl rfl

theorem modifySession (system : System) (session : Nat) (change : Session → Session) :
    Discreet system (system.modifySession session change) :=
  of_same rfl rfl rfl rfl

theorem modifySynchronizer
    (system : System) (synchronizer : Nat) (change : Synchronizer → Synchronizer) :
    Discreet system (system.modifySynchronizer synchronizer change) :=
  of_same rfl rfl rfl rfl

theorem modifyEditor
    {change : Editor → Editor} (system : System) (editor : Nat)
    (keeps : ∀ found, (change found).detached = found.detached) :
    Discreet system (system.modifyEditor editor change) :=
  of_registers (map_modify_of_keeps keeps system.editors editor) rfl rfl fun _ _ _ => id

theorem withWorkspace (system : System) (editor : Nat) (workspace : Option Nat) :
    Discreet system (system.modifyEditor editor fun found => { found with workspace }) :=
  modifyEditor system editor fun _ => rfl

theorem unregister (system : System) (workspace : Nat) (uri : String) :
    Discreet system (system.unregister workspace uri) :=
  of_registers rfl rfl rfl fun _ _ _ => openFile?_of_unregister

/-- A document is opened for the editor that shows it. -/
theorem addFile
    {file : OpenFile} {number : Nat} {editor : Editor} (system : System)
    (free : system.openFile? file.workspace file.uri = none)
    (shown : system.IsShownBy file.uri file number editor) :
    Discreet system (system.addFile file) where
  editors := rfl
  told := rfl
  attributed := fun attributed workspace uri place registered => by
    have added : (system.addFile file).files = system.files ++ [file] := rfl
    by_cases same : (workspace, uri) = (file.workspace, file.uri)
    · obtain ⟨rfl, rfl⟩ := Prod.mk.inj same
      have isNew : place = system.files.length := by
        cases known : system.workspaces[file.workspace]? with
        | none => simp [openFile?, System.addFile, modifyWorkspace, known] at registered
        | some found =>
            rw [openFile?_addFile_self known free] at registered
            exact (Option.some.inj registered).symm
      refine ⟨file, number, editor, ?_, shown.listeners, shown.known, shown.uri⟩
      rw [added, isNew, List.getElem?_concat_length]
    · rw [openFile?_addFile_of_ne system same] at registered
      obtain ⟨handle, other, found, known, otherShown⟩ :=
        attributed workspace uri place registered
      have inside : place < system.files.length := (List.getElem?_eq_some_iff.mp known).1
      refine ⟨handle, other, found, ?_, otherShown.listeners, otherShown.known, otherShown.uri⟩
      rw [added, List.getElem?_append_left inside, known]

theorem addWorkspace (system : System) (session : Nat) (result : InitializeResult) :
    Discreet system (system.addWorkspace session result) := by
  refine of_registers rfl rfl rfl fun workspace uri file registered => ?_
  obtain ⟨found, known, isOpen⟩ := Option.bind_eq_some_iff.mp registered
  have entry : (system.workspaces ++ [_])[workspace]? = some found := known
  rcases getElem?_append_singleton_cases entry with earlier | ⟨_, rfl⟩
  · exact Option.bind_eq_some_iff.mpr ⟨found, earlier, isOpen⟩
  · cases isOpen

/-- No document of a workspace is open any more. -/
theorem dropFiles (system : System) (workspace : Nat) :
    Discreet system (system.modifyWorkspace workspace fun found =>
      { found with openFiles := [] }) := by
  refine of_registers rfl rfl rfl fun other uri file registered => ?_
  by_cases same : workspace = other
  · subst same
    have nothing := openFile?_clearWorkspace_self system workspace 0 uri
    exact absurd (registered.symm.trans nothing) (Option.some_ne_none file)
  · exact (openFile?_clearWorkspace_of_ne system 0 uri same).symm.trans registered

theorem andThen
    {step : Step} {frame : Frame} {rest : System → Outcome Reply → Step}
    (first : Discreet before step.1)
    (second : ∀ later outcome, Discreet later (rest later outcome).1) :
    Discreet before (step.andThen frame rest).1 := by
  obtain ⟨later, outcome | ⟨frames, promise⟩⟩ := step
  · exact first.trans (second later outcome)
  · exact first

end Discreet

section Functions

variable (system : System)

theorem log_discreet (level : LogLevel) (source : LogSource) (text : String) :
    Discreet system (system.log level source text) :=
  .note system rfl

theorem await_discreet (promise : Nat) : Discreet system (system.await promise).1 := by
  unfold await
  split <;> exact .refl system

/-! ## Connections and sessions -/

theorem takeFrame_discreet (link : Nat) (frame : Value) :
    Discreet system (system.takeFrame link frame).1 := by
  unfold takeFrame
  split
  · exact .refl system
  · have met : Discreet system { system with peer := (system.peer.accept frame).2 } :=
      .of_same rfl rfl rfl rfl
    exact (met.trans (.note _ rfl)).trans (.onLoop _ _)

theorem resumeSending_discreet (link : Nat) (frame : Value) (outcome : Outcome Reply) :
    Discreet system (resumeSending link frame system outcome).1 := by
  cases outcome with
  | returned reply => exact takeFrame_discreet system link frame
  | failed failure => exact .refl system
  | cancelled => exact .refl system

theorem send_discreet (link : Nat) (frame : Value) :
    Discreet system (system.send link frame).1 := by
  have noted : Discreet system (system.note (.handed link frame)) := .note system rfl
  cases holding : system.peer.holding with
  | true =>
      rw [send_of_holding link frame holding]
      exact noted.trans (.of_same rfl rfl rfl rfl)
  | false =>
      rw [send_of_not_holding link frame holding]
      exact noted.trans (takeFrame_discreet _ link frame)

theorem closeLink_discreet (link : Nat) : Discreet system (system.closeLink link).1 := by
  have closed : Discreet system { system.note (.closedLink link) with
      links := system.links.modify link fun found => { found with closed := true } } :=
    (Discreet.note system rfl).trans (.of_same rfl rfl rfl rfl)
  unfold closeLink
  simp only
  split
  · refine closed.trans (Discreet.trans ?_ (await_discreet _ _))
    exact .of_same rfl rfl rfl rfl
  · split
    · exact closed
    · exact closed

theorem resumeWriting_discreet (subject : String) (outcome : Outcome Reply) :
    Discreet system (resumeWriting subject system outcome).1 := by
  cases outcome <;> exact .refl system

theorem write_discreet (session : Nat) (subject : String) (frame : Value) :
    Discreet system (system.write session subject frame).1 := by
  unfold write
  split
  · exact .refl system
  · exact .andThen (send_discreet system _ frame) fun later outcome =>
      resumeWriting_discreet later subject outcome

theorem resumeRequesting_discreet (promise : Nat) (outcome : Outcome Reply) :
    Discreet system (resumeRequesting promise system outcome).1 := by
  cases outcome with
  | returned reply => exact await_discreet system promise
  | failed failure => exact .onLoop system _
  | cancelled => exact .onLoop system _

theorem request_discreet
    (session : Nat) (method : String) (params : Option Value) (timeout : Option Quantity) :
    Discreet system (system.request session method params timeout).1 := by
  have registered (id : String) (quantity : Quantity) (delay : Delay) : Discreet system
      ((system.countRequest session).registerRequest session id method quantity delay) :=
    .of_same rfl rfl rfl rfl
  unfold request
  split
  · exact .refl system
  · split
    · exact .refl system
    · simp only
      split
      · exact .modifySession system session _
      · split
        · exact .andThen ((registered _ _ _).trans (write_discreet _ _ _ _))
            fun later outcome => resumeRequesting_discreet later _ outcome
        · exact registered _ _ _

theorem notify_discreet (session : Nat) (method : String) (params : Option Value) :
    Discreet system (system.notify session method params).1 := by
  unfold notify
  split
  · exact .refl system
  · split
    · exact .refl system
    · split
      · exact write_discreet system session method _
      · exact .refl system

theorem discard_discreet (session : Nat) (id : String) :
    Discreet system (system.discard session id) := by
  unfold discard
  split
  · exact .refl system
  · exact .of_same rfl rfl rfl rfl

theorem expire_discreet (session : Nat) (id : String) :
    Discreet system (system.expire session id) := by
  unfold expire
  split
  · exact .refl system
  · exact (log_discreet system _ _ _).trans (.onLoop _ _)

theorem abandonAll_discreet (reason : SessionEnd) (entries : List PendingRequest) :
    Discreet system (entries.foldl (abandonRequest reason) system) := by
  induction entries generalizing system with
  | nil => exact .refl system
  | cons entry rest inductionHypothesis =>
      have one : Discreet system (abandonRequest reason system entry) := .of_same rfl rfl rfl rfl
      exact one.trans (inductionHypothesis _)

theorem abandonRequests_discreet (session : Nat) (reason : SessionEnd) :
    Discreet system (system.abandonRequests session reason) := by
  unfold abandonRequests
  split
  · exact .refl system
  · exact (abandonAll_discreet system reason _).trans (.modifySession _ session _)

theorem resumeClosingLink_discreet (outcome : Outcome Reply) :
    Discreet system (resumeClosingLink system outcome).1 := by
  cases outcome <;> exact .refl system

theorem closeSession_discreet (session : Nat) :
    Discreet system (system.closeSession session).1 := by
  unfold closeSession
  split
  · exact .refl system
  · split
    · exact .refl system
    · refine .andThen ?_ fun later outcome => resumeClosingLink_discreet later outcome
      have marked := Discreet.modifySession system session fun found =>
        { found with closed := true }
      exact ((marked.trans (abandonRequests_discreet _ session .closed)).trans (.onLoop _ _)).trans
        (closeLink_discreet _ _)

theorem loseConnection_discreet (session : Nat) :
    Discreet system (system.loseConnection session) := by
  unfold loseConnection
  split
  · exact .refl system
  · split
    · exact .refl system
    · exact ((log_discreet system _ _ _).trans (.modifySession _ session _)).trans
        (abandonRequests_discreet _ session .lost)

theorem whenEnded_discreet (task : Nat) (action : Action) :
    Discreet system (system.whenEnded task action) := by
  unfold whenEnded
  split
  · exact .refl system
  · exact .onLoop system _

theorem takeRequest_discreet (session : Nat) (id : Value) :
    Discreet system (system.takeRequest session id) := by
  unfold takeRequest
  split
  · exact .refl system
  · split
    · exact .refl system
    · have spawned : Discreet system (system.spawn (.answer session id)) := .onLoop system _
      exact (spawned.trans (whenEnded_discreet _ _ _)).trans (.modifySession _ session _)

theorem endAnswer_discreet (session task : Nat) :
    Discreet system (system.endAnswer session task) := by
  have forgotten := Discreet.modifySession system session fun found =>
    { found with answers := found.answers.filter fun other => other ≠ task }
  unfold endAnswer
  simp only
  split
  · exact forgotten.trans (log_discreet _ _ _ _)
  · exact forgotten
  · exact forgotten
  · exact forgotten

theorem takeResponse_discreet (session : Nat) (id : String) (message : Value) :
    Discreet system (system.takeResponse session id message).1 := by
  unfold takeResponse
  split
  · exact log_discreet system _ _ _
  · split
    · exact .onLoop system _
    · split
      · exact .onLoop system _
      · exact .refl system

/-! ## Workspaces -/

theorem resumeAbandoningHandshake_discreet (ending outcome : Outcome Reply) :
    Discreet system (resumeAbandoningHandshake ending system outcome).1 := by
  cases outcome <;> exact .refl system

theorem abandonHandshake_discreet (session : Nat) (serverUri : String) (ending : Outcome Reply) :
    Discreet system (system.abandonHandshake session serverUri ending).1 :=
  .andThen ((log_discreet system _ _ _).trans (closeSession_discreet _ session))
    fun later outcome => resumeAbandoningHandshake_discreet later ending outcome

theorem resumeConfirming_discreet
    (session : Nat) (serverUri : String) (result : InitializeResult) (outcome : Outcome Reply) :
    Discreet system (resumeConfirming session serverUri result system outcome).1 := by
  cases outcome with
  | returned reply => exact .addWorkspace system session result
  | failed failure => exact abandonHandshake_discreet system session serverUri _
  | cancelled => exact abandonHandshake_discreet system session serverUri _

theorem resumeHandshaking_discreet
    (session : Nat) (serverUri : String) (outcome : Outcome Reply) :
    Discreet system (resumeHandshaking session serverUri system outcome).1 := by
  unfold resumeHandshaking
  split
  · split
    · exact abandonHandshake_discreet system session serverUri _
    · exact .andThen (notify_discreet system session _ _)
        fun later outcome => resumeConfirming_discreet later session serverUri _ outcome
  · exact abandonHandshake_discreet system session serverUri _
  · exact abandonHandshake_discreet system session serverUri _
  · exact abandonHandshake_discreet system session serverUri _

theorem createWorkspace_discreet (request : WorkspaceRequest) :
    Discreet system (system.createWorkspace request).1 := by
  have dialled : Discreet system (system.note (.dialled request.serverUri)) := .note system rfl
  unfold createWorkspace
  simp only
  split
  · exact dialled
  · refine .andThen ((dialled.trans ?_).trans (request_discreet _ _ _ _ _))
      fun later outcome => resumeHandshaking_discreet later _ _ outcome
    unfold connect
    split
    · exact .of_same rfl rfl rfl rfl
    · exact .of_same rfl rfl rfl rfl

theorem notifyIn_discreet (workspace : Nat) (method : String) (params : Value) :
    Discreet system (system.notifyIn workspace method params).1 := by
  unfold notifyIn
  split
  · exact .refl system
  · exact notify_discreet system _ method _

theorem resumeOpening_discreet
    (workspace : Nat) (uri : String) (file : Nat) (outcome : Outcome Reply) :
    Discreet system (resumeOpening workspace uri file system outcome).1 := by
  cases outcome with
  | returned reply => exact .refl system
  | failed failure => exact .unregister system workspace uri
  | cancelled => exact .unregister system workspace uri

theorem openFile_discreet
    {uri : String} {languageId : Value} {listeners : List (String × DocumentListener)}
    {number : Nat} {editor : Editor} (workspace : Nat) (text : String)
    (shown : system.IsShownBy uri { workspace, uri, languageId, listeners } number editor) :
    Discreet system (system.openFile workspace uri languageId text listeners).1 := by
  unfold openFile
  split
  · exact .refl system
  · rename_i free
    exact .andThen ((Discreet.addFile system free shown).trans (notifyIn_discreet _ _ _ _))
      fun later outcome => resumeOpening_discreet later workspace uri _ outcome

theorem changeFile_discreet (file : Nat) (version : Int) (text : String) :
    Discreet system (system.changeFile file version text).1 := by
  unfold changeFile
  split
  · exact .refl system
  · split
    · exact .refl system
    · split
      · exact .refl system
      · exact notifyIn_discreet system _ _ _

theorem resumeClosingFile_discreet (uri : String) (outcome : Outcome Reply) :
    Discreet system (resumeClosingFile uri system outcome).1 := by
  cases outcome with
  | returned reply => exact .refl system
  | failed failure => exact log_discreet system _ _ _
  | cancelled => exact .refl system

theorem closeFile_discreet (file : Nat) : Discreet system (system.closeFile file).1 := by
  unfold closeFile
  split
  · exact .refl system
  · split
    · exact .refl system
    · exact .andThen ((Discreet.unregister system _ _).trans (notifyIn_discreet _ _ _ _))
        fun later outcome => resumeClosingFile_discreet later _ outcome

theorem closeWorkspace_discreet (workspace : Nat) :
    Discreet system (system.closeWorkspace workspace).1 := by
  unfold closeWorkspace
  split
  · exact .refl system
  · exact (Discreet.dropFiles system workspace).trans (closeSession_discreet _ _)

theorem showMessage_discreet (params : Value) : Discreet system (system.showMessage params) := by
  unfold showMessage
  split
  · exact log_discreet system _ _ _
  · exact .refl system

/-! ## Synchronizers -/

theorem cancelTimer_discreet (synchronizer : Nat) :
    Discreet system (system.cancelTimer synchronizer) := by
  unfold cancelTimer
  split
  · exact .refl system
  · exact .of_same rfl rfl rfl rfl

theorem schedule_discreet (synchronizer : Nat) :
    Discreet system (system.schedule synchronizer).1 := by
  have cancelled := cancelTimer_discreet system synchronizer
  unfold schedule
  simp only
  split
  · exact cancelled
  · split
    · exact cancelled
    · exact cancelled.trans (.of_same rfl rfl rfl rfl)

theorem debounce_discreet (synchronizer : Nat) :
    Discreet system (system.debounce synchronizer) := by
  have spawned : Discreet system (system.spawn (.sendDebounced synchronizer)) := .onLoop system _
  exact (spawned.trans (whenEnded_discreet _ _ _)).trans (.modifySynchronizer _ synchronizer _)

theorem attach_discreet (synchronizer file : Nat) (openedText : String) :
    Discreet system (system.attach synchronizer file openedText).1 := by
  have attached := Discreet.modifySynchronizer system synchronizer fun found =>
    { found with file := some file, version := 0, dirty := found.text ≠ openedText }
  unfold attach
  simp only
  split
  · exact attached.trans (schedule_discreet _ synchronizer)
  · exact attached

theorem edit_discreet (synchronizer : Nat) (text : String) :
    Discreet system (system.edit synchronizer text).1 := by
  have edited := Discreet.modifySynchronizer system synchronizer fun found =>
    { found with text, dirty := true }
  unfold edit
  simp only
  split
  · exact edited.trans (schedule_discreet _ synchronizer)
  · exact edited

theorem wakeFirst_discreet (synchronizer : Nat) :
    Discreet system (system.wakeFirst synchronizer) := by
  unfold wakeFirst
  split
  · exact .refl system
  · exact .onLoop system _

theorem release_discreet (synchronizer : Nat) : Discreet system (system.release synchronizer) :=
  (Discreet.modifySynchronizer system synchronizer _).trans (wakeFirst_discreet _ synchronizer)

theorem resumeChanging_discreet
    (synchronizer version : Nat) (wasDirty : Bool) (outcome : Outcome Reply) :
    Discreet system (resumeChanging synchronizer version wasDirty system outcome).1 := by
  have noted (change : Synchronizer → Synchronizer) :=
    (Discreet.modifySynchronizer system synchronizer change).trans (release_discreet _ synchronizer)
  cases outcome with
  | returned reply => exact noted _
  | failed failure => exact noted _
  | cancelled => exact noted _

theorem changeLocked_discreet (synchronizer : Nat) (force : Bool) :
    Discreet system (system.changeLocked synchronizer force).1 := by
  have cleaned := Discreet.modifySynchronizer system synchronizer fun found =>
    { found with dirty := false }
  unfold changeLocked
  split
  · exact .refl system
  · split
    · exact release_discreet system synchronizer
    · split
      · exact release_discreet system synchronizer
      · exact .andThen (cleaned.trans (changeFile_discreet _ _ _ _))
          fun later outcome => resumeChanging_discreet later _ _ _ outcome

theorem resumeLocking_discreet
    (synchronizer promise : Nat) (force : Bool) (outcome : Outcome Reply) :
    Discreet system (resumeLocking synchronizer promise force system outcome).1 := by
  have left : Discreet system (system.modifyLock synchronizer fun lock =>
      { lock with waiters := lock.waiters.filter fun other => other ≠ promise }) :=
    .modifySynchronizer system synchronizer _
  unfold resumeLocking
  generalize system.modifyLock synchronizer _ = later at left ⊢
  have givesUp : Discreet system
      (if (later.lockOf synchronizer).held then later else later.wakeFirst synchronizer) := by
    split
    · exact left
    · exact left.trans (wakeFirst_discreet later synchronizer)
  cases outcome with
  | returned reply =>
      exact (left.trans (.modifySynchronizer _ synchronizer _)).trans (changeLocked_discreet _ _ _)
  | failed failure => exact givesUp
  | cancelled => exact givesUp

theorem sendChange_discreet (synchronizer : Nat) (force : Bool) :
    Discreet system (system.sendChange synchronizer force).1 := by
  unfold sendChange
  simp only
  split
  · exact (Discreet.modifySynchronizer system synchronizer _).trans (changeLocked_discreet _ _ _)
  · refine .andThen (Discreet.trans ?_ (await_discreet _ _))
      fun later outcome => resumeLocking_discreet later synchronizer _ force outcome
    exact .of_same rfl rfl rfl rfl

theorem flush_discreet (synchronizer : Nat) (force : Bool) :
    Discreet system (system.flush synchronizer force).1 := by
  have cancelled := cancelTimer_discreet system synchronizer
  unfold flush
  simp only
  split
  · exact cancelled.trans (sendChange_discreet _ _ _)
  · exact cancelled

theorem resumeSendingDebounced_discreet (synchronizer : Nat) (outcome : Outcome Reply) :
    Discreet system (resumeSendingDebounced synchronizer system outcome).1 := by
  cases outcome with
  | returned reply => exact .refl system
  | failed failure => exact log_discreet system _ _ _
  | cancelled => exact .refl system

theorem sendDebounced_discreet (synchronizer : Nat) :
    Discreet system (system.sendDebounced synchronizer).1 :=
  .andThen (sendChange_discreet system synchronizer false)
    fun later outcome => resumeSendingDebounced_discreet later synchronizer outcome

theorem resumeDetaching_discreet (synchronizer : Nat) (outcome : Outcome Reply) :
    Discreet system (resumeDetaching synchronizer system outcome).1 := by
  cases outcome with
  | returned reply => exact .modifySynchronizer system synchronizer _
  | failed failure => exact .refl system
  | cancelled => exact .refl system

theorem closeAttached_discreet (synchronizer : Nat) :
    Discreet system (system.closeAttached synchronizer).1 := by
  unfold closeAttached
  split
  · exact .refl system
  · exact .andThen (closeFile_discreet system _)
      fun later outcome => resumeDetaching_discreet later synchronizer outcome

theorem resumeSettlingSends_discreet (synchronizer : Nat) (outcome : Outcome Reply) :
    Discreet system (resumeSettlingSends synchronizer system outcome).1 := by
  cases outcome with
  | returned reply => exact closeAttached_discreet system synchronizer
  | failed failure => exact .refl system
  | cancelled => exact .refl system

theorem closeSynchronizer_discreet (synchronizer : Nat) :
    Discreet system (system.closeSynchronizer synchronizer).1 := by
  have cancelled := cancelTimer_discreet system synchronizer
  unfold closeSynchronizer
  simp only
  split
  · exact cancelled.trans (closeAttached_discreet _ _)
  · exact .andThen ((cancelled.trans (.onLoop _ _)).trans (await_discreet _ _))
      fun later outcome => resumeSettlingSends_discreet later synchronizer outcome

/-! ## Editors -/

theorem resumeAbandoningStart_discreet (editor : Nat) (ending outcome : Outcome Reply) :
    Discreet system (resumeAbandoningStart editor ending system outcome).1 := by
  cases outcome with
  | returned reply => exact .withWorkspace system editor none
  | failed failure => exact .refl system
  | cancelled => exact .refl system

theorem closeWorkspaceOf_discreet
    {frame : Frame} {rest : System → Outcome Reply → Step} (editor : Nat)
    (next : ∀ later outcome, Discreet later (rest later outcome).1) :
    Discreet system (system.closeWorkspaceOf editor frame rest).1 := by
  unfold closeWorkspaceOf
  split
  · exact .refl system
  · exact .andThen (closeWorkspace_discreet system _) next

theorem resumeOpeningDocument_discreet (editor : Nat) (text : String) (outcome : Outcome Reply) :
    Discreet system (resumeOpeningDocument editor text system outcome).1 := by
  have abandons (ending : Outcome Reply) : Discreet system
      (system.closeWorkspaceOf editor (.abandoningStart editor ending)
        (resumeAbandoningStart editor ending)).1 :=
    closeWorkspaceOf_discreet system editor
      fun later outcome => resumeAbandoningStart_discreet later editor ending outcome
  unfold resumeOpeningDocument
  split
  · rename_i file found _
    have attached := attach_discreet system found.synchronizer file text
    split
    · rename_i result
      rw [result] at attached
      exact attached
    · rename_i result
      rw [result] at attached
      exact attached
  · exact .refl system
  · exact abandons _
  · exact abandons _

theorem openDocument_discreet
    {number : Nat} {editor found : Editor} (workspace : Nat) (text : String)
    (known : system.editors[number]? = some editor)
    (sameUri : editor.documentUri = found.documentUri) :
    Discreet system (system.openDocument workspace number found text).1 := by
  unfold openDocument
  split
  · rename_i uri isUri
    exact openFile_discreet system workspace text ⟨rfl, known, sameUri.trans isUri⟩
  · exact .refl system

theorem resumeCreatingWorkspace_discreet (editor : Nat) (outcome : Outcome Reply) :
    Discreet system (resumeCreatingWorkspace editor system outcome).1 := by
  unfold resumeCreatingWorkspace
  split
  · rename_i workspace found known
    have noted := Discreet.withWorkspace system editor (some workspace)
    have entry : (system.modifyEditor editor fun found =>
        { found with workspace := some workspace }).editors[editor]? =
          some { found with workspace := some workspace } := by
      simp [modifyEditor, known]
    exact .andThen (noted.trans (openDocument_discreet _ workspace _ entry rfl))
      fun later outcome => resumeOpeningDocument_discreet later editor _ outcome
  · exact .refl system
  · exact .refl system
  · exact .refl system

theorem start_discreet (editor : Nat) : Discreet system (system.start editor).1 := by
  unfold start
  split
  · exact .refl system
  · exact .andThen (createWorkspace_discreet system _)
      fun later outcome => resumeCreatingWorkspace_discreet later editor outcome

theorem editText_discreet (editor : Nat) (text : String) :
    Discreet system (system.editText editor text).1 := by
  unfold editText
  split
  · exact .refl system
  · exact edit_discreet system _ text

theorem recover_discreet (failure : Failure) (without : Reply) :
    Discreet system (system.recover failure without).1 := by
  unfold recover
  split <;> exact .refl system

theorem requestOf_discreet (editor : Editor) (method : String) (params : Value) :
    Discreet system (system.requestOf editor method params).1 := by
  unfold requestOf
  split
  · exact .refl system
  · exact request_discreet system _ method _ _

theorem resumeHovering_discreet (editor : Nat) (position : Position) (outcome : Outcome Reply) :
    Discreet system (resumeHovering editor position system outcome).1 := by
  unfold resumeHovering
  split
  · split
    · exact recover_discreet system _ _
    · split <;> exact .refl system
  · exact .refl system
  · exact recover_discreet system _ _
  · exact .refl system

theorem resumeFlushingForHover_discreet
    (editor : Nat) (offset : Int) (outcome : Outcome Reply) :
    Discreet system (resumeFlushingForHover editor offset system outcome).1 := by
  unfold resumeFlushingForHover
  split
  · split
    · exact recover_discreet system _ _
    · exact .andThen (requestOf_discreet system _ _ _)
        fun later outcome => resumeHovering_discreet later editor _ outcome
  · exact .refl system
  · exact recover_discreet system _ _
  · exact .refl system

theorem hover_discreet (editor : Nat) (offset : Int) :
    Discreet system (system.hover editor offset).1 := by
  unfold hover
  split
  · exact .refl system
  · split
    · exact .refl system
    · split
      · exact .andThen (flush_discreet system _ false)
          fun later outcome => resumeFlushingForHover_discreet later editor offset outcome
      · exact .refl system

theorem resumeCompleting_discreet (query : CompletionQuery) (outcome : Outcome Reply) :
    Discreet system (resumeCompleting query system outcome).1 := by
  unfold resumeCompleting
  split
  · split
    · exact recover_discreet system _ _
    · exact .refl system
    · exact .refl system
  · exact .refl system
  · exact recover_discreet system _ _
  · exact .refl system

theorem resumeFlushingForCompletion_discreet
    (editor : Nat) (query : CompletionQuery) (outcome : Outcome Reply) :
    Discreet system (resumeFlushingForCompletion editor query system outcome).1 := by
  unfold resumeFlushingForCompletion
  split
  · exact .andThen (requestOf_discreet system _ _ _)
      fun later outcome => resumeCompleting_discreet later query outcome
  · exact .refl system
  · exact recover_discreet system _ _
  · exact .refl system

theorem complete_discreet (editor : Nat) (offset : Int) (explicit : Bool) :
    Discreet system (system.complete editor offset explicit).1 := by
  unfold complete
  split
  · exact .refl system
  · split
    · exact .refl system
    · split
      · exact .refl system
      · exact .andThen (flush_discreet system _ false)
          fun later outcome => resumeFlushingForCompletion_discreet later editor _ outcome

theorem resumeRefreshing_discreet (outcome : Outcome Reply) :
    Discreet system (resumeRefreshing system outcome).1 := by
  cases outcome with
  | returned reply => exact .refl system
  | failed failure => exact recover_discreet system failure .nothing
  | cancelled => exact .refl system

theorem refresh_discreet (editor : Nat) : Discreet system (system.refresh editor).1 := by
  unfold refresh
  split
  · exact .refl system
  · split
    · exact .refl system
    · exact .andThen (flush_discreet system _ true)
        fun later outcome => resumeRefreshing_discreet later outcome

theorem resumeClosingWorkspace_discreet (editor : Nat) (ending outcome : Outcome Reply) :
    Discreet system (resumeClosingWorkspace editor ending system outcome).1 := by
  cases outcome with
  | returned reply => exact .withWorkspace system editor none
  | failed failure => exact .refl system
  | cancelled => exact .refl system

theorem resumeClosingSynchronizer_discreet (editor : Nat) (outcome : Outcome Reply) :
    Discreet system (resumeClosingSynchronizer editor system outcome).1 :=
  closeWorkspaceOf_discreet system editor
    fun later ending => resumeClosingWorkspace_discreet later editor outcome ending

theorem closeEditor_discreet (editor : Nat) : Discreet system (system.closeEditor editor).1 := by
  unfold closeEditor
  split
  · exact .refl system
  · split
    · exact .refl system
    · exact .andThen (closeSynchronizer_discreet system _)
        fun later outcome => resumeClosingSynchronizer_discreet later editor outcome

end Functions

end System

end LanguageClient.Client
