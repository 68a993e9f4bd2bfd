import LanguageClient.Proofs.Conduct.Turns
import LanguageClient.Proofs.Editor.Discretion
import LanguageClient.Proofs.Editor.Positions

/-!
# The diagnostics of an editor

A text of the peer publishes diagnostics if it is a notification of the right method that names the
document of the editor, comes while that document is open, and has the right shape. Each of those
replaces the diagnostics that the editor had, placed in the text of that moment, and is told to the
host once. Nothing else that happens to an editor is seen in its diagnostics.
-/

namespace LanguageClient.Client

open LanguageClient.Json LanguageClient.Loop LanguageClient.Number LanguageClient.Protocol

/-! ## What a text publishes -/

/-- The method and the raw parameters of a notification. -/
def notification? (text : String) : Option (Value × Value) :=
  match Value.ofText text with
  | .ok (.object members) =>
    let message := Value.object members
    match message.present? "method", message.present? "id" with
    | some method, none => some (method, (message.get? "params").getD .null)
    | _, _ => none
  | _ => none

/-- The workspace that a listener of a session is. -/
def SessionListener.workspace? : SessionListener → Option Nat
  | .workspace number => some number
  | .nobody | .host _ => none

/-- The connection and the text of the peer that a callback delivers. -/
def arrivalOf? : Callback Action → Option (Nat × String)
  | .act (.deliver link text) | .fire _ (.deliver link text) => some (link, text)
  | _ => none

/-- What a callback of the host hears of diagnostics. -/
def DiagnosticsListener.hears (listener : DiagnosticsListener)
    (diagnostics : List Document.PlacedDiagnostic) : List (List Document.PlacedDiagnostic) :=
  match listener with
  | .nobody => []
  | .host _ => [diagnostics]

namespace System

/-- The connection and the text of the peer that an input brings. -/
def arrival? (system : System) : Input → Option (Nat × String)
  | .receive link text => some (link, text)
  | .turn => system.comingCallback?.bind arrivalOf?
  | _ => none

/-- The workspace that hears the notifications of a connection. -/
def hearingWorkspace? (system : System) (link : Nat) : Option Nat := do
  let session ← (system.links[link]?).bind (·.session)
  let listener ← (system.sessions[session]?).map (·.listener)
  listener.workspace?

/-- Whether a document is open in a workspace. -/
def registers (system : System) (workspace : Nat) (uri : Value) : Bool :=
  match uri with
  | .string uri => (system.openFile? workspace uri).isSome
  | _ => false

/-- The diagnostics that a notification publishes for a document when it comes to a workspace. They
are placed in the text of that moment. -/
def heardDiagnostics? (system : System) (uri : Value) (workspace : Nat) (method params : Value) :
    Option (List Document.PlacedDiagnostic) :=
  if method = .string Method.publishDiagnostics ∧ params.get? "uri" = some uri ∧
      system.registers workspace uri then
    (publishedDiagnosticsOf params).toOption.map fun published =>
      Document.placeDiagnostics (.ofText system.documentText) published.diagnostics
  else none

/-- The diagnostics that a text publishes for a document when it comes over a connection. -/
def published? (system : System) (uri : Value) (arrival : Nat × String) :
    Option (List Document.PlacedDiagnostic) := do
  let workspace ← system.hearingWorkspace? arrival.1
  let (method, params) ← notification? arrival.2
  system.heardDiagnostics? uri workspace method params

/-- The diagnostics that an input publishes for the editor. -/
def publication? (system : System) (input : Input) : Option (List Document.PlacedDiagnostic) := do
  let editor ← system.editors[0]?
  let arrival ← system.arrival? input
  system.published? editor.documentUri arrival

/-- The publications of a run, in the order of their arrival. -/
def publications (start : System) (inputs : Nat → Input) :
    Nat → List (List Document.PlacedDiagnostic)
  | 0 => []
  | count + 1 =>
    start.publications inputs count ++
      ((start.after inputs count).publication? (inputs count)).toList

/-- The diagnostics of the editor. -/
def diagnosticsOfEditor (system : System) : List Document.PlacedDiagnostic :=
  ((system.editors[0]?).map (·.diagnostics)).getD []

/-! ## One editor and what it shows -/

/-- A client has one editor, which is as given apart from its workspace, and has told the host what
is given. -/
structure Presents (editor : Editor) (told : List (List Document.PlacedDiagnostic))
    (system : System) : Prop where
  editors : system.editors.map Editor.detached = [editor]
  told : system.toldDiagnostics = told
  attributed : system.Attributed

variable {editor : Editor} {told : List (List Document.PlacedDiagnostic)} {system later : System}

theorem Presents.of_discreet
    (presents : Presents editor told system) (discreet : Discreet system later) :
    Presents editor told later where
  editors := discreet.editors.trans presents.editors
  told := discreet.told.trans presents.told
  attributed := discreet.attributed presents.attributed

theorem Presents.only (presents : Presents editor told system) :
    ∃ found, system.editors = [found] ∧ found.detached = editor := by
  have editors := presents.editors
  cases isEditor : system.editors with
  | nil =>
      rw [isEditor] at editors
      cases editors
  | cons found rest =>
      rw [isEditor, List.map_cons] at editors
      obtain ⟨same, none⟩ := List.cons.inj editors
      exact ⟨found, by rw [List.map_eq_nil_iff.mp none], same⟩

/-- The only document that can be open is that of the editor, and the editor listens to it. -/
theorem Presents.listener
    {workspace file : Nat} {uri : String} (presents : Presents editor told system)
    (registered : system.openFile? workspace uri = some file) :
    editor.documentUri = .string uri ∧ ∃ handle, system.files[file]? = some handle ∧
      handle.listeners.lookup Method.publishDiagnostics = some (.editor 0) := by
  obtain ⟨handle, number, shown, known, isShown⟩ :=
    presents.attributed workspace uri file registered
  obtain ⟨found, editors, detached⟩ := presents.only
  have entry := isShown.known
  rw [editors] at entry
  cases number with
  | zero =>
      obtain rfl : found = shown := Option.some.inj entry
      refine ⟨?_, handle, known, by rw [isShown.listeners]; rfl⟩
      rw [← detached]
      exact isShown.uri
  | succ other => cases entry

/-! ## Messages of the peer -/

/-- New diagnostics are placed in the text of the moment and told to the host. -/
theorem Presents.showDiagnostics
    (presents : Presents editor told system) (own : editor.synchronizer = 0)
    (published : PublishedDiagnostics) :
    let placed := Document.placeDiagnostics (.ofText system.documentText) published.diagnostics
    Presents { editor with diagnostics := placed } (told ++ editor.listener.hears placed)
      (system.showDiagnostics 0 published).1 := by
  intro placed
  obtain ⟨found, editors, rfl⟩ := presents.only
  have isPlaced : Document.placeDiagnostics (system.snapshotOf found) published.diagnostics =
      placed := by
    have sameText : system.editorText found = system.documentText := by
      have sameOwn : found.synchronizer = 0 := own
      rw [editorText, sameOwn, documentText]
    rw [snapshotOf, sameText]
  have replaced : Presents { found.detached with diagnostics := placed } told
      (system.modifyEditor 0 fun found => { found with diagnostics := placed }) := {
    editors := by
      rw [modifyEditor, editors]
      rfl
    told := presents.told
    attributed := by
      refine presents.attributed.of_registers ?_ rfl fun _ _ _ => id
      rw [modifyEditor, editors]
      rfl }
  simp only [System.showDiagnostics, editors, List.getElem?_cons_zero, isPlaced]
  change Presents _ (told ++ found.listener.hears placed) _
  cases found.listener with
  | nobody =>
      rw [DiagnosticsListener.hears, List.append_nil]
      exact replaced
  | host fails =>
      have heard : (((system.modifyEditor 0 fun found => { found with diagnostics := placed }).note
          (.told (.diagnostics placed))).toldDiagnostics) = told ++ [placed] := by
        rw [← replaced.told]
        simp [toldDiagnostics, note, Occurrence.diagnostics?]
      exact ⟨replaced.editors, heard, replaced.attributed.of_registers rfl rfl fun _ _ _ => id⟩

/-- A client has one editor, as it is after some diagnostics were published, if any were. -/
def PresentsAfter (editor : Editor) (told : List (List Document.PlacedDiagnostic)) :
    Option (List Document.PlacedDiagnostic) → System → Prop
  | none => Presents editor told
  | some placed =>
    Presents { editor with diagnostics := placed } (told ++ editor.listener.hears placed)

theorem PresentsAfter.of_discreet
    {placed? : Option (List Document.PlacedDiagnostic)}
    (presents : PresentsAfter editor told placed? system) (discreet : Discreet system later) :
    PresentsAfter editor told placed? later := by
  cases placed? with
  | none => exact Presents.of_discreet presents discreet
  | some placed => exact Presents.of_discreet presents discreet

section Messages

variable (presents : Presents editor told system) (own : editor.synchronizer = 0)

include presents own

/-- Parameters name a document that is open, and then the editor hears them, or nobody does. -/
theorem Presents.publish (workspace : Nat) (params : Value) :
    PresentsAfter editor told
      (system.heardDiagnostics? editor.documentUri workspace (.string Method.publishDiagnostics)
        params)
      (takeNotification System.showDiagnostics system workspace
        (.string Method.publishDiagnostics) params).1 := by
  by_cases registered : ∃ uri file, params.get? "uri" = some (.string uri) ∧
      system.openFile? workspace uri = some file
  · obtain ⟨uri, file, named, isOpen⟩ := registered
    obtain ⟨ofEditor, handle, known, listener⟩ := presents.listener isOpen
    have heard : system.documentListener? workspace Method.publishDiagnostics params =
        .ok (some (.editor 0)) := by
      simp [documentListener?, named, unusableKey?, isOpen, known, listener]
    have ofDocument : params.get? "uri" = some editor.documentUri ∧
        system.registers workspace editor.documentUri = true := by
      simp [named, ofEditor, registers, isOpen]
    simp only [heardDiagnostics?, true_and, if_pos ofDocument, takeNotification, unusableKey?,
      if_true, heard, System.publish]
    cases publishedDiagnosticsOf params with
    | error failure => exact presents
    | ok published => exact presents.showDiagnostics own published
  · have unheard : system.heardDiagnostics? editor.documentUri workspace
        (.string Method.publishDiagnostics) params = none := by
      refine if_neg fun ⟨_, named, registers⟩ => registered ?_
      unfold System.registers at registers
      split at registers
      · rename_i uri isUri
        obtain ⟨file, isOpen⟩ := Option.isSome_iff_exists.mp registers
        exact ⟨uri, file, isUri ▸ named, isOpen⟩
      · cases registers
    have same : (takeNotification System.showDiagnostics system workspace
        (.string Method.publishDiagnostics) params).1 = system := by
      have nobody (listener : DocumentListener) :
          system.documentListener? workspace Method.publishDiagnostics params ≠
            .ok (some listener) := by
        intro isListener
        unfold documentListener? at isListener
        split at isListener
        · cases isListener
        · rename_i uri named
          split at isListener
          · cases isListener
          · rename_i text _
            obtain ⟨file, isOpen, _⟩ := Option.bind_eq_some_iff.mp (Except.ok.inj isListener)
            exact registered ⟨text, file, named, isOpen⟩
          · cases isListener
      simp only [takeNotification, unusableKey?, if_true]
      split
      · rfl
      · rfl
      · rename_i listener isListener
        exact (nobody listener isListener).elim
    rw [unheard, same]
    exact presents

theorem Presents.takeNotification (workspace : Nat) (method params : Value) :
    PresentsAfter editor told (system.heardDiagnostics? editor.documentUri workspace method params)
      (takeNotification System.showDiagnostics system workspace method params).1 := by
  by_cases publishes : method = .string Method.publishDiagnostics
  · subst publishes
    exact presents.publish own workspace params
  · have unheard : system.heardDiagnostics? editor.documentUri workspace method params = none :=
      if_neg fun heard => publishes heard.1
    rw [unheard]
    refine presents.of_discreet ?_
    unfold System.takeNotification
    split
    · exact .refl system
    · rw [if_neg publishes]
      split
      · exact showMessage_discreet system params
      · exact .refl system

end Messages

section Texts

variable (presents : Presents editor told system) (own : editor.synchronizer = 0)

include presents own

/-- A notification comes to the workspace that listens to a session. -/
theorem Presents.takeMessage (session : Nat) (text : String) :
    PresentsAfter editor told
      (((system.sessions[session]?).map (·.listener)).bind fun listener =>
        listener.workspace?.bind fun workspace => (notification? text).bind fun (method, params) =>
          system.heardDiagnostics? editor.documentUri workspace method params)
      (system.takeMessage session text (System.takeNotification System.showDiagnostics)).1 := by
  have silent {later : System} (other : notification? text = none)
      (discreet : Discreet system later) :
      PresentsAfter editor told
        (((system.sessions[session]?).map (·.listener)).bind fun listener =>
          listener.workspace?.bind fun workspace =>
            (notification? text).bind fun (method, params) =>
              system.heardDiagnostics? editor.documentUri workspace method params) later := by
    rw [other]
    simp only [Option.bind_none, Option.bind_fun_none]
    exact presents.of_discreet discreet
  unfold System.takeMessage
  split
  · rename_i malformed
    exact silent (by simp only [notification?, malformed]) (log_discreet system _ _ _)
  · rename_i nested
    exact silent (by simp only [notification?, nested]) (.refl system)
  · rename_i members parsed
    simp only
    split
    · rename_i asked isRequest
      exact silent (by simp only [notification?, parsed, asked, isRequest])
        (takeRequest_discreet system session _)
    · rename_i method named anonymous
      have isNotification : notification? text =
          some (method, ((Value.object members).get? "params").getD .null) := by
        simp only [notification?, parsed, named, anonymous]
      rw [isNotification]
      cases (system.sessions[session]?).map (·.listener) with
      | none => exact presents.of_discreet (log_discreet system _ _ _)
      | some listener =>
          cases listener with
          | nobody => exact presents.of_discreet (log_discreet system _ _ _)
          | host fails =>
              have told : Discreet system (system.note (.told (.notification method
                  (((Value.object members).get? "params").getD .null)))) := .note system rfl
              cases fails with
              | false => exact presents.of_discreet told
              | true => exact presents.of_discreet (told.trans (log_discreet _ _ _ _))
          | workspace workspace =>
              have taken := presents.takeNotification own workspace method
                (((Value.object members).get? "params").getD .null)
              simp only [SessionListener.workspace?, Option.bind_some]
              split
              · exact taken
              · exact taken.of_discreet (log_discreet _ _ _ _)
    · rename_i unnamed answered
      exact silent (by simp only [notification?, parsed, unnamed])
        (takeResponse_discreet system session _ _)
    · rename_i unnamed _
      exact silent (by simp only [notification?, parsed, unnamed]) (log_discreet system _ _ _)
  · rename_i notObject parsed
    refine silent ?_ (log_discreet system _ _ _)
    unfold notification?
    split
    · rename_i members isObject
      exact (notObject members (Except.ok.inj (parsed.symm.trans isObject))).elim
    · rfl

/-- A text of the peer publishes diagnostics or leaves them alone. -/
theorem Presents.receive (link : Nat) (text : String) :
    PresentsAfter editor told (system.published? editor.documentUri (link, text))
      (system.receive link text) := by
  unfold System.receive published? hearingWorkspace?
  cases (system.links[link]?).bind (·.session) with
  | none => exact presents
  | some session =>
      have taken := presents.takeMessage own session text
      simp only [bind, Option.bind_some, Option.bind_assoc]
      split
      · rename_i result
        rw [result] at taken
        exact taken
      · rename_i result
        rw [result] at taken
        exact taken.of_discreet (.note _ rfl)

end Texts

end System

/-! ## Inputs -/

/-- A call of an editor, or one that the client starts by itself. -/
def Call.IsForEditor : Call → Prop
  | .start _ | .hover _ _ | .complete _ _ _ | .refresh _ | .closeEditor _ | .sendDebounced _
  | .answer _ _ => True
  | _ => False

/-- A stack of a call of an editor. -/
def IsEditorStack (stack : List Frame) : Prop :=
  (∃ call, stack = [.begin call] ∧ call.IsForEditor) ∨ ∀ frame ∈ stack, frame.IsInner

/-- What may happen to a client with one editor, which may be started again and again. -/
def Input.IsForEditor : Input → Prop
  | .call (.start editor) => editor = 0
  | input => input.OnEditor

namespace System

/-- All tasks belong to editors. -/
def ServesEditors (system : System) : Prop :=
  ∀ (task : Nat) (found : TaskState Frame), system.loop.tasks[task]? = some found →
    IsEditorStack found.stack

theorem call_discreet {call : Call} (system : System) (ofEditor : call.IsForEditor) :
    Discreet system (system.call call).1 := by
  cases call with
  | start editor => exact start_discreet system editor
  | hover editor offset => exact hover_discreet system editor offset
  | complete editor offset explicit => exact complete_discreet system editor offset explicit
  | refresh editor => exact refresh_discreet system editor
  | closeEditor editor => exact closeEditor_discreet system editor
  | sendDebounced synchronizer => exact sendDebounced_discreet system synchronizer
  | answer session id => exact write_discreet system session "response" _
  | _ => exact ofEditor.elim

theorem resumeFrame_discreet
    {frame : Frame} (system : System) (inner : frame.IsInner) (outcome : Outcome Reply) :
    Discreet system (resumeFrame frame system outcome).1 := by
  cases frame with
  | sending link frame => exact resumeSending_discreet system link frame outcome
  | writing subject => exact resumeWriting_discreet system subject outcome
  | requesting promise => exact resumeRequesting_discreet system promise outcome
  | closingLink => exact resumeClosingLink_discreet system outcome
  | handshaking session serverUri =>
      exact resumeHandshaking_discreet system session serverUri outcome
  | confirming session serverUri result =>
      exact resumeConfirming_discreet system session serverUri result outcome
  | abandoningHandshake ending => exact resumeAbandoningHandshake_discreet system ending outcome
  | opening workspace uri file => exact resumeOpening_discreet system workspace uri file outcome
  | closingFile uri => exact resumeClosingFile_discreet system uri outcome
  | locking synchronizer promise force =>
      exact resumeLocking_discreet system synchronizer promise force outcome
  | changing synchronizer version wasDirty =>
      exact resumeChanging_discreet system synchronizer version wasDirty outcome
  | sendingDebounced synchronizer =>
      exact resumeSendingDebounced_discreet system synchronizer outcome
  | settlingSends synchronizer => exact resumeSettlingSends_discreet system synchronizer outcome
  | detaching synchronizer => exact resumeDetaching_discreet system synchronizer outcome
  | creatingWorkspace editor => exact resumeCreatingWorkspace_discreet system editor outcome
  | openingDocument editor text => exact resumeOpeningDocument_discreet system editor text outcome
  | abandoningStart editor ending =>
      exact resumeAbandoningStart_discreet system editor ending outcome
  | flushingForHover editor offset =>
      exact resumeFlushingForHover_discreet system editor offset outcome
  | hovering editor position => exact resumeHovering_discreet system editor position outcome
  | flushingForCompletion editor query =>
      exact resumeFlushingForCompletion_discreet system editor query outcome
  | completing query => exact resumeCompleting_discreet system query outcome
  | refreshing => exact resumeRefreshing_discreet system outcome
  | closingSynchronizer editor => exact resumeClosingSynchronizer_discreet system editor outcome
  | closingWorkspace editor ending =>
      exact resumeClosingWorkspace_discreet system editor ending outcome
  | _ => exact inner.elim

theorem resumeInner_discreet
    {stack : List Frame} (system : System) (inner : ∀ frame ∈ stack, frame.IsInner)
    (outcome : Outcome Reply) :
    Discreet system (system.resumeStack outcome stack).1 := by
  induction stack generalizing system outcome with
  | nil => exact .refl system
  | cons frame outer inductionHypothesis =>
      have first := resumeFrame_discreet system (inner frame List.mem_cons_self) outcome
      rcases result : resumeFrame frame system outcome with ⟨later, ending | ⟨frames, promise⟩⟩
      · rw [resumeStack_of_ended outer result]
        rw [result] at first
        exact first.trans (inductionHypothesis later
          (fun other member => inner other (List.mem_cons_of_mem frame member)) ending)
      · rw [resumeStack_of_suspended outer result]
        rw [result] at first
        exact first

theorem resumeStack_discreet
    {stack : List Frame} (system : System) (ofEditor : IsEditorStack stack)
    (outcome : Outcome Reply) :
    Discreet system (system.resumeStack outcome stack).1 := by
  rcases ofEditor with ⟨call, rfl, isCall⟩ | inner
  · cases outcome with
    | returned reply =>
        rw [resumeStack_begin]
        exact call_discreet system isCall
    | failed failure => exact .refl system
    | cancelled => exact .refl system
  · exact resumeInner_discreet system inner outcome

theorem resumeTask_discreet
    (system : System) (task : Nat) (serves : system.ServesEditors) :
    Discreet system (system.resumeTask task) := by
  unfold resumeTask
  split
  · exact .refl system
  · rename_i found entry
    split
    · exact .refl system
    · simp only
      have cleared := Discreet.onLoop system (·.modifyTask task fun found =>
        { found with stack := [], awaiting := none, cancelRequested := false })
      have ran := cleared.trans
        (resumeStack_discreet _ (serves task found entry) (system.signalOf found))
      generalize (system.onLoop _).resumeStack _ _ = step at ran ⊢
      obtain ⟨later, outcome | ⟨frames, promise⟩⟩ := step
      · exact (ran.trans (.note later rfl)).trans (.onLoop _ _)
      · exact ran.trans (.onLoop _ _)

theorem drop_discreet (system : System) (link : Nat) : Discreet system (system.drop link) := by
  unfold drop
  split
  · exact .refl system
  · exact loseConnection_discreet system _

theorem noteEscaped_discreet
    {result : System × Option Failure} {system : System} (discreet : Discreet system result.1) :
    Discreet system (noteEscaped result) := by
  obtain ⟨later, failure⟩ := result
  cases failure with
  | none => exact discreet
  | some failure => exact discreet.trans (.note later rfl)

theorem releases_discreet {system after : System} (releases : system.Releases after) :
    Discreet system after := by
  cases releases with
  | nothing => exact .refl system
  | promise => exact .of_same rfl rfl rfl rfl

/-- An action that delivers no text. -/
theorem act_discreet
    {action : Action} (system : System) (silent : ∀ link text, action ≠ .deliver link text) :
    Discreet system (system.act action) := by
  cases action with
  | discard session id => exact discard_discreet system session id
  | expire session id => exact expire_discreet system session id
  | answerEnded session task => exact endAnswer_discreet system session task
  | debounce synchronizer => exact debounce_discreet system synchronizer
  | sendEnded synchronizer task => exact .modifySynchronizer system synchronizer _
  | deliver link text => exact (silent link text rfl).elim
  | wake promise => exact .onLoop system _

section Steps

variable {editor : Editor} {told : List (List Document.PlacedDiagnostic)} {system : System}
  (presents : Presents editor told system) (own : editor.synchronizer = 0)

include presents own

theorem Presents.act (action : Action) :
    PresentsAfter editor told
      ((arrivalOf? (.act action)).bind (system.published? editor.documentUri))
      (system.act action) := by
  by_cases delivers : ∃ link text, action = .deliver link text
  · obtain ⟨link, text, rfl⟩ := delivers
    exact presents.receive own link text
  · have silent : arrivalOf? (.act action) = none := by
      cases action with
      | deliver link text => exact (delivers ⟨link, text, rfl⟩).elim
      | _ => rfl
    rw [silent]
    exact presents.of_discreet
      (act_discreet system fun link text isDelivery => delivers ⟨link, text, isDelivery⟩)

theorem Presents.runCallback
    (serves : system.ServesEditors) (callback : Callback Action) :
    PresentsAfter editor told
      ((arrivalOf? callback).bind (system.published? editor.documentUri))
      (system.runCallback callback) := by
  cases callback with
  | resume task => exact presents.of_discreet (resumeTask_discreet system task serves)
  | memberEnded group => exact presents.of_discreet (.onLoop system _)
  | fire timer action =>
      have sameDelivery : arrivalOf? (.fire timer action) = arrivalOf? (.act action) := by
        cases action <;> rfl
      rw [sameDelivery]
      exact presents.act own action
  | act action => exact presents.act own action
  | skipped => exact presents

/-- An input shows the diagnostics that it publishes, and nothing else. -/
theorem Presents.step
    (serves : system.ServesEditors) {input : Input} (allowed : input.IsForEditor) :
    PresentsAfter editor told
      ((system.arrival? input).bind (system.published? editor.documentUri))
      (system.step input) := by
  cases input with
  | turn =>
      rcases system.step_turn_cases with ⟨idle, same⟩ | ⟨callback, rest, next, runs⟩
      · have nothing : system.arrival? .turn = none := by
          simp only [arrival?, comingCallback?, idle, Option.map_none, Option.bind_none]
        rw [same, nothing]
        exact presents
      · have taken : Presents editor told { system with loop := rest } :=
          presents.of_discreet (.of_same rfl rfl rfl rfl)
        have coming : system.arrival? .turn = arrivalOf? callback := by
          simp only [arrival?, comingCallback?, next, Option.map_some, Option.bind_some]
        have tasks := (Scheduler.taken_of_next? next).tasks
        rw [runs, coming]
        exact taken.runCallback own (fun task found entry => serves task found (tasks ▸ entry))
          callback
  | receive link text => exact presents.receive own link text
  | call call => exact presents.of_discreet (.onLoop system _)
  | cancel task => exact presents.of_discreet (.onLoop system _)
  | editText editor text =>
      exact presents.of_discreet (noteEscaped_discreet (editText_discreet system editor text))
  | drop link => exact presents.of_discreet (drop_discreet system link)
  | behave peer => exact presents.of_discreet (.of_same rfl rfl rfl rfl)
  | release place => exact presents.of_discreet (releases_discreet (system.releaseFrame_releases place))
  | releaseClose place =>
      exact presents.of_discreet (releases_discreet (system.releaseClosing_releases place))
  | tick moment => exact presents.of_discreet (.onLoop system _)
  | _ => exact allowed.elim

end Steps

/-! ## Tasks -/

theorem isTracked_of_isEditorStack
    {stack : List Frame} (ofEditor : IsEditorStack stack) :
    IsTracked stack := by
  rcases ofEditor with ⟨call, begins, isCall⟩ | inner
  · refine Or.inl ⟨call, begins, ?_⟩
    cases call <;> trivial
  · exact Or.inr inner

/-- With an input of an editor all tasks belong to editors still. -/
theorem ServesEditors.step
    {system : System} {input : Input} (serves : system.ServesEditors)
    (allowed : input.IsForEditor) : (system.step input).ServesEditors := by
  have stays {task : Nat} {later : TaskState Frame} (stay : Stays system input task later) :
      IsEditorStack later.stack := by
    rcases stay with ⟨earlier, entry, same, _⟩ | ⟨_, _, own | ⟨call, rfl, begins⟩⟩
    · exact same ▸ serves task earlier entry
    · rcases own with ⟨session, id, begins⟩ | ⟨synchronizer, begins⟩
      · exact Or.inl ⟨_, begins, trivial⟩
      · exact Or.inl ⟨_, begins, trivial⟩
    · refine Or.inl ⟨call, begins, ?_⟩
      cases call <;> trivial
  intro task later entry
  cases system.step_conducted (fun other found known =>
    isTracked_of_isEditorStack (serves other found known))
    input with
  | aside aside tasks => exact stays (tasks task later entry)
  | turn running rest found isTurn resumes turned =>
      by_cases same : task = running
      · obtain ⟨deeds, left, _, leftEntry, _, inner⟩ := turned.does
        rw [same] at entry
        rw [leftEntry] at entry
        exact Or.inr (Option.some.inj entry ▸ inner)
      · subst isTurn
        exact stays (turned.others task later same entry)

end System

/-! ## Runs -/

namespace EditorSetup

variable (setup : EditorSetup)

/-- What the host hears of some publications. -/
def hears (history : List (List Document.PlacedDiagnostic)) :
    List (List Document.PlacedDiagnostic) :=
  history.flatMap setup.listener.hears

/-- The editor after some publications. -/
def editorAfter (history : List (List Document.PlacedDiagnostic)) : Editor :=
  { setup.editor with diagnostics := history.getLast?.getD [] }

end EditorSetup

section Runs

open LanguageClient.Client.System

variable {inputs : Nat → Input}

theorem EditorSetup.presentsAfter
    {setup : EditorSetup} {history : List (List Document.PlacedDiagnostic)}
    {placed? : Option (List Document.PlacedDiagnostic)} {system : System}
    (presents : PresentsAfter (setup.editorAfter history) (setup.hears history) placed? system) :
    Presents (setup.editorAfter (history ++ placed?.toList))
      (setup.hears (history ++ placed?.toList)) system := by
  cases placed? with
  | none =>
      rw [Option.toList_none, List.append_nil]
      exact presents
  | some placed =>
      simp only [Option.toList_some, editorAfter, hears, List.getLast?_concat, Option.getD_some,
        List.flatMap_append, List.flatMap_singleton]
      exact presents

theorem System.Presents.publication?
    {editor : Editor} {told : List (List Document.PlacedDiagnostic)} {system : System}
    (presents : Presents editor told system) (input : Input) :
    system.publication? input =
      (system.arrival? input).bind (system.published? editor.documentUri) := by
  obtain ⟨found, editors, rfl⟩ := presents.only
  simp only [System.publication?, editors, List.getElem?_cons_zero, bind, Option.bind_some]
  rfl

/-- At any time the editor shows what was published last, and the host has heard all that was. -/
theorem publications_presented
    (setup : EditorSetup) (allowed : ∀ place, (inputs place).IsForEditor) (count : Nat) :
    let history := setup.created.publications inputs count
    Presents (setup.editorAfter history) (setup.hears history)
        (setup.created.after inputs count) ∧
      (setup.created.after inputs count).ServesEditors := by
  induction count with
  | zero =>
      refine ⟨⟨rfl, rfl, ?_⟩, fun task found entry => by cases entry⟩
      intro workspace uri file registered
      cases registered
  | succ count inductionHypothesis =>
      obtain ⟨presents, serves⟩ := inductionHypothesis
      have stepped := presents.step rfl serves (allowed count)
      rw [← presents.publication? (inputs count)] at stepped
      exact ⟨EditorSetup.presentsAfter stepped, serves.step (allowed count)⟩

theorem EditorSetup.hears_eq
    (setup : EditorSetup) (history : List (List Document.PlacedDiagnostic)) :
    setup.hears history =
      match setup.listener with
      | .nobody => []
      | .host _ => history := by
  unfold EditorSetup.hears DiagnosticsListener.hears
  cases setup.listener <;> simp

/-- An input publishes diagnostics exactly if it brings a notification with raw parameters that name
the document while that is open in the workspace that hears them, and that have the right shape. -/
theorem publication?_eq_some_iff
    (setup : EditorSetup) (allowed : ∀ place, (inputs place).IsForEditor) (count : Nat)
    (placed : List Document.PlacedDiagnostic) :
    (setup.created.after inputs count).publication? (inputs count) = some placed ↔
      ∃ link text params uri workspace published,
        (setup.created.after inputs count).arrival? (inputs count) = some (link, text) ∧
        notification? text = some (.string Method.publishDiagnostics, params) ∧
        setup.options.documentUri = .string uri ∧ params.get? "uri" = some (.string uri) ∧
        (setup.created.after inputs count).hearingWorkspace? link = some workspace ∧
        (∃ file, (setup.created.after inputs count).openFile? workspace uri = some file) ∧
        publishedDiagnosticsOf params = .ok published ∧
        placed = Document.placeDiagnostics
          (.ofText (setup.created.after inputs count).documentText) published.diagnostics := by
  have presents := (publications_presented setup allowed count).1
  have uri : (setup.editorAfter (setup.created.publications inputs count)).documentUri =
      setup.options.documentUri := rfl
  rw [presents.publication?, uri]
  generalize setup.created.after inputs count = system
  constructor
  · intro publishes
    obtain ⟨⟨link, text⟩, arrives, heard⟩ := Option.bind_eq_some_iff.mp publishes
    obtain ⟨workspace, hears, told⟩ := Option.bind_eq_some_iff.mp heard
    obtain ⟨⟨method, params⟩, isNotification, shown⟩ := Option.bind_eq_some_iff.mp told
    simp only [heardDiagnostics?] at shown
    split at shown
    · rename_i condition
      obtain ⟨rfl, named, registered⟩ := condition
      obtain ⟨published, structured, rfl⟩ := Option.map_eq_some_iff.mp shown
      unfold registers at registered
      split at registered
      · rename_i uri isUri
        refine ⟨link, text, params, uri, workspace, published, arrives, isNotification, isUri,
          isUri ▸ named, hears, Option.isSome_iff_exists.mp registered, ?_, rfl⟩
        cases result : publishedDiagnosticsOf params with
        | error failure =>
            rw [result] at structured
            cases structured
        | ok other =>
            rw [result] at structured
            exact congrArg Except.ok (Option.some.inj structured)
      · cases registered
    · cases shown
  · rintro ⟨link, text, params, uri, workspace, published, arrives, isNotification, isUri, named,
      hears, ⟨file, isOpen⟩, structured, rfl⟩
    have registered : system.registers workspace (.string uri) = true := by
      simp only [registers, isOpen, Option.isSome_some]
    simp [arrives, published?, hears, isNotification, heardDiagnostics?, isUri, named, registered,
      structured, Except.toOption]

/-- The diagnostics of an editor are those that were published last, placed in the text that the
editor had when they came, and there are none before the first publication. A callback of the host
is told each publication once, in the order in which they come, whether it fails or not. Whatever
publishes nothing changes neither. -/
theorem diagnostics_follow_publications
    (setup : EditorSetup) (inputs : Nat → Input) (allowed : ∀ place, (inputs place).IsForEditor)
    (count : Nat) :
    let run := setup.created.after inputs
    let history := setup.created.publications inputs count
    (run count).diagnosticsOfEditor = history.getLast?.getD [] ∧
      (run count).toldDiagnostics =
        (match setup.listener with
        | .nobody => []
        | .host _ => history) ∧
      ((run count).publication? (inputs count) = none →
        (run (count + 1)).diagnosticsOfEditor = (run count).diagnosticsOfEditor ∧
          (run (count + 1)).toldDiagnostics = (run count).toldDiagnostics) := by
  intro run history
  have shown (moment : Nat) :
      (run moment).diagnosticsOfEditor =
          (setup.created.publications inputs moment).getLast?.getD [] ∧
        (run moment).toldDiagnostics =
          setup.hears (setup.created.publications inputs moment) := by
    have presents := (publications_presented setup allowed moment).1
    obtain ⟨found, editors, same⟩ := presents.only
    refine ⟨?_, presents.told⟩
    have diagnostics : found.detached.diagnostics =
        (setup.editorAfter (setup.created.publications inputs moment)).diagnostics := by
      rw [same]
    change ((run moment).editors[0]?.map Editor.diagnostics).getD [] = _
    rw [editors]
    exact diagnostics
  refine ⟨(shown count).1, (shown count).2.trans (setup.hears_eq history), fun silent => ?_⟩
  have same : setup.created.publications inputs (count + 1) =
      setup.created.publications inputs count := by
    rw [publications, silent, Option.toList_none, List.append_nil]
  rw [(shown (count + 1)).1, (shown (count + 1)).2, same, (shown count).1, (shown count).2]
  exact ⟨rfl, rfl⟩

end Runs

/-! ## A run -/

/-- A text with which the server publishes diagnostics of a document. -/
def publishText (uri : String) (diagnostics : List Value) : String :=
  (Value.object [("method", .string Method.publishDiagnostics), ("params",
    .object [("uri", .string uri), ("diagnostics", .array diagnostics)])]).render

/-- A diagnostic of the server at the beginning of a document. -/
def firstDiagnostic : Value :=
  let place : Value := .object [("line", .int 0), ("character", .int 0)]
  .object [("range", .object [("start", place), ("end", place)]), ("message", .string "m")]

/-- The callback of the host fails whenever it is called. -/
def failingListener : EditorSetup := { hoveredEditor with
  options := { hoveredEditor.options with documentUri := .string "file:///d" }
  listener := .host true }

/-- Diagnostics come for the document, then none are left, and more come after the editor was
closed. -/
def publishedTwice : Nat → Input
  | 0 => .behave hoverServer
  | 1 => .call (.start 0)
  | 8 => .receive 0 (publishText "file:///d" [firstDiagnostic])
  | 9 => .receive 0 (publishText "file:///d" [])
  | 10 => .call (.closeEditor 0)
  | 12 => .receive 0 (publishText "file:///d" [])
  | _ => .turn

theorem publishedTwice_isForEditor (place : Nat) : (publishedTwice place).IsForEditor := by
  unfold publishedTwice
  split <;> first | rfl | trivial

/-- The diagnostic as the host sees it. -/
def placedFirst : Document.PlacedDiagnostic where
  start := 0
  stop := 0
  severity := .info
  message := "m"
  source := none
  code := .null

/-- Two of the three texts publish diagnostics of the document, and the host hears of just these. -/
theorem diagnostics_follow_publications_publishedTwice :
    (∀ place, (publishedTwice place).IsForEditor) ∧
      failingListener.created.publications publishedTwice 13 = [[placedFirst], []] ∧
      (failingListener.created.after publishedTwice 13).diagnosticsOfEditor = [] := by
  have follows := diagnostics_follow_publications failingListener publishedTwice
    publishedTwice_isForEditor 13
  have told : (failingListener.created.after publishedTwice 13).toldDiagnostics =
      [[placedFirst], []] := by
    decide +kernel
  have history := follows.2.1.symm.trans told
  refine ⟨publishedTwice_isForEditor, history, follows.1.trans ?_⟩
  exact congrArg (fun publications => publications.getLast?.getD []) history

end LanguageClient.Client
