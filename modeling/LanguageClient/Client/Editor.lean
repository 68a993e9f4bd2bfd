import LanguageClient.Client.Synchronizer

/-!
# Editors

An editor binds one document of the host to a language server. Queries flush the edits first, and a
query that fails for a reason of the client or of the server returns no result.
-/

namespace LanguageClient.Client

open LanguageClient.Json LanguageClient.Loop LanguageClient.Number LanguageClient.Protocol

namespace System

/-- Adds an editor with its synchronizer; its number is the number of editors before. -/
def addEditor (system : System) (options : Options) (text : String)
    (listener : DiagnosticsListener) (unreachable : Option Failure) : System :=
  let synchronizer := system.synchronizers.length
  let system := system.addSynchronizer options.documentUri.display options.languageId text
    options.debounce
  { system with
    editors := system.editors ++ [{
      serverUri := options.serverUri
      documentUri := options.documentUri
      languageId := options.languageId
      rootUri := options.rootUri
      folders := options.workspaceFolders
      timeout := options.timeout
      synchronizer
      listener
      unreachable }] }

def editorText (system : System) (editor : Editor) : String :=
  ((system.synchronizers[editor.synchronizer]?).map (·.text)).getD ""

def snapshotOf (system : System) (editor : Editor) : Document.Snapshot :=
  .ofText (system.editorText editor)

def readyWorkspace? (system : System) (editor : Editor) : Option Workspace :=
  if system.isReady editor.synchronizer then
    editor.workspace.bind fun workspace => system.workspaces[workspace]?
  else none

/-! ## Starting -/

/-- Goes on after the workspace of an editor that did not start was closed. -/
def resumeAbandoningStart (editor : Nat) (ending : Outcome Reply) (system : System)
    (outcome : Outcome Reply) : Step :=
  match outcome with
  | .returned _ =>
    .ended (system.modifyEditor editor fun found => { found with workspace := none }) ending
  | .failed _ | .cancelled => .ended system outcome

/-- Closes the workspace of an editor; the rest of the call is given. An editor without a workspace
has nothing to close, which is a failure. -/
def closeWorkspaceOf (system : System) (editor : Nat) (frame : Frame)
    (rest : System → Outcome Reply → Step) : Step :=
  match (system.editors[editor]?).bind (·.workspace) with
  | none => .failed system .missing
  | some workspace => Step.andThen (system.closeWorkspace workspace) frame rest

/-- Goes on after the document of an editor was opened with a text. -/
def resumeOpeningDocument (editor : Nat) (text : String) (system : System)
    (outcome : Outcome Reply) : Step :=
  match outcome, system.editors[editor]? with
  | .returned (.file file), some found =>
    match system.attach found.synchronizer file text with
    | (system, none) => .returned system .nothing
    | (system, some failure) => .failed system failure
  | .returned _, _ => .failed system .missing
  | .failed _, _ | .cancelled, _ =>
    system.closeWorkspaceOf editor (.abandoningStart editor outcome)
      (resumeAbandoningStart editor outcome)

def openDocument (system : System) (workspace : Nat) (editor : Nat) (found : Editor)
    (text : String) : Step :=
  match found.documentUri with
  | .string uri =>
    system.openFile workspace uri found.languageId text
      [(Method.publishDiagnostics, .editor editor)]
  | _ => .failed system .wrongType

/-- Goes on after the workspace of an editor was created. -/
def resumeCreatingWorkspace (editor : Nat) (system : System) (outcome : Outcome Reply) : Step :=
  match outcome, system.editors[editor]? with
  | .returned (.workspace workspace), some found =>
    let system := system.modifyEditor editor fun found => { found with workspace := some workspace }
    let text := system.editorText found
    Step.andThen (system.openDocument workspace editor found text) (.openingDocument editor text)
      (resumeOpeningDocument editor text)
  | .returned _, _ => .failed system .missing
  | .failed _, _ | .cancelled, _ => .ended system outcome

/-- Performs the handshake and opens the document. -/
def start (system : System) (editor : Nat) : Step :=
  match system.editors[editor]? with
  | none => .failed system .missing
  | some found =>
    Step.andThen
      (system.createWorkspace {
        serverUri := found.serverUri
        rootUri := found.rootUri
        folders := found.folders
        timeout := found.timeout
        unreachable := found.unreachable })
      (.creatingWorkspace editor) (resumeCreatingWorkspace editor)

/-- Takes a new text of the host. -/
def editText (system : System) (editor : Nat) (text : String) : System × Option Failure :=
  match system.editors[editor]? with
  | none => (system, none)
  | some found => system.edit found.synchronizer text

/-! ## Queries -/

/-- Ends a query that failed: without a result if it can recover from the failure. -/
def recover (system : System) (failure : Failure) (without : Reply) : Step :=
  if failure.isQueryFailure then .returned system without else .failed system failure

/-- Sends a request of an editor in the session of its workspace. -/
def requestOf (system : System) (editor : Editor) (method : String) (params : Value) : Step :=
  match editor.workspace.bind fun workspace => system.workspaces[workspace]? with
  | none => .failed system .missing
  | some workspace => system.request workspace.session method (some params) (some editor.timeout)

/-- Goes on after the answer to a hover request has come. The hover is placed in the text as it is
then. -/
def resumeHovering (editor : Nat) (position : Position) (system : System)
    (outcome : Outcome Reply) : Step :=
  match outcome, system.editors[editor]? with
  | .returned (.result raw), some found =>
    match hoverResultOf raw with
    | .error failure => system.recover failure (.hover none)
    | .ok hover =>
      match Document.placeHover (system.snapshotOf found) position hover with
      | .ok placed => .returned system (.hover placed)
      | .error failure => .failed system failure
  | .returned _, _ => .failed system .missing
  | .failed failure, _ => system.recover failure (.hover none)
  | .cancelled, _ => .ended system .cancelled

/-- Goes on after edits were flushed for a hover request. -/
def resumeFlushingForHover (editor : Nat) (offset : Int) (system : System)
    (outcome : Outcome Reply) : Step :=
  match outcome, system.editors[editor]? with
  | .returned _, some found =>
    match (system.snapshotOf found).toPosition offset with
    | .error fault => system.recover (.position fault) (.hover none)
    | .ok position =>
      Step.andThen
        (system.requestOf found Method.hover (hoverParams found.documentUri.display position))
        (.hovering editor position) (resumeHovering editor position)
  | .returned _, none => .failed system .missing
  | .failed failure, _ => system.recover failure (.hover none)
  | .cancelled, _ => .ended system .cancelled

def hover (system : System) (editor : Nat) (offset : Int) : Step :=
  match system.editors[editor]? with
  | none => .failed system .missing
  | some found =>
    match system.readyWorkspace? found with
    | none => .returned system (.hover none)
    | some workspace =>
      if workspace.capabilities.hover then
        Step.andThen (system.flush found.synchronizer false) (.flushingForHover editor offset)
          (resumeFlushingForHover editor offset)
      else .returned system (.hover none)

/-- Goes on after the answer to a completion request has come. -/
def resumeCompleting (query : CompletionQuery) (system : System) (outcome : Outcome Reply) : Step :=
  match outcome with
  | .returned (.result raw) =>
    match (completionResultOf raw).bind Completion.candidatesOf with
    | .error failure => system.recover failure (.completion none)
    | .ok none => .returned system (.completion none)
    | .ok (some candidates) =>
      .returned system (.completion (some (Completion.rank candidates query.before query.offset)))
  | .returned _ => .failed system .missing
  | .failed failure => system.recover failure (.completion none)
  | .cancelled => .ended system .cancelled

/-- Goes on after edits were flushed for a completion request. -/
def resumeFlushingForCompletion (editor : Nat) (query : CompletionQuery) (system : System)
    (outcome : Outcome Reply) : Step :=
  match outcome, system.editors[editor]? with
  | .returned _, some found =>
    Step.andThen
      (system.requestOf found Method.completion
        (completionParams found.documentUri.display query.position query.trigger))
      (.completing query) (resumeCompleting query)
  | .returned _, none => .failed system .missing
  | .failed failure, _ => system.recover failure (.completion none)
  | .cancelled, _ => .ended system .cancelled

/-- The query for an offset. There is none if the offset does not resolve, or if neither a trigger
character nor a word stands before it. -/
def completionQuery? (snapshot : Document.Snapshot) (triggers : List String) (offset : Int)
    (explicit : Bool) : Option CompletionQuery := do
  let position ← (snapshot.toPosition offset).toOption
  let line ← (snapshot.lineText position.line).toOption
  let before := line.take position.character
  let previous ← before.getLast?
  if !explicit && triggers.contains (String.ofList [previous]) then
    some { offset, position, before, trigger := some previous }
  else if Text.isWord previous then some { offset, position, before, trigger := none }
  else none

def complete (system : System) (editor : Nat) (offset : Int) (explicit : Bool) : Step :=
  match system.editors[editor]? with
  | none => .failed system .missing
  | some found =>
    match (system.readyWorkspace? found).bind (·.capabilities.completion) with
    | none => .returned system (.completion none)
    | some triggers =>
      match completionQuery? (system.snapshotOf found) triggers offset explicit with
      | none => .returned system (.completion none)
      | some query =>
        Step.andThen (system.flush found.synchronizer false) (.flushingForCompletion editor query)
          (resumeFlushingForCompletion editor query)

/-- Goes on after the text was sent for fresh diagnostics. -/
def resumeRefreshing (system : System) (outcome : Outcome Reply) : Step :=
  match outcome with
  | .returned _ => .returned system .nothing
  | .failed failure => system.recover failure .nothing
  | .cancelled => .ended system .cancelled

/-- Sends the text in any case, so that the server publishes diagnostics again. -/
def refresh (system : System) (editor : Nat) : Step :=
  match system.editors[editor]? with
  | none => .failed system .missing
  | some found =>
    match system.readyWorkspace? found with
    | none => .returned system .nothing
    | some _ =>
      Step.andThen (system.flush found.synchronizer true) .refreshing resumeRefreshing

/-! ## Closing -/

/-- Goes on after the workspace of an editor was closed. -/
def resumeClosingWorkspace (editor : Nat) (ending : Outcome Reply) (system : System)
    (outcome : Outcome Reply) : Step :=
  match outcome with
  | .returned _ =>
    .ended (system.modifyEditor editor fun found => { found with workspace := none }) ending
  | .failed _ | .cancelled => .ended system outcome

/-- Goes on after the synchronizer of an editor was closed, in whatever way. -/
def resumeClosingSynchronizer (editor : Nat) (system : System) (outcome : Outcome Reply) : Step :=
  system.closeWorkspaceOf editor (.closingWorkspace editor outcome)
    (resumeClosingWorkspace editor outcome)

/-- Closes the document, then the workspace. -/
def closeEditor (system : System) (editor : Nat) : Step :=
  match system.editors[editor]? with
  | none => .failed system .missing
  | some found =>
    match found.workspace with
    | none => .returned system .nothing
    | some _ =>
      Step.andThen (system.closeSynchronizer found.synchronizer) (.closingSynchronizer editor)
        (resumeClosingSynchronizer editor)

/-! ## Diagnostics -/

/-- Places published diagnostics in the text of an editor and tells the host. -/
def showDiagnostics (system : System) (editor : Nat) (published : PublishedDiagnostics) :
    System × Option Failure :=
  match system.editors[editor]? with
  | none => (system, none)
  | some found =>
    let diagnostics :=
      Document.placeDiagnostics (system.snapshotOf found) published.diagnostics
    let system := system.modifyEditor editor fun found => { found with diagnostics }
    match found.listener with
    | .nobody => (system, none)
    | .host fails => (system.note (.told (.diagnostics diagnostics)),
        if fails then some (.foreign "RuntimeError" "handler broke") else none)

end System

end LanguageClient.Client
