import LanguageClient.Proofs.Synchronizer.Steps

/-!
# Runs of a synchronizer

A run begins when a synchronizer is attached to a document that has been opened. The invariant holds
from then on.
-/

namespace LanguageClient.Client

open LanguageClient.Json LanguageClient.Loop LanguageClient.Number LanguageClient.Protocol

/-- What is known when a synchronizer is attached to an open document. The host may have changed the
text since the document was opened. -/
structure Attachment where
  resolution : Rat
  timeout : Quantity
  server : InitializeResult
  uri : String
  languageId : String
  listeners : List (String × DocumentListener)
  openedText : String
  text : String
  debounce : Quantity

namespace Attachment

variable (attachment : Attachment)

/-- A client whose session has been initialized. -/
def initialized : System :=
  (System.ofSession attachment.resolution attachment.timeout).addWorkspace 0 attachment.server

/-- The announcement of the document. -/
def openFrame : Value :=
  notificationMessage Method.didOpen (some (didOpenParams attachment.uri
    (.string attachment.languageId) attachment.openedText))

/-- A client that has opened the document. -/
def opened : System :=
  (attachment.initialized.openFile 0 attachment.uri (.string attachment.languageId)
    attachment.openedText attachment.listeners).1

/-- A client that has a synchronizer for the document but has not attached it. -/
def detached : System :=
  attachment.opened.addSynchronizer attachment.uri (.string attachment.languageId) attachment.text
    attachment.debounce

/-- A client that has attached the synchronizer to the document. -/
def start : System :=
  System.noteEscaped (attachment.detached.attach 0 0 attachment.openedText)

theorem isWritable_didOpenParams (uri languageId text : String) :
    isWritable (didOpenParams uri (.string languageId) text) = true := by
  simp [isWritable, payloadDepth, didOpenParams, Value.hasDepthWithin, membersHaveDepthWithin]

theorem delivery?_openFrame :
    delivery? attachment.uri attachment.openFrame = some (.opened attachment.openedText) := by
  simp [delivery?, openFrame, notificationMessage, paramsMember, didOpenParams, messageVersion,
    Value.get?, member?, methodOf?, textOf?]

/-- The handle of the document. -/
def handle : OpenFile where
  workspace := 0
  uri := attachment.uri
  languageId := .string attachment.languageId
  listeners := attachment.listeners

theorem opened_eq :
    attachment.opened =
      ((attachment.initialized.addFile attachment.handle).note
        (.handed 0 attachment.openFrame)).accept 0 attachment.openFrame := by
  have unknown : attachment.initialized.openFile? 0 attachment.uri = none := rfl
  have sessionFound : (attachment.initialized.addFile attachment.handle).sessions[0]? =
      some { link := 0, defaultTimeout := attachment.timeout, listener := .workspace 0 } :=
    rfl
  have workspaceFound : (attachment.initialized.addFile attachment.handle).workspaces[0]? =
      some {
        session := 0
        capabilities := attachment.server.capabilities
        serverInfo := attachment.server.serverInfo
        openFiles := [(attachment.uri, 0)] } :=
    rfl
  have written : (attachment.initialized.addFile attachment.handle).notifyIn 0 Method.didOpen
      (didOpenParams attachment.uri (.string attachment.languageId) attachment.openedText) =
        (attachment.initialized.addFile attachment.handle).write 0 Method.didOpen
          attachment.openFrame := by
    simp [System.notifyIn, workspaceFound, System.notify, sessionFound, isWritable_didOpenParams,
      openFrame]
  simp only [opened, System.openFile, unknown]
  change (Step.andThen ((attachment.initialized.addFile attachment.handle).notifyIn 0 _ _) _ _).1 = _
  rw [written, System.write_of_acceptance Method.didOpen sessionFound rfl rfl]
  rfl

/-- The synchronizer before it is attached. -/
def synchronizer : Synchronizer where
  uri := attachment.uri
  languageId := .string attachment.languageId
  text := attachment.text
  debounce := attachment.debounce

theorem detached_deliveries :
    attachment.detached.deliveries attachment.uri = [.opened attachment.openedText] := by
  have same : attachment.detached.deliveries attachment.uri =
      attachment.opened.deliveries attachment.uri := rfl
  rw [same, opened_eq, System.accept_deliveries, delivery?_openFrame]
  rfl

theorem detached_passage (calm : Prop) :
    SyncPassage calm attachment.uri none attachment.detached attachment.synchronizer
      attachment.detached := by
  have opened := attachment.opened_eq
  have empty : attachment.detached.loop.promises = [] ∧ attachment.detached.loop.tasks = [] ∧
      attachment.detached.loop.ready = [] ∧ attachment.detached.loop.timers = [] := by
    rw [detached, opened]
    exact ⟨rfl, rfl, rfl, rfl⟩
  obtain ⟨promises, tasks, ready, timers⟩ := empty
  have detained : attachment.detached.peer.detained = [] := by
    rw [detached, opened]
    exact detained_accept _ _
  exact {
    parts := {
      synchronizers := by
        rw [detached, opened]
        rfl
      editors := by
        rw [detached, opened]
        rfl
      session := by
        rw [detached, opened]
        exact ⟨_, rfl, rfl⟩
      workspace := by
        rw [detached, opened]
        exact ⟨_, rfl, rfl⟩
      file := by
        rw [detached, opened]
        exact ⟨attachment.handle, rfl, rfl, rfl⟩
      attached := nofun
      lock := {
        waiters := nofun
        detained := by
          rw [detained]
          nofun
        granted := nofun } }
    loop := .refl (.of_empty promises tasks ready timers) (.of_empty promises tasks ready) nofun }

/-- The synchronizer once it is attached. -/
def attached (timer? : Option Nat) : Synchronizer :=
  { attachment.synchronizer with
    file := some 0
    dirty := attachment.text ≠ attachment.openedText
    timer := timer? }

theorem detached_isOpen : attachment.detached.isOpen 0 = true := by
  have registered : attachment.detached.isOpen 0 =
      decide ([(attachment.uri, 0)].lookup attachment.uri = some 0) := by
    rw [detached, opened_eq]
    rfl
  rw [registered, List.lookup_cons_self]
  rfl

/-- The invariant holds from the start, the document is open, and no task runs yet. -/
theorem start_world (calm : Prop) :
    ∃ timer?, SyncWorld calm attachment.uri none (attachment.attached timer?) attachment.start ∧
      attachment.start.loop.tasks = [] ∧ attachment.start.isReady 0 = true ∧
      (attachment.text ≠ attachment.openedText →
        timer?.isSome = attachment.debounce.delay?.isSome) ∧
      ∀ timer, timer? = some timer → attachment.start.HasTimer timer := by
  obtain ⟨timer?, passage, same, armed⟩ :=
    attach_passage (attachment.detached_passage calm) attachment.openedText
  have noTasks : attachment.start.loop.tasks = [] := by
    refine same.tasks.trans ?_
    rw [detached, opened_eq]
    rfl
  have ready : attachment.start.isReady 0 = true :=
    (isReady_iff passage).mpr ⟨rfl, (same.isOpen 0).trans attachment.detached_isOpen⟩
  have delivered : attachment.start.deliveries attachment.uri =
      [.opened attachment.openedText] :=
    same.deliveries.trans attachment.detached_deliveries
  refine ⟨timer?, ?_, noTasks, ready, ?_, ?_⟩
  · exact {
      parts := passage.parts
      ledger := {
        held := rfl
        versions := by
          rw [delivered]
          rfl
        settled := fun _ clean => by
          have sameText : attachment.text = attachment.openedText := by
            simpa [attached] using clean
          rw [delivered, ← sameText]
          rfl
        next := nofun
        current := nofun
        earlier := nofun }
      places := by
        constructor <;> simp [noTasks]
      orderly := passage.loop.orderly
      punctual := passage.loop.punctual }
  · intro different
    rcases armed with ⟨_, counted, _⟩ | ⟨unchanged, _⟩
    · exact counted
    · exact (different unchanged).elim
  · intro timer isTimer
    rcases armed with ⟨_, _, hasTimer⟩ | ⟨_, none, _⟩
    · exact hasTimer timer isTimer
    · rw [none] at isTimer
      cases isTimer

end Attachment

section Runs

variable {calm : Prop} {uri : String} {start : System} {inputs : Nat → Input}

theorem sync_world
    (world : ∃ holder synchronizer, SyncWorld calm uri holder synchronizer start)
    (allowed : ∀ place, (inputs place).OnSynchronizer)
    (alone : ∀ place task, inputs place = .cancel task → calm →
      (start.after inputs place).loop.awaitedGroup? task = none)
    (count : Nat) :
    ∃ holder synchronizer, SyncWorld calm uri holder synchronizer (start.after inputs count) := by
  induction count with
  | zero =>
      exact world
  | succ count inductionHypothesis =>
      obtain ⟨holder, synchronizer, earlier⟩ := inductionHypothesis
      exact earlier.step (allowed count) (alone count)

end Runs

end LanguageClient.Client
