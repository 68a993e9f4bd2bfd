import LanguageClient.Proofs.Synchronizer.Turns

/-!
# The world of an editor

An invariant of a client that has one editor, which is started once. It tells where every task can
be, which task sends a change under the lock, and how the text of the editor and the text that the
peer has belong together.
-/

namespace LanguageClient.Client

open LanguageClient.Json LanguageClient.Loop LanguageClient.Number LanguageClient.Protocol

/-! ## What is seen of the document -/

/-- Whether a frame asks about a place in a document. -/
def isQuery (frame : Value) : Bool :=
  methodOf? frame = some Method.hover || methodOf? frame = some Method.completion

/-- The query that is handed to a connection. -/
def Occurrence.query? : Occurrence → Option Value
  | .handed _ frame => if isQuery frame then some frame else none
  | _ => none

/-- The queries that were handed to connections, in order. -/
def System.queries (system : System) : List Value := system.journal.filterMap Occurrence.query?

/-- What is seen of the document of an editor: its synchronizer, what the peer has accepted of it,
and the queries that were handed to connections. -/
structure View where
  synchronizer : Synchronizer
  delivered : List Delivery
  asked : List Value

/-- The frame that opens a document. -/
def didOpenFrame (uri : String) (languageId : Value) (text : String) : Value :=
  notificationMessage Method.didOpen (some (didOpenParams uri languageId text))

/-- The frames of a start whose announcement of the document is held back. -/
def openingFrames
    (uri : String) (link : Nat) (languageId : Value) (text : String) (workspace file : Nat) :
    List Frame := [
  .sending link (didOpenFrame uri languageId text), .writing Method.didOpen,
  .opening workspace uri file, .openingDocument 0 text]

/-! ## Where tasks can be -/

/-- Whether a call is one of the editor, or one that the client starts by itself. -/
def Call.AtEditor : Call → Prop
  | .start editor | .hover editor _ | .complete editor _ _ | .refresh editor
  | .closeEditor editor => editor = 0
  | .sendDebounced synchronizer => synchronizer = 0
  | .answer _ _ => True
  | _ => False

/-- A call that the client starts by itself. -/
def Call.IsOwn : Call → Prop
  | .sendDebounced _ | .answer _ _ => True
  | _ => False

/-- A frame whose rest delivers nothing of the document and leaves its text alone. -/
def Frame.IsQuiet (uri : String) : Frame → Prop
  | .sending _ frame => delivery? uri frame = none
  | .settlingSends synchronizer | .detaching synchronizer => synchronizer = 0
  | .writing _ | .requesting _ | .closingLink | .handshaking _ _ | .confirming _ _ _
  | .abandoningHandshake _ | .closingFile _ | .abandoningStart _ _ | .hovering _ _
  | .completing _ | .closingSynchronizer _ | .closingWorkspace _ _ => True
  | _ => False

/-- A frame that waits for a send. -/
def Frame.AwaitsSend : Frame → Prop
  | .flushingForHover editor _ | .flushingForCompletion editor _ => editor = 0
  | .sendingDebounced synchronizer => synchronizer = 0
  | .refreshing => True
  | _ => False

/-- A frame of a start that has not opened the document yet. -/
def Frame.Starts : Frame → Prop
  | .begin (.start _) | .creatingWorkspace _ | .openingDocument _ _ => True
  | _ => False

/-- The frames of a task that starts the editor and has not opened the document yet. -/
def IsStarting (stack : List Frame) : Prop := ∃ frame ∈ stack, frame.Starts

/-- Where a task can be, and what it awaits there. -/
inductive EditorShape (uri : String) : List Frame → Option Nat → Prop where
  | idle : EditorShape uri [] none
  | begins (call : Call) (allowed : call.AtEditor) : EditorShape uri [.begin call] none
  | quiet (frames : List Frame) (promise : Nat) (quiet : ∀ frame ∈ frames, frame.IsQuiet uri) :
    EditorShape uri frames (some promise)
  | locks (promise : Nat) (force : Bool) (caller : Frame) (sends : caller.AwaitsSend) :
    EditorShape uri [.locking 0 promise force, caller] (some promise)
  | changes (link : Nat) (change : Change) (promise : Nat) (caller : Frame)
      (sends : caller.AwaitsSend) :
    EditorShape uri (changeFrames uri link change ++ [caller]) (some promise)
  | creates (frames : List Frame) (promise : Nat) (quiet : ∀ frame ∈ frames, frame.IsQuiet uri) :
    EditorShape uri (frames ++ [.creatingWorkspace 0]) (some promise)
  | opens (link : Nat) (languageId : Value) (text : String) (workspace file promise : Nat) :
    EditorShape uri (openingFrames uri link languageId text workspace file) (some promise)

/-- An action of a timer. -/
def Action.IsTimed : Action → Prop
  | .debounce synchronizer => synchronizer = 0
  | .expire _ _ => True
  | _ => False

/-- What tasks, callbacks and timers may be. -/
def editorScope (uri : String) : Scope Frame Action where
  task := EditorShape uri
  callback
    | .resume _ | .memberEnded _ | .skipped => True
    | .fire _ action => action.IsTimed
    | .act (.discard _ _) | .act (.answerEnded _ _) | .act (.deliver _ _) => True
    | .act (.sendEnded synchronizer _) => synchronizer = 0
    | .act _ => False
  timer := fun timer => timer.action.IsTimed
  group := fun _ => True

/-- What the invariant tells of single tasks: who waits for the lock is among its waiters, only one
task sends a change, only one task starts the editor, before the document was opened, and the
promises of requests are no completions. -/
structure EditorPlaces
    (uri : String) (opened : Bool) (holder : Option (Nat × Change)) (waiters : List Nat)
    (loop : ClientLoop) :
    Prop where
  locks : ∀ (task : Nat) (found : TaskState Frame) (promise : Nat) (force : Bool)
    (caller : List Frame), loop.tasks[task]? = some found →
      found.stack = .locking 0 promise force :: caller → promise ∈ waiters
  locksOnce : ∀ (task other : Nat) (found otherFound : TaskState Frame) (promise : Nat)
    (force otherForce : Bool) (caller otherCaller : List Frame),
      loop.tasks[task]? = some found → loop.tasks[other]? = some otherFound →
        found.stack = .locking 0 promise force :: caller →
          otherFound.stack = .locking 0 promise otherForce :: otherCaller → task = other
  changes : ∀ (task : Nat) (found : TaskState Frame) (link : Nat) (change : Change)
    (caller : List Frame), loop.tasks[task]? = some found →
      found.stack = changeFrames uri link change ++ caller → holder = some (task, change)
  starts : ∀ (task : Nat) (found : TaskState Frame), loop.tasks[task]? = some found →
    IsStarting found.stack → opened = false
  startsOnce : ∀ (task other : Nat) (found otherFound : TaskState Frame),
    loop.tasks[task]? = some found → loop.tasks[other]? = some otherFound →
      IsStarting found.stack → IsStarting otherFound.stack → task = other
  requests : ∀ (task : Nat) (found : TaskState Frame) (promise : Nat),
    loop.tasks[task]? = some found → .requesting promise ∈ found.stack → loop.IsPlain promise

/-! ## The invariant -/

/-- The promises that the peer and the sessions settle. -/
def System.promised (system : System) : List Nat :=
  system.peer.detained ++ system.sessions.flatMap fun session => session.pending.map (·.promise)

/-- How the text of the editor and the deliveries belong together. Nothing was delivered and no file
is attached as long as the document has not been opened; then the ledger is right. -/
inductive Account : Bool → Option Change → View → Prop where
  | unopened {view : View} (nothing : view.delivered = [])
      (detached : view.synchronizer.file = none) (free : view.synchronizer.lock.held = false) :
    Account false none view
  | opened {change? : Option Change} {view : View}
      (ledger : Ledger change? view.synchronizer view.delivered) :
    Account true change? view

/-- The parts of a client that has one editor, and its view. -/
structure EditorParts (uri : String) (view : View) (system : System) : Prop where
  synchronizers : system.synchronizers = [view.synchronizer]
  editor : ∃ found, system.editors = [found] ∧ found.synchronizer = 0 ∧
    found.documentUri.display = uri
  files : ∀ file ∈ system.files, file.uri = uri
  delivered : system.deliveries uri = view.delivered
  asked : system.queries = view.asked
  lock : LockParts view.synchronizer.lock system.promised system.loop

/-- The invariant between two turns. The holder is the task that sends a change under the lock. -/
structure EditorWorld
    (uri : String) (opened : Bool) (holder : Option (Nat × Change)) (view : View)
    (system : System) :
    Prop where
  parts : EditorParts uri view system
  account : Account opened (holder.map (·.2)) view
  places : EditorPlaces uri opened holder view.synchronizer.lock.waiters system.loop
  orderly : system.loop.Orderly (editorScope uri)
  punctual : system.loop.Punctual none

/-- What has happened in the world of an editor since a callback was started. The client has started
only calls of its own. -/
structure EditorPassage
    (uri : String) (running : Option Nat) (before : System) (view : View) (system : System) :
    Prop where
  parts : EditorParts uri view system
  loop : Scheduler.Passage (editorScope uri) running True (fun _ _ => True)
    before.loop system.loop
  spawned : ∀ (task : Nat) (found : TaskState Frame), before.loop.nextTask ≤ task →
    system.loop.tasks[task]? = some found → ∃ call, found.stack = [.begin call] ∧ call.IsOwn

namespace EditorPassage

variable {uri : String} {running : Option Nat} {before system : System} {view : View}

theorem here
    (passage : EditorPassage uri running before view system)
    (settles : Nat → Outcome Reply → Prop) :
    Scheduler.Passage (editorScope uri) running True settles system.loop system.loop :=
  .refl passage.loop.orderly passage.loop.punctual fun _ => passage.loop.runs_later

/-- A passage that begins in the present state. -/
theorem rebase (passage : EditorPassage uri running before view system) :
    EditorPassage uri running system view system where
  parts := passage.parts
  loop := passage.here _
  spawned := fun task found isNew entry => by
    rw [List.getElem?_eq_none isNew] at entry
    cases entry

theorem trans
    {after : System} {later : View} (passage : EditorPassage uri running before view system)
    (next : EditorPassage uri running system later after) :
    EditorPassage uri running before later after where
  parts := next.parts
  loop := {
    orderly := next.loop.orderly
    punctual := next.loop.punctual
    advances := passage.loop.advances.trans next.loop.advances
    runs := passage.loop.runs }
  spawned := fun task found isNew entry => by
    rcases next.loop.advances.task_cases entry with
      ⟨earlier, earlierEntry, sameStack, _⟩ | ⟨isLater, _⟩
    · rw [sameStack]
      exact passage.spawned task earlier isNew earlierEntry
    · exact next.spawned task found isLater entry

theorem onLoop
    {change : ClientLoop → ClientLoop} {settles : Nat → Outcome Reply → Prop}
    (passage : EditorPassage uri running before view system)
    (step : Scheduler.Passage (editorScope uri) running True settles system.loop
      (change system.loop))
    (withheld : ∀ promise outcome, settles promise outcome →
      Withholds view.synchronizer.lock.waiters promise outcome)
    (noneStarted : (change system.loop).nextTask = system.loop.nextTask) :
    EditorPassage uri running before view (system.onLoop change) where
  parts := { passage.parts with
    lock := passage.parts.lock.of_advances step.advances withheld }
  loop := {
    orderly := step.orderly
    punctual := step.punctual
    advances := passage.loop.advances.trans (step.advances.mono fun _ _ _ => trivial)
    runs := passage.loop.runs }
  spawned := fun task found isNew entry => by
    rcases step.advances.task_cases entry with ⟨earlier, earlierEntry, sameStack, _⟩ | ⟨isLater, _⟩
    · rw [sameStack]
      exact passage.spawned task earlier isNew earlierEntry
    · have inside : task < (change system.loop).nextTask := (List.getElem?_eq_some_iff.mp entry).1
      rw [noneStarted] at inside
      exact (Nat.lt_irrefl _ (Nat.lt_of_lt_of_le inside isLater)).elim

theorem of_sameLoop
    {after : System} {later : View} (passage : EditorPassage uri running before view system)
    (sameLoop : after.loop = system.loop) (parts : EditorParts uri later after) :
    EditorPassage uri running before later after where
  parts
  loop := by
    rw [sameLoop]
    exact passage.loop
  spawned := by
    rw [sameLoop]
    exact passage.spawned

end EditorPassage

end LanguageClient.Client
