import LanguageClient.Proofs.History
import LanguageClient.Proofs.Loop.Passage
import LanguageClient.Proofs.Sending

/-!
# The world of a synchronizer

An invariant of a client that has one open document with one synchronizer. It tells where every task
can be, which task sends a change under the lock, and that the lock is granted to the first of those
who wait only while nobody holds it.

The peer knows a document from the frames that it accepted: one that opens it and those that change
it. A ledger relates what was delivered to a synchronizer, also while a change is sent under the
lock.
-/

namespace LanguageClient.Client

open LanguageClient.Json LanguageClient.Loop LanguageClient.Number LanguageClient.Protocol

/-! ## What the peer has of a document -/

/-- What a frame tells the peer about the text of a document. -/
inductive Delivery where
  | opened (text : String)
  | changed (version : Int) (text : String)
  deriving DecidableEq, Repr

/-- The text that the peer has from then on. -/
def Delivery.text : Delivery → String
  | .opened text => text
  | .changed _ text => text

/-- The version of a change. -/
def Delivery.version? : Delivery → Option Int
  | .opened _ => none
  | .changed version _ => some version

/-- The text of an object. -/
def textOf? (value : Value) : Option String :=
  match value.get? "text" with
  | some (.string text) => some text
  | _ => none

/-- What a frame delivers of the document with a uri. -/
def delivery? (uri : String) (frame : Value) : Option Delivery := do
  let params ← frame.get? "params"
  let document ← params.get? "textDocument"
  if document.get? "uri" = some (.string uri) then
    if methodOf? frame = some Method.didOpen then
      return .opened (← textOf? document)
    else if methodOf? frame = some Method.didChange then
      match document.get? "version", params.get? "contentChanges" with
      | some (.int version), some (.array [change]) =>
        return .changed version (← textOf? change)
      | _, _ => none
    else none
  else none

/-- What the peer has accepted of the document with a uri, in order. -/
def System.deliveries (system : System) (uri : String) : List Delivery :=
  system.journal.filterMap fun occurrence =>
    match occurrence with
    | .accepted _ frame => delivery? uri frame
    | _ => none

/-- The versions of the changes that the peer has accepted. -/
def System.deliveredVersions (system : System) (uri : String) : List Int :=
  (system.deliveries uri).filterMap Delivery.version?

/-- The text that was delivered last. -/
def System.deliveredText? (system : System) (uri : String) : Option String :=
  (system.deliveries uri).getLast?.map Delivery.text

/-- The frame that changes a document. -/
def changeFrame (uri : String) (version : Int) (text : String) : Value :=
  notificationMessage Method.didChange (some (didChangeParams uri version text))

@[simp]
theorem delivery?_changeFrame (uri : String) (version : Int) (text : String) :
    delivery? uri (changeFrame uri version text) = some (.changed version text) := by
  simp [delivery?, changeFrame, notificationMessage, paramsMember, didChangeParams, messageVersion,
    Value.get?, member?, methodOf?, textOf?, Method.didOpen, Method.didChange]

theorem delivery?_didClose (uri other : String) :
    delivery? uri (notificationMessage Method.didClose (some (didCloseParams other))) = none := by
  simp [delivery?, notificationMessage, paramsMember, didCloseParams, documentMember,
    messageVersion, Value.get?, member?, methodOf?, Method.didOpen, Method.didChange,
    Method.didClose]

theorem delivery?_answerMessage (uri : String) (id : Value) :
    delivery? uri (answerMessage id) = none := by
  simp [delivery?, answerMessage, messageVersion, Value.get?, member?]

/-! ## The ledger -/

/-- A change of the text that is sent under the lock. -/
structure Change where
  version : Nat
  text : String
  /-- Whether the text was not sent yet when the change took it. -/
  wasDirty : Bool
  deriving DecidableEq, Repr

/-- How a synchronizer and the deliveries of its document belong together, while nobody or somebody
sends a change under the lock. The versions count up by one. Without a change in progress, a text
that was not delivered is marked as unsent; otherwise it is marked, or it is on its way. -/
structure Ledger
    (change? : Option Change) (synchronizer : Synchronizer) (deliveries : List Delivery) :
    Prop where
  held : synchronizer.lock.held = change?.isSome
  versions : deliveries.filterMap Delivery.version? =
    (List.range synchronizer.version).map fun number => ((number + 1 : Nat) : Int)
  settled : change? = none → synchronizer.dirty = false →
    deliveries.getLast?.map Delivery.text = some synchronizer.text
  next : ∀ change, change? = some change → change.version = synchronizer.version + 1
  current : ∀ change, change? = some change → synchronizer.dirty = false →
    synchronizer.text = change.text
  earlier : ∀ change, change? = some change → change.wasDirty = false →
    deliveries.getLast?.map Delivery.text = some change.text

namespace Ledger

variable {change? : Option Change} {change : Change} {synchronizer later : Synchronizer}
  {deliveries : List Delivery}

theorem of_same
    (ledger : Ledger change? synchronizer deliveries)
    (lock : later.lock.held = synchronizer.lock.held)
    (version : later.version = synchronizer.version) (dirty : later.dirty = synchronizer.dirty)
    (text : later.text = synchronizer.text) :
    Ledger change? later deliveries where
  held := lock.trans ledger.held
  versions := by
    rw [version]
    exact ledger.versions
  settled := by
    rw [dirty, text]
    exact ledger.settled
  next := by
    rw [version]
    exact ledger.next
  current := by
    rw [dirty, text]
    exact ledger.current
  earlier := ledger.earlier

/-- Nobody sends a change while the lock is free. -/
theorem change?_of_free
    (ledger : Ledger change? synchronizer deliveries) (free : synchronizer.lock.held = false) :
    change? = none := by
  have held := ledger.held
  rw [free] at held
  exact Option.isNone_iff_eq_none.mp (Option.isSome_eq_false_iff.mp held.symm)

theorem edit
    (ledger : Ledger change? synchronizer deliveries) (lock : later.lock = synchronizer.lock)
    (version : later.version = synchronizer.version) (dirty : later.dirty = true) :
    Ledger change? later deliveries where
  held := by
    rw [lock]
    exact ledger.held
  versions := by
    rw [version]
    exact ledger.versions
  settled := fun _ clean => by
    rw [dirty] at clean
    cases clean
  next := by
    rw [version]
    exact ledger.next
  current := fun _ _ clean => by
    rw [dirty] at clean
    cases clean
  earlier := ledger.earlier

theorem take
    (ledger : Ledger none synchronizer deliveries) (held : later.lock.held = true)
    (version : later.version = synchronizer.version) (text : later.text = synchronizer.text) :
    Ledger (some ⟨synchronizer.version + 1, synchronizer.text, synchronizer.dirty⟩) later
      deliveries where
  held := held
  versions := by
    rw [version]
    exact ledger.versions
  settled := fun nobody => by cases nobody
  next := fun change same => by
    rw [← Option.some.inj same, version]
  current := fun change same _ => by
    rw [← Option.some.inj same, text]
  earlier := fun change same clean => by
    rw [← Option.some.inj same] at clean ⊢
    exact ledger.settled rfl clean

theorem deliver
    (ledger : Ledger (some change) synchronizer deliveries) (held : later.lock.held = false)
    (version : later.version = change.version) (dirty : later.dirty = synchronizer.dirty)
    (text : later.text = synchronizer.text) :
    Ledger none later (deliveries ++ [.changed change.version change.text]) where
  held := held
  versions := by
    have isNext := ledger.next change rfl
    rw [version, isNext, List.range_succ, List.map_append, List.filterMap_append, ledger.versions]
    rfl
  settled := fun _ clean => by
    rw [dirty] at clean
    have sameText := ledger.current change rfl clean
    rw [text, sameText, List.getLast?_concat]
    rfl
  next := fun _ impossible => by cases impossible
  current := fun _ impossible => by cases impossible
  earlier := fun _ impossible => by cases impossible

/-- The change was not delivered: the text is marked again as it was. -/
theorem restore
    (ledger : Ledger (some change) synchronizer deliveries) (held : later.lock.held = false)
    (version : later.version = synchronizer.version)
    (dirty : later.dirty = (synchronizer.dirty || change.wasDirty))
    (text : later.text = synchronizer.text) :
    Ledger none later deliveries where
  held := held
  versions := by
    rw [version]
    exact ledger.versions
  settled := fun _ clean => by
    rw [dirty, Bool.or_eq_false_iff] at clean
    have sameText := ledger.current change rfl clean.1
    rw [text, sameText]
    exact ledger.earlier change rfl clean.2
  next := fun _ impossible => by cases impossible
  current := fun _ impossible => by cases impossible
  earlier := fun _ impossible => by cases impossible

end Ledger

/-! ## Where tasks can be -/

/-- Whether a call is one that a synchronizer or a session starts by itself, or one that the host
may make of the synchronizer. -/
def Call.AtSynchronizer : Call → Prop
  | .flush synchronizer _ | .sendDebounced synchronizer | .closeSynchronizer synchronizer =>
    synchronizer = 0
  | .answer _ _ => True
  | _ => False

/-- The frames that a send leaves to its caller: none for a flush. -/
def IsCaller (stack : List Frame) : Prop := stack = [] ∨ stack = [.sendingDebounced 0]

/-- The frames of a change whose frame is held back. -/
def changeFrames (uri : String) (link : Nat) (change : Change) : List Frame := [
  .sending link (changeFrame uri change.version change.text), .writing Method.didChange,
  .changing 0 change.version change.wasDirty]

/-- Where a task can be, and what it awaits there. -/
inductive TaskShape (uri : String) : List Frame → Option Nat → Prop where
  | idle : TaskShape uri [] none
  | begins (call : Call) (allowed : call.AtSynchronizer) : TaskShape uri [.begin call] none
  | locks (promise : Nat) (force : Bool) (caller : List Frame) (allowed : IsCaller caller) :
    TaskShape uri (.locking 0 promise force :: caller) (some promise)
  | changes (link : Nat) (change : Change) (promise : Nat) (caller : List Frame)
      (allowed : IsCaller caller) :
    TaskShape uri (changeFrames uri link change ++ caller) (some promise)
  | settles (promise : Nat) : TaskShape uri [.settlingSends 0] (some promise)
  | closes (link : Nat) (frame : Value) (subject : String) (promise : Nat)
      (nothing : delivery? uri frame = none) :
    TaskShape uri [.sending link frame, .writing subject, .closingFile uri, .detaching 0]
      (some promise)
  | answers (link : Nat) (frame : Value) (subject : String) (promise : Nat)
      (nothing : delivery? uri frame = none) :
    TaskShape uri [.sending link frame, .writing subject] (some promise)

/-- What tasks, callbacks and timers may be. In a calm world no group of tasks is cancelled. -/
def syncScope (uri : String) (calm : Prop) : Scope Frame Action where
  task := TaskShape uri
  callback
    | .resume _ | .memberEnded _ | .skipped => True
    | .fire _ action => action = .debounce 0
    | .act (.answerEnded _ _) | .act (.deliver _ _) => True
    | .act (.sendEnded synchronizer _) => synchronizer = 0
    | .act _ => False
  timer := fun timer => timer.action = .debounce 0
  group := fun group => calm → group.cancelRequested = false

/-- The tasks that wait for the lock are among its waiters, only one task sends a change, and no two
tasks await the same promise. -/
structure TaskPlaces
    (uri : String) (holder : Option (Nat × Change)) (waiters : List Nat) (loop : ClientLoop) :
    Prop where
  locks : ∀ (task : Nat) (found : TaskState Frame) (promise : Nat) (force : Bool)
    (caller : List Frame), loop.tasks[task]? = some found →
      found.stack = .locking 0 promise force :: caller → promise ∈ waiters
  changes : ∀ (task : Nat) (found : TaskState Frame) (link : Nat) (change : Change)
    (caller : List Frame), loop.tasks[task]? = some found →
      found.stack = changeFrames uri link change ++ caller → holder = some (task, change)
  awaitsOnce : ∀ (task other : Nat) (found otherFound : TaskState Frame) (promise : Nat),
    loop.tasks[task]? = some found → loop.tasks[other]? = some otherFound →
      found.awaiting = some promise → otherFound.awaiting = some promise → task = other
  ungrouped : ∀ (task : Nat) (found : TaskState Frame) (promise : Nat),
    loop.tasks[task]? = some found → found.awaiting = some promise →
      found.stack ≠ [.settlingSends 0] → loop.IsUngrouped promise

/-! ## The lock and its promises -/

/-- The promises of a lock are plain and belong to no group, nobody but the lock grants them, and
only the first of them is granted, while the lock is free. -/
structure LockParts (lock : Lock) (detained : List Nat) (loop : ClientLoop) : Prop where
  waiters : ∀ promise ∈ lock.waiters, loop.IsPlain promise ∧ loop.IsUngrouped promise
  detained : ∀ promise ∈ detained, loop.IsPlain promise ∧ promise ∉ lock.waiters
  granted : ∀ promise ∈ lock.waiters, ∀ reply,
    loop.outcome? promise = some (.returned reply) →
      lock.held = false ∧ lock.waiters.head? = some promise

/-- Promises that wait for a lock are not granted. -/
def Withholds (waiters : List Nat) (promise : Nat) (outcome : Outcome Reply) : Prop :=
  promise ∈ waiters → ∀ reply, outcome ≠ .returned reply

/-- In a calm world no promise is cancelled or fails. -/
def Spares (calm : Prop) (_promise : Nat) (outcome : Outcome Reply) : Prop :=
  calm → ∃ reply, outcome = .returned reply

/-- The facts about a lock only concern the outcomes of plain promises. -/
theorem LockParts.of_plain
    {lock : Lock} {detained : List Nat} {loop later : ClientLoop}
    (parts : LockParts lock detained loop)
    (plain : ∀ promise, loop.IsPlain promise → later.IsPlain promise)
    (ungrouped : ∀ promise, loop.IsUngrouped promise → later.IsUngrouped promise)
    (outcomes : ∀ promise, loop.IsPlain promise →
      later.outcome? promise = loop.outcome? promise) :
    LockParts lock detained later where
  waiters := fun promise member => by
    obtain ⟨isPlain, isUngrouped⟩ := parts.waiters promise member
    exact ⟨plain promise isPlain, ungrouped promise isUngrouped⟩
  detained := fun promise member => by
    obtain ⟨isPlain, apart⟩ := parts.detained promise member
    exact ⟨plain promise isPlain, apart⟩
  granted := fun promise member reply granted => by
    rw [outcomes promise (parts.waiters promise member).1] at granted
    exact parts.granted promise member reply granted

/-- An advance that grants nothing keeps the facts about a lock. -/
theorem LockParts.of_advances
    {lock : Lock} {detained : List Nat} {loop later : ClientLoop} {cancels : Prop}
    {settles : Nat → Outcome Reply → Prop} (parts : LockParts lock detained loop)
    (advances : loop.Advances cancels settles later)
    (withheld : ∀ promise outcome, settles promise outcome →
      Withholds lock.waiters promise outcome) :
    LockParts lock detained later where
  waiters := fun promise member => by
    obtain ⟨plain, ungrouped⟩ := parts.waiters promise member
    exact ⟨advances.plain promise plain, advances.ungrouped promise ungrouped⟩
  detained := fun promise member => by
    obtain ⟨plain, apart⟩ := parts.detained promise member
    exact ⟨advances.plain promise plain, apart⟩
  granted := fun promise member reply settled => by
    cases earlier : loop.outcome? promise with
    | none =>
        have allowed := advances.gained promise _ earlier settled
        exact (withheld promise _ allowed member reply rfl).elim
    | some outcome =>
        have same := advances.kept promise outcome earlier
        rw [settled] at same
        rw [← Option.some.inj same] at earlier
        exact parts.granted promise member reply earlier

/-! ## The invariant -/

/-- The parts of a client that has one open document with one synchronizer. -/
structure SyncParts (uri : String) (synchronizer : Synchronizer) (system : System) : Prop where
  synchronizers : system.synchronizers = [synchronizer]
  editors : system.editors = []
  session : ∃ found, system.sessions = [found] ∧ found.pending = []
  workspace : ∃ found, system.workspaces = [found] ∧ found.session = 0
  file : ∃ found, system.files = [found] ∧ found.workspace = 0 ∧ found.uri = uri
  attached : ∀ file, synchronizer.file = some file → file = 0
  lock : LockParts synchronizer.lock system.peer.detained system.loop

/-- The invariant between two turns. The holder is the task that sends a change under the lock. -/
structure SyncWorld
    (calm : Prop) (uri : String) (holder : Option (Nat × Change)) (synchronizer : Synchronizer)
    (system : System) :
    Prop where
  parts : SyncParts uri synchronizer system
  ledger : Ledger (holder.map (·.2)) synchronizer (system.deliveries uri)
  places : TaskPlaces uri holder synchronizer.lock.waiters system.loop
  orderly : system.loop.Orderly (syncScope uri calm)
  punctual : system.loop.Punctual none

/-- What has happened in the world of a synchronizer since a callback was started. -/
structure SyncPassage
    (calm : Prop) (uri : String) (running : Option Nat) (before : System)
    (synchronizer : Synchronizer) (system : System) :
    Prop where
  parts : SyncParts uri synchronizer system
  loop : Scheduler.Passage (syncScope uri calm) running (¬ calm) (Spares calm)
    before.loop system.loop

namespace SyncPassage

variable {calm : Prop} {uri : String} {running : Option Nat} {before system : System}
  {synchronizer : Synchronizer}

theorem here
    (passage : SyncPassage calm uri running before synchronizer system)
    (settles : Nat → Outcome Reply → Prop) :
    Scheduler.Passage (syncScope uri calm) running (¬ calm) settles system.loop system.loop :=
  .refl passage.loop.orderly passage.loop.punctual fun _ => passage.loop.runs_later

theorem onLoop
    {change : ClientLoop → ClientLoop} {settles : Nat → Outcome Reply → Prop}
    (passage : SyncPassage calm uri running before synchronizer system)
    (step : Scheduler.Passage (syncScope uri calm) running (¬ calm) settles system.loop
      (change system.loop))
    (spares : ∀ promise outcome, settles promise outcome → Spares calm promise outcome)
    (withheld : ∀ promise outcome, settles promise outcome →
      Withholds synchronizer.lock.waiters promise outcome) :
    SyncPassage calm uri running before synchronizer (system.onLoop change) where
  parts := { passage.parts with
    lock := passage.parts.lock.of_advances step.advances withheld }
  loop := {
    orderly := step.orderly
    punctual := step.punctual
    advances := passage.loop.advances.trans (step.advances.mono spares)
    runs := passage.loop.runs }

theorem of_sameLoop
    {after : System} {later : Synchronizer}
    (passage : SyncPassage calm uri running before synchronizer system)
    (sameLoop : after.loop = system.loop) (parts : SyncParts uri later after) :
    SyncPassage calm uri running before later after where
  parts
  loop := by
    rw [sameLoop]
    exact passage.loop

/-! ## The journal, the session and the peer -/

theorem note
    (passage : SyncPassage calm uri running before synchronizer system)
    (occurrence : Occurrence) :
    SyncPassage calm uri running before synchronizer (system.note occurrence) :=
  passage.of_sameLoop rfl { passage.parts with }

theorem log
    (passage : SyncPassage calm uri running before synchronizer system)
    (level : LogLevel) (origin : LogSource) (text : String) :
    SyncPassage calm uri running before synchronizer (system.log level origin text) :=
  passage.note _

theorem modifySession
    (passage : SyncPassage calm uri running before synchronizer system) (session : Nat)
    {change : Session → Session}
    (keeps : ∀ found, found.pending = [] → (change found).pending = []) :
    SyncPassage calm uri running before synchronizer (system.modifySession session change) := by
  refine passage.of_sameLoop rfl { passage.parts with session := ?_ }
  obtain ⟨found, only, pending⟩ := passage.parts.session
  simp only [System.modifySession, only]
  cases session with
  | zero =>
      exact ⟨change found, rfl, keeps found pending⟩
  | succ other =>
      exact ⟨found, by simp, pending⟩

theorem modifyWorkspace
    (passage : SyncPassage calm uri running before synchronizer system) (workspace : Nat)
    {change : Workspace → Workspace} (keeps : ∀ found, (change found).session = found.session) :
    SyncPassage calm uri running before synchronizer
      (system.modifyWorkspace workspace change) := by
  refine passage.of_sameLoop rfl { passage.parts with workspace := ?_ }
  obtain ⟨found, only, session⟩ := passage.parts.workspace
  simp only [System.modifyWorkspace, only]
  cases workspace with
  | zero =>
      exact ⟨change found, rfl, (keeps found).trans session⟩
  | succ other =>
      exact ⟨found, by simp, session⟩

theorem withPeer
    (passage : SyncPassage calm uri running before synchronizer system) (peer : Peer)
    (detained : ∀ promise ∈ peer.detained, promise ∈ system.peer.detained) :
    SyncPassage calm uri running before synchronizer { system with peer } :=
  passage.of_sameLoop rfl { passage.parts with
    lock := { passage.parts.lock with
      detained := fun promise member =>
        passage.parts.lock.detained promise (detained promise member) } }

/-- A frame or a closing is held back from now on: somebody waits for a new promise. -/
theorem detain
    (passage : SyncPassage calm uri running before synchronizer system) (peer : Peer)
    (detained : ∀ promise ∈ peer.detained,
      promise ∈ system.peer.detained ∨ promise = system.nextPromise) :
    SyncPassage calm uri running before synchronizer { system.addPromise with peer } := by
  have added : SyncPassage calm uri running before synchronizer system.addPromise :=
    passage.onLoop (passage.here fun _ _ => False).addPromise (by simp) (by simp)
  refine added.of_sameLoop rfl { added.parts with
    lock := { added.parts.lock with detained := fun promise member => ?_ } }
  rcases detained promise member with earlier | rfl
  · exact added.parts.lock.detained promise earlier
  · refine ⟨passage.loop.orderly.addPromise_isPlain {}, fun waits => ?_⟩
    exact Nat.lt_irrefl _ (passage.parts.lock.waiters _ waits).1.known

/-! ## The scheduler -/

theorem settle
    {promise : Nat} {outcome : Outcome Reply}
    (passage : SyncPassage calm uri running before synchronizer system)
    (noCompletion : promise ∉ system.loop.completions) (spares : Spares calm promise outcome)
    (withheld : Withholds synchronizer.lock.waiters promise outcome) :
    SyncPassage calm uri running before synchronizer (system.settle promise outcome) :=
  passage.onLoop
    ((passage.here fun other found =>
      Spares calm other found ∧ Withholds synchronizer.lock.waiters other found).settle
        noCompletion ⟨spares, withheld⟩)
    (fun _ _ => And.left) fun _ _ => And.right

theorem settle_detained
    {promise : Nat} (passage : SyncPassage calm uri running before synchronizer system)
    (detained : promise ∈ system.peer.detained) :
    SyncPassage calm uri running before synchronizer
      (system.settle promise (.returned .nothing)) := by
  obtain ⟨plain, apart⟩ := passage.parts.lock.detained promise detained
  exact passage.settle plain.noCompletion (fun _ => ⟨.nothing, rfl⟩) fun member =>
    (apart member).elim

theorem disarm
    (passage : SyncPassage calm uri running before synchronizer system) (timer : Nat) :
    SyncPassage calm uri running before synchronizer (system.disarm timer) :=
  passage.onLoop ((passage.here fun _ _ => False).disarm timer trivial) (by simp) (by simp)

theorem arm
    (passage : SyncPassage calm uri running before synchronizer system) (delay : Delay) :
    SyncPassage calm uri running before synchronizer
      (system.onLoop (·.arm delay (.debounce 0))) :=
  passage.onLoop ((passage.here fun _ _ => False).arm delay _ rfl) (by simp) (by simp)

theorem deliver
    (passage : SyncPassage calm uri running before synchronizer system) (link : Nat)
    (frames : List Value) :
    SyncPassage calm uri running before synchronizer (system.deliver link frames) := by
  refine passage.onLoop ((passage.here fun _ _ => False).enqueue ?_) (by simp) (by simp)
  intro callback member
  obtain ⟨frame, _, rfl⟩ := List.mem_map.mp member
  exact ⟨trivial, rfl⟩

theorem spawn
    {call : Call} (passage : SyncPassage calm uri running before synchronizer system)
    (allowed : call.AtSynchronizer) :
    SyncPassage calm uri running before synchronizer (system.spawn call) :=
  passage.onLoop ((passage.here fun _ _ => False).spawn (.begins call allowed) trivial)
    (by simp) (by simp)

theorem whenEnded
    {action : Action} (passage : SyncPassage calm uri running before synchronizer system)
    (task : Nat) (allowed : (syncScope uri calm).callback (.act action)) :
    SyncPassage calm uri running before synchronizer (system.whenEnded task action) := by
  unfold System.whenEnded
  split
  · exact passage
  · exact passage.onLoop ((passage.here fun _ _ => False).whenSettled _ _ allowed rfl)
      (by simp) (by simp)

theorem gather
    (passage : SyncPassage calm uri running before synchronizer system) (members : List Nat) :
    SyncPassage calm uri running before synchronizer
      (system.onLoop (·.gather members .nothing)) := by
  refine passage.onLoop ((passage.here fun promise outcome =>
    outcome = .returned .nothing ∧ system.loop.nextPromise ≤ promise).gather members .nothing
      (fun group uncancelled _ => uncancelled) (fun _ => trivial) fun _ isNew => ⟨rfl, isNew⟩) ?_ ?_
  · rintro promise outcome ⟨rfl, _⟩ _
    exact ⟨.nothing, rfl⟩
  · rintro promise outcome ⟨_, isNew⟩ member
    have known := (passage.parts.lock.waiters promise member).1.known
    exact (Nat.lt_irrefl _ (Nat.lt_of_lt_of_le known isNew)).elim

theorem endMember
    (passage : SyncPassage calm uri running before synchronizer system) (promise : Nat) :
    SyncPassage calm uri running before synchronizer
      (system.onLoop (·.endMember promise .nothing)) := by
  refine passage.onLoop ((passage.here fun other outcome =>
    Spares calm other outcome ∧ ¬ system.loop.IsUngrouped other).endMember promise .nothing
      (fun _ => id) ?_) (fun _ _ => And.left) ?_
  · intro group grouped isGrouped
    refine ⟨fun isCalm => ?_, isGrouped⟩
    rw [grouped isCalm]
    exact ⟨.nothing, rfl⟩
  · intro other outcome allowed member
    exact (allowed.2 (passage.parts.lock.waiters other member).2).elim

/-! ## The synchronizer -/

theorem modifySynchronizer
    (passage : SyncPassage calm uri running before synchronizer system)
    (change : Synchronizer → Synchronizer)
    (lock : (change synchronizer).lock = synchronizer.lock)
    (attached : ∀ file, (change synchronizer).file = some file → file = 0) :
    SyncPassage calm uri running before (change synchronizer)
      (system.modifySynchronizer 0 change) := by
  refine passage.of_sameLoop rfl { passage.parts with synchronizers := ?_, attached, lock := ?_ }
  · simp [System.modifySynchronizer, passage.parts.synchronizers]
  · rw [lock]
    exact passage.parts.lock

theorem modifyLock
    (passage : SyncPassage calm uri running before synchronizer system) (change : Lock → Lock)
    (lock : LockParts (change synchronizer.lock) system.peer.detained system.loop) :
    SyncPassage calm uri running before
      { synchronizer with lock := change synchronizer.lock } (system.modifyLock 0 change) := by
  refine passage.of_sameLoop rfl { passage.parts with synchronizers := ?_, lock }
  simp [System.modifyLock, System.modifySynchronizer, passage.parts.synchronizers]

theorem lockOf (passage : SyncPassage calm uri running before synchronizer system) :
    system.lockOf 0 = synchronizer.lock := by
  simp [System.lockOf, passage.parts.synchronizers]

end SyncPassage

end LanguageClient.Client
