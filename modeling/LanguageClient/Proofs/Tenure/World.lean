import LanguageClient.Proofs.Tenure.Books

/-!
# The world of a synchronizer that changes its document

A synchronizer may be attached to one document after the other, and what was begun for one document
may end while it has the next one. The invariant of such a client tells where every task can be and
which task sends a change under the lock. It says nothing about how the change and the document belong
together, since a change outlives the attachment for which it was handed over.
-/

namespace LanguageClient.Client

open LanguageClient.Json LanguageClient.Loop LanguageClient.Number LanguageClient.Protocol

/-! ## Changes on their way -/

/-- A frame that changes a document. -/
def isChange (frame : Value) : Bool := methodOf? frame = some Method.didChange

/-- Whether something that happened is about a change: it is handed to a connection, or accepted. -/
def Occurrence.isOfChange : Occurrence → Bool
  | .handed _ frame | .accepted _ frame => isChange frame
  | _ => false

/-- What has happened to changes so far, in order. -/
def System.changes (system : System) : List Occurrence :=
  system.journal.filter Occurrence.isOfChange

/-- A change and where it is sent to. -/
structure Consignment where
  uri : String
  link : Nat
  change : Change
  deriving DecidableEq, Repr

namespace Consignment

def frame (consignment : Consignment) : Value :=
  changeFrame consignment.uri consignment.change.version consignment.change.text

/-- The frames of a change whose frame is held back. -/
def frames (consignment : Consignment) : List Frame :=
  changeFrames consignment.uri consignment.link consignment.change

/-- The change is handed to its connection. -/
def handing (consignment : Consignment) : Occurrence := .handed consignment.link consignment.frame

/-- The peer accepts the change. -/
def acceptance (consignment : Consignment) : Occurrence :=
  .accepted consignment.link consignment.frame

end Consignment

theorem isChange_changeFrame (uri : String) (version : Int) (text : String) :
    isChange (changeFrame uri version text) = true := by
  simp [isChange, changeFrame, methodOf?_notificationMessage]

theorem Consignment.isChange_frame (consignment : Consignment) :
    isChange consignment.frame = true :=
  isChange_changeFrame _ _ _

theorem isChange_notificationMessage
    {method : String} (params : Option Value) (other : method ≠ Method.didChange) :
    isChange (notificationMessage method params) = false := by
  simp [isChange, methodOf?_notificationMessage, other]

theorem isChange_requestMessage
    {method : String} (id : String) (params : Option Value) (other : method ≠ Method.didChange) :
    isChange (requestMessage id method params) = false := by
  simp [isChange, methodOf?_requestMessage, other]

theorem isChange_answerMessage (id : Value) : isChange (answerMessage id) = false := by
  simp [isChange, methodOf?, answerMessage, messageVersion, Value.get?, member?]

theorem System.note_changes (system : System) (occurrence : Occurrence) :
    (system.note occurrence).changes =
      system.changes ++ (if occurrence.isOfChange then [occurrence] else []) := by
  simp only [changes, note, List.filter_append, List.filter_cons, List.filter_nil]

theorem System.accept_changes (system : System) (link : Nat) (frame : Value) :
    (system.accept link frame).changes =
      system.changes ++ (if isChange frame then [.accepted link frame] else []) :=
  System.note_changes { system with peer := (system.peer.accept frame).2 } (.accepted link frame)

/-! ## Where tasks can be -/

/-- Whether a call is one of a client whose documents are all changed by the synchronizer. -/
def Call.AtTenure : Call → Prop
  | .request _ method _ _ | .notify _ method _ => method ≠ Method.didChange
  | .flush synchronizer _ | .sendDebounced synchronizer | .closeSynchronizer synchronizer =>
    synchronizer = 0
  | .closeSession _ | .answer _ _ | .createWorkspace _ | .openFile _ _ _ _ _ | .closeFile _
  | .closeWorkspace _ => True
  | _ => False

/-- A frame whose rest changes no document. -/
def Frame.IsAside : Frame → Prop
  | .sending _ frame => isChange frame = false
  | .settlingSends synchronizer | .detaching synchronizer => synchronizer = 0
  | .writing _ | .requesting _ | .closingLink | .handshaking _ _ | .confirming _ _ _
  | .abandoningHandshake _ | .opening _ _ _ | .closingFile _ => True
  | _ => False

/-- Where a task can be, and what it awaits there. -/
inductive TenureShape : List Frame → Option Nat → Prop where
  | idle : TenureShape [] none
  | begins (call : Call) (allowed : call.AtTenure) : TenureShape [.begin call] none
  | aside (frames : List Frame) (promise : Nat) (aside : ∀ frame ∈ frames, frame.IsAside) :
    TenureShape frames (some promise)
  | locks (promise : Nat) (force : Bool) (caller : List Frame) (allowed : IsCaller caller) :
    TenureShape (.locking 0 promise force :: caller) (some promise)
  | changes (consignment : Consignment) (promise : Nat) (caller : List Frame)
      (allowed : IsCaller caller) :
    TenureShape (consignment.frames ++ caller) (some promise)

/-- What tasks, callbacks and timers may be. -/
def tenureScope : Scope Frame Action where
  task := TenureShape
  callback
    | .resume _ | .memberEnded _ | .skipped => True
    | .fire _ action => action.IsTimed
    | .act (.discard _ _) | .act (.answerEnded _ _) | .act (.deliver _ _) => True
    | .act (.sendEnded synchronizer _) => synchronizer = 0
    | .act _ => False
  timer := fun timer => timer.action.IsTimed
  group := fun _ => True

/-- What the invariant tells of single tasks: who waits for the lock is among its waiters, only the
holder of the lock sends a change, and the promises of requests are no completions. -/
structure TenurePlaces
    (holder : Option (Nat × Consignment)) (waiters : List Nat) (loop : ClientLoop) : Prop where
  locks : ∀ (task : Nat) (found : TaskState Frame) (promise : Nat) (force : Bool)
    (caller : List Frame), loop.tasks[task]? = some found →
      found.stack = .locking 0 promise force :: caller → promise ∈ waiters
  locksOnce : ∀ (task other : Nat) (found otherFound : TaskState Frame) (promise : Nat)
    (force otherForce : Bool) (caller otherCaller : List Frame),
      loop.tasks[task]? = some found → loop.tasks[other]? = some otherFound →
        found.stack = .locking 0 promise force :: caller →
          otherFound.stack = .locking 0 promise otherForce :: otherCaller → task = other
  changes : ∀ (task : Nat) (found : TaskState Frame) (consignment : Consignment)
    (caller : List Frame), loop.tasks[task]? = some found →
      found.stack = consignment.frames ++ caller → holder = some (task, consignment)
  holds : ∀ (task : Nat) (consignment : Consignment), holder = some (task, consignment) →
    ∃ (found : TaskState Frame) (caller : List Frame),
      loop.tasks[task]? = some found ∧ found.stack = consignment.frames ++ caller
  requests : ∀ (task : Nat) (found : TaskState Frame) (promise : Nat),
    loop.tasks[task]? = some found → .requesting promise ∈ found.stack → loop.IsPlain promise

/-! ## The invariant -/

/-- The parts of a client that has one synchronizer. -/
structure TenureParts
    (synchronizer : Synchronizer) (changes : List Occurrence) (system : System) : Prop where
  synchronizers : system.synchronizers = [synchronizer]
  changes : system.changes = changes
  lock : LockParts synchronizer.lock system.promised system.loop
  books : Books synchronizer.timer synchronizer.sends system.promised system.loop

/-- The invariant between two turns. The holder is the task that sends a change under the lock. -/
structure TenureWorld
    (holder : Option (Nat × Consignment)) (synchronizer : Synchronizer) (system : System) :
    Prop where
  parts : TenureParts synchronizer system.changes system
  held : synchronizer.lock.held = holder.isSome
  places : TenurePlaces holder synchronizer.lock.waiters system.loop
  orderly : system.loop.Orderly tenureScope
  punctual : system.loop.Punctual none

/-- What has happened since a callback was started. The client has started only calls of its own. -/
structure TenurePassage
    (running : Option Nat) (before : System) (synchronizer : Synchronizer)
    (changes : List Occurrence) (system : System) :
    Prop where
  parts : TenureParts synchronizer changes system
  loop : Scheduler.Passage tenureScope running True (fun _ _ => True) before.loop system.loop
  members : Scheduler.KeepsMembers before.loop system.loop
  spawned : ∀ (task : Nat) (found : TaskState Frame), before.loop.nextTask ≤ task →
    system.loop.tasks[task]? = some found → ∃ call, found.stack = [.begin call] ∧ call.IsOwn

namespace TenurePassage

variable {running : Option Nat} {before system : System} {synchronizer : Synchronizer}
  {changes : List Occurrence}

theorem here
    (passage : TenurePassage running before synchronizer changes system)
    (settles : Nat → Outcome Reply → Prop) :
    Scheduler.Passage tenureScope running True settles system.loop system.loop :=
  .refl passage.loop.orderly passage.loop.punctual fun _ => passage.loop.runs_later

/-- A passage that begins in the present state. -/
theorem rebase (passage : TenurePassage running before synchronizer changes system) :
    TenurePassage running system synchronizer changes system where
  parts := passage.parts
  loop := passage.here _
  members := .refl system.loop
  spawned := fun task found isNew entry => by
    rw [List.getElem?_eq_none isNew] at entry
    cases entry

theorem retains (passage : TenurePassage running before synchronizer changes system) :
    Scheduler.Retains before.loop system.loop :=
  ⟨passage.members, fun _ => passage.loop.advances.isOver⟩

theorem trans
    {after : System} {later : Synchronizer} {laterChanges : List Occurrence}
    (passage : TenurePassage running before synchronizer changes system)
    (next : TenurePassage running system later laterChanges after) :
    TenurePassage running before later laterChanges after where
  parts := next.parts
  loop := {
    orderly := next.loop.orderly
    punctual := next.loop.punctual
    advances := passage.loop.advances.trans next.loop.advances
    runs := passage.loop.runs }
  members := passage.members.trans next.members
  spawned := fun task found isNew entry => by
    rcases next.loop.advances.task_cases entry with
      ⟨earlier, earlierEntry, sameStack, _⟩ | ⟨isLater, _⟩
    · rw [sameStack]
      exact passage.spawned task earlier isNew earlierEntry
    · exact next.spawned task found isLater entry

theorem onLoop
    {change : ClientLoop → ClientLoop} {settles : Nat → Outcome Reply → Prop}
    (passage : TenurePassage running before synchronizer changes system)
    (step : Scheduler.Passage tenureScope running True settles system.loop (change system.loop))
    (withheld : ∀ promise outcome, settles promise outcome →
      Withholds synchronizer.lock.waiters promise outcome)
    (noneStarted : (change system.loop).nextTask = system.loop.nextTask)
    (books : Books synchronizer.timer synchronizer.sends system.promised (change system.loop))
    (members : Scheduler.KeepsMembers system.loop (change system.loop)) :
    TenurePassage running before synchronizer changes (system.onLoop change) where
  parts := { passage.parts with
    lock := passage.parts.lock.of_advances step.advances withheld
    books }
  loop := {
    orderly := step.orderly
    punctual := step.punctual
    advances := passage.loop.advances.trans (step.advances.mono fun _ _ _ => trivial)
    runs := passage.loop.runs }
  members := passage.members.trans members
  spawned := fun task found isNew entry => by
    rcases step.advances.task_cases entry with ⟨earlier, earlierEntry, sameStack, _⟩ | ⟨isLater, _⟩
    · rw [sameStack]
      exact passage.spawned task earlier isNew earlierEntry
    · have inside : task < (change system.loop).nextTask := (List.getElem?_eq_some_iff.mp entry).1
      rw [noneStarted] at inside
      exact (Nat.lt_irrefl _ (Nat.lt_of_lt_of_le inside isLater)).elim

theorem booksAfter
    {change : ClientLoop → ClientLoop} {settles : Nat → Outcome Reply → Prop}
    (passage : TenurePassage running before synchronizer changes system)
    (step : Scheduler.Passage tenureScope running True settles system.loop (change system.loop))
    (noneStarted : (change system.loop).nextTask = system.loop.nextTask)
    (isUneventful : Uneventful system.loop (change system.loop))
    (tallied : (change system.loop).Tallied) :
    Books synchronizer.timer synchronizer.sends system.promised (change system.loop) := by
  refine passage.parts.books.keeps isUneventful tallied step.advances fun task found isNew entry => ?_
  have inside : task < (change system.loop).nextTask := (List.getElem?_eq_some_iff.mp entry).1
  rw [noneStarted] at inside
  exact (Nat.lt_irrefl _ (Nat.lt_of_lt_of_le inside isNew)).elim

/-- The scheduler does something that is no event for the synchronizer and ends no group. -/
theorem uneventful
    {change : ClientLoop → ClientLoop} {settles : Nat → Outcome Reply → Prop}
    (passage : TenurePassage running before synchronizer changes system)
    (step : Scheduler.Passage tenureScope running True settles system.loop (change system.loop))
    (withheld : ∀ promise outcome, settles promise outcome →
      Withholds synchronizer.lock.waiters promise outcome)
    (noneStarted : (change system.loop).nextTask = system.loop.nextTask)
    (isUneventful : Uneventful system.loop (change system.loop))
    (groups : Scheduler.KeepsGroups system.loop (change system.loop)) :
    TenurePassage running before synchronizer changes (system.onLoop change) :=
  passage.onLoop step withheld noneStarted
    (passage.booksAfter step noneStarted isUneventful (passage.parts.books.tallied.keeps groups))
    groups.members

theorem of_sameLoop
    {after : System} {later : Synchronizer} {laterChanges : List Occurrence}
    (passage : TenurePassage running before synchronizer changes system)
    (sameLoop : after.loop = system.loop) (parts : TenureParts later laterChanges after) :
    TenurePassage running before later laterChanges after where
  parts
  loop := by
    rw [sameLoop]
    exact passage.loop
  members := by
    rw [sameLoop]
    exact passage.members
  spawned := by
    rw [sameLoop]
    exact passage.spawned

/-- Nothing happens to the scheduler, the synchronizer and the changes, and nobody else waits for the
peer. -/
theorem beside
    {after : System} (passage : TenurePassage running before synchronizer changes system)
    (sameLoop : after.loop = system.loop) (synchronizers : after.synchronizers = system.synchronizers)
    (sameChanges : after.changes = system.changes)
    (promised : ∀ promise ∈ after.promised, promise ∈ system.promised) :
    TenurePassage running before synchronizer changes after :=
  passage.of_sameLoop sameLoop {
    synchronizers := synchronizers.trans passage.parts.synchronizers
    changes := sameChanges.trans passage.parts.changes
    lock := by
      rw [sameLoop]
      exact passage.parts.lock.of_promised fun promise member => Or.inl (promised promise member)
    books := by
      rw [sameLoop]
      exact passage.parts.books.of_promised fun promise member =>
        Or.inl (promised promise member) }

/-! ## The journal and the peer -/

theorem note
    {occurrence : Occurrence} (passage : TenurePassage running before synchronizer changes system)
    (other : occurrence.isOfChange = false) :
    TenurePassage running before synchronizer changes (system.note occurrence) :=
  passage.beside rfl rfl (by simp [System.note_changes, other]) fun _ => id

theorem log
    (passage : TenurePassage running before synchronizer changes system) (level : LogLevel)
    (origin : LogSource) (text : String) :
    TenurePassage running before synchronizer changes (system.log level origin text) :=
  passage.note rfl

theorem noteEscaped
    (passage : TenurePassage running before synchronizer changes system)
    (failure? : Option Failure) :
    TenurePassage running before synchronizer changes (System.noteEscaped (system, failure?)) := by
  cases failure? with
  | none => exact passage
  | some failure => exact passage.note rfl

/-- Something happens to a change. -/
theorem noteChange
    {occurrence : Occurrence} (passage : TenurePassage running before synchronizer changes system)
    (isOfChange : occurrence.isOfChange = true) :
    TenurePassage running before synchronizer (changes ++ [occurrence])
      (system.note occurrence) :=
  passage.of_sameLoop rfl { passage.parts with
    changes := by
      rw [System.note_changes, passage.parts.changes, if_pos isOfChange] }

theorem withPeer
    (passage : TenurePassage running before synchronizer changes system) (peer : Peer)
    (detained : ∀ promise ∈ peer.detained, promise ∈ system.peer.detained) :
    TenurePassage running before synchronizer changes { system with peer } := by
  refine passage.beside rfl rfl rfl fun promise member => ?_
  rw [System.mem_promised] at member ⊢
  exact member.imp (detained promise) id

theorem deliver
    (passage : TenurePassage running before synchronizer changes system) (link : Nat)
    (frames : List Value) :
    TenurePassage running before synchronizer changes (system.deliver link frames) := by
  have delivers : ∀ callback ∈ frames.map fun frame => Callback.act (Action.deliver link frame.render),
      ∃ text, callback = .act (.deliver link text) := by
    intro callback member
    obtain ⟨frame, _, rfl⟩ := List.mem_map.mp member
    exact ⟨_, rfl⟩
  refine passage.uneventful ((passage.here fun _ _ => False).enqueue ?_) (by simp) rfl
    (.enqueue _ ?_) (Scheduler.enqueue_keepsGroups _ ?_)
  · intro callback member
    obtain ⟨text, rfl⟩ := delivers callback member
    exact ⟨trivial, rfl⟩
  · intro callback member
    obtain ⟨text, rfl⟩ := delivers callback member
    trivial
  · intro callback member
    obtain ⟨text, rfl⟩ := delivers callback member
    rfl

theorem accept
    (passage : TenurePassage running before synchronizer changes system) (link : Nat)
    (frame : Value) :
    TenurePassage running before synchronizer
      (changes ++ (if isChange frame then [.accepted link frame] else []))
      (system.accept link frame) := by
  have behaved := passage.withPeer (system.peer.accept frame).2 fun promise member => by
    rw [detained_accept] at member
    exact member
  have delivered := behaved.deliver link (system.peer.accept frame).1
  refine delivered.of_sameLoop rfl { delivered.parts with changes := ?_ }
  rw [System.accept_changes, passage.parts.changes]

theorem addPromise (passage : TenurePassage running before synchronizer changes system) :
    TenurePassage running before synchronizer changes system.addPromise :=
  passage.uneventful (passage.here fun _ _ => False).addPromise (by simp) rfl
    (.addPromise _ rfl) (Scheduler.addPromise_keepsGroups _)

/-- A promise that is about to be added is not waited for by anybody. -/
theorem nextPromise_not_waiter
    (passage : TenurePassage running before synchronizer changes system) :
    system.nextPromise ∉ synchronizer.lock.waiters := fun member =>
  Nat.lt_irrefl _ (passage.parts.lock.waiters _ member).1.known

/-- A frame or a closing is held back from now on: somebody waits for a new promise. -/
theorem detain
    (passage : TenurePassage running before synchronizer changes system) (peer : Peer)
    (detained : ∀ promise ∈ peer.detained,
      promise ∈ system.peer.detained ∨ promise = system.nextPromise) :
    TenurePassage running before synchronizer changes { system.addPromise with peer } := by
  have added {promise : Nat} (member : promise ∈ ({ system.addPromise with peer } : System).promised) :
      promise ∈ system.addPromise.promised ∨ promise = system.nextPromise := by
    rw [System.mem_promised] at member
    rcases member with isDetained | inTable
    · exact (detained promise isDetained).imp_left fun earlier =>
        System.mem_promised.mpr (Or.inl earlier)
    · exact Or.inl (System.mem_promised.mpr (Or.inr inTable))
  exact passage.addPromise.of_sameLoop rfl { passage.addPromise.parts with
    lock := passage.addPromise.parts.lock.of_promised fun promise member => by
      rcases added member with earlier | rfl
      · exact Or.inl earlier
      · exact Or.inr ⟨passage.loop.orderly.addPromise_isPlain {}, passage.nextPromise_not_waiter⟩
    books := passage.addPromise.parts.books.of_promised fun promise member => by
      rcases added member with earlier | rfl
      · exact Or.inl earlier
      · exact Or.inr (Scheduler.addPromise_isUngrouped_new rfl) }

theorem holdBack (passage : TenurePassage running before synchronizer changes system) :
    TenurePassage running before synchronizer changes system.holdBack := by
  refine passage.detain _ fun promise member => ?_
  simp only [Peer.detained, List.mem_append, List.mem_singleton] at member ⊢
  rcases member with (earlier | added) | closing
  · exact Or.inl (Or.inl earlier)
  · exact Or.inr added
  · exact Or.inl (Or.inr closing)

/-! ## Sessions, workspaces and files -/

theorem modifySession
    (passage : TenurePassage running before synchronizer changes system) (session : Nat)
    {change : Session → Session}
    (fewer : ∀ found, ∀ entry ∈ (change found).pending, entry ∈ found.pending) :
    TenurePassage running before synchronizer changes (system.modifySession session change) :=
  passage.beside rfl rfl rfl fun _ => System.modifySession_promised fewer

theorem addSession
    (passage : TenurePassage running before synchronizer changes system) (link : Nat)
    (timeout : Quantity) :
    TenurePassage running before synchronizer changes (system.addSession link timeout) := by
  refine passage.beside rfl rfl rfl fun promise member => ?_
  rw [System.mem_promised] at member ⊢
  rcases member with detained | ⟨session, isSession, entry, isEntry, same⟩
  · exact Or.inl detained
  · rcases List.mem_append.mp isSession with earlier | added
    · exact Or.inr ⟨session, earlier, entry, isEntry, same⟩
    · rw [List.mem_singleton.mp added] at isEntry
      exact (List.not_mem_nil isEntry).elim

theorem connect (passage : TenurePassage running before synchronizer changes system) :
    TenurePassage running before synchronizer changes system.connect.1 := by
  unfold System.connect
  split
  · exact passage
  · exact passage.beside rfl rfl rfl fun _ => id

theorem modifyWorkspace
    (passage : TenurePassage running before synchronizer changes system) (workspace : Nat)
    (change : Workspace → Workspace) :
    TenurePassage running before synchronizer changes (system.modifyWorkspace workspace change) :=
  passage.beside rfl rfl rfl fun _ => id

theorem addWorkspace
    (passage : TenurePassage running before synchronizer changes system) (session : Nat)
    (result : InitializeResult) :
    TenurePassage running before synchronizer changes (system.addWorkspace session result) := by
  have added : TenurePassage running before synchronizer changes { system with
      workspaces := system.workspaces ++ [{
        session, capabilities := result.capabilities, serverInfo := result.serverInfo }] } :=
    passage.beside rfl rfl rfl fun _ => id
  exact added.modifySession session fun _ _ => id

theorem addFile
    (passage : TenurePassage running before synchronizer changes system) (file : OpenFile) :
    TenurePassage running before synchronizer changes (system.addFile file) :=
  passage.beside rfl rfl rfl fun _ => id

/-! ## The scheduler -/

theorem settle
    {promise : Nat} {outcome : Outcome Reply}
    (passage : TenurePassage running before synchronizer changes system)
    (noCompletion : promise ∉ system.loop.completions)
    (withheld : Withholds synchronizer.lock.waiters promise outcome)
    (regular : (∀ reply, outcome ≠ .returned reply) ∨ system.loop.IsUngrouped promise) :
    TenurePassage running before synchronizer changes (system.settle promise outcome) :=
  passage.onLoop
    ((passage.here (Withholds synchronizer.lock.waiters)).settle noCompletion withheld)
    (fun _ _ => id) (by simp [Scheduler.nextTask]) (passage.parts.books.settle regular)
    (.of_same fun other => system.loop.settle_groupOf? promise other outcome)

theorem settle_promised
    {promise : Nat} (passage : TenurePassage running before synchronizer changes system)
    (member : promise ∈ system.promised) (outcome : Outcome Reply) :
    TenurePassage running before synchronizer changes (system.settle promise outcome) := by
  obtain ⟨plain, apart⟩ := passage.parts.lock.detained promise member
  exact passage.settle plain.noCompletion (fun waits => (apart waits).elim)
    (Or.inr (passage.parts.books.ungrouped promise member))

theorem arm
    {action : Action} (passage : TenurePassage running before synchronizer changes system)
    (delay : Delay) (timed : action.IsTimed)
    (numbered : action = .debounce 0 → synchronizer.timer = some system.loop.timersArmed) :
    TenurePassage running before synchronizer changes (system.onLoop (·.arm delay action)) :=
  passage.onLoop ((passage.here fun _ _ => False).arm delay action timed) (by simp) rfl
    (passage.parts.books.arm delay numbered) (.of_promises rfl)

theorem disarm
    (passage : TenurePassage running before synchronizer changes system) (timer : Nat) :
    TenurePassage running before synchronizer changes (system.disarm timer) :=
  passage.onLoop ((passage.here fun _ _ => False).disarm timer trivial) (by simp) rfl
    (passage.parts.books.of_disarm (passage.parts.books.debounce.disarm timer)) (.of_promises rfl)

/-- The client starts a call of its own; what else happens does not concern the scheduler. -/
theorem starts
    {call : Call} {after : System} {later : Synchronizer} {laterChanges : List Occurrence}
    (passage : TenurePassage running before synchronizer changes system)
    (allowed : call.AtTenure) (own : call.IsOwn) (sameLoop : after.loop = (system.spawn call).loop)
    (parts : TenureParts later laterChanges after) :
    TenurePassage running before later laterChanges after := by
  have step := (passage.here fun _ _ => False).spawn (.begins call allowed) trivial
  have started : after.loop = system.loop.spawn [.begin call] := sameLoop
  exact {
    parts
    loop := by
      rw [started]
      exact {
        orderly := step.orderly
        punctual := step.punctual
        advances := passage.loop.advances.trans (step.advances.mono fun _ _ _ => trivial)
        runs := passage.loop.runs }
    members := by
      rw [started]
      exact passage.members.trans (system.loop.spawn_keepsGroups _).members
    spawned := fun task found isNew entry => by
      rw [started] at entry
      rcases step.advances.task_cases entry with
        ⟨earlier, earlierEntry, sameStack, _⟩ | ⟨isLater, _⟩
      · rw [sameStack]
        exact passage.spawned task earlier isNew earlierEntry
      · have added : (system.loop.tasks ++ [_])[task]? = some found := entry
        rw [List.getElem?_append_right isLater] at added
        rw [List.mem_singleton.mp (List.mem_of_getElem? added)]
        exact ⟨call, rfl, own⟩ }

theorem spawn_lock
    (passage : TenurePassage running before synchronizer changes system) {call : Call}
    (allowed : call.AtTenure) :
    LockParts synchronizer.lock system.promised (system.spawn call).loop :=
  passage.parts.lock.of_advances
    ((passage.here fun _ _ => False).spawn (.begins call allowed) trivial).advances (by simp)

/-- The client starts a call that does not send for the timer. -/
theorem spawn
    {call : Call} (passage : TenurePassage running before synchronizer changes system)
    (allowed : call.AtTenure) (own : call.IsOwn) (other : call ≠ .sendDebounced 0) :
    TenurePassage running before synchronizer changes (system.spawn call) :=
  passage.starts allowed own rfl { passage.parts with
    lock := passage.spawn_lock allowed
    books := passage.parts.books.spawn other }

theorem whenEnded
    {action : Action} (passage : TenurePassage running before synchronizer changes system)
    (task : Nat) (allowed : tenureScope.callback (.act action))
    (isUneventful : IsUneventful (.act action)) :
    TenurePassage running before synchronizer changes (system.whenEnded task action) := by
  unfold System.whenEnded
  split
  · exact passage
  · exact passage.uneventful ((passage.here fun _ _ => False).whenSettled _ _ allowed rfl) (by simp)
      (by simp [Scheduler.nextTask]) (.whenSettled _ _ isUneventful)
      (Scheduler.whenSettled_keepsGroups _ _ rfl)

theorem cancel
    (passage : TenurePassage running before synchronizer changes system) (task : Nat) :
    TenurePassage running before synchronizer changes (system.onLoop (·.cancel task)) :=
  passage.uneventful
    ((passage.here fun _ outcome => outcome = .cancelled).cancel trivial task (fun _ => rfl)
      fun _ => id)
    (fun _ _ cancelled _ reply => by
      rw [cancelled]
      nofun)
    (system.loop.cancel_nextTask task) (.cancel _ task)
    (Scheduler.cancel_keepsGroups _ task)

theorem completionsKnown
    (passage : TenurePassage running before synchronizer changes system) (task : Nat)
    (found : TaskState Frame) (entry : system.loop.tasks[task]? = some found) :
    found.completion < system.loop.nextPromise :=
  passage.loop.orderly.completionsKnown _
    (List.mem_map.mpr ⟨found, List.mem_of_getElem? entry, rfl⟩)

theorem gather
    {members : List Nat} (passage : TenurePassage running before synchronizer changes system)
    (known : ∀ member ∈ members, member < system.nextTask) :
    TenurePassage running before synchronizer changes
      (system.onLoop (·.gather members .nothing)) := by
  have step := (passage.here fun promise _ => system.loop.nextPromise ≤ promise).gather
    members .nothing (fun _ _ => trivial) (fun _ => trivial) fun _ => id
  have noneStarted : (system.loop.gather members .nothing).nextTask = system.loop.nextTask :=
    congrArg List.length (system.loop.gather_steady members Reply.nothing).tasks
  refine passage.onLoop step (fun promise outcome isNew member => ?_) noneStarted
    (passage.booksAfter step noneStarted (.gather _ members)
      (passage.parts.books.tallied.gather passage.completionsKnown known .nothing))
    (Scheduler.gather_gains passage.completionsKnown known .nothing).kept
  have known := (passage.parts.lock.waiters promise member).1.known
  exact (Nat.lt_irrefl _ (Nat.lt_of_lt_of_le known isNew)).elim

theorem endMember
    {promise : Nat} (passage : TenurePassage running before synchronizer changes system)
    (noted : ∀ group, system.loop.groupOf? promise = some group →
      system.loop.outcome? promise = none → system.loop.notes promise < group.remaining) :
    TenurePassage running before synchronizer changes
      (system.onLoop (·.endMember promise .nothing)) := by
  have step := (passage.here fun other _ => ¬ system.loop.IsUngrouped other).endMember
    promise .nothing (fun _ => id) fun _ _ => id
  have noneStarted : (system.loop.endMember promise .nothing).nextTask = system.loop.nextTask :=
    congrArg List.length (system.loop.endMember_steady promise Reply.nothing).tasks
  exact passage.onLoop step
    (fun other outcome grouped member =>
      (grouped (passage.parts.lock.waiters other member).2).elim)
    noneStarted
    (passage.booksAfter step noneStarted (.endMember _ promise)
      (passage.parts.books.tallied.endMember noted .nothing))
    (system.loop.endMember_keepsMembers promise .nothing)

/-- A request is noted: its promise, its deadline and its entry. -/
theorem registerRequest
    (passage : TenurePassage running before synchronizer changes system) (session : Nat)
    (id method : String) (timeout : Quantity) (delay : Delay) :
    TenurePassage running before synchronizer changes
        (system.registerRequest session id method timeout delay) ∧
      (system.registerRequest session id method timeout delay).loop.IsPlain system.nextPromise := by
  have armed : TenurePassage running before synchronizer changes
      (system.addPromise.onLoop (·.arm delay (.expire session id))) :=
    passage.addPromise.arm delay trivial nofun
  have noted : TenurePassage running before synchronizer changes
      ((system.addPromise.onLoop (·.arm delay (.expire session id))).onLoop
        (·.whenSettled system.nextPromise (.act (.discard session id)))) :=
    armed.uneventful ((armed.here fun _ _ => False).whenSettled _ _ trivial rfl) (by simp)
      (by simp [Scheduler.nextTask]) (.whenSettled _ _ trivial)
      (Scheduler.whenSettled_keepsGroups _ _ rfl)
  have plain : (system.registerRequest session id method timeout delay).loop.IsPlain
      system.nextPromise :=
    passage.loop.orderly.armed_isPlain delay _ _
  have promised {promise : Nat}
      (member : promise ∈ (system.registerRequest session id method timeout delay).promised) :
      promise ∈ system.promised ∨ promise = system.nextPromise := by
    rw [System.mem_promised] at member
    rcases member with detained | ⟨found, isSession, entry, isEntry, rfl⟩
    · exact Or.inl (System.mem_promised.mpr (Or.inl detained))
    · rcases Scheduler.mem_modify isSession with earlier | ⟨found, entryFound, rfl⟩
      · exact Or.inl (System.mem_promised.mpr (Or.inr ⟨found, earlier, entry, isEntry, rfl⟩))
      · rcases List.mem_append.mp isEntry with earlier | added
        · exact Or.inl (System.mem_promised.mpr
            (Or.inr ⟨found, List.mem_of_getElem? entryFound, entry, earlier, rfl⟩))
        · rw [List.mem_singleton.mp added]
          exact Or.inr rfl
  have ungrouped : (system.registerRequest session id method timeout delay).loop.IsUngrouped
      system.nextPromise :=
    isUngrouped_whenSettled (Scheduler.addPromise_isUngrouped_new rfl)
  refine ⟨noted.of_sameLoop rfl { noted.parts with
    lock := noted.parts.lock.of_promised fun promise member => ?_
    books := noted.parts.books.of_promised fun promise member => ?_ }, plain⟩
  · rcases promised member with earlier | rfl
    · exact Or.inl earlier
    · exact Or.inr ⟨plain, passage.nextPromise_not_waiter⟩
  · rcases promised member with earlier | rfl
    · exact Or.inl earlier
    · exact Or.inr ungrouped

/-! ## The synchronizer -/

theorem modifySynchronizer
    (passage : TenurePassage running before synchronizer changes system)
    (change : Synchronizer → Synchronizer) (lock : (change synchronizer).lock = synchronizer.lock)
    (books : Books (change synchronizer).timer (change synchronizer).sends system.promised
      system.loop) :
    TenurePassage running before (change synchronizer) changes
      (system.modifySynchronizer 0 change) := by
  refine passage.of_sameLoop rfl { passage.parts with synchronizers := ?_, lock := ?_, books }
  · simp [System.modifySynchronizer, passage.parts.synchronizers]
  · rw [lock]
    exact passage.parts.lock

theorem modifyLock
    (passage : TenurePassage running before synchronizer changes system) (change : Lock → Lock)
    (lock : LockParts (change synchronizer.lock) system.promised system.loop) :
    TenurePassage running before { synchronizer with lock := change synchronizer.lock } changes
      (system.modifyLock 0 change) := by
  refine passage.of_sameLoop rfl { passage.parts with synchronizers := ?_, lock }
  simp [System.modifyLock, System.modifySynchronizer, passage.parts.synchronizers]

theorem lockOf (passage : TenurePassage running before synchronizer changes system) :
    system.lockOf 0 = synchronizer.lock := by
  simp [System.lockOf, passage.parts.synchronizers]

end TenurePassage

end LanguageClient.Client
