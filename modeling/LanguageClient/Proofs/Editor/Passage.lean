import LanguageClient.Proofs.Editor.World

/-!
# Operations in the world of an editor

Each operation of a running callback continues a passage. Most leave the view of the document as it
is; a frame may be handed to a connection or accepted by the peer, and the synchronizer may change.
-/

namespace LanguageClient.Client

open LanguageClient.Json LanguageClient.Loop LanguageClient.Number LanguageClient.Protocol

/-! ## What an occurrence tells -/

theorem System.note_queries (system : System) (occurrence : Occurrence) :
    (system.note occurrence).queries = system.queries ++ occurrence.query?.toList := by
  simp only [queries, note, List.filterMap_append]
  cases asked : occurrence.query? with
  | none => simp [asked]
  | some query => simp [asked]

theorem System.accept_queries (system : System) (link : Nat) (frame : Value) :
    (system.accept link frame).queries = system.queries := by
  have noted := System.note_queries { system with peer := (system.peer.accept frame).2 }
    (.accepted link frame)
  have none : (Occurrence.accepted link frame).query? = none := rfl
  rw [none, Option.toList_none, List.append_nil] at noted
  exact noted

/-- An occurrence that tells nothing of the document. -/
def Occurrence.IsSilent (uri : String) : Occurrence → Prop
  | .handed _ frame => isQuery frame = false
  | .accepted _ frame => delivery? uri frame = none
  | _ => True

theorem Occurrence.IsSilent.query?
    {uri : String} {occurrence : Occurrence} (silent : occurrence.IsSilent uri) :
    occurrence.query? = none := by
  cases occurrence with
  | handed link frame =>
      have noQuery : isQuery frame = false := silent
      simp [Occurrence.query?, noQuery]
  | _ => rfl

theorem Occurrence.IsSilent.note_deliveries
    {uri : String} {occurrence : Occurrence} (silent : occurrence.IsSilent uri) (system : System) :
    (system.note occurrence).deliveries uri = system.deliveries uri := by
  cases occurrence with
  | accepted link frame =>
      have nothing : delivery? uri frame = none := silent
      simp [System.deliveries, System.note, nothing]
  | _ => exact system.note_deliveries uri (by simp)

/-- The view after a frame was handed to a connection. -/
def View.handing (view : View) (frame : Value) : View :=
  { view with asked := view.asked ++ (if isQuery frame then [frame] else []) }

/-- The view after the peer has accepted a frame. -/
def View.accepting (view : View) (uri : String) (frame : Value) : View :=
  { view with delivered := view.delivered ++ (delivery? uri frame).toList }

theorem View.handing_of_other
    {frame : Value} (view : View) (other : isQuery frame = false) : view.handing frame = view := by
  simp [View.handing, other]

theorem View.accepting_of_nothing
    {uri : String} {frame : Value} (view : View) (nothing : delivery? uri frame = none) :
    view.accepting uri frame = view := by
  simp [View.accepting, nothing]

/-! ## Promises that others settle -/

theorem LockParts.of_promised
    {lock : Lock} {promised later : List Nat} {loop : ClientLoop}
    (parts : LockParts lock promised loop)
    (known : ∀ promise ∈ later, promise ∈ promised ∨
      loop.IsPlain promise ∧ promise ∉ lock.waiters) :
    LockParts lock later loop :=
  { parts with
    detained := fun promise member => by
      rcases known promise member with earlier | added
      · exact parts.detained promise earlier
      · exact added }

theorem System.mem_promised {system : System} {promise : Nat} :
    promise ∈ system.promised ↔
      promise ∈ system.peer.detained ∨
        ∃ session ∈ system.sessions, ∃ entry ∈ session.pending, entry.promise = promise := by
  simp [promised]

/-- The table of a session only loses entries. -/
theorem System.modifySession_promised
    {system : System} {session : Nat} {change : Session → Session} {promise : Nat}
    (fewer : ∀ found, ∀ entry ∈ (change found).pending, entry ∈ found.pending)
    (member : promise ∈ (system.modifySession session change).promised) :
    promise ∈ system.promised := by
  rw [mem_promised] at member ⊢
  rcases member with detained | ⟨found, isSession, entry, isEntry, same⟩
  · exact Or.inl detained
  · right
    rcases Scheduler.mem_modify isSession with earlier | ⟨found, entryFound, rfl⟩
    · exact ⟨found, earlier, entry, isEntry, same⟩
    · exact ⟨found, List.mem_of_getElem? entryFound, entry, fewer found entry isEntry, same⟩

namespace EditorPassage

variable {uri : String} {running : Option Nat} {before system : System} {view : View}

/-! ## The journal and the peer -/

theorem note
    {occurrence : Occurrence} (passage : EditorPassage uri running before view system)
    (silent : occurrence.IsSilent uri) :
    EditorPassage uri running before view (system.note occurrence) :=
  passage.of_sameLoop rfl { passage.parts with
    delivered := (silent.note_deliveries system).trans passage.parts.delivered
    asked := by
      rw [System.note_queries, silent.query?, passage.parts.asked]
      exact List.append_nil _ }

theorem log
    (passage : EditorPassage uri running before view system) (level : LogLevel)
    (origin : LogSource) (text : String) :
    EditorPassage uri running before view (system.log level origin text) :=
  passage.note trivial

theorem noteEscaped
    (passage : EditorPassage uri running before view system) (failure? : Option Failure) :
    EditorPassage uri running before view (System.noteEscaped (system, failure?)) := by
  cases failure? with
  | none => exact passage
  | some failure => exact passage.note trivial

theorem hand
    (passage : EditorPassage uri running before view system) (link : Nat) (frame : Value) :
    EditorPassage uri running before (view.handing frame) (system.note (.handed link frame)) :=
  passage.of_sameLoop rfl { passage.parts with
    delivered := (system.note_deliveries uri (by simp)).trans passage.parts.delivered
    asked := by
      rw [System.note_queries, passage.parts.asked]
      cases query : isQuery frame with
      | false => simp [Occurrence.query?, View.handing, query]
      | true => simp [Occurrence.query?, View.handing, query] }

theorem withPeer
    (passage : EditorPassage uri running before view system) (peer : Peer)
    (detained : ∀ promise ∈ peer.detained, promise ∈ system.peer.detained) :
    EditorPassage uri running before view { system with peer } := by
  refine passage.of_sameLoop rfl { passage.parts with
    lock := passage.parts.lock.of_promised fun promise member => Or.inl ?_ }
  rw [System.mem_promised] at member ⊢
  exact member.imp (detained promise) id

theorem deliver
    (passage : EditorPassage uri running before view system) (link : Nat) (frames : List Value) :
    EditorPassage uri running before view (system.deliver link frames) := by
  refine passage.onLoop ((passage.here fun _ _ => False).enqueue ?_) (by simp) rfl
  intro callback member
  obtain ⟨frame, _, rfl⟩ := List.mem_map.mp member
  exact ⟨trivial, rfl⟩

theorem accept
    (passage : EditorPassage uri running before view system) (link : Nat) (frame : Value) :
    EditorPassage uri running before (view.accepting uri frame) (system.accept link frame) := by
  have behaved := passage.withPeer (system.peer.accept frame).2 fun promise member => by
    rw [detained_accept] at member
    exact member
  have delivered := behaved.deliver link (system.peer.accept frame).1
  refine delivered.of_sameLoop rfl { delivered.parts with delivered := ?_, asked := ?_ }
  · rw [System.accept_deliveries, passage.parts.delivered]
    rfl
  · rw [System.accept_queries]
    exact passage.parts.asked

theorem addPromise (passage : EditorPassage uri running before view system) :
    EditorPassage uri running before view system.addPromise :=
  passage.onLoop (passage.here fun _ _ => False).addPromise (by simp) rfl

/-- A promise that is about to be added is not waited for by anybody. -/
theorem nextPromise_not_waiter (passage : EditorPassage uri running before view system) :
    system.nextPromise ∉ view.synchronizer.lock.waiters := fun member =>
  Nat.lt_irrefl _ (passage.parts.lock.waiters _ member).1.known

/-- A frame or a closing is held back from now on: somebody waits for a new promise. -/
theorem detain
    (passage : EditorPassage uri running before view system) (peer : Peer)
    (detained : ∀ promise ∈ peer.detained,
      promise ∈ system.peer.detained ∨ promise = system.nextPromise) :
    EditorPassage uri running before view { system.addPromise with peer } := by
  refine passage.addPromise.of_sameLoop rfl { passage.addPromise.parts with
    lock := passage.addPromise.parts.lock.of_promised fun promise member => ?_ }
  rw [System.mem_promised] at member
  rcases member with isDetained | inTable
  · rcases detained promise isDetained with earlier | rfl
    · exact Or.inl (System.mem_promised.mpr (Or.inl earlier))
    · exact Or.inr ⟨passage.loop.orderly.addPromise_isPlain {}, passage.nextPromise_not_waiter⟩
  · exact Or.inl (System.mem_promised.mpr (Or.inr inTable))

theorem holdBack (passage : EditorPassage uri running before view system) :
    EditorPassage uri running before view system.holdBack := by
  refine passage.detain _ fun promise member => ?_
  simp only [Peer.detained, List.mem_append, List.mem_singleton] at member ⊢
  rcases member with (earlier | added) | closing
  · exact Or.inl (Or.inl earlier)
  · exact Or.inr added
  · exact Or.inl (Or.inr closing)

/-! ## Sessions, workspaces, files and editors -/

theorem modifySession
    (passage : EditorPassage uri running before view system) (session : Nat)
    {change : Session → Session}
    (fewer : ∀ found, ∀ entry ∈ (change found).pending, entry ∈ found.pending) :
    EditorPassage uri running before view (system.modifySession session change) :=
  passage.of_sameLoop rfl { passage.parts with
    lock := passage.parts.lock.of_promised fun _ member =>
      Or.inl (System.modifySession_promised fewer member) }

theorem addSession
    (passage : EditorPassage uri running before view system) (link : Nat) (timeout : Quantity) :
    EditorPassage uri running before view (system.addSession link timeout) := by
  refine passage.of_sameLoop rfl { passage.parts with
    lock := passage.parts.lock.of_promised fun promise member => Or.inl ?_ }
  rw [System.mem_promised] at member ⊢
  rcases member with detained | ⟨session, isSession, entry, isEntry, same⟩
  · exact Or.inl detained
  · rcases List.mem_append.mp isSession with earlier | added
    · exact Or.inr ⟨session, earlier, entry, isEntry, same⟩
    · rw [List.mem_singleton.mp added] at isEntry
      exact (List.not_mem_nil isEntry).elim

theorem connect (passage : EditorPassage uri running before view system) :
    EditorPassage uri running before view system.connect.1 := by
  unfold System.connect
  split
  · exact passage
  · exact passage.of_sameLoop rfl { passage.parts with }

theorem modifyWorkspace
    (passage : EditorPassage uri running before view system) (workspace : Nat)
    (change : Workspace → Workspace) :
    EditorPassage uri running before view (system.modifyWorkspace workspace change) :=
  passage.of_sameLoop rfl { passage.parts with }

theorem addWorkspace
    (passage : EditorPassage uri running before view system) (session : Nat)
    (result : InitializeResult) :
    EditorPassage uri running before view (system.addWorkspace session result) := by
  have added : EditorPassage uri running before view { system with
      workspaces := system.workspaces ++ [{
        session, capabilities := result.capabilities, serverInfo := result.serverInfo }] } :=
    passage.of_sameLoop rfl { passage.parts with }
  exact added.modifySession session fun _ _ => id

theorem addFile
    {file : OpenFile} (passage : EditorPassage uri running before view system)
    (isUri : file.uri = uri) :
    EditorPassage uri running before view (system.addFile file) := by
  refine passage.of_sameLoop rfl { passage.parts with files := fun other member => ?_ }
  rcases List.mem_append.mp member with earlier | added
  · exact passage.parts.files other earlier
  · rw [List.mem_singleton.mp added]
    exact isUri

theorem modifyEditor
    (passage : EditorPassage uri running before view system) (editor : Nat)
    {change : Editor → Editor}
    (keeps : ∀ found, (change found).synchronizer = found.synchronizer ∧
      (change found).documentUri = found.documentUri) :
    EditorPassage uri running before view (system.modifyEditor editor change) := by
  refine passage.of_sameLoop rfl { passage.parts with editor := ?_ }
  obtain ⟨found, only, synchronizer, documentUri⟩ := passage.parts.editor
  simp only [System.modifyEditor, only]
  cases editor with
  | zero =>
      exact ⟨change found, rfl, (keeps found).1.trans synchronizer, by
        rw [(keeps found).2]
        exact documentUri⟩
  | succ other => exact ⟨found, by simp, synchronizer, documentUri⟩

/-! ## The scheduler -/

theorem settle
    {promise : Nat} {outcome : Outcome Reply}
    (passage : EditorPassage uri running before view system)
    (noCompletion : promise ∉ system.loop.completions)
    (withheld : Withholds view.synchronizer.lock.waiters promise outcome) :
    EditorPassage uri running before view (system.settle promise outcome) :=
  passage.onLoop
    ((passage.here (Withholds view.synchronizer.lock.waiters)).settle noCompletion withheld)
    (fun _ _ => id) (by simp [Scheduler.nextTask])

theorem settle_promised
    {promise : Nat} (passage : EditorPassage uri running before view system)
    (member : promise ∈ system.promised) (outcome : Outcome Reply) :
    EditorPassage uri running before view (system.settle promise outcome) := by
  obtain ⟨plain, apart⟩ := passage.parts.lock.detained promise member
  exact passage.settle plain.noCompletion fun waits => (apart waits).elim

theorem arm
    {action : Action} (passage : EditorPassage uri running before view system) (delay : Delay)
    (timed : action.IsTimed) :
    EditorPassage uri running before view (system.onLoop (·.arm delay action)) :=
  passage.onLoop ((passage.here fun _ _ => False).arm delay action timed) (by simp) rfl

theorem disarm (passage : EditorPassage uri running before view system) (timer : Nat) :
    EditorPassage uri running before view (system.disarm timer) :=
  passage.onLoop ((passage.here fun _ _ => False).disarm timer trivial) (by simp) rfl

/-- The client starts a call of its own. -/
theorem spawn
    {call : Call} (passage : EditorPassage uri running before view system)
    (allowed : call.AtEditor) (own : call.IsOwn) :
    EditorPassage uri running before view (system.spawn call) := by
  have step := (passage.here fun _ _ => False).spawn (.begins call allowed) trivial
  exact {
    parts := { passage.parts with
      lock := passage.parts.lock.of_advances step.advances (by simp) }
    loop := {
      orderly := step.orderly
      punctual := step.punctual
      advances := passage.loop.advances.trans (step.advances.mono fun _ _ _ => trivial)
      runs := passage.loop.runs }
    spawned := fun task found isNew entry => by
      rcases step.advances.task_cases entry with
        ⟨earlier, earlierEntry, sameStack, _⟩ | ⟨isLater, _⟩
      · rw [sameStack]
        exact passage.spawned task earlier isNew earlierEntry
      · have added : (system.loop.tasks ++ [_])[task]? = some found := entry
        rw [List.getElem?_append_right isLater] at added
        rw [List.mem_singleton.mp (List.mem_of_getElem? added)]
        exact ⟨call, rfl, own⟩ }

theorem whenEnded
    {action : Action} (passage : EditorPassage uri running before view system) (task : Nat)
    (allowed : (editorScope uri).callback (.act action)) :
    EditorPassage uri running before view (system.whenEnded task action) := by
  unfold System.whenEnded
  split
  · exact passage
  · exact passage.onLoop ((passage.here fun _ _ => False).whenSettled _ _ allowed rfl) (by simp)
      (by simp [Scheduler.nextTask])

theorem cancel
    (passage : EditorPassage uri running before view system) (task : Nat) :
    EditorPassage uri running before view (system.onLoop (·.cancel task)) :=
  passage.onLoop
    ((passage.here fun _ outcome => outcome = .cancelled).cancel trivial task (fun _ => rfl)
      fun _ => id)
    (fun _ _ cancelled _ reply => by
      rw [cancelled]
      nofun)
    (system.loop.cancel_nextTask task)

theorem gather
    (passage : EditorPassage uri running before view system) (members : List Nat) :
    EditorPassage uri running before view (system.onLoop (·.gather members .nothing)) := by
  refine passage.onLoop ((passage.here fun promise _ => system.loop.nextPromise ≤ promise).gather
    members .nothing (fun _ _ => trivial) (fun _ => trivial) fun _ => id) ?_ ?_
  · intro promise outcome isNew member
    have known := (passage.parts.lock.waiters promise member).1.known
    exact (Nat.lt_irrefl _ (Nat.lt_of_lt_of_le known isNew)).elim
  · have steady := system.loop.gather_steady members Reply.nothing
    exact congrArg List.length steady.tasks

theorem endMember
    (passage : EditorPassage uri running before view system) (promise : Nat) :
    EditorPassage uri running before view (system.onLoop (·.endMember promise .nothing)) := by
  refine passage.onLoop ((passage.here fun other _ => ¬ system.loop.IsUngrouped other).endMember
    promise .nothing (fun _ => id) fun _ _ => id) ?_ ?_
  · intro other outcome grouped member
    exact (grouped (passage.parts.lock.waiters other member).2).elim
  · have steady := system.loop.endMember_steady promise Reply.nothing
    exact congrArg List.length steady.tasks

/-- A request is noted: its promise, its deadline and its entry. -/
theorem registerRequest
    (passage : EditorPassage uri running before view system) (session : Nat) (id method : String)
    (timeout : Quantity) (delay : Delay) :
    EditorPassage uri running before view
        (system.registerRequest session id method timeout delay) ∧
      (system.registerRequest session id method timeout delay).loop.IsPlain system.nextPromise := by
  have step := (((passage.here fun _ _ => False).addPromise).arm delay (.expire session id)
    trivial).whenSettled system.nextPromise (.act (.discard session id)) trivial rfl
  have noted : EditorPassage uri running before view (system.onLoop fun loop =>
      ((loop.addPromise {}).arm delay (.expire session id)).whenSettled system.nextPromise
        (.act (.discard session id))) :=
    passage.onLoop step (by simp)
      (by simp [Scheduler.nextTask, Scheduler.arm, Scheduler.addPromise])
  have plain : (system.registerRequest session id method timeout delay).loop.IsPlain
      system.nextPromise :=
    passage.loop.orderly.armed_isPlain delay _ _
  refine ⟨noted.of_sameLoop rfl { noted.parts with
    lock := noted.parts.lock.of_promised fun promise member => ?_ }, plain⟩
  rw [System.mem_promised] at member
  rcases member with detained | ⟨found, isSession, entry, isEntry, rfl⟩
  · exact Or.inl (System.mem_promised.mpr (Or.inl detained))
  · rcases Scheduler.mem_modify isSession with earlier | ⟨found, entryFound, rfl⟩
    · exact Or.inl (System.mem_promised.mpr (Or.inr ⟨found, earlier, entry, isEntry, rfl⟩))
    · rcases List.mem_append.mp isEntry with earlier | added
      · exact Or.inl (System.mem_promised.mpr
          (Or.inr ⟨found, List.mem_of_getElem? entryFound, entry, earlier, rfl⟩))
      · rw [List.mem_singleton.mp added]
        exact Or.inr ⟨plain, passage.nextPromise_not_waiter⟩

/-! ## The synchronizer -/

theorem modifySynchronizer
    (passage : EditorPassage uri running before view system)
    (change : Synchronizer → Synchronizer)
    (lock : (change view.synchronizer).lock = view.synchronizer.lock) :
    EditorPassage uri running before { view with synchronizer := change view.synchronizer }
      (system.modifySynchronizer 0 change) := by
  refine passage.of_sameLoop rfl { passage.parts with synchronizers := ?_, lock := ?_ }
  · simp [System.modifySynchronizer, passage.parts.synchronizers]
  · rw [lock]
    exact passage.parts.lock

theorem modifyLock
    (passage : EditorPassage uri running before view system) (change : Lock → Lock)
    (lock : LockParts (change view.synchronizer.lock) system.promised system.loop) :
    EditorPassage uri running before
      { view with
        synchronizer := { view.synchronizer with lock := change view.synchronizer.lock } }
      (system.modifyLock 0 change) := by
  refine passage.of_sameLoop rfl { passage.parts with synchronizers := ?_, lock }
  simp [System.modifyLock, System.modifySynchronizer, passage.parts.synchronizers]

theorem lockOf (passage : EditorPassage uri running before view system) :
    system.lockOf 0 = view.synchronizer.lock := by
  simp [System.lockOf, passage.parts.synchronizers]

end EditorPassage

end LanguageClient.Client
