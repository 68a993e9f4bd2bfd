import LanguageClient.Proofs.Conduct.Endings
import LanguageClient.Proofs.Tenure.Turns

/-!
# The steps of a synchronizer that changes its document

Every input keeps the invariant. An edit changes the text, an attachment gives the synchronizer a
document and takes all numbers back, a turn of a task makes one move, and every other input leaves
text, version and unsent edit as they are.
-/

namespace LanguageClient.Client

open LanguageClient.Json LanguageClient.Loop LanguageClient.Number LanguageClient.Protocol

namespace TenurePassage

variable {running : Option Nat} {before system : System} {synchronizer : Synchronizer}
  {changes : List Occurrence}

/-! ## Messages of the peer -/

theorem takeRequest
    (passage : TenurePassage running before synchronizer changes system) (session : Nat)
    (id : Value) :
    TenurePassage running before synchronizer changes (system.takeRequest session id) := by
  unfold System.takeRequest
  split
  · exact passage
  · split
    · exact passage
    · have spawned : TenurePassage running before synchronizer changes
          (system.spawn (.answer session id)) :=
        passage.spawn trivial trivial nofun
      have noted : TenurePassage running before synchronizer changes
          ((system.spawn (.answer session id)).whenEnded system.nextTask
            (.answerEnded session system.nextTask)) :=
        spawned.whenEnded _ trivial trivial
      exact noted.modifySession session fun _ _ member => member

theorem takeResponse
    (passage : TenurePassage running before synchronizer changes system) (session : Nat)
    (id : String) (message : Value) :
    TenurePassage running before synchronizer changes
      (system.takeResponse session id message).1 := by
  unfold System.takeResponse
  split
  · exact passage.log _ _ _
  · rename_i entry isOpen
    have promised := EditorPassage.openRequest?_promised isOpen
    split
    · exact passage.settle_promised promised _
    · split
      · exact passage.settle_promised promised _
      · exact passage

theorem showDiagnostics
    (passage : TenurePassage running before synchronizer changes system) (editor : Nat)
    (published : PublishedDiagnostics) :
    TenurePassage running before synchronizer changes
      (system.showDiagnostics editor published).1 := by
  unfold System.showDiagnostics
  split
  · exact passage
  · rename_i found _
    have shown : TenurePassage running before synchronizer changes
        (system.modifyEditor editor fun editor =>
          { editor with
            diagnostics := Document.placeDiagnostics (system.snapshotOf found)
              published.diagnostics }) :=
      passage.beside rfl rfl rfl fun _ => id
    simp only
    split
    · exact shown
    · exact shown.note rfl

theorem publish
    (passage : TenurePassage running before synchronizer changes system)
    (listener : DocumentListener) (params : Value) :
    TenurePassage running before synchronizer changes
      (system.publish listener params System.showDiagnostics).1 := by
  unfold System.publish
  split
  · exact passage
  · cases listener with
    | editor editor => exact passage.showDiagnostics editor _
    | host name fails => exact passage.note rfl

theorem takeNotification
    (passage : TenurePassage running before synchronizer changes system) (workspace : Nat)
    (method params : Value) :
    TenurePassage running before synchronizer changes
      (System.takeNotification System.showDiagnostics system workspace method params).1 := by
  unfold System.takeNotification
  split
  · exact passage
  · split
    · split
      · exact passage
      · exact passage
      · exact passage.publish _ params
    · split
      · unfold System.showMessage
        split
        · exact passage.log _ _ _
        · exact passage
      · exact passage

theorem takeMessage
    (passage : TenurePassage running before synchronizer changes system) (session : Nat)
    (raw : String) :
    TenurePassage running before synchronizer changes
      (system.takeMessage session raw (System.takeNotification System.showDiagnostics)).1 := by
  unfold System.takeMessage
  split
  · exact passage.log _ _ _
  · exact passage
  · rename_i members _
    simp only
    split
    · exact passage.takeRequest session _
    · split
      · exact passage.log _ _ _
      · exact passage.log _ _ _
      · rename_i method _ _ _ listener _ _
        have told := fun workspace => passage.takeNotification workspace method
          (((Value.object members).get? "params").getD .null)
        cases listener with
        | nobody => exact passage
        | workspace workspace =>
            simp only
            split
            · exact told workspace
            · exact (told workspace).log _ _ _
        | host fails =>
            have heard : TenurePassage running before synchronizer changes
                (system.note (.told (.notification method
                  (((Value.object members).get? "params").getD .null)))) :=
              passage.note rfl
            simp only
            split
            · exact heard
            · exact heard.log _ _ _
    · exact passage.takeResponse session _ _
    · exact passage.log _ _ _
  · exact passage.log _ _ _

theorem receive
    (passage : TenurePassage running before synchronizer changes system) (link : Nat)
    (text : String) :
    TenurePassage running before synchronizer changes (system.receive link text) := by
  unfold System.receive
  split
  · exact passage
  · rename_i session _
    have taken := passage.takeMessage session text
    split
    · rename_i later result
      rw [result] at taken
      exact taken
    · rename_i later failure result
      rw [result] at taken
      exact taken.note rfl

/-! ## The end of requests and sessions -/

theorem endAnswer
    (passage : TenurePassage running before synchronizer changes system) (session task : Nat) :
    TenurePassage running before synchronizer changes (system.endAnswer session task) := by
  have removed : TenurePassage running before synchronizer changes
      (system.modifySession session fun found =>
        { found with answers := found.answers.filter fun other => other ≠ task }) :=
    passage.modifySession session fun _ _ => id
  unfold System.endAnswer
  simp only
  split
  · exact removed.log _ _ _
  · exact removed
  · exact removed
  · exact removed

theorem discard
    (passage : TenurePassage running before synchronizer changes system) (session : Nat)
    (id : String) :
    TenurePassage running before synchronizer changes (system.discard session id) := by
  unfold System.discard
  split
  · exact passage
  · have removed : TenurePassage running before synchronizer changes
        (system.modifySession session fun found =>
          { found with pending := found.pending.filter fun other => other.id ≠ id }) :=
      passage.modifySession session fun _ _ member => (List.mem_filter.mp member).1
    exact removed.disarm _

theorem expire
    (passage : TenurePassage running before synchronizer changes system) (session : Nat)
    (id : String) :
    TenurePassage running before synchronizer changes (system.expire session id) := by
  unfold System.expire
  split
  · exact passage
  · rename_i entry isOpen
    have logged := passage.log .warning .session
      ("request " ++ (Failure.timedOut entry.method id entry.timeout).message)
    exact logged.settle_promised (EditorPassage.openRequest?_promised isOpen) _

theorem loseConnection
    (passage : TenurePassage running before synchronizer changes system) (session : Nat) :
    TenurePassage running before synchronizer changes (system.loseConnection session) := by
  unfold System.loseConnection
  split
  · exact passage
  · split
    · exact passage
    · have closed : TenurePassage running before synchronizer changes
          ((system.log .warning .session
            "connection lost, failing outstanding requests").modifySession session
              fun found => { found with closed := true }) :=
        (passage.log _ _ _).modifySession session fun _ _ => id
      exact closed.abandonRequests session _

theorem drop
    (passage : TenurePassage running before synchronizer changes system) (link : Nat) :
    TenurePassage running before synchronizer changes (system.drop link) := by
  unfold System.drop
  split
  · exact passage
  · exact passage.loseConnection _

/-- What the peer lets go is settled. -/
theorem releases
    {after : System} (passage : TenurePassage running before synchronizer changes system)
    (releases : system.Releases after) :
    TenurePassage running before synchronizer changes after := by
  cases releases with
  | nothing => exact passage
  | @promise promise peer detained fewer kept =>
      have member : promise ∈ system.promised := System.mem_promised.mpr (Or.inl detained)
      exact (passage.settle_promised member _).withPeer peer fewer

/-! ## The timer -/

/-- A send is started because the timer fired. -/
theorem debounce
    (passage : TenurePassage running before synchronizer changes system)
    (debounce : HasDebounce none system.loop) :
    TenurePassage running before
      { synchronizer with timer := none, sends := synchronizer.sends ++ [system.nextTask] } changes
      (system.debounce 0) := by
  have books : Books none synchronizer.sends system.promised system.loop :=
    { passage.parts.books with debounce }
  have started : TenurePassage running before
      { synchronizer with timer := none, sends := synchronizer.sends ++ [system.nextTask] } changes
      ((system.spawn (.sendDebounced 0)).modifySynchronizer 0 fun found =>
        { found with timer := none, sends := found.sends ++ [system.nextTask] }) :=
    passage.starts (show Call.AtTenure (.sendDebounced 0) from rfl) trivial rfl {
      synchronizers := by
        simp [System.modifySynchronizer, System.spawn, System.onLoop, passage.parts.synchronizers]
      changes := passage.parts.changes
      lock := passage.spawn_lock (show Call.AtTenure (.sendDebounced 0) from rfl)
      books := books.startSend }
  have entry := spawn_task system (.sendDebounced 0)
  have unended : (system.spawn (.sendDebounced 0)).loop.outcome? system.nextPromise = none :=
    Scheduler.addPromise_outcome?_new {} system.loop
  have told := started.onLoop ((started.here fun _ _ => False).whenSettled system.nextPromise
    (.act (.sendEnded 0 system.nextTask)) rfl rfl) (by simp) (by simp [Scheduler.nextTask])
    (started.parts.books.tellEnd entry unended)
    (Scheduler.whenSettled_keepsGroups _ _ rfl).members
  have result : system.debounce 0 =
      ((system.spawn (.sendDebounced 0)).modifySynchronizer 0 fun found =>
        { found with timer := none, sends := found.sends ++ [system.nextTask] }).onLoop
          (·.whenSettled system.nextPromise (.act (.sendEnded 0 system.nextTask))) := by
    simp only [System.debounce, System.whenEnded, entry]
    rfl
  rw [result]
  exact told

theorem endSend
    {task : Nat} (passage : TenurePassage running before synchronizer changes system)
    (isOver : system.loop.IsOver task) :
    TenurePassage running before
      { synchronizer with sends := synchronizer.sends.filter fun other => other ≠ task } changes
      (system.endSend 0 task) :=
  passage.modifySynchronizer
    (fun found => { found with sends := found.sends.filter fun other => other ≠ task }) rfl
    (passage.parts.books.endSend isOver)

/-- The wait for further edits is started anew, if it can be counted. -/
theorem schedule (passage : TenurePassage running before synchronizer changes system) :
    ∃ timer?, TenurePassage running before { synchronizer with timer := timer? } changes
      (system.schedule 0).1 := by
  have cancelled := passage.cancelTimer
  have found : (system.cancelTimer 0).synchronizers[0]? =
      some { synchronizer with timer := none } := by
    rw [cancelled.parts.synchronizers]
    rfl
  simp only [System.schedule, found]
  cases synchronizer.debounce.delay? with
  | none => exact ⟨none, cancelled⟩
  | some delay =>
      -- No timer is armed now, so the number of the next one may be noted before it is armed.
      have noted := cancelled.modifySynchronizer
        (fun found => { found with timer := some (system.cancelTimer 0).loop.timersArmed }) rfl
        { cancelled.parts.books with debounce := cancelled.parts.books.debounce.retime _ }
      have armed : TenurePassage running before
          { synchronizer with timer := some (system.cancelTimer 0).loop.timersArmed } changes
          (((system.cancelTimer 0).modifySynchronizer 0 fun found =>
            { found with timer := some (system.cancelTimer 0).loop.timersArmed }).onLoop
              (·.arm delay (.debounce 0))) :=
        noted.arm delay rfl fun _ => rfl
      exact ⟨some (system.cancelTimer 0).loop.timersArmed, armed⟩

end TenurePassage

/-! ## Inputs -/

/-- What may happen to a client whose documents are all changed by one synchronizer. The host opens
and closes documents, attaches the synchronizer to them, edits the text, starts flushes, closes the
synchronizer, sends messages of its own that change no document, and cancels tasks. -/
def Input.OnTenure : Input → Prop
  | .call (.request _ method _ _) | .call (.notify _ method _) => method ≠ Method.didChange
  | .call (.flush synchronizer _) | .call (.closeSynchronizer synchronizer)
  | .attach synchronizer _ _ | .edit synchronizer _ => synchronizer = 0
  | .call (.closeSession _) | .call (.createWorkspace _) | .call (.openFile _ _ _ _ _)
  | .call (.closeFile _) | .call (.closeWorkspace _) => True
  | .call _ | .editText _ _ => False
  | .cancel _ | .listen _ _ | .receive _ _ | .drop _ | .behave _ | .release _ | .releaseClose _
  | .tick _ | .turn => True

/-- The host edits the text. -/
def Input.isEdit : Input → Bool
  | .edit _ _ => true
  | _ => false

/-- The host attaches the synchronizer to a document. -/
def Input.isAttach : Input → Bool
  | .attach _ _ _ => true
  | _ => false

/-- A call that the host may make. -/
theorem Call.of_onTenure {call : Call} (allowed : (Input.call call).OnTenure) :
    call.AtTenure ∧ (∀ editor, call ≠ .start editor) ∧ call ≠ .sendDebounced 0 := by
  cases call with
  | request session method params timeout => exact ⟨allowed, nofun, nofun⟩
  | notify session method params => exact ⟨allowed, nofun, nofun⟩
  | flush synchronizer force => exact ⟨allowed, nofun, nofun⟩
  | closeSynchronizer synchronizer => exact ⟨allowed, nofun, nofun⟩
  | closeSession session => exact ⟨trivial, nofun, nofun⟩
  | createWorkspace request => exact ⟨trivial, nofun, nofun⟩
  | openFile workspace uri languageId text listeners => exact ⟨trivial, nofun, nofun⟩
  | closeFile file => exact ⟨trivial, nofun, nofun⟩
  | closeWorkspace workspace => exact ⟨trivial, nofun, nofun⟩
  | _ => exact allowed.elim

/-- A synchronizer comes from another one while nothing is edited or sent. A send is started only
because the timer fired. -/
structure Synchronizer.Idles (before after : Synchronizer) : Prop extends before.Follows after where
  dirty : after.dirty = before.dirty
  version : after.version = before.version
  lock : after.lock = before.lock
  sends : ∀ task ∈ after.sends, task ∈ before.sends ∨ before.timer ≠ none

theorem Synchronizer.Idles.of_leaves
    {before after : Synchronizer} (leaves : before.Leaves after) : before.Idles after where
  toFollows := .of_leaves leaves
  dirty := leaves.dirty
  version := leaves.version
  lock := leaves.lock
  sends := fun _ member => Or.inl (leaves.sends ▸ member)

theorem Synchronizer.Idles.refl (synchronizer : Synchronizer) : synchronizer.Idles synchronizer :=
  .of_leaves (.refl synchronizer)

/-- What one input does to the synchronizer, to the holder of its lock and to the changes on their
way. -/
inductive TenureStep
    (synchronizer : Synchronizer) (holder : Option (Nat × Consignment)) (before after : System) :
    Input → Synchronizer → Option (Nat × Consignment) → Prop where
  | stands (input : Input) (later : Synchronizer) (noEdit : input.isEdit = false)
      (noAttach : input.isAttach = false) (follows : synchronizer.Follows later)
      (dirty : later.dirty = synchronizer.dirty) (version : later.version = synchronizer.version)
      (changes : after.changes = before.changes)
      (sends : ∀ task ∈ later.sends, task ∈ synchronizer.sends ∨ synchronizer.timer ≠ none) :
    TenureStep synchronizer holder before after input later holder
  | edits (text : String) (timer? : Option Nat)
      (armed : timer? = synchronizer.timer ∨ synchronizer.file ≠ none)
      (changes : after.changes = before.changes) :
    TenureStep synchronizer holder before after (.edit 0 text)
      { synchronizer with text, dirty := true, timer := timer? } holder
  | attaches (file : Nat) (openedText : String) (timer? : Option Nat)
      (changes : after.changes = before.changes) :
    TenureStep synchronizer holder before after (.attach 0 file openedText)
      { synchronizer with
        file := some file
        version := 0
        dirty := synchronizer.text ≠ openedText
        timer := timer? } holder
  | turns (task : Nat) (found : TaskState Frame) (later : Synchronizer)
      (laterHolder : Option (Nat × Consignment)) (added : List Occurrence)
      (coming : before.comingCallback? = some (.resume task))
      (entry : before.loop.tasks[task]? = some found)
      (turn : TenureTurn task found.stack before synchronizer holder after later laterHolder added) :
    TenureStep synchronizer holder before after .turn later laterHolder

section Steps

variable {holder : Option (Nat × Consignment)} {synchronizer later : Synchronizer}
  {system after : System} {changes : List Occurrence}

/-! ## Tasks that stand still -/

theorem TenurePassage.standsStill
    (passage : TenurePassage none system later changes after) (task : Nat)
    (found : TaskState Frame) (entry : after.loop.tasks[task]? = some found) :
    StandsStill system.loop task found := by
  rcases passage.loop.advances.task_cases entry with ⟨earlier, earlierEntry, same, _⟩ | ⟨isNew, _⟩
  · exact Or.inl ⟨earlier, earlierEntry, same⟩
  · exact Or.inr (passage.spawned task found isNew entry)

theorem TenureWorld.start (world : TenureWorld holder synchronizer system) :
    TenurePassage none system synchronizer system.changes system where
  parts := world.parts
  loop := .refl world.orderly world.punctual nofun
  members := .refl _
  spawned := fun task found isNew entry => by
    rw [List.getElem?_eq_none isNew] at entry
    cases entry

theorem TenurePassage.world
    (passage : TenurePassage none system later changes after)
    (world : TenureWorld holder synchronizer system) (lock : later.lock = synchronizer.lock) :
    TenureWorld holder later after where
  parts := { passage.parts with changes := rfl }
  held := by
    rw [lock]
    exact world.held
  places := by
    rw [lock]
    exact world.places.of_still
      (fun task found entry => (passage.standsStill task found entry).orBegins)
      (keepsStacks_of_advances passage.loop.advances) passage.loop.advances.plain
  orderly := passage.loop.orderly
  punctual := passage.loop.punctual

/-- The invariant holds after an input, and what it shows. -/
def TenureGoesOn
    (holder : Option (Nat × Consignment)) (synchronizer : Synchronizer) (before : System)
    (input : Input) (after : System) :
    Prop :=
  ∃ laterHolder later, TenureWorld laterHolder later after ∧
    TenureStep synchronizer holder before after input later laterHolder

/-- Something happens besides the turns of tasks. -/
theorem TenurePassage.goesOn
    {input : Input} (passage : TenurePassage none system later system.changes after)
    (world : TenureWorld holder synchronizer system) (idles : synchronizer.Idles later)
    (noEdit : input.isEdit = false) (noAttach : input.isAttach = false) :
    TenureGoesOn holder synchronizer system input after :=
  ⟨holder, later, passage.world world idles.lock,
    .stands input later noEdit noAttach idles.toFollows idles.dirty idles.version
      passage.parts.changes idles.sends⟩

/-! ## Callbacks -/

/-- A callback that lets no task go on. -/
theorem TenurePassage.runCallback
    {callback : Callback Action} (passage : TenurePassage none system synchronizer changes after)
    (allowed : tenureScope.callback callback) (due : Due callback synchronizer.timer after.loop)
    (noTask : ∀ task, callback ≠ .resume task) :
    ∃ later, synchronizer.Idles later ∧
      TenurePassage none system later changes (after.runCallback callback) := by
  have same : synchronizer.Idles synchronizer := .refl synchronizer
  cases callback with
  | resume task => exact (noTask task rfl).elim
  | memberEnded group => exact ⟨_, same, passage.endMember (due.noted group rfl)⟩
  | skipped => exact ⟨_, same, passage⟩
  | fire timer action =>
      cases action with
      | debounce other =>
          obtain rfl : other = 0 := allowed
          obtain ⟨isTimer, noneLeft⟩ := due.fired timer rfl
          refine ⟨_, ?_, passage.debounce noneLeft⟩
          exact {
            text := rfl
            file := Or.inl rfl
            timer := Or.inr rfl
            dirty := rfl
            version := rfl
            lock := rfl
            sends := fun _ _ => Or.inr (isTimer ▸ Option.some_ne_none timer) }
      | expire session id => exact ⟨_, same, passage.expire session id⟩
      | _ => exact allowed.elim
  | act action =>
      cases action with
      | discard session id => exact ⟨_, same, passage.discard session id⟩
      | answerEnded session task => exact ⟨_, same, passage.endAnswer session task⟩
      | deliver link text => exact ⟨_, same, passage.receive link text⟩
      | sendEnded other task =>
          obtain rfl : other = 0 := allowed
          refine ⟨_, ?_, passage.endSend (due.told task rfl)⟩
          exact { same with
            sends := fun other member => Or.inl (List.mem_filter.mp member).1 }
      | _ => exact allowed.elim

/-- Taking a callback keeps the invariant, and the callback is one that may run. -/
theorem TenureWorld.taken
    {callback : Callback Action} {rest : ClientLoop}
    (world : TenureWorld holder synchronizer system)
    (next : system.loop.next? = some (callback, rest)) :
    TenureWorld holder synchronizer { system with loop := rest } ∧
      tenureScope.callback callback ∧ Due callback synchronizer.timer rest := by
  have taken := Scheduler.taken_of_next? next
  obtain ⟨books, due⟩ := world.parts.books.taken next
  obtain ⟨orderly, allowed⟩ := world.orderly.taken taken fun _ isTimed _ => isTimed
  have plain : ∀ promise, system.loop.IsPlain promise → rest.IsPlain promise :=
    fun _ => taken.isPlain
  have ungrouped : ∀ promise, system.loop.IsUngrouped promise → rest.IsUngrouped promise :=
    fun _ => taken.isUngrouped
  have outcomes : ∀ promise, system.loop.IsPlain promise →
      rest.outcome? promise = system.loop.outcome? promise := fun promise _ => taken.outcome?_eq promise
  have kept : KeepsStacks system.loop rest := fun task found entry =>
    ⟨found, taken.tasks ▸ entry, rfl⟩
  refine ⟨?_, allowed, due⟩
  exact {
    parts := { world.parts with
      changes := rfl
      lock := world.parts.lock.of_plain plain ungrouped outcomes
      books }
    held := world.held
    places := world.places.of_still
      (fun task found entry => (StandsStill.of_same taken.tasks task found entry).orBegins) kept plain
    orderly
    punctual := (world.punctual.taken taken).1 }

theorem TenureWorld.callback
    {callback : Callback Action} {rest : ClientLoop}
    (world : TenureWorld holder synchronizer system)
    (next : system.loop.next? = some (callback, rest)) :
    TenureGoesOn holder synchronizer system .turn
      (({ system with loop := rest } : System).runCallback callback) := by
  have taken := Scheduler.taken_of_next? next
  obtain ⟨restWorld, allowed, due⟩ := world.taken next
  by_cases isResume : ∃ task, callback = .resume task
  · obtain ⟨task, rfl⟩ := isResume
    have coming : system.comingCallback? = some (.resume task) := by
      simp only [System.comingCallback?, next, Option.map_some]
    obtain ⟨notReady, settled⟩ := world.punctual.resumed_of_taken taken
    rcases restWorld.resumeTask notReady settled with same |
      ⟨found, later, laterHolder, added, entry, laterWorld, turn⟩
    · have unchanged : ({ system with loop := rest } : System).runCallback (.resume task) =
          { system with loop := rest } := same
      rw [unchanged]
      exact ⟨holder, synchronizer, restWorld,
        .stands .turn synchronizer rfl rfl (.refl synchronizer) rfl rfl rfl fun _ => Or.inl⟩
    · exact ⟨laterHolder, later, laterWorld,
        .turns task found later laterHolder added coming (taken.tasks ▸ entry)
          ⟨turn.follows, turn.sends, turn.move, turn.changes⟩⟩
  · obtain ⟨later, idles, passage⟩ := restWorld.start.runCallback allowed due
      fun task same => isResume ⟨task, same⟩
    exact ⟨holder, later, passage.world restWorld idles.lock,
      .stands .turn later rfl rfl idles.toFollows idles.dirty idles.version passage.parts.changes
        idles.sends⟩

/-! ## The other inputs -/

theorem TenureWorld.spawn_passage
    {call : Call} (world : TenureWorld holder synchronizer system) (allowed : call.AtTenure) :
    Scheduler.Passage tenureScope none True (fun _ _ => False) system.loop
      (system.spawn call).loop :=
  .spawn (.refl world.orderly world.punctual nofun) (.begins call allowed) trivial

/-- The host makes a call. -/
theorem TenureWorld.call
    {call : Call} (world : TenureWorld holder synchronizer system) (allowed : call.AtTenure)
    (noStart : ∀ editor, call ≠ .start editor) (other : call ≠ .sendDebounced 0) :
    TenureGoesOn holder synchronizer system (.call call) (system.spawn call) := by
  have step := world.spawn_passage allowed
  have stood : ∀ task found, (system.spawn call).loop.tasks[task]? = some found →
      StandsOrBegins system.loop task found := by
    intro task found entry
    rcases step.advances.task_cases entry with ⟨earlier, earlierEntry, same, _⟩ | ⟨isNew, _⟩
    · exact Or.inl ⟨earlier, earlierEntry, same⟩
    · have added : (system.loop.tasks ++ [_])[task]? = some found := entry
      rcases getElem?_append_singleton_cases added with earlier | ⟨_, rfl⟩
      · exact absurd (List.getElem?_eq_some_iff.mp earlier).1 (Nat.not_lt.mpr isNew)
      · exact Or.inr ⟨call, rfl, noStart⟩
  refine ⟨holder, synchronizer, ?_,
    .stands _ synchronizer rfl rfl (.refl synchronizer) rfl rfl rfl fun _ => Or.inl⟩
  exact {
    parts := { world.parts with
      changes := rfl
      lock := world.parts.lock.of_advances step.advances (by simp)
      books := world.parts.books.spawn other }
    held := world.held
    places := world.places.of_still stood (keepsStacks_of_advances step.advances)
      step.advances.plain
    orderly := step.orderly
    punctual := step.punctual }

theorem TenureWorld.tick
    (world : TenureWorld holder synchronizer system) (moment : Rat) :
    TenureGoesOn holder synchronizer system (.tick moment)
      (system.onLoop (·.moveClock moment)) := by
  have plain : ∀ promise, system.loop.IsPlain promise →
      (system.loop.moveClock moment).IsPlain promise :=
    fun _ isPlain => isPlain.of_le rfl (Nat.le_refl _)
  refine ⟨holder, synchronizer, ?_,
    .stands _ synchronizer rfl rfl (.refl synchronizer) rfl rfl rfl fun _ => Or.inl⟩
  exact {
    parts := { world.parts with
      changes := rfl
      lock := world.parts.lock.of_plain plain (fun _ => id) fun _ _ => rfl
      books := world.parts.books.moveClock moment }
    held := world.held
    places := world.places.of_still
      (fun task found entry => (StandsStill.of_same rfl task found entry).orBegins)
      (fun task found entry => ⟨found, entry, rfl⟩) plain
    orderly := world.orderly.moveClock moment
    punctual := world.punctual.moveClock moment }

/-- An edit arms the timer anew if the document is open. -/
theorem TenureWorld.edit_passage
    (world : TenureWorld holder synchronizer system) (text : String) :
    ∃ timer?, (timer? = synchronizer.timer ∨ synchronizer.file ≠ none) ∧
      TenurePassage none system { synchronizer with text, dirty := true, timer := timer? }
        system.changes (System.noteEscaped (system.edit 0 text)) := by
  have edited := world.start.modifySynchronizer
    (fun found => { found with text, dirty := true }) rfl world.parts.books
  simp only [System.edit]
  split
  · rename_i ready
    have attached : synchronizer.file ≠ none := by
      intro detached
      simp [System.isReady, edited.parts.synchronizers, detached] at ready
    obtain ⟨timer?, scheduled⟩ := edited.schedule
    exact ⟨timer?, Or.inr attached, scheduled.noteEscaped _⟩
  · exact ⟨synchronizer.timer, Or.inl rfl, edited.noteEscaped none⟩

theorem TenureWorld.edit
    (world : TenureWorld holder synchronizer system) (text : String) :
    TenureGoesOn holder synchronizer system (.edit 0 text)
      (System.noteEscaped (system.edit 0 text)) := by
  obtain ⟨timer?, armed, passage⟩ := world.edit_passage text
  exact ⟨holder, _, passage.world world rfl, .edits text timer? armed passage.parts.changes⟩

theorem TenureWorld.attach_passage
    (world : TenureWorld holder synchronizer system) (file : Nat) (openedText : String) :
    ∃ timer?, TenurePassage none system { synchronizer with
        file := some file
        version := 0
        dirty := synchronizer.text ≠ openedText
        timer := timer? } system.changes
      (System.noteEscaped (system.attach 0 file openedText)) := by
  have attached := world.start.modifySynchronizer
    (fun found => { found with
      file := some file, version := 0, dirty := found.text ≠ openedText }) rfl
    world.parts.books
  simp only [System.attach]
  split
  · obtain ⟨timer?, scheduled⟩ := attached.schedule
    exact ⟨timer?, scheduled.noteEscaped _⟩
  · exact ⟨synchronizer.timer, attached.noteEscaped none⟩

theorem TenureWorld.attach
    (world : TenureWorld holder synchronizer system) (file : Nat) (openedText : String) :
    TenureGoesOn holder synchronizer system (.attach 0 file openedText)
      (System.noteEscaped (system.attach 0 file openedText)) := by
  obtain ⟨timer?, passage⟩ := world.attach_passage file openedText
  exact ⟨holder, _, passage.world world rfl,
    .attaches file openedText timer? passage.parts.changes⟩

/-- Every input keeps the invariant. -/
theorem TenureWorld.step
    {input : Input} (world : TenureWorld holder synchronizer system)
    (allowed : input.OnTenure) :
    TenureGoesOn holder synchronizer system input (system.step input) := by
  have start := world.start
  have same : synchronizer.Idles synchronizer := .refl synchronizer
  cases input with
  | turn =>
      rcases system.step_turn_cases with ⟨_, unchanged⟩ | ⟨callback, rest, next, runs⟩
      · rw [unchanged]
        exact start.goesOn world same rfl rfl
      · rw [runs]
        exact world.callback next
  | call call =>
      obtain ⟨atTenure, noStart, other⟩ := Call.of_onTenure allowed
      exact world.call atTenure noStart other
  | edit other text =>
      obtain rfl : other = 0 := allowed
      exact world.edit text
  | attach other file openedText =>
      obtain rfl : other = 0 := allowed
      exact world.attach file openedText
  | tick moment => exact world.tick moment
  | cancel task => exact (start.cancel task).goesOn world same rfl rfl
  | listen session listener =>
      have heard : TenurePassage none system synchronizer system.changes
          (system.modifySession session fun found => { found with listener }) :=
        start.modifySession session fun _ _ => id
      exact heard.goesOn world same rfl rfl
  | receive link text => exact (start.receive link text).goesOn world same rfl rfl
  | drop link => exact (start.drop link).goesOn world same rfl rfl
  | behave peer =>
      have behaved := start.withPeer { peer with
        held := system.peer.held
        heldCloses := system.peer.heldCloses } fun _ => id
      exact behaved.goesOn world same rfl rfl
  | release place =>
      exact (start.releases (system.releaseFrame_releases place)).goesOn world same rfl rfl
  | releaseClose place =>
      exact (start.releases (system.releaseClosing_releases place)).goesOn world same rfl rfl
  | editText editor text => exact allowed.elim

end Steps

end LanguageClient.Client
