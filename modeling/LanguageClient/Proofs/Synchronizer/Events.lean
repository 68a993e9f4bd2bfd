import LanguageClient.Proofs.Synchronizer.Turns

/-!
# Events around a synchronizer

What happens besides the turns of tasks: the host starts calls and edits, the peer sends messages and
lets held frames go, timers fire, and ends of tasks are noted. Nothing is delivered to the peer
meanwhile.
-/

namespace LanguageClient.Client

open LanguageClient.Json LanguageClient.Loop LanguageClient.Number LanguageClient.Protocol

/-- A client comes from another one while timers, ready callbacks and open documents are kept and
nothing of a document is delivered. -/
structure System.Keeps (uri : String) (before after : System) : Prop where
  deliveries : after.deliveries uri = before.deliveries uri
  timers : after.loop.timers = before.loop.timers
  ready : ∀ callback ∈ before.loop.ready, callback ∈ after.loop.ready
  files : after.files = before.files
  workspaces : after.workspaces = before.workspaces

namespace System.Keeps

variable {uri : String} {before middle after : System}

theorem refl (system : System) : system.Keeps uri system :=
  ⟨rfl, rfl, fun _ => id, rfl, rfl⟩

theorem trans (first : before.Keeps uri middle) (second : middle.Keeps uri after) :
    before.Keeps uri after :=
  ⟨second.deliveries.trans first.deliveries, second.timers.trans first.timers,
    fun callback member => second.ready callback (first.ready callback member),
    second.files.trans first.files, second.workspaces.trans first.workspaces⟩

theorem isOpen (keeps : before.Keeps uri after) (file : Nat) :
    after.isOpen file = before.isOpen file := by
  unfold System.isOpen System.openFile?
  rw [keeps.files, keeps.workspaces]

theorem of_steady
    (steady : before.Steady after) (deliveries : after.deliveries uri = before.deliveries uri) :
    before.Keeps uri after :=
  ⟨deliveries, steady.loop.timers, steady.loop.ready, steady.files, steady.workspaces⟩

end System.Keeps

/-- An event in the world of a synchronizer, up to some point of it. -/
structure SyncEvent
    (calm : Prop) (uri : String) (before : System) (synchronizer : Synchronizer)
    (system : System) :
    Prop where
  passage : SyncPassage calm uri none before synchronizer system
  keeps : before.Keeps uri system

theorem SyncWorld.start
    {calm : Prop} {uri : String} {holder : Option (Nat × Change)} {synchronizer : Synchronizer}
    {system : System} (world : SyncWorld calm uri holder synchronizer system) :
    SyncEvent calm uri system synchronizer system where
  passage := ⟨world.parts, .refl world.orderly world.punctual nofun⟩
  keeps := .refl system

namespace SyncEvent

variable {calm : Prop} {uri : String} {before system : System} {synchronizer : Synchronizer}

/-! ## One operation -/

theorem note
    {occurrence : Occurrence} (event : SyncEvent calm uri before synchronizer system)
    (other : ∀ link frame, occurrence ≠ .accepted link frame) :
    SyncEvent calm uri before synchronizer (system.note occurrence) where
  passage := event.passage.note occurrence
  keeps := event.keeps.trans
    (.of_steady (system.note_steady occurrence) (system.note_deliveries uri other))

theorem log
    (event : SyncEvent calm uri before synchronizer system) (level : LogLevel)
    (origin : LogSource) (text : String) :
    SyncEvent calm uri before synchronizer (system.log level origin text) :=
  event.note nofun

theorem modifySession
    (event : SyncEvent calm uri before synchronizer system) (session : Nat)
    {change : Session → Session}
    (keeps : ∀ found, found.pending = [] → (change found).pending = []) :
    SyncEvent calm uri before synchronizer (system.modifySession session change) where
  passage := event.passage.modifySession session keeps
  keeps := event.keeps.trans ⟨rfl, rfl, fun _ => id, rfl, rfl⟩

theorem withPeer
    (event : SyncEvent calm uri before synchronizer system) (peer : Peer)
    (detained : ∀ promise ∈ peer.detained, promise ∈ system.peer.detained) :
    SyncEvent calm uri before synchronizer { system with peer } where
  passage := event.passage.withPeer peer detained
  keeps := event.keeps.trans ⟨rfl, rfl, fun _ => id, rfl, rfl⟩

theorem settle_detained
    {promise : Nat} (event : SyncEvent calm uri before synchronizer system)
    (detained : promise ∈ system.peer.detained) :
    SyncEvent calm uri before synchronizer (system.settle promise (.returned .nothing)) where
  passage := event.passage.settle_detained detained
  keeps := event.keeps.trans (.of_steady (system.settle_steady promise _) rfl)

theorem spawn
    {call : Call} (event : SyncEvent calm uri before synchronizer system)
    (allowed : call.AtSynchronizer) :
    SyncEvent calm uri before synchronizer (system.spawn call) where
  passage := event.passage.spawn allowed
  keeps := event.keeps.trans ⟨rfl, rfl, fun _ => List.mem_append_left _, rfl, rfl⟩

theorem whenEnded
    {action : Action} (event : SyncEvent calm uri before synchronizer system) (task : Nat)
    (allowed : (syncScope uri calm).callback (.act action)) :
    SyncEvent calm uri before synchronizer (system.whenEnded task action) where
  passage := event.passage.whenEnded task allowed
  keeps := by
    refine event.keeps.trans ?_
    unfold System.whenEnded
    split
    · exact .refl system
    · rename_i found _
      have steady := system.loop.whenSettled_steady found.completion (.act action)
      exact .of_steady ⟨steady, rfl, rfl⟩ rfl

theorem endMember
    (event : SyncEvent calm uri before synchronizer system) (promise : Nat) :
    SyncEvent calm uri before synchronizer
      (system.onLoop (·.endMember promise .nothing)) where
  passage := event.passage.endMember promise
  keeps := event.keeps.trans
    (.of_steady ⟨system.loop.endMember_steady promise Reply.nothing, rfl, rfl⟩ rfl)

theorem modifySynchronizer
    (event : SyncEvent calm uri before synchronizer system) (change : Synchronizer → Synchronizer)
    (lock : (change synchronizer).lock = synchronizer.lock)
    (attached : ∀ file, (change synchronizer).file = some file → file = 0) :
    SyncEvent calm uri before (change synchronizer) (system.modifySynchronizer 0 change) where
  passage := event.passage.modifySynchronizer change lock attached
  keeps := event.keeps.trans (.of_steady (system.modifySynchronizer_steady 0 change) rfl)

/-! ## Messages of the peer -/

theorem takeRequest
    (event : SyncEvent calm uri before synchronizer system) (session : Nat) (id : Value) :
    SyncEvent calm uri before synchronizer (system.takeRequest session id) := by
  unfold System.takeRequest
  split
  · exact event
  · split
    · exact event
    · have spawned : SyncEvent calm uri before synchronizer (system.spawn (.answer session id)) :=
        event.spawn trivial
      have noted : SyncEvent calm uri before synchronizer
          ((system.spawn (.answer session id)).whenEnded system.nextTask
            (.answerEnded session system.nextTask)) :=
        spawned.whenEnded _ trivial
      exact noted.modifySession session fun _ pending => pending

theorem endAnswer
    (event : SyncEvent calm uri before synchronizer system) (session task : Nat) :
    SyncEvent calm uri before synchronizer (system.endAnswer session task) := by
  have removed : SyncEvent calm uri before synchronizer
      (system.modifySession session fun found =>
        { found with answers := found.answers.filter fun other => other ≠ task }) :=
    event.modifySession session fun _ => id
  unfold System.endAnswer
  simp only
  split
  · exact removed.log _ _ _
  · exact removed
  · exact removed
  · exact removed

/-- Without requests of the client, a response is dropped. -/
theorem takeResponse
    (event : SyncEvent calm uri before synchronizer system) (session : Nat) (id : String)
    (message : Value) :
    SyncEvent calm uri before synchronizer (system.takeResponse session id message).1 := by
  obtain ⟨only, sessions, pending⟩ := event.passage.parts.session
  have unknown : system.openRequest? session id = none := by
    cases session with
    | zero =>
        simp [System.openRequest?, sessions, Session.find?, pending]
    | succ other =>
        simp [System.openRequest?, sessions]
  simp only [System.takeResponse, unknown]
  exact event.log _ _ _

theorem publish
    (event : SyncEvent calm uri before synchronizer system) (listener : DocumentListener)
    (params : Value) :
    SyncEvent calm uri before synchronizer
      (system.publish listener params System.showDiagnostics).1 := by
  unfold System.publish
  split
  · exact event
  · cases listener with
    | editor editor =>
        simp only [System.showDiagnostics, event.passage.parts.editors, List.getElem?_nil]
        exact event
    | host name fails =>
        exact event.note nofun

theorem takeNotification
    (event : SyncEvent calm uri before synchronizer system) (workspace : Nat)
    (method params : Value) :
    SyncEvent calm uri before synchronizer
      (System.takeNotification System.showDiagnostics system workspace method params).1 := by
  unfold System.takeNotification
  split
  · exact event
  · split
    · split
      · exact event
      · exact event
      · exact event.publish _ params
    · split
      · unfold System.showMessage
        split
        · exact event.log _ _ _
        · exact event
      · exact event

theorem takeMessage
    (event : SyncEvent calm uri before synchronizer system) (session : Nat) (raw : String) :
    SyncEvent calm uri before synchronizer
      (system.takeMessage session raw (System.takeNotification System.showDiagnostics)).1 := by
  unfold System.takeMessage
  split
  · exact event.log _ _ _
  · exact event
  · rename_i members _
    simp only
    split
    · exact event.takeRequest session _
    · split
      · exact event.log _ _ _
      · exact event.log _ _ _
      · rename_i method _ _ _ listener _ _
        have told := fun workspace => event.takeNotification workspace method
          (((Value.object members).get? "params").getD .null)
        cases listener with
        | nobody => exact event
        | workspace workspace =>
            simp only
            split
            · exact told workspace
            · exact (told workspace).log _ _ _
        | host fails =>
            have heard : SyncEvent calm uri before synchronizer
                (system.note (.told (.notification method
                  (((Value.object members).get? "params").getD .null)))) :=
              event.note nofun
            simp only
            split
            · exact heard
            · exact heard.log _ _ _
    · exact event.takeResponse session _ _
    · exact event.log _ _ _
  · exact event.log _ _ _

theorem receive
    (event : SyncEvent calm uri before synchronizer system) (link : Nat) (text : String) :
    SyncEvent calm uri before synchronizer (system.receive link text) := by
  unfold System.receive
  split
  · exact event
  · rename_i session _
    have taken := event.takeMessage session text
    split
    · rename_i later result
      rw [result] at taken
      exact taken
    · rename_i later failure result
      rw [result] at taken
      exact taken.note nofun

/-- Without requests of the client, the loss of a connection only closes the session. -/
theorem loseConnection
    (event : SyncEvent calm uri before synchronizer system) (session : Nat) :
    SyncEvent calm uri before synchronizer (system.loseConnection session) := by
  unfold System.loseConnection
  split
  · exact event
  · split
    · exact event
    · have closed : SyncEvent calm uri before synchronizer
          ((system.log .warning .session
            "connection lost, failing outstanding requests").modifySession session
              fun found => { found with closed := true }) :=
        (event.log _ _ _).modifySession session fun _ => id
      simp only
      unfold System.abandonRequests
      split
      · exact closed
      · rename_i found isSession
        obtain ⟨only, sessions, pending⟩ := closed.passage.parts.session
        have same : found = only := by
          rw [sessions] at isSession
          exact List.mem_singleton.mp (List.mem_of_getElem? isSession)
        rw [same, pending]
        exact closed.modifySession session fun _ _ => rfl

theorem drop
    (event : SyncEvent calm uri before synchronizer system) (link : Nat) :
    SyncEvent calm uri before synchronizer (system.drop link) := by
  unfold System.drop
  split
  · exact event
  · exact event.loseConnection _

/-! ## What the peer holds back -/

/-- What the peer lets go is settled. -/
theorem releases
    {after : System} (event : SyncEvent calm uri before synchronizer system)
    (releases : system.Releases after) :
    SyncEvent calm uri before synchronizer after := by
  cases releases with
  | nothing => exact event
  | @promise promise peer detained fewer kept =>
      exact (event.settle_detained detained).withPeer peer fewer

/-! ## Sends that the timer starts -/

theorem debounce
    (event : SyncEvent calm uri before synchronizer system) :
    SyncEvent calm uri before
      { synchronizer with
        timer := none
        sends := synchronizer.sends ++ [system.nextTask] } (system.debounce 0) := by
  have spawned : SyncEvent calm uri before synchronizer (system.spawn (.sendDebounced 0)) :=
    event.spawn rfl
  have noted : SyncEvent calm uri before synchronizer
      ((system.spawn (.sendDebounced 0)).whenEnded system.nextTask
        (.sendEnded 0 system.nextTask)) :=
    spawned.whenEnded _ rfl
  exact noted.modifySynchronizer
    (fun found => { found with timer := none, sends := found.sends ++ [system.nextTask] })
    rfl event.passage.parts.attached

theorem endSend
    (event : SyncEvent calm uri before synchronizer system) (task : Nat) :
    SyncEvent calm uri before
      { synchronizer with sends := synchronizer.sends.filter fun other => other ≠ task }
      (system.endSend 0 task) :=
  event.modifySynchronizer
    (fun found => { found with sends := found.sends.filter fun other => other ≠ task })
    rfl event.passage.parts.attached

end SyncEvent

/-! ## Edits -/

/-- A client comes from another one while at most its timers and its synchronizer have changed. -/
structure System.SameWork (uri : String) (before after : System) : Prop where
  tasks : after.loop.tasks = before.loop.tasks
  promises : after.loop.promises = before.loop.promises
  files : after.files = before.files
  workspaces : after.workspaces = before.workspaces
  deliveries : after.deliveries uri = before.deliveries uri

theorem System.SameWork.trans
    {uri : String} {before middle after : System} (first : before.SameWork uri middle)
    (second : middle.SameWork uri after) :
    before.SameWork uri after :=
  ⟨second.tasks.trans first.tasks, second.promises.trans first.promises,
    second.files.trans first.files, second.workspaces.trans first.workspaces,
    second.deliveries.trans first.deliveries⟩

theorem System.SameWork.isOpen
    {uri : String} {before after : System} (same : before.SameWork uri after) (file : Nat) :
    after.isOpen file = before.isOpen file := by
  unfold System.isOpen System.openFile?
  rw [same.files, same.workspaces]

theorem System.cancelTimer_sameWork (system : System) (uri : String) :
    system.SameWork uri (system.cancelTimer 0) := by
  unfold System.cancelTimer
  split
  · exact ⟨rfl, rfl, rfl, rfl, rfl⟩
  · exact ⟨rfl, rfl, rfl, rfl, rfl⟩

theorem noteEscaped_sameWork (system : System) (uri : String) (failure? : Option Failure) :
    system.SameWork uri (System.noteEscaped (system, failure?)) := by
  cases failure? with
  | none => exact ⟨rfl, rfl, rfl, rfl, rfl⟩
  | some failure => exact ⟨rfl, rfl, rfl, rfl, system.note_deliveries uri nofun⟩

/-- A timer of the synchronizer will fire, or is about to. -/
def System.HasTimer (system : System) (timer : Nat) : Prop :=
  (∃ armed ∈ system.loop.timers, armed.id = timer ∧ armed.action = .debounce 0) ∨
    .fire timer (.debounce 0) ∈ system.loop.ready

theorem System.HasTimer.of_same
    {before after : System} {timer : Nat} (hasTimer : before.HasTimer timer)
    (timers : after.loop.timers = before.loop.timers)
    (ready : ∀ callback ∈ before.loop.ready, callback ∈ after.loop.ready) :
    after.HasTimer timer := by
  rcases hasTimer with ⟨armed, member, isTimer⟩ | fires
  · refine Or.inl ⟨armed, ?_, isTimer⟩
    rw [timers]
    exact member
  · exact Or.inr (ready _ fires)

section Edits

variable {calm : Prop} {uri : String} {running : Option Nat} {before system : System}
  {synchronizer : Synchronizer}

theorem noteEscaped_passage
    (passage : SyncPassage calm uri running before synchronizer system)
    (failure? : Option Failure) :
    SyncPassage calm uri running before synchronizer
      (System.noteEscaped (system, failure?)) := by
  cases failure? with
  | none => exact passage
  | some failure => exact passage.note _

/-- A new wait is armed, unless no clock can count it. -/
theorem schedule_passage
    (passage : SyncPassage calm uri running before synchronizer system) :
    ∃ timer?,
      SyncPassage calm uri running before { synchronizer with timer := timer? }
        (System.noteEscaped (system.schedule 0)) ∧
      system.SameWork uri (System.noteEscaped (system.schedule 0)) ∧
      timer?.isSome = synchronizer.debounce.delay?.isSome ∧
      ∀ timer, timer? = some timer →
        (System.noteEscaped (system.schedule 0)).HasTimer timer := by
  obtain ⟨cancelled, _, _, _⟩ := cancelTimer_passage passage
  have same := system.cancelTimer_sameWork uri
  have found : (system.cancelTimer 0).synchronizers[0]? =
      some { synchronizer with timer := none } := by
    rw [cancelled.parts.synchronizers]
    rfl
  simp only [System.schedule, found]
  cases counted : synchronizer.debounce.delay? with
  | none =>
      exact ⟨none, noteEscaped_passage cancelled _, same.trans (noteEscaped_sameWork _ uri _), rfl,
        nofun⟩
  | some delay =>
      refine ⟨some (system.cancelTimer 0).loop.timersArmed, ?_, ?_, rfl, ?_⟩
      · exact (cancelled.arm delay).modifySynchronizer
          (fun found => { found with timer := some (system.cancelTimer 0).loop.timersArmed }) rfl
          passage.parts.attached
      · exact same.trans ⟨rfl, rfl, rfl, rfl, rfl⟩
      · rintro timer ⟨⟩
        exact Or.inl ⟨_, List.mem_append_right _ List.mem_cons_self, rfl, rfl⟩

/-- An edit of an open document arms the timer anew; other edits wait for the document. -/
theorem edit_passage
    (passage : SyncPassage calm uri running before synchronizer system) (text : String) :
    ∃ timer?,
      SyncPassage calm uri running before
        { synchronizer with text, dirty := true, timer := timer? }
        (System.noteEscaped (system.edit 0 text)) ∧
      system.SameWork uri (System.noteEscaped (system.edit 0 text)) ∧
      ((system.isReady 0 = true ∧ timer?.isSome = synchronizer.debounce.delay?.isSome ∧
          ∀ timer, timer? = some timer →
            (System.noteEscaped (system.edit 0 text)).HasTimer timer) ∨
        (system.isReady 0 = false ∧ timer? = synchronizer.timer ∧
          (System.noteEscaped (system.edit 0 text)).loop = system.loop)) := by
  have edited := passage.modifySynchronizer (fun found => { found with text, dirty := true }) rfl
    passage.parts.attached
  have same : system.SameWork uri
      (system.modifySynchronizer 0 fun found => { found with text, dirty := true }) :=
    ⟨rfl, rfl, rfl, rfl, rfl⟩
  have sameReady : (system.modifySynchronizer 0 fun found =>
      { found with text, dirty := true }).isReady 0 = system.isReady 0 := by
    rw [Bool.eq_iff_iff, isReady_iff edited, isReady_iff passage, same.isOpen]
  simp only [System.edit, sameReady]
  cases ready : system.isReady 0 with
  | true =>
      obtain ⟨timer?, scheduled, scheduledSame, armed, hasTimer⟩ := schedule_passage edited
      exact ⟨timer?, scheduled, same.trans scheduledSame, Or.inl ⟨rfl, armed, hasTimer⟩⟩
  | false =>
      exact ⟨synchronizer.timer, edited, same, Or.inr ⟨rfl, rfl, rfl⟩⟩

/-- A synchronizer that is attached marks its text as unsent if it is not the one that the peer has,
and arms the timer for it. -/
theorem attach_passage
    (passage : SyncPassage calm uri running before synchronizer system) (openedText : String) :
    ∃ timer?,
      SyncPassage calm uri running before
        { synchronizer with
          file := some 0
          version := 0
          dirty := synchronizer.text ≠ openedText
          timer := timer? }
        (System.noteEscaped (system.attach 0 0 openedText)) ∧
      system.SameWork uri (System.noteEscaped (system.attach 0 0 openedText)) ∧
      ((synchronizer.text ≠ openedText ∧
          timer?.isSome = synchronizer.debounce.delay?.isSome ∧
          ∀ timer, timer? = some timer →
            (System.noteEscaped (system.attach 0 0 openedText)).HasTimer timer) ∨
        (synchronizer.text = openedText ∧ timer? = synchronizer.timer ∧
          (System.noteEscaped (system.attach 0 0 openedText)).loop = system.loop)) := by
  have attached := passage.modifySynchronizer
    (fun found =>
      { found with file := some 0, version := 0, dirty := found.text ≠ openedText })
    rfl fun file same => (Option.some.inj same).symm
  have same : system.SameWork uri (system.modifySynchronizer 0 fun found =>
      { found with file := some 0, version := 0, dirty := found.text ≠ openedText }) :=
    ⟨rfl, rfl, rfl, rfl, rfl⟩
  simp only [System.attach, attached.parts.synchronizers, List.getElem?_cons_zero, Option.map_some,
    Option.getD_some]
  by_cases other : synchronizer.text ≠ openedText
  · obtain ⟨timer?, scheduled, scheduledSame, armed, hasTimer⟩ := schedule_passage attached
    rw [if_pos (decide_eq_true other)]
    exact ⟨timer?, scheduled, same.trans scheduledSame, Or.inl ⟨other, armed, hasTimer⟩⟩
  · rw [if_neg (by simpa using other)]
    exact ⟨synchronizer.timer, attached, same, Or.inr ⟨Decidable.not_not.mp other, rfl, rfl⟩⟩

end Edits

end LanguageClient.Client
