import LanguageClient.Proofs.Editor.Publications
import LanguageClient.Proofs.Session.TableSteps
import LanguageClient.Proofs.Synchronizer.Timers

/-!
# What a client waits for

An editor waits for the answers to its requests, longer for that to the handshake, and for further
edits of its document. It is told at the beginning how long, and that never changes. Whatever an editor
does, each timer that it arms has one of these waits, from the moment at which it is armed.
-/

namespace LanguageClient.Client

open LanguageClient.Json LanguageClient.Loop LanguageClient.Number LanguageClient.Protocol

namespace System

/-- The waits of the editors and of their synchronizers. -/
def waits (system : System) : List Quantity :=
  system.editors.flatMap (fun editor =>
      [editor.timeout, editor.timeout.scale Options.handshakeFactor]) ++
    system.synchronizers.map (·.debounce)

/-- A timer waits from now on for the end of a wait. -/
def WaitsFor (system : System) (timer : Timer Action) (wait : Quantity) : Prop :=
  ∃ delay, wait.delay? = some delay ∧ timer.deadline = system.loop.deadline delay

/-- The clock stands still, the waits stay as they are, and each timer that is new has one of them. -/
structure Paced (before after : System) : Prop where
  now : after.loop.now = before.loop.now
  waits : after.waits = before.waits
  timers : ∀ timer ∈ after.loop.timers, timer ∈ before.loop.timers ∨
    ∃ wait ∈ before.waits, before.WaitsFor timer wait

theorem WaitsFor.of_now
    {before after : System} {timer : Timer Action} {wait : Quantity}
    (waits : after.WaitsFor timer wait) (now : after.loop.now = before.loop.now) :
    before.WaitsFor timer wait := by
  obtain ⟨delay, isDelay, deadline⟩ := waits
  refine ⟨delay, isDelay, deadline.trans ?_⟩
  cases delay <;> simp only [Scheduler.deadline, now]

theorem timeout_mem_waits
    {system : System} {number : Nat} {editor : Editor} (known : system.editors[number]? = some editor) :
    editor.timeout ∈ system.waits ∧
      editor.timeout.scale Options.handshakeFactor ∈ system.waits := by
  have member : editor ∈ system.editors := List.mem_of_getElem? known
  constructor <;>
    exact List.mem_append_left _ (List.mem_flatMap.mpr ⟨editor, member, by simp⟩)

theorem debounce_mem_waits
    {system : System} {number : Nat} {synchronizer : Synchronizer}
    (known : system.synchronizers[number]? = some synchronizer) :
    synchronizer.debounce ∈ system.waits :=
  List.mem_append_right _ (List.mem_map.mpr ⟨synchronizer, List.mem_of_getElem? known, rfl⟩)

/-! ## Changes that arm no timer of their own -/

namespace Paced

variable {before middle after : System}

theorem of_keepsTimers
    (loop : before.loop.KeepsTimers after.loop) (waits : after.waits = before.waits) :
    Paced before after :=
  ⟨loop.now, waits, fun _ member => Or.inl (loop.timers ▸ member)⟩

theorem of_same
    (loop : after.loop = before.loop) (editors : after.editors = before.editors)
    (synchronizers : after.synchronizers = before.synchronizers) : Paced before after := by
  refine of_keepsTimers ?_ (by rw [System.waits, System.waits, editors, synchronizers])
  rw [loop]
  exact .refl before.loop

theorem refl (system : System) : Paced system system := .of_same rfl rfl rfl

theorem trans (first : Paced before middle) (second : Paced middle after) : Paced before after where
  now := second.now.trans first.now
  waits := second.waits.trans first.waits
  timers := fun timer member => by
    rcases second.timers timer member with earlier | ⟨wait, isWait, waits⟩
    · exact first.timers timer earlier
    · exact Or.inr ⟨wait, first.waits ▸ isWait, waits.of_now first.now⟩

theorem onLoop
    {system : System} {change : ClientLoop → ClientLoop}
    (keeps : system.loop.KeepsTimers (change system.loop)) : Paced system (system.onLoop change) :=
  of_keepsTimers keeps rfl

theorem settle (system : System) (promise : Nat) (outcome : Outcome Reply) :
    Paced system (system.settle promise outcome) :=
  onLoop (system.loop.settle_keepsTimers promise outcome)

theorem disarm (system : System) (timer : Nat) : Paced system (system.disarm timer) :=
  ⟨rfl, rfl, fun _ member => Or.inl (List.mem_filter.mp member).1⟩

theorem modifySession (system : System) (session : Nat) (change : Session → Session) :
    Paced system (system.modifySession session change) :=
  of_same rfl rfl rfl

theorem modifySynchronizer
    {change : Synchronizer → Synchronizer} (system : System) (synchronizer : Nat)
    (keeps : ∀ found, (change found).debounce = found.debounce) :
    Paced system (system.modifySynchronizer synchronizer change) := by
  have debounces : (system.modifySynchronizer synchronizer change).synchronizers.map (·.debounce) =
      system.synchronizers.map (·.debounce) :=
    map_modify_of_keeps keeps system.synchronizers synchronizer
  exact of_keepsTimers (.refl system.loop) (congrArg (_ ++ ·) debounces)

theorem modifyEditor
    {change : Editor → Editor} (system : System) (editor : Nat)
    (keeps : ∀ found, (change found).timeout = found.timeout) :
    Paced system (system.modifyEditor editor change) := by
  have timeouts : (system.modifyEditor editor change).editors.map (·.timeout) =
      system.editors.map (·.timeout) :=
    map_modify_of_keeps keeps system.editors editor
  refine of_keepsTimers (.refl system.loop) (congrArg (· ++ _) ?_)
  have perTimeout (editors : List Editor) : editors.flatMap (fun editor =>
        [editor.timeout, editor.timeout.scale Options.handshakeFactor]) =
      (editors.map (·.timeout)).flatMap fun timeout =>
        [timeout, timeout.scale Options.handshakeFactor] := by
    rw [List.flatMap_map]
  rw [perTimeout, timeouts, ← perTimeout]

theorem withWorkspace (system : System) (editor : Nat) (workspace : Option Nat) :
    Paced system (system.modifyEditor editor fun found => { found with workspace }) :=
  modifyEditor system editor fun _ => rfl

theorem of_move (move : Move before after) : Paced before after := by
  refine of_keepsTimers (KeepsTimers.of_move move).loop ?_
  cases move with
  | whenEnded task session answer =>
      unfold System.whenEnded
      split <;> rfl
  | _ => rfl

theorem of_course (course : Course before after) : Paced before after := by
  induction course with
  | refl => exact .refl before
  | tail _ move inductionHypothesis => exact inductionHypothesis.trans (of_move move)

theorem andThen
    {step : Step} {frame : Frame} {rest : System → Outcome Reply → Step}
    (first : Paced before step.1)
    (second : ∀ later outcome, Paced later (rest later outcome).1) :
    Paced before (step.andThen frame rest).1 := by
  obtain ⟨later, outcome | ⟨frames, promise⟩⟩ := step
  · exact first.trans (second later outcome)
  · exact first

/-- A timer is armed that has one of the waits. -/
theorem arm
    {system : System} {wait : Quantity} {delay : Delay} (isWait : wait ∈ system.waits)
    (isDelay : wait.delay? = some delay) (action : Action) :
    Paced system (system.onLoop (·.arm delay action)) where
  now := rfl
  waits := rfl
  timers := fun timer member => by
    rcases List.mem_append.mp member with earlier | isNew
    · exact Or.inl earlier
    · rw [List.mem_singleton.mp isNew]
      exact Or.inr ⟨wait, isWait, delay, isDelay, rfl⟩

end Paced

section Functions

variable (system : System)

/-! ## Sessions -/

/-- A request arms a timer with its timeout, which has to be one of the waits. -/
theorem request_paced
    {timeout : Quantity} (session : Nat) (method : String) (params : Option Value)
    (isWait : timeout ∈ system.waits) :
    Paced system (system.request session method params (some timeout)).1 := by
  have counted : Paced system (system.countRequest session) := .modifySession system session _
  unfold request
  split
  · exact .refl system
  · split
    · exact .refl system
    · -- An editor always gives a timeout, so the default of the session is not asked for.
      simp only [Option.getD_some]
      split
      · exact counted
      · rename_i delay isDelay
        have promised : Paced system (system.countRequest session).addPromise :=
          counted.trans (.of_move .addPromise)
        have registered (id : String) :
            Paced system
              ((system.countRequest session).registerRequest session id method timeout delay) :=
          ((promised.trans (.arm (promised.waits ▸ isWait) isDelay _)).trans
            (.onLoop (Scheduler.whenSettled_keepsTimers _ _ rfl))).trans (.modifySession _ _ _)
        split
        · exact .andThen ((registered _).trans (.of_course (write_course _ _ _ _)))
            fun later outcome => .of_course (resumeRequesting_course later _ outcome)
        · exact registered _

theorem discard_paced (session : Nat) (id : String) : Paced system (system.discard session id) := by
  unfold discard
  split
  · exact .refl system
  · exact (Paced.modifySession system session _).trans (.disarm _ _)

theorem abandonAll_paced (reason : SessionEnd) (entries : List PendingRequest) :
    Paced system (entries.foldl (abandonRequest reason) system) := by
  induction entries generalizing system with
  | nil => exact .refl system
  | cons entry rest inductionHypothesis =>
      have one : Paced system (abandonRequest reason system entry) :=
        (Paced.disarm system entry.timer).trans (.settle _ _ _)
      exact one.trans (inductionHypothesis _)

theorem abandonRequests_paced (session : Nat) (reason : SessionEnd) :
    Paced system (system.abandonRequests session reason) := by
  unfold abandonRequests
  split
  · exact .refl system
  · exact (abandonAll_paced system reason _).trans (.modifySession _ session _)

theorem closeSession_paced (session : Nat) : Paced system (system.closeSession session).1 := by
  unfold closeSession
  split
  · exact .refl system
  · split
    · exact .refl system
    · refine .andThen ?_ fun later outcome => .of_course (resumeClosingLink_course later outcome)
      have marked := Paced.modifySession system session fun found => { found with closed := true }
      have abandoned := marked.trans (abandonRequests_paced _ session .closed)
      exact (abandoned.trans (.of_course (cancels_course _ _))).trans
        (.of_course (closeLink_course _ _))

theorem loseConnection_paced (session : Nat) : Paced system (system.loseConnection session) := by
  unfold loseConnection
  split
  · exact .refl system
  · split
    · exact .refl system
    · have logged := Paced.of_course (log_course system .warning .session
        "connection lost, failing outstanding requests")
      exact (logged.trans (.modifySession _ session _)).trans
        (abandonRequests_paced _ session .lost)

/-! ## Workspaces -/

theorem resumeAbandoningHandshake_paced (ending outcome : Outcome Reply) :
    Paced system (resumeAbandoningHandshake ending system outcome).1 := by
  cases outcome <;> exact .refl system

theorem abandonHandshake_paced (session : Nat) (serverUri : String) (ending : Outcome Reply) :
    Paced system (system.abandonHandshake session serverUri ending).1 :=
  .andThen ((Paced.of_course (log_course system _ _ _)).trans (closeSession_paced _ session))
    fun later outcome => resumeAbandoningHandshake_paced later ending outcome

theorem resumeConfirming_paced
    (session : Nat) (serverUri : String) (result : InitializeResult) (outcome : Outcome Reply) :
    Paced system (resumeConfirming session serverUri result system outcome).1 := by
  cases outcome with
  | returned reply => exact .of_same rfl rfl rfl
  | failed failure => exact abandonHandshake_paced system session serverUri _
  | cancelled => exact abandonHandshake_paced system session serverUri _

theorem resumeHandshaking_paced (session : Nat) (serverUri : String) (outcome : Outcome Reply) :
    Paced system (resumeHandshaking session serverUri system outcome).1 := by
  unfold resumeHandshaking
  split
  · split
    · exact abandonHandshake_paced system session serverUri _
    · exact .andThen (.of_course (notify_course system session _ _))
        fun later outcome => resumeConfirming_paced later session serverUri _ outcome
  · exact abandonHandshake_paced system session serverUri _
  · exact abandonHandshake_paced system session serverUri _
  · exact abandonHandshake_paced system session serverUri _

/-- The handshake is given more time than other requests. -/
theorem createWorkspace_paced
    (request : WorkspaceRequest)
    (isWait : request.timeout.scale Options.handshakeFactor ∈ system.waits) :
    Paced system (system.createWorkspace request).1 := by
  have dialled : Paced system (system.note (.dialled request.serverUri)) := .of_same rfl rfl rfl
  unfold createWorkspace
  simp only
  split
  · exact dialled
  · have connected : Paced system
        ((system.note (.dialled request.serverUri)).connect.1.addSession
          (system.note (.dialled request.serverUri)).connect.2 request.timeout) := by
      refine dialled.trans ?_
      unfold connect
      split
      · exact .of_same rfl rfl rfl
      · exact .of_same rfl rfl rfl
    exact .andThen (connected.trans (request_paced _ _ _ _ (connected.waits ▸ isWait)))
      fun later outcome => resumeHandshaking_paced later _ _ outcome

theorem notifyIn_paced (workspace : Nat) (method : String) (params : Value) :
    Paced system (system.notifyIn workspace method params).1 := by
  unfold notifyIn
  split
  · exact .refl system
  · exact .of_course (notify_course system _ method _)

theorem resumeOpening_paced (workspace : Nat) (uri : String) (file : Nat) (outcome : Outcome Reply) :
    Paced system (resumeOpening workspace uri file system outcome).1 := by
  cases outcome with
  | returned reply => exact .refl system
  | failed failure => exact .of_same rfl rfl rfl
  | cancelled => exact .of_same rfl rfl rfl

theorem openFile_paced
    (workspace : Nat) (uri : String) (languageId : Value) (text : String)
    (listeners : List (String × DocumentListener)) :
    Paced system (system.openFile workspace uri languageId text listeners).1 := by
  have added (file : OpenFile) : Paced system (system.addFile file) := .of_same rfl rfl rfl
  unfold openFile
  split
  · exact .refl system
  · exact .andThen ((added _).trans (notifyIn_paced _ _ _ _))
      fun later outcome => resumeOpening_paced later workspace uri _ outcome

theorem changeFile_paced (file : Nat) (version : Int) (text : String) :
    Paced system (system.changeFile file version text).1 := by
  unfold changeFile
  split
  · exact .refl system
  · split
    · exact .refl system
    · split
      · exact .refl system
      · exact notifyIn_paced system _ _ _

theorem resumeClosingFile_paced (uri : String) (outcome : Outcome Reply) :
    Paced system (resumeClosingFile uri system outcome).1 := by
  cases outcome with
  | returned reply => exact .refl system
  | failed failure => exact .of_course (log_course system _ _ _)
  | cancelled => exact .refl system

theorem closeFile_paced (file : Nat) : Paced system (system.closeFile file).1 := by
  unfold closeFile
  split
  · exact .refl system
  · rename_i found _
    split
    · exact .refl system
    · have withdrawn : Paced system (system.unregister found.workspace found.uri) :=
        .of_same rfl rfl rfl
      exact .andThen (withdrawn.trans (notifyIn_paced _ _ _ _))
        fun later outcome => resumeClosingFile_paced later _ outcome

theorem closeWorkspace_paced (workspace : Nat) :
    Paced system (system.closeWorkspace workspace).1 := by
  have dropped : Paced system (system.modifyWorkspace workspace fun found =>
      { found with openFiles := [] }) := .of_same rfl rfl rfl
  unfold closeWorkspace
  split
  · exact .refl system
  · exact dropped.trans (closeSession_paced _ _)

/-! ## Synchronizers -/

theorem cancelTimer_paced (synchronizer : Nat) : Paced system (system.cancelTimer synchronizer) := by
  unfold cancelTimer
  split
  · exact .refl system
  · exact (Paced.disarm system _).trans (.modifySynchronizer _ synchronizer fun _ => rfl)

/-- The wait for further edits is that of the synchronizer. -/
theorem schedule_paced (synchronizer : Nat) : Paced system (system.schedule synchronizer).1 := by
  have cancelled := cancelTimer_paced system synchronizer
  unfold schedule
  simp only
  split
  · exact cancelled
  · rename_i found known
    split
    · exact cancelled
    · rename_i delay isDelay
      exact (cancelled.trans (.arm (debounce_mem_waits known) isDelay _)).trans
        (.modifySynchronizer _ synchronizer fun _ => rfl)

theorem debounce_paced (synchronizer : Nat) : Paced system (system.debounce synchronizer) := by
  have spawned : Paced system (system.spawn (.sendDebounced synchronizer)) := .of_move (.spawn _)
  have watched (later : System) (task : Nat) (action : Action) :
      Paced later (later.whenEnded task action) := by
    refine .of_keepsTimers (KeepsTimers.whenEnded later task action).loop ?_
    unfold whenEnded
    split <;> rfl
  exact (spawned.trans (watched _ _ _)).trans (.modifySynchronizer _ synchronizer fun _ => rfl)

theorem attach_paced (synchronizer file : Nat) (openedText : String) :
    Paced system (system.attach synchronizer file openedText).1 := by
  have attached : Paced system (system.modifySynchronizer synchronizer fun found =>
      { found with file := some file, version := 0, dirty := found.text ≠ openedText }) :=
    .modifySynchronizer system synchronizer fun _ => rfl
  unfold attach
  simp only
  split
  · exact attached.trans (schedule_paced _ synchronizer)
  · exact attached

theorem edit_paced (synchronizer : Nat) (text : String) :
    Paced system (system.edit synchronizer text).1 := by
  have edited : Paced system (system.modifySynchronizer synchronizer fun found =>
      { found with text, dirty := true }) :=
    .modifySynchronizer system synchronizer fun _ => rfl
  unfold edit
  simp only
  split
  · exact edited.trans (schedule_paced _ synchronizer)
  · exact edited

theorem modifyLock_paced (synchronizer : Nat) (change : Lock → Lock) :
    Paced system (system.modifyLock synchronizer change) :=
  .modifySynchronizer system synchronizer fun _ => rfl

theorem wakeFirst_paced (synchronizer : Nat) : Paced system (system.wakeFirst synchronizer) := by
  unfold wakeFirst
  split
  · exact .refl system
  · exact .settle system _ _

theorem release_paced (synchronizer : Nat) : Paced system (system.release synchronizer) :=
  (modifyLock_paced system synchronizer _).trans (wakeFirst_paced _ synchronizer)

theorem resumeChanging_paced
    (synchronizer version : Nat) (wasDirty : Bool) (outcome : Outcome Reply) :
    Paced system (resumeChanging synchronizer version wasDirty system outcome).1 := by
  have noted {change : Synchronizer → Synchronizer}
      (keeps : ∀ found, (change found).debounce = found.debounce) :=
    (Paced.modifySynchronizer system synchronizer keeps).trans (release_paced _ synchronizer)
  cases outcome with
  | returned reply => exact noted fun _ => rfl
  | failed failure => exact noted fun _ => rfl
  | cancelled => exact noted fun _ => rfl

theorem changeLocked_paced (synchronizer : Nat) (force : Bool) :
    Paced system (system.changeLocked synchronizer force).1 := by
  have cleaned : Paced system (system.modifySynchronizer synchronizer fun found =>
      { found with dirty := false }) :=
    .modifySynchronizer system synchronizer fun _ => rfl
  unfold changeLocked
  split
  · exact .refl system
  · split
    · exact release_paced system synchronizer
    · split
      · exact release_paced system synchronizer
      · exact .andThen (cleaned.trans (changeFile_paced _ _ _ _))
          fun later outcome => resumeChanging_paced later _ _ _ outcome

theorem resumeLocking_paced
    (synchronizer promise : Nat) (force : Bool) (outcome : Outcome Reply) :
    Paced system (resumeLocking synchronizer promise force system outcome).1 := by
  have left := modifyLock_paced system synchronizer fun lock =>
    { lock with waiters := lock.waiters.filter fun other => other ≠ promise }
  unfold resumeLocking
  generalize system.modifyLock synchronizer _ = later at left ⊢
  have givesUp : Paced system
      (if (later.lockOf synchronizer).held then later else later.wakeFirst synchronizer) := by
    split
    · exact left
    · exact left.trans (wakeFirst_paced later synchronizer)
  cases outcome with
  | returned reply =>
      exact (left.trans (modifyLock_paced _ synchronizer _)).trans (changeLocked_paced _ _ _)
  | failed failure => exact givesUp
  | cancelled => exact givesUp

theorem sendChange_paced (synchronizer : Nat) (force : Bool) :
    Paced system (system.sendChange synchronizer force).1 := by
  unfold sendChange
  simp only
  split
  · exact (modifyLock_paced system synchronizer _).trans (changeLocked_paced _ _ _)
  · have promised : Paced system system.addPromise := .of_move .addPromise
    have queued := promised.trans (modifyLock_paced _ synchronizer fun lock =>
      { lock with waiters := lock.waiters ++ [system.nextPromise] })
    exact .andThen (queued.trans (.of_course (await_course _ _)))
      fun later outcome => resumeLocking_paced later synchronizer _ force outcome

theorem flush_paced (synchronizer : Nat) (force : Bool) :
    Paced system (system.flush synchronizer force).1 := by
  have cancelled := cancelTimer_paced system synchronizer
  unfold flush
  simp only
  split
  · exact cancelled.trans (sendChange_paced _ _ _)
  · exact cancelled

theorem resumeSendingDebounced_paced (synchronizer : Nat) (outcome : Outcome Reply) :
    Paced system (resumeSendingDebounced synchronizer system outcome).1 := by
  cases outcome with
  | returned reply => exact .refl system
  | failed failure => exact .of_course (log_course system _ _ _)
  | cancelled => exact .refl system

theorem sendDebounced_paced (synchronizer : Nat) :
    Paced system (system.sendDebounced synchronizer).1 :=
  .andThen (sendChange_paced system synchronizer false)
    fun later outcome => resumeSendingDebounced_paced later synchronizer outcome

theorem resumeDetaching_paced (synchronizer : Nat) (outcome : Outcome Reply) :
    Paced system (resumeDetaching synchronizer system outcome).1 := by
  cases outcome with
  | returned reply => exact .modifySynchronizer system synchronizer fun _ => rfl
  | failed failure => exact .refl system
  | cancelled => exact .refl system

theorem closeAttached_paced (synchronizer : Nat) :
    Paced system (system.closeAttached synchronizer).1 := by
  unfold closeAttached
  split
  · exact .refl system
  · exact .andThen (closeFile_paced system _)
      fun later outcome => resumeDetaching_paced later synchronizer outcome

theorem resumeSettlingSends_paced (synchronizer : Nat) (outcome : Outcome Reply) :
    Paced system (resumeSettlingSends synchronizer system outcome).1 := by
  cases outcome with
  | returned reply => exact closeAttached_paced system synchronizer
  | failed failure => exact .refl system
  | cancelled => exact .refl system

theorem closeSynchronizer_paced (synchronizer : Nat) :
    Paced system (system.closeSynchronizer synchronizer).1 := by
  have cancelled := cancelTimer_paced system synchronizer
  unfold closeSynchronizer
  simp only
  split
  · exact cancelled.trans (closeAttached_paced _ _)
  · have gathered (members : List Nat) :
        Paced system ((system.cancelTimer synchronizer).onLoop (·.gather members .nothing)) :=
      cancelled.trans (.onLoop (Scheduler.gather_keepsTimers _ members _))
    exact .andThen ((gathered _).trans (.of_course (await_course _ _)))
      fun later outcome => resumeSettlingSends_paced later synchronizer outcome

/-! ## Editors -/

theorem resumeAbandoningStart_paced (editor : Nat) (ending outcome : Outcome Reply) :
    Paced system (resumeAbandoningStart editor ending system outcome).1 := by
  cases outcome with
  | returned reply => exact .withWorkspace system editor none
  | failed failure => exact .refl system
  | cancelled => exact .refl system

theorem closeWorkspaceOf_paced
    {frame : Frame} {rest : System → Outcome Reply → Step} (editor : Nat)
    (next : ∀ later outcome, Paced later (rest later outcome).1) :
    Paced system (system.closeWorkspaceOf editor frame rest).1 := by
  unfold closeWorkspaceOf
  split
  · exact .refl system
  · exact .andThen (closeWorkspace_paced system _) next

theorem resumeOpeningDocument_paced (editor : Nat) (text : String) (outcome : Outcome Reply) :
    Paced system (resumeOpeningDocument editor text system outcome).1 := by
  have abandons (ending : Outcome Reply) : Paced system
      (system.closeWorkspaceOf editor (.abandoningStart editor ending)
        (resumeAbandoningStart editor ending)).1 :=
    closeWorkspaceOf_paced system editor
      fun later outcome => resumeAbandoningStart_paced later editor ending outcome
  unfold resumeOpeningDocument
  split
  · rename_i file found _
    have attached := attach_paced system found.synchronizer file text
    split
    · rename_i result
      rw [result] at attached
      exact attached
    · rename_i result
      rw [result] at attached
      exact attached
  · exact .refl system
  · exact abandons _
  · exact abandons _

theorem openDocument_paced (workspace number : Nat) (found : Editor) (text : String) :
    Paced system (system.openDocument workspace number found text).1 := by
  unfold openDocument
  split
  · exact openFile_paced system workspace _ _ text _
  · exact .refl system

theorem resumeCreatingWorkspace_paced (editor : Nat) (outcome : Outcome Reply) :
    Paced system (resumeCreatingWorkspace editor system outcome).1 := by
  unfold resumeCreatingWorkspace
  split
  · exact .andThen ((Paced.withWorkspace system editor _).trans (openDocument_paced _ _ _ _ _))
      fun later outcome => resumeOpeningDocument_paced later editor _ outcome
  · exact .refl system
  · exact .refl system
  · exact .refl system

theorem start_paced (editor : Nat) : Paced system (system.start editor).1 := by
  unfold start
  split
  · exact .refl system
  · rename_i found known
    exact .andThen (createWorkspace_paced system _ (timeout_mem_waits known).2)
      fun later outcome => resumeCreatingWorkspace_paced later editor outcome

theorem editText_paced (editor : Nat) (text : String) :
    Paced system (system.editText editor text).1 := by
  unfold editText
  split
  · exact .refl system
  · exact edit_paced system _ text

theorem recover_paced (failure : Failure) (without : Reply) :
    Paced system (system.recover failure without).1 := by
  unfold recover
  split <;> exact .refl system

/-- A query waits as long as its editor does. -/
theorem requestOf_paced
    {number : Nat} {editor : Editor} (known : system.editors[number]? = some editor)
    (method : String) (params : Value) :
    Paced system (system.requestOf editor method params).1 := by
  unfold requestOf
  split
  · exact .refl system
  · exact request_paced system _ method _ (timeout_mem_waits known).1

theorem resumeHovering_paced (editor : Nat) (position : Position) (outcome : Outcome Reply) :
    Paced system (resumeHovering editor position system outcome).1 := by
  unfold resumeHovering
  split
  · split
    · exact recover_paced system _ _
    · split <;> exact .refl system
  · exact .refl system
  · exact recover_paced system _ _
  · exact .refl system

theorem resumeFlushingForHover_paced (editor : Nat) (offset : Int) (outcome : Outcome Reply) :
    Paced system (resumeFlushingForHover editor offset system outcome).1 := by
  unfold resumeFlushingForHover
  split
  · rename_i found known
    split
    · exact recover_paced system _ _
    · exact .andThen (requestOf_paced system known _ _)
        fun later outcome => resumeHovering_paced later editor _ outcome
  · exact .refl system
  · exact recover_paced system _ _
  · exact .refl system

theorem hover_paced (editor : Nat) (offset : Int) :
    Paced system (system.hover editor offset).1 := by
  unfold hover
  split
  · exact .refl system
  · split
    · exact .refl system
    · split
      · exact .andThen (flush_paced system _ false)
          fun later outcome => resumeFlushingForHover_paced later editor offset outcome
      · exact .refl system

theorem resumeCompleting_paced (query : CompletionQuery) (outcome : Outcome Reply) :
    Paced system (resumeCompleting query system outcome).1 := by
  unfold resumeCompleting
  split
  · split
    · exact recover_paced system _ _
    · exact .refl system
    · exact .refl system
  · exact .refl system
  · exact recover_paced system _ _
  · exact .refl system

theorem resumeFlushingForCompletion_paced
    (editor : Nat) (query : CompletionQuery) (outcome : Outcome Reply) :
    Paced system (resumeFlushingForCompletion editor query system outcome).1 := by
  unfold resumeFlushingForCompletion
  split
  · rename_i found known
    exact .andThen (requestOf_paced system known _ _)
      fun later outcome => resumeCompleting_paced later query outcome
  · exact .refl system
  · exact recover_paced system _ _
  · exact .refl system

theorem complete_paced (editor : Nat) (offset : Int) (explicit : Bool) :
    Paced system (system.complete editor offset explicit).1 := by
  unfold complete
  split
  · exact .refl system
  · split
    · exact .refl system
    · split
      · exact .refl system
      · exact .andThen (flush_paced system _ false)
          fun later outcome => resumeFlushingForCompletion_paced later editor _ outcome

theorem resumeRefreshing_paced (outcome : Outcome Reply) :
    Paced system (resumeRefreshing system outcome).1 := by
  cases outcome with
  | returned reply => exact .refl system
  | failed failure => exact recover_paced system failure .nothing
  | cancelled => exact .refl system

theorem refresh_paced (editor : Nat) : Paced system (system.refresh editor).1 := by
  unfold refresh
  split
  · exact .refl system
  · split
    · exact .refl system
    · exact .andThen (flush_paced system _ true)
        fun later outcome => resumeRefreshing_paced later outcome

theorem resumeClosingWorkspace_paced (editor : Nat) (ending outcome : Outcome Reply) :
    Paced system (resumeClosingWorkspace editor ending system outcome).1 := by
  cases outcome with
  | returned reply => exact .withWorkspace system editor none
  | failed failure => exact .refl system
  | cancelled => exact .refl system

theorem resumeClosingSynchronizer_paced (editor : Nat) (outcome : Outcome Reply) :
    Paced system (resumeClosingSynchronizer editor system outcome).1 :=
  closeWorkspaceOf_paced system editor
    fun later ending => resumeClosingWorkspace_paced later editor outcome ending

theorem closeEditor_paced (editor : Nat) : Paced system (system.closeEditor editor).1 := by
  unfold closeEditor
  split
  · exact .refl system
  · split
    · exact .refl system
    · exact .andThen (closeSynchronizer_paced system _)
        fun later outcome => resumeClosingSynchronizer_paced later editor outcome

/-! ## Messages of the peer -/

theorem showDiagnostics_paced (editor : Nat) (published : PublishedDiagnostics) :
    Paced system (system.showDiagnostics editor published).1 := by
  unfold showDiagnostics
  split
  · exact .refl system
  · have placed (diagnostics : List Document.PlacedDiagnostic) :
        Paced system (system.modifyEditor editor fun found => { found with diagnostics }) :=
      .modifyEditor system editor fun _ => rfl
    simp only
    split
    · exact placed _
    · exact (placed _).trans (.of_move (.note _))

theorem takeNotification_paced (workspace : Nat) (method params : Value) :
    Paced system (takeNotification showDiagnostics system workspace method params).1 := by
  unfold takeNotification
  split
  · exact .refl system
  · split
    · split
      · exact .refl system
      · exact .refl system
      · unfold publish
        split
        · exact .refl system
        · split
          · exact showDiagnostics_paced system _ _
          · exact .of_move (.note _)
    · split
      · unfold showMessage
        split
        · exact .of_course (log_course system _ _ _)
        · exact .refl system
      · exact .refl system

theorem takeMessage_paced (session : Nat) (raw : String) :
    Paced system (system.takeMessage session raw (takeNotification showDiagnostics)).1 := by
  have logged (later : System) (level : LogLevel) (source : LogSource) (text : String) :
      Paced later (later.log level source text) := .of_course (log_course later level source text)
  unfold takeMessage
  split
  · exact logged system _ _ _
  · exact .refl system
  · rename_i members _
    simp only
    split
    · exact .of_course (takeRequest_course system _ _)
    · split
      · exact logged system _ _ _
      · exact logged system _ _ _
      · rename_i method _ _ _ listener _ _
        cases listener with
        | nobody => exact .refl system
        | workspace workspace =>
            have told := takeNotification_paced system workspace method
              (((Value.object members).get? "params").getD .null)
            simp only
            split
            · exact told
            · exact told.trans (logged _ _ _ _)
        | host fails =>
            have told : Paced system (system.note (.told (.notification method
                (((Value.object members).get? "params").getD .null)))) :=
              .of_move (.note _)
            simp only
            split
            · exact told
            · exact told.trans (logged _ _ _ _)
    · exact .of_course (takeResponse_course system _ _ _)
    · exact logged system _ _ _
  · exact logged system _ _ _

theorem receive_paced (link : Nat) (text : String) : Paced system (system.receive link text) := by
  unfold receive
  split
  · exact .refl system
  · rename_i session _
    have taken := takeMessage_paced system session text
    split
    · rename_i result
      rw [result] at taken
      exact taken
    · rename_i result
      rw [result] at taken
      exact taken.trans (.of_move (.note _))

end Functions

/-! ## Turns -/

theorem call_paced {call : Call} (system : System) (ofEditor : call.IsForEditor) :
    Paced system (system.call call).1 := by
  cases call with
  | start editor => exact start_paced system editor
  | hover editor offset => exact hover_paced system editor offset
  | complete editor offset explicit => exact complete_paced system editor offset explicit
  | refresh editor => exact refresh_paced system editor
  | closeEditor editor => exact closeEditor_paced system editor
  | sendDebounced synchronizer => exact sendDebounced_paced system synchronizer
  | answer session id => exact .of_course (write_course system session "response" _)
  | _ => exact ofEditor.elim

theorem resumeFrame_paced
    {frame : Frame} (system : System) (inner : frame.IsInner) (outcome : Outcome Reply) :
    Paced system (resumeFrame frame system outcome).1 := by
  cases frame with
  | sending link frame => exact .of_course (resumeSending_course system link frame outcome)
  | writing subject => exact .of_course (resumeWriting_course system subject outcome)
  | requesting promise => exact .of_course (resumeRequesting_course system promise outcome)
  | closingLink => exact .of_course (resumeClosingLink_course system outcome)
  | handshaking session serverUri => exact resumeHandshaking_paced system session serverUri outcome
  | confirming session serverUri result =>
      exact resumeConfirming_paced system session serverUri result outcome
  | abandoningHandshake ending => exact resumeAbandoningHandshake_paced system ending outcome
  | opening workspace uri file => exact resumeOpening_paced system workspace uri file outcome
  | closingFile uri => exact resumeClosingFile_paced system uri outcome
  | locking synchronizer promise force =>
      exact resumeLocking_paced system synchronizer promise force outcome
  | changing synchronizer version wasDirty =>
      exact resumeChanging_paced system synchronizer version wasDirty outcome
  | sendingDebounced synchronizer =>
      exact resumeSendingDebounced_paced system synchronizer outcome
  | settlingSends synchronizer => exact resumeSettlingSends_paced system synchronizer outcome
  | detaching synchronizer => exact resumeDetaching_paced system synchronizer outcome
  | creatingWorkspace editor => exact resumeCreatingWorkspace_paced system editor outcome
  | openingDocument editor text => exact resumeOpeningDocument_paced system editor text outcome
  | abandoningStart editor ending => exact resumeAbandoningStart_paced system editor ending outcome
  | flushingForHover editor offset =>
      exact resumeFlushingForHover_paced system editor offset outcome
  | hovering editor position => exact resumeHovering_paced system editor position outcome
  | flushingForCompletion editor query =>
      exact resumeFlushingForCompletion_paced system editor query outcome
  | completing query => exact resumeCompleting_paced system query outcome
  | refreshing => exact resumeRefreshing_paced system outcome
  | closingSynchronizer editor => exact resumeClosingSynchronizer_paced system editor outcome
  | closingWorkspace editor ending =>
      exact resumeClosingWorkspace_paced system editor ending outcome
  | _ => exact inner.elim

theorem resumeInner_paced
    {stack : List Frame} (system : System) (inner : ∀ frame ∈ stack, frame.IsInner)
    (outcome : Outcome Reply) : Paced system (system.resumeStack outcome stack).1 := by
  induction stack generalizing system outcome with
  | nil => exact .refl system
  | cons frame outer inductionHypothesis =>
      have first := resumeFrame_paced system (inner frame List.mem_cons_self) outcome
      rcases result : resumeFrame frame system outcome with ⟨later, ending | ⟨frames, promise⟩⟩
      · rw [resumeStack_of_ended outer result]
        rw [result] at first
        exact first.trans (inductionHypothesis later
          (fun other member => inner other (List.mem_cons_of_mem frame member)) ending)
      · rw [resumeStack_of_suspended outer result]
        rw [result] at first
        exact first

theorem resumeStack_paced
    {stack : List Frame} (system : System) (ofEditor : IsEditorStack stack)
    (outcome : Outcome Reply) : Paced system (system.resumeStack outcome stack).1 := by
  rcases ofEditor with ⟨call, rfl, isCall⟩ | inner
  · cases outcome with
    | returned reply =>
        rw [resumeStack_begin]
        exact call_paced system isCall
    | failed failure => exact .refl system
    | cancelled => exact .refl system
  · exact resumeInner_paced system inner outcome

theorem resumeTask_paced (system : System) (task : Nat) (serves : system.ServesEditors) :
    Paced system (system.resumeTask task) := by
  unfold resumeTask
  split
  · exact .refl system
  · rename_i found entry
    split
    · exact .refl system
    · simp only
      have cleared : Paced system (system.onLoop (·.modifyTask task fun found =>
          { found with stack := [], awaiting := none, cancelRequested := false })) :=
        .onLoop (system.loop.modifyTask_keepsTimers task _)
      have ran := cleared.trans
        (resumeStack_paced _ (serves task found entry) (system.signalOf found))
      generalize (system.onLoop _).resumeStack _ _ = step at ran ⊢
      obtain ⟨later, outcome | ⟨frames, promise⟩⟩ := step
      · exact (ran.trans (.of_move (.note _))).trans (.settle _ _ _)
      · exact ran.trans (.onLoop (later.loop.suspend_keepsTimers task frames promise))

theorem act_paced (system : System) (action : Action) : Paced system (system.act action) := by
  cases action with
  | discard session id => exact discard_paced system session id
  | expire session id => exact .of_course (expire_course system session id)
  | answerEnded session task => exact .of_course (endAnswer_course system session task)
  | debounce synchronizer => exact debounce_paced system synchronizer
  | sendEnded synchronizer task => exact .modifySynchronizer system synchronizer fun _ => rfl
  | deliver link text => exact receive_paced system link text
  | wake promise => exact .settle system promise _

theorem runCallback_paced
    (system : System) (serves : system.ServesEditors) (callback : Callback Action) :
    Paced system (system.runCallback callback) := by
  cases callback with
  | resume task => exact resumeTask_paced system task serves
  | memberEnded group => exact .onLoop (system.loop.endMember_keepsTimers group _)
  | fire timer action => exact act_paced system action
  | act action => exact act_paced system action
  | skipped => exact .refl system

theorem turn_paced (system : System) (serves : system.ServesEditors) :
    Paced system (system.step .turn) := by
  rcases system.step_turn_cases with ⟨_, same⟩ | ⟨callback, rest, next, runs⟩
  · rw [same]
    exact .refl system
  · have taken := Scheduler.taken_of_next? next
    have begun : Paced system { system with loop := rest } :=
      ⟨taken.now, rfl, fun timer member => Or.inl (taken.timers timer member)⟩
    have restServes : ({ system with loop := rest } : System).ServesEditors :=
      fun task found entry => serves task found (taken.tasks ▸ entry)
    rw [runs]
    exact begun.trans (runCallback_paced _ restServes callback)

/-! ## Steps -/

/-- The waits stay as they are, and each timer that is new was armed now with one of them. The clock
may move, but then no timer is armed. -/
theorem step_waits
    {system : System} {input : Input} (serves : system.ServesEditors)
    (allowed : input.IsForEditor) :
    (system.step input).waits = system.waits ∧
      ∀ timer ∈ (system.step input).loop.timers, timer ∈ system.loop.timers ∨
        ∃ wait ∈ system.waits, system.WaitsFor timer wait := by
  have of_paced {later : System} (paced : Paced system later) :
      later.waits = system.waits ∧
        ∀ timer ∈ later.loop.timers, timer ∈ system.loop.timers ∨
          ∃ wait ∈ system.waits, system.WaitsFor timer wait :=
    ⟨paced.waits, paced.timers⟩
  cases input with
  | turn => exact of_paced (turn_paced system serves)
  | receive link text => exact of_paced (receive_paced system link text)
  | call call => exact of_paced (.of_move (.spawn call))
  | cancel task => exact of_paced (.of_move (.cancel task))
  | editText editor text =>
      have edited := editText_paced system editor text
      refine of_paced ?_
      simp only [step]
      rcases result : system.editText editor text with ⟨later, failure | failure⟩
      · rw [result] at edited
        exact edited
      · rw [result] at edited
        exact edited.trans (.of_move (.note _))
  | drop link =>
      refine of_paced ?_
      simp only [step, drop]
      split
      · exact .refl system
      · exact loseConnection_paced system _
  | behave peer => exact of_paced (.of_same rfl rfl rfl)
  | release place =>
      exact of_paced (.of_course (releases_course system (system.releaseFrame_releases place)))
  | releaseClose place =>
      exact of_paced (.of_course (releases_course system (system.releaseClosing_releases place)))
  | tick moment => exact ⟨rfl, fun timer member => Or.inl member⟩
  | _ => exact allowed.elim

end System

end LanguageClient.Client
