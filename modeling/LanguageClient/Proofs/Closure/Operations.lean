import LanguageClient.Proofs.Closure.Abstention
import LanguageClient.Proofs.Resuming

/-!
# Calls that leave alone what editors have

Queries, flushes, answers to the server and the end of a document leave alone what the editors of a client
have, and so do the frames that they wait with.
-/

namespace LanguageClient.Client

open LanguageClient.Json LanguageClient.Loop LanguageClient.Number LanguageClient.Protocol

/-- A frame whose rest leaves alone what editors have. -/
def Frame.Abstains : Frame → Prop
  | .begin _ | .handshaking _ _ | .confirming _ _ _ | .abandoningHandshake _
  | .creatingWorkspace _ | .openingDocument _ _ | .abandoningStart _ _ | .closingSynchronizer _
  | .closingWorkspace _ _ | .startingCommand _ | .hoveringCommand _ | .completingCommand _
  | .waitingCommand _ | .closingCommand _ => False
  | .sending _ _ | .writing _ | .requesting _ | .closingLink | .opening _ _ _ | .closingFile _
  | .locking _ _ _ | .changing _ _ _ | .sendingDebounced _ | .settlingSends _ | .detaching _
  | .flushingForHover _ _ | .hovering _ _ | .flushingForCompletion _ _ | .completing _
  | .refreshing => True

/-- A step that leaves alone what editors have, and whose frames do so, too. -/
structure Step.Abstains (task promise : Nat) (before : System) (step : Step) : Prop where
  state : System.Abstains task promise before step.1
  frames : ∀ frame ∈ step.2.frames, frame.Abstains

namespace Step.Abstains

variable {task promise : Nat} {before system : System} {step : Step} {frame : Frame}
  {rest : System → Outcome Reply → Step}

theorem ended (state : System.Abstains task promise before system) (outcome : Outcome Reply) :
    Step.Abstains task promise before (system, .ended outcome) :=
  ⟨state, fun _ member => absurd member List.not_mem_nil⟩

theorem here (system : System) (outcome : Outcome Reply) :
    Step.Abstains task promise system (system, .ended outcome) :=
  ended (.refl system) outcome

theorem after
    (state : System.Abstains task promise before system)
    (abstains : Step.Abstains task promise system step) : Step.Abstains task promise before step :=
  ⟨state.trans abstains.state, abstains.frames⟩

/-- The rest of a call leaves alone what the call has left alone before. -/
theorem andThen_from
    (first : Step.Abstains task promise before step) (abstains : frame.Abstains)
    (second : ∀ later outcome, System.Abstains task promise before later →
      Step.Abstains task promise before (rest later outcome)) :
    Step.Abstains task promise before (step.andThen frame rest) := by
  obtain ⟨later, outcome | ⟨frames, other⟩⟩ := step
  · exact second later outcome first.state
  · refine ⟨first.state, fun other member => ?_⟩
    rcases List.mem_append.mp member with inner | isLast
    · exact first.frames other inner
    · exact List.mem_singleton.mp isLast ▸ abstains

theorem andThen
    (first : Step.Abstains task promise before step) (abstains : frame.Abstains)
    (second : ∀ later outcome, Step.Abstains task promise later (rest later outcome)) :
    Step.Abstains task promise before (step.andThen frame rest) :=
  first.andThen_from abstains fun later outcome state => .after state (second later outcome)

end Step.Abstains

namespace System

section Functions

variable {task promise : Nat} (system : System)

theorem await_abstains (other : Nat) : Step.Abstains task promise system (system.await other) := by
  unfold await
  split
  · exact .here system _
  · exact ⟨.refl system, fun _ member => absurd member List.not_mem_nil⟩

/-! ## Connections -/

theorem takeFrame_abstains (link : Nat) (frame : Value) :
    Step.Abstains task promise system (system.takeFrame link frame) := by
  unfold takeFrame
  split
  · exact .here system _
  · have accepted : Abstains task promise system
        { system with peer := (system.peer.accept frame).2 } :=
      .withDetained fun other member => detained_accept system.peer frame ▸ member
    exact .ended ((accepted.trans (.note _ rfl)).trans (.deliver _ link _)) _

theorem resumeSending_abstains (link : Nat) (frame : Value) (outcome : Outcome Reply) :
    Step.Abstains task promise system (resumeSending link frame system outcome) := by
  cases outcome with
  | returned reply => exact takeFrame_abstains system link frame
  | failed failure => exact .here system _
  | cancelled => exact .here system _

theorem holdBack_abstains : Abstains task promise system system.holdBack := by
  refine .withNewPromise fun other member => ?_
  simp only [Peer.detained, List.mem_append, List.mem_singleton] at member ⊢
  rcases member with (isHeld | isNew) | isClosing
  · exact Or.inl (Or.inl isHeld)
  · exact Or.inr isNew
  · exact Or.inl (Or.inr isClosing)

theorem send_abstains (link : Nat) (frame : Value) :
    Step.Abstains task promise system (system.send link frame) := by
  have noted : Abstains task promise system (system.note (.handed link frame)) :=
    .note system rfl
  unfold send
  simp only
  split
  · refine .andThen (.after (noted.trans (holdBack_abstains _)) (await_abstains _ _)) trivial ?_
    exact fun later => resumeSending_abstains later link frame
  · exact .after noted (takeFrame_abstains _ link frame)

/-! ## Sessions -/

theorem resumeWriting_abstains (subject : String) (outcome : Outcome Reply) :
    Step.Abstains task promise system (resumeWriting subject system outcome) := by
  cases outcome <;> exact .here system _

theorem write_abstains (session : Nat) (subject : String) (frame : Value) :
    Step.Abstains task promise system (system.write session subject frame) := by
  unfold write
  split
  · exact .here system _
  · exact .andThen (send_abstains system _ frame) trivial
      fun later => resumeWriting_abstains later subject

theorem notify_abstains (session : Nat) (method : String) (params : Option Value) :
    Step.Abstains task promise system (system.notify session method params) := by
  unfold notify
  split
  · exact .here system _
  · split
    · exact .here system _
    · split
      · exact write_abstains system session method _
      · exact .here system _

/-- A request withdraws only its own promise. -/
theorem resumeRequesting_abstains
    {before : System} {other : Nat} (state : Abstains task promise before system)
    (different : before.Collects task promise → other ≠ promise) (outcome : Outcome Reply) :
    Step.Abstains task promise before (resumeRequesting other system outcome) := by
  have withdrawn : Abstains task promise before (system.settle other .cancelled) := {
    anchored := state.anchored
    collects := fun collects =>
      (Abstains.settle (fun _ => different collects) _).collects (state.collects collects)
    holdings := state.holdings }
  cases outcome with
  | returned reply => exact .after state (await_abstains system other)
  | failed failure => exact .ended withdrawn _
  | cancelled => exact .ended withdrawn _

theorem countRequest_abstains (session : Nat) :
    Abstains task promise system (system.countRequest session) :=
  .modifySession session (fun _ => rfl) (fun _ _ _ => id) fun _ _ _ => id

theorem registerRequest_abstains
    (session : Nat) (name method : String) (timeout : Quantity) (delay : Delay) :
    Abstains task promise system (system.registerRequest session name method timeout delay) := by
  have armed : Abstains task promise system (system.onLoop fun loop =>
      ((loop.addPromise {}).arm delay (.expire session name)).whenSettled system.nextPromise
        (.act (.discard session name))) :=
    .onLoop fun collects => by
      have armed : ((system.loop.addPromise {}).arm delay (.expire session name)).Collects
          task promise .nothing :=
        (collects.loop.addPromise {} nofun).of_same rfl rfl
      exact armed.whenSettled system.nextPromise _
  refine armed.trans_from (fun collects => .modifySession session (fun _ _ _ => id) ?_) id
    (holdings_modifySession session fun _ => rfl)
  intro found _ _ absent
  simpa [absent] using collects.ne_nextPromise.symm

theorem request_abstains
    (session : Nat) (method : String) (params : Option Value) (timeout : Option Quantity) :
    Step.Abstains task promise system (system.request session method params timeout) := by
  unfold request
  split
  · exact .here system _
  · split
    · exact .here system _
    · have counted : Abstains task promise system (system.countRequest session) :=
        countRequest_abstains system session
      simp only
      split
      · exact .ended counted _
      · rename_i delay _
        have registered (name : String) (timeout : Quantity) :=
          counted.trans (registerRequest_abstains (system.countRequest session) session name method
            timeout delay)
        split
        · exact .andThen_from (.after (registered _ _) (write_abstains _ session method _)) trivial
            fun later outcome state =>
              resumeRequesting_abstains later state (fun collects => collects.ne_nextPromise) outcome
        · exact .ended (registered _ _) _

theorem discard_abstains (session : Nat) (name : String) :
    Abstains task promise system (system.discard session name) := by
  unfold discard
  split
  · exact .refl system
  · have removed : Abstains task promise system (system.modifySession session fun found =>
        { found with pending := found.pending.filter fun other => other.id ≠ name }) := by
      refine .modifySession session (fun _ => rfl) (fun _ _ _ => id) ?_
      intro found _ _ absent member
      obtain ⟨entry, inside, same⟩ := List.mem_map.mp member
      exact absent (List.mem_map.mpr ⟨entry, (List.mem_filter.mp inside).1, same⟩)
    exact removed.trans (.disarm _ _)

theorem ne_of_openRequest?
    {session : Nat} {name : String} {entry : PendingRequest}
    (isOpen : system.openRequest? session name = some entry)
    (collects : system.Collects task promise) : entry.promise ≠ promise := by
  obtain ⟨found, known, isEntry⟩ := Option.bind_eq_some_iff.mp (Option.filter_eq_some_iff.mp isOpen).1
  exact collects.ne_of_promised (mem_promised_of_pending known (List.mem_of_find?_eq_some isEntry))

theorem expire_abstains (session : Nat) (name : String) :
    Abstains task promise system (system.expire session name) := by
  unfold expire
  split
  · exact .refl system
  · rename_i entry isOpen
    refine (Abstains.log system _ _ _).trans_from (fun collects => ?_) id rfl
    exact (Abstains.settle (fun _ => ne_of_openRequest? system isOpen collects) _).toHeeds

theorem answer_abstains (session : Nat) (name : Value) :
    Step.Abstains task promise system (system.answer session name) :=
  write_abstains system session "response" _

/-- The task of a new answer is new. -/
theorem takeRequest_abstains (session : Nat) (name : Value) :
    Abstains task promise system (system.takeRequest session name) := by
  unfold takeRequest
  split
  · exact .refl system
  · split
    · exact .refl system
    · have watched : Abstains task promise system
          ((system.spawn (.answer session name)).whenEnded system.nextTask
            (.answerEnded session system.nextTask)) :=
        (Abstains.spawn system _).trans (.whenEnded _ _ _)
      refine watched.trans_from (fun collects => .modifySession session ?_ fun _ _ _ => id) id
        (holdings_modifySession session fun _ => rfl)
      intro found _ _ absent
      have different : task ≠ system.nextTask := Nat.ne_of_lt collects.loop.known
      simpa [absent] using different

theorem endAnswer_abstains (session answered : Nat) :
    Abstains task promise system (system.endAnswer session answered) := by
  have removed : Abstains task promise system (system.modifySession session fun found =>
      { found with answers := found.answers.filter fun other => other ≠ answered }) :=
    .modifySession session (fun _ => rfl)
      (fun _ _ _ absent member => absent ((List.mem_filter.mp member).1)) fun _ _ _ => id
  unfold endAnswer
  simp only
  split
  · exact removed.trans (.log _ _ _ _)
  · exact removed
  · exact removed
  · exact removed

theorem takeResponse_abstains (session : Nat) (name : String) (message : Value) :
    Abstains task promise system (system.takeResponse session name message).1 := by
  unfold takeResponse
  split
  · exact .log system _ _ _
  · rename_i entry isOpen
    have settled (outcome : Outcome Reply) :
        Abstains task promise system (system.settle entry.promise outcome) :=
      .settle (ne_of_openRequest? system isOpen) outcome
    split
    · exact settled _
    · split
      · exact settled _
      · exact .refl system

theorem takeMessage_abstains
    {tellWorkspace : System → Nat → Value → Value → System × Option Failure}
    (tells : ∀ system workspace method params,
      Abstains task promise system (tellWorkspace system workspace method params).1)
    (session : Nat) (raw : String) :
    Abstains task promise system (system.takeMessage session raw tellWorkspace).1 := by
  unfold takeMessage
  split
  · exact .log system _ _ _
  · exact .refl system
  · rename_i members _
    simp only
    split
    · exact takeRequest_abstains system session _
    · split
      · exact .log system _ _ _
      · exact .log system _ _ _
      · rename_i method _ _ _ listener _ _
        cases listener with
        | nobody => exact .refl system
        | workspace workspace =>
            have told := tells system workspace method
              (((Value.object members).get? "params").getD .null)
            simp only
            split
            · exact told
            · exact told.trans (.log _ _ _ _)
        | host fails =>
            have told : Abstains task promise system (system.note (.told (.notification method
                (((Value.object members).get? "params").getD .null)))) :=
              .note system rfl
            simp only
            split
            · exact told
            · exact told.trans (.log _ _ _ _)
    · exact takeResponse_abstains system session _ _
    · exact .log system _ _ _
  · exact .log system _ _ _

/-! ## Documents -/

theorem unregister_abstains (workspace : Nat) (uri : String) :
    Abstains task promise system (system.unregister workspace uri) :=
  .modifyWorkspace system workspace fun _ => rfl

theorem notifyIn_abstains (workspace : Nat) (method : String) (params : Value) :
    Step.Abstains task promise system (system.notifyIn workspace method params) := by
  unfold notifyIn
  split
  · exact .here system _
  · exact notify_abstains system _ method _

theorem resumeOpening_abstains (workspace : Nat) (uri : String) (file : Nat) (outcome : Outcome Reply) :
    Step.Abstains task promise system (resumeOpening workspace uri file system outcome) := by
  cases outcome with
  | returned reply => exact .here system _
  | failed failure => exact .ended (unregister_abstains system workspace uri) _
  | cancelled => exact .ended (unregister_abstains system workspace uri) _

theorem changeFile_abstains (file : Nat) (version : Int) (text : String) :
    Step.Abstains task promise system (system.changeFile file version text) := by
  unfold changeFile
  split
  · exact .here system _
  · split
    · exact .here system _
    · split
      · exact .here system _
      · exact notifyIn_abstains system _ _ _

theorem resumeClosingFile_abstains (uri : String) (outcome : Outcome Reply) :
    Step.Abstains task promise system (resumeClosingFile uri system outcome) := by
  cases outcome with
  | returned reply => exact .here system _
  | failed failure => exact .ended (.log system _ _ _) _
  | cancelled => exact .here system _

theorem closeFile_abstains (file : Nat) :
    Step.Abstains task promise system (system.closeFile file) := by
  unfold closeFile
  split
  · exact .here system _
  · split
    · exact .here system _
    · exact .andThen (.after (unregister_abstains system _ _) (notifyIn_abstains _ _ _ _)) trivial
        fun later => resumeClosingFile_abstains later _

/-! ## Notifications of the server -/

theorem showMessage_abstains (params : Value) :
    Abstains task promise system (system.showMessage params) := by
  unfold showMessage
  split
  · exact .log system _ _ _
  · exact .refl system

theorem showDiagnostics_abstains (editor : Nat) (published : PublishedDiagnostics) :
    Abstains task promise system (system.showDiagnostics editor published).1 := by
  unfold showDiagnostics
  split
  · exact .refl system
  · have shown (diagnostics : List Document.PlacedDiagnostic) :
        Abstains task promise system
          (system.modifyEditor editor fun found => { found with diagnostics }) :=
      .modifyEditor system editor fun _ => rfl
    simp only
    split
    · exact shown _
    · exact (shown _).trans (.note _ rfl)

theorem publish_abstains (listener : DocumentListener) (params : Value) :
    Abstains task promise system (system.publish listener params showDiagnostics).1 := by
  unfold publish
  split
  · exact .refl system
  · split
    · exact showDiagnostics_abstains system _ _
    · exact .note system rfl

theorem takeNotification_abstains (workspace : Nat) (method params : Value) :
    Abstains task promise system
      (takeNotification showDiagnostics system workspace method params).1 := by
  unfold takeNotification
  split
  · exact .refl system
  · split
    · split
      · exact .refl system
      · exact .refl system
      · exact publish_abstains system _ params
    · split
      · exact showMessage_abstains system params
      · exact .refl system

theorem receive_abstains (link : Nat) (text : String) :
    Abstains task promise system (system.receive link text) := by
  unfold receive
  split
  · exact .refl system
  · rename_i session _
    have taken : Abstains task promise system
        (system.takeMessage session text (takeNotification showDiagnostics)).1 :=
      takeMessage_abstains system takeNotification_abstains session text
    split
    · rename_i later result
      rw [result] at taken
      exact taken
    · rename_i later failure result
      rw [result] at taken
      exact taken.trans (.note _ rfl)

/-! ## Synchronizers -/

theorem cancelTimer_abstains (synchronizer : Nat) :
    Abstains task promise system (system.cancelTimer synchronizer) := by
  unfold cancelTimer
  split
  · exact .refl system
  · exact (Abstains.disarm system _).trans
      (.adjust _ synchronizer (fun _ => rfl) (fun _ => rfl) fun _ => rfl)

theorem schedule_abstains (synchronizer : Nat) :
    Abstains task promise system (system.schedule synchronizer).1 := by
  have cancelled : Abstains task promise system (system.cancelTimer synchronizer) :=
    cancelTimer_abstains system synchronizer
  unfold schedule
  simp only
  split
  · exact cancelled
  · split
    · exact cancelled
    · exact (cancelled.trans (.arm _ _ _)).trans
        (.adjust _ synchronizer (fun _ => rfl) (fun _ => rfl) fun _ => rfl)

/-- The task of a debounced send is new. -/
theorem debounce_abstains (synchronizer : Nat) :
    Abstains task promise system (system.debounce synchronizer) := by
  have watched : Abstains task promise system
      ((system.spawn (.sendDebounced synchronizer)).whenEnded system.nextTask
        (.sendEnded synchronizer system.nextTask)) :=
    (Abstains.spawn system _).trans (.whenEnded _ _ _)
  refine watched.trans_from
    (fun collects => .modifySynchronizer synchronizer (fun _ _ => Or.inl) ?_ fun _ _ => id)
    (fun anchored => anchored.modifySynchronizer fun _ _ => Or.inl) rfl
  intro found _ absent
  have different : task ≠ system.nextTask := Nat.ne_of_lt collects.loop.known
  simpa [absent] using different

theorem endSend_abstains (synchronizer ended : Nat) :
    Abstains task promise system (system.endSend synchronizer ended) :=
  .modifySynchronizer synchronizer (fun _ _ => Or.inl)
    (fun _ _ absent member => absent ((List.mem_filter.mp member).1)) fun _ _ => id

theorem edit_abstains (synchronizer : Nat) (text : String) :
    Abstains task promise system (system.edit synchronizer text).1 := by
  have edited : Abstains task promise system (system.modifySynchronizer synchronizer fun found =>
      { found with text, dirty := true }) :=
    .adjust system synchronizer (fun _ => rfl) (fun _ => rfl) fun _ => rfl
  unfold edit
  simp only
  split
  · exact edited.trans (schedule_abstains _ synchronizer)
  · exact edited

theorem lockOf_waiters_due {other : Nat} {synchronizer : Nat} {rest : List Nat}
    (waits : (system.lockOf synchronizer).waiters = other :: rest) : other ∈ system.dues := by
  unfold lockOf at waits
  cases known : system.synchronizers[synchronizer]? with
  | none => simp [known] at waits
  | some found =>
      refine List.mem_append_right _ (List.mem_flatMap.mpr ⟨found, List.mem_of_getElem? known, ?_⟩)
      have same : found.lock.waiters = other :: rest := by simpa [known] using waits
      exact same ▸ List.mem_cons_self

theorem wakeFirst_abstains (synchronizer : Nat) :
    Abstains task promise system (system.wakeFirst synchronizer) := by
  unfold wakeFirst
  split
  · exact .refl system
  · rename_i waits
    refine .settle (fun collects => ?_) _
    rintro rfl
    exact collects.notDue (lockOf_waiters_due system waits)

theorem markLock_abstains (synchronizer : Nat) (held : Bool) :
    Abstains task promise system
      (system.modifyLock synchronizer fun lock => { lock with held }) :=
  .modifyLock synchronizer fun _ _ => id

theorem release_abstains (synchronizer : Nat) :
    Abstains task promise system (system.release synchronizer) :=
  (markLock_abstains system synchronizer false).trans (wakeFirst_abstains _ synchronizer)

theorem resumeChanging_abstains
    (synchronizer version : Nat) (wasDirty : Bool) (outcome : Outcome Reply) :
    Step.Abstains task promise system (resumeChanging synchronizer version wasDirty system outcome) := by
  have counted : Abstains task promise system
      (system.modifySynchronizer synchronizer fun found => { found with version }) :=
    .adjust system synchronizer (fun _ => rfl) (fun _ => rfl) fun _ => rfl
  have unsent : Abstains task promise system
      (system.modifySynchronizer synchronizer fun found =>
        { found with dirty := found.dirty || wasDirty }) :=
    .adjust system synchronizer (fun _ => rfl) (fun _ => rfl) fun _ => rfl
  cases outcome with
  | returned reply => exact .ended (counted.trans (release_abstains _ synchronizer)) _
  | failed failure => exact .ended (unsent.trans (release_abstains _ synchronizer)) _
  | cancelled => exact .ended (unsent.trans (release_abstains _ synchronizer)) _

theorem changeLocked_abstains (synchronizer : Nat) (force : Bool) :
    Step.Abstains task promise system (system.changeLocked synchronizer force) := by
  have cleaned : Abstains task promise system (system.modifySynchronizer synchronizer fun found =>
      { found with dirty := false }) :=
    .adjust system synchronizer (fun _ => rfl) (fun _ => rfl) fun _ => rfl
  have released : Abstains task promise system (system.release synchronizer) :=
    release_abstains system synchronizer
  unfold changeLocked
  split
  · exact .here system _
  · split
    · exact .ended released _
    · split
      · exact .ended released _
      · exact .andThen (.after cleaned (changeFile_abstains _ _ _ _)) trivial
          fun later => resumeChanging_abstains later _ _ _

theorem resumeLocking_abstains
    (synchronizer other : Nat) (force : Bool) (outcome : Outcome Reply) :
    Step.Abstains task promise system (resumeLocking synchronizer other force system outcome) := by
  have left : Abstains task promise system (system.modifyLock synchronizer fun lock =>
      { lock with waiters := lock.waiters.filter fun waiter => waiter ≠ other }) :=
    .modifyLock synchronizer fun _ _ absent member => absent ((List.mem_filter.mp member).1)
  unfold resumeLocking
  generalize system.modifyLock synchronizer _ = later at left ⊢
  have givesUp : Abstains task promise system
      (if (later.lockOf synchronizer).held then later else later.wakeFirst synchronizer) := by
    split
    · exact left
    · exact left.trans (wakeFirst_abstains later synchronizer)
  cases outcome with
  | returned reply =>
      exact .after (left.trans (markLock_abstains later synchronizer true)) (changeLocked_abstains _ _ _)
  | failed failure => exact .ended givesUp _
  | cancelled => exact .ended givesUp _

theorem sendChange_abstains (synchronizer : Nat) (force : Bool) :
    Step.Abstains task promise system (system.sendChange synchronizer force) := by
  unfold sendChange
  simp only
  split
  · exact .after (markLock_abstains system synchronizer true) (changeLocked_abstains _ _ _)
  · have queued : Abstains task promise system (system.addPromise.modifyLock synchronizer fun lock =>
        { lock with waiters := lock.waiters ++ [system.nextPromise] }) := by
      refine (Abstains.addPromise system).trans_from (fun collects => ?_)
        (fun anchored => anchored.modifySynchronizer fun _ _ => Or.inl) rfl
      refine (Abstains.modifyLock synchronizer fun found _ absent => ?_).toHeeds
      simpa [absent] using collects.ne_nextPromise.symm
    exact .andThen (.after queued (await_abstains _ _)) trivial
      fun later => resumeLocking_abstains later synchronizer _ force

theorem flush_abstains (synchronizer : Nat) (force : Bool) :
    Step.Abstains task promise system (system.flush synchronizer force) := by
  have cancelled : Abstains task promise system (system.cancelTimer synchronizer) :=
    cancelTimer_abstains system synchronizer
  unfold flush
  simp only
  split
  · exact .after cancelled (sendChange_abstains _ _ _)
  · exact .ended cancelled _

theorem resumeSendingDebounced_abstains (synchronizer : Nat) (outcome : Outcome Reply) :
    Step.Abstains task promise system (resumeSendingDebounced synchronizer system outcome) := by
  cases outcome with
  | returned reply => exact .here system _
  | failed failure => exact .ended (.log system _ _ _) _
  | cancelled => exact .here system _

theorem sendDebounced_abstains (synchronizer : Nat) :
    Step.Abstains task promise system (system.sendDebounced synchronizer) :=
  .andThen (sendChange_abstains system synchronizer false) trivial
    fun later => resumeSendingDebounced_abstains later synchronizer

theorem resumeDetaching_abstains (synchronizer : Nat) (outcome : Outcome Reply) :
    Step.Abstains task promise system (resumeDetaching synchronizer system outcome) := by
  cases outcome with
  | returned reply =>
      have detached : Abstains task promise system
          (system.modifySynchronizer synchronizer fun found => { found with file := none }) :=
        .modifySynchronizer synchronizer (fun _ _ attached => nomatch attached) (fun _ _ => id)
          fun _ _ => id
      exact .ended detached _
  | failed failure => exact .here system _
  | cancelled => exact .here system _

theorem closeAttached_abstains (synchronizer : Nat) :
    Step.Abstains task promise system (system.closeAttached synchronizer) := by
  unfold closeAttached
  split
  · exact .here system _
  · exact .andThen (closeFile_abstains system _) trivial
      fun later => resumeDetaching_abstains later synchronizer

theorem resumeSettlingSends_abstains (synchronizer : Nat) (outcome : Outcome Reply) :
    Step.Abstains task promise system (resumeSettlingSends synchronizer system outcome) := by
  cases outcome with
  | returned reply => exact closeAttached_abstains system synchronizer
  | failed failure => exact .here system _
  | cancelled => exact .here system _

/-- The sends that are gathered are tasks of the client itself. -/
theorem gather_abstains (synchronizer : Nat) :
    Abstains task promise system (system.onLoop
      (·.gather (((system.synchronizers[synchronizer]?).map (·.sends)).getD []) .nothing)) := by
  refine .onLoop fun collects => collects.loop.gather (fun member => collects.foreign ?_) .nothing
  cases known : system.synchronizers[synchronizer]? with
  | none =>
      rw [known] at member
      exact absurd member List.not_mem_nil
  | some found =>
      rw [known] at member
      exact List.mem_append_right _ (List.mem_flatMap.mpr ⟨found, List.mem_of_getElem? known, member⟩)

theorem closeSynchronizer_abstains (synchronizer : Nat) :
    Step.Abstains task promise system (system.closeSynchronizer synchronizer) := by
  have cancelled : Abstains task promise system (system.cancelTimer synchronizer) :=
    cancelTimer_abstains system synchronizer
  unfold closeSynchronizer
  simp only
  split
  · exact .after cancelled (closeAttached_abstains _ synchronizer)
  · have gathered := cancelled.trans (gather_abstains (system.cancelTimer synchronizer) synchronizer)
    exact .andThen (.after gathered (await_abstains _ _)) trivial
      fun later => resumeSettlingSends_abstains later synchronizer

/-! ## Queries -/

theorem requestOf_abstains (editor : Editor) (method : String) (params : Value) :
    Step.Abstains task promise system (system.requestOf editor method params) := by
  unfold requestOf
  split
  · exact .here system _
  · exact request_abstains system _ method _ _

theorem recover_abstains (failure : Failure) (without : Reply) :
    Step.Abstains task promise system (system.recover failure without) := by
  unfold recover
  split
  · exact .here system _
  · exact .here system _

theorem resumeHovering_abstains (editor : Nat) (position : Position) (outcome : Outcome Reply) :
    Step.Abstains task promise system (resumeHovering editor position system outcome) := by
  unfold resumeHovering
  split
  · split
    · exact recover_abstains system _ _
    · split
      · exact .here system _
      · exact .here system _
  · exact .here system _
  · exact recover_abstains system _ _
  · exact .here system _

theorem resumeFlushingForHover_abstains (editor : Nat) (offset : Int) (outcome : Outcome Reply) :
    Step.Abstains task promise system (resumeFlushingForHover editor offset system outcome) := by
  unfold resumeFlushingForHover
  split
  · split
    · exact recover_abstains system _ _
    · exact .andThen (requestOf_abstains system _ _ _) trivial
        fun later => resumeHovering_abstains later editor _
  · exact .here system _
  · exact recover_abstains system _ _
  · exact .here system _

theorem hover_abstains (editor : Nat) (offset : Int) :
    Step.Abstains task promise system (system.hover editor offset) := by
  unfold hover
  split
  · exact .here system _
  · split
    · exact .here system _
    · split
      · exact .andThen (flush_abstains system _ _) trivial
          fun later => resumeFlushingForHover_abstains later editor offset
      · exact .here system _

theorem resumeCompleting_abstains (query : CompletionQuery) (outcome : Outcome Reply) :
    Step.Abstains task promise system (resumeCompleting query system outcome) := by
  unfold resumeCompleting
  split
  · split
    · exact recover_abstains system _ _
    · exact .here system _
    · exact .here system _
  · exact .here system _
  · exact recover_abstains system _ _
  · exact .here system _

theorem resumeFlushingForCompletion_abstains
    (editor : Nat) (query : CompletionQuery) (outcome : Outcome Reply) :
    Step.Abstains task promise system
      (resumeFlushingForCompletion editor query system outcome) := by
  unfold resumeFlushingForCompletion
  split
  · exact .andThen (requestOf_abstains system _ _ _) trivial
      fun later => resumeCompleting_abstains later query
  · exact .here system _
  · exact recover_abstains system _ _
  · exact .here system _

theorem complete_abstains (editor : Nat) (offset : Int) (explicit : Bool) :
    Step.Abstains task promise system (system.complete editor offset explicit) := by
  unfold complete
  split
  · exact .here system _
  · split
    · exact .here system _
    · split
      · exact .here system _
      · exact .andThen (flush_abstains system _ _) trivial
          fun later => resumeFlushingForCompletion_abstains later editor _

theorem resumeRefreshing_abstains (outcome : Outcome Reply) :
    Step.Abstains task promise system (resumeRefreshing system outcome) := by
  cases outcome with
  | returned reply => exact .here system _
  | failed failure => exact recover_abstains system _ _
  | cancelled => exact .here system _

theorem refresh_abstains (editor : Nat) :
    Step.Abstains task promise system (system.refresh editor) := by
  unfold refresh
  split
  · exact .here system _
  · split
    · exact .here system _
    · exact .andThen (flush_abstains system _ _) trivial resumeRefreshing_abstains

end Functions

/-! ## Stacks -/

section Stacks

variable {task promise : Nat} {before system : System} {frame : Frame}

/-- The requests of a stack await their own promises. -/
theorem resumeFrame_abstains
    (state : Abstains task promise before system) (abstains : frame.Abstains)
    (requests : ∀ other, frame = .requesting other → before.Collects task promise → other ≠ promise)
    (outcome : Outcome Reply) :
    Step.Abstains task promise before (resumeFrame frame system outcome) := by
  cases frame with
  | requesting other =>
      exact resumeRequesting_abstains system state (requests other rfl) outcome
  | sending link frame => exact .after state (resumeSending_abstains system link frame outcome)
  | writing subject => exact .after state (resumeWriting_abstains system subject outcome)
  | closingLink => cases outcome <;> exact .ended state _
  | opening workspace uri file =>
      exact .after state (resumeOpening_abstains system workspace uri file outcome)
  | closingFile uri => exact .after state (resumeClosingFile_abstains system uri outcome)
  | locking synchronizer other force =>
      exact .after state (resumeLocking_abstains system synchronizer other force outcome)
  | changing synchronizer version wasDirty =>
      exact .after state (resumeChanging_abstains system synchronizer version wasDirty outcome)
  | sendingDebounced synchronizer =>
      exact .after state (resumeSendingDebounced_abstains system synchronizer outcome)
  | settlingSends synchronizer =>
      exact .after state (resumeSettlingSends_abstains system synchronizer outcome)
  | detaching synchronizer =>
      exact .after state (resumeDetaching_abstains system synchronizer outcome)
  | flushingForHover editor offset =>
      exact .after state (resumeFlushingForHover_abstains system editor offset outcome)
  | hovering editor position =>
      exact .after state (resumeHovering_abstains system editor position outcome)
  | flushingForCompletion editor query =>
      exact .after state (resumeFlushingForCompletion_abstains system editor query outcome)
  | completing query => exact .after state (resumeCompleting_abstains system query outcome)
  | refreshing => exact .after state (resumeRefreshing_abstains system outcome)
  | _ => exact abstains.elim

theorem resumeStack_abstains
    {stack : List Frame} (state : Abstains task promise before system)
    (abstains : ∀ frame ∈ stack, frame.Abstains)
    (requests : ∀ other, .requesting other ∈ stack → before.Collects task promise →
      other ≠ promise)
    (outcome : Outcome Reply) :
    Step.Abstains task promise before (system.resumeStack outcome stack) := by
  induction stack generalizing system outcome with
  | nil => exact .ended state outcome
  | cons frame outer inductionHypothesis =>
      have first := resumeFrame_abstains state (abstains frame List.mem_cons_self)
        (fun other same => requests other (same ▸ List.mem_cons_self)) outcome
      have outerAbstains : ∀ frame ∈ outer, frame.Abstains := fun other member =>
        abstains other (List.mem_cons_of_mem _ member)
      rcases result : resumeFrame frame system outcome with ⟨later, ending | ⟨frames, awaited⟩⟩
      · rw [resumeStack_of_ended outer result]
        rw [result] at first
        exact inductionHypothesis first.state outerAbstains
          (fun other member => requests other (List.mem_cons_of_mem _ member)) ending
      · rw [resumeStack_of_suspended outer result]
        rw [result] at first
        refine ⟨first.state, fun other member => ?_⟩
        rcases List.mem_append.mp member with inner | isOuter
        · exact first.frames other inner
        · exact outerAbstains other isOuter

end Stacks

end System

end LanguageClient.Client
