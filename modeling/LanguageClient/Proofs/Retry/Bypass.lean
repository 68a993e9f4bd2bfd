import LanguageClient.Proofs.Conduct.Deed
import LanguageClient.Proofs.History
import LanguageClient.Proofs.Loop.Avoid

/-!
# What passes the document by

Messages, requests, answers and the end of a session pass by a document that is not open: the
synchronizers stay as they are and so do the editors apart from what they show, no session is opened
and none is opened again, and nobody begins to wait for further edits.
-/

namespace LanguageClient.Client

open LanguageClient.Json LanguageClient.Loop LanguageClient.Number LanguageClient.Protocol

/-- The action of a timer that waits for further edits. -/
def Action.IsDebounce : Action → Prop
  | .debounce _ => True
  | _ => False

/-- An editor apart from what it shows. -/
def Editor.unshown (editor : Editor) : Editor := { editor with diagnostics := [] }

/-- What happens has nothing to do with a document. -/
structure Bypasses (before after : System) : Prop where
  synchronizers : after.synchronizers = before.synchronizers
  editors : after.editors.map Editor.unshown = before.editors.map Editor.unshown
  workspaces : after.workspaces.map (·.session) = before.workspaces.map (·.session)
  sessions : after.sessions.length = before.sessions.length
  closed : ∀ (session : Nat) (found : Session), before.sessions[session]? = some found →
    found.closed = true →
      ∃ later : Session, after.sessions[session]? = some later ∧ later.closed = true
  wire : after.wire = before.wire
  timers : before.loop.Avoids Action.IsDebounce → after.loop.Avoids Action.IsDebounce

namespace Bypasses

variable {before middle after system : System}

/-- Only the connections, the peer, the journal and the scheduler have changed. -/
theorem of_same
    (synchronizers : after.synchronizers = before.synchronizers)
    (editors : after.editors = before.editors) (workspaces : after.workspaces = before.workspaces)
    (sessions : after.sessions = before.sessions) (wire : after.wire = before.wire)
    (timers : before.loop.Avoids Action.IsDebounce → after.loop.Avoids Action.IsDebounce) :
    Bypasses before after where
  synchronizers
  editors := by rw [editors]
  workspaces := by rw [workspaces]
  sessions := by rw [sessions]
  closed := fun session found entry isClosed => ⟨found, sessions ▸ entry, isClosed⟩
  wire
  timers

theorem refl (system : System) : Bypasses system system := .of_same rfl rfl rfl rfl rfl id

theorem trans (first : Bypasses before middle) (second : Bypasses middle after) :
    Bypasses before after where
  synchronizers := second.synchronizers.trans first.synchronizers
  editors := second.editors.trans first.editors
  workspaces := second.workspaces.trans first.workspaces
  sessions := second.sessions.trans first.sessions
  closed := fun session found entry isClosed => by
    obtain ⟨between, betweenEntry, stillClosed⟩ := first.closed session found entry isClosed
    exact second.closed session between betweenEntry stillClosed
  wire := second.wire.trans first.wire
  timers := second.timers ∘ first.timers

theorem note
    {occurrence : Occurrence} (system : System) (foreign : occurrence.documentFrame? = none) :
    Bypasses system (system.note occurrence) := by
  refine .of_same rfl rfl rfl rfl ?_ id
  rw [System.wire_note, foreign]
  exact List.append_nil _

theorem onLoop
    {change : ClientLoop → ClientLoop} (system : System)
    (timers : system.loop.Avoids Action.IsDebounce →
      (change system.loop).Avoids Action.IsDebounce) :
    Bypasses system (system.onLoop change) :=
  .of_same rfl rfl rfl rfl rfl timers

theorem settle (system : System) (promise : Nat) (outcome : Outcome Reply) :
    Bypasses system (system.settle promise outcome) :=
  .onLoop system fun avoids => avoids.settle promise outcome

theorem withPeer (system : System) (peer : Peer) : Bypasses system { system with peer } :=
  .of_same rfl rfl rfl rfl rfl id

theorem addPromise (system : System) : Bypasses system system.addPromise :=
  .onLoop system fun avoids => avoids.addPromise rfl

theorem modifySession
    {change : Session → Session} (system : System) (session : Nat)
    (closed : ∀ found, found.closed = true → (change found).closed = true) :
    Bypasses system (system.modifySession session change) where
  synchronizers := rfl
  editors := rfl
  workspaces := rfl
  sessions := List.length_modify ..
  closed := fun place found entry isClosed => by
    by_cases same : session = place
    · refine ⟨change found, ?_, closed found isClosed⟩
      simp [System.modifySession, same, entry]
    · refine ⟨found, ?_, isClosed⟩
      simp [System.modifySession, same, entry]
  wire := rfl
  timers := id

theorem modifyWorkspace
    {change : Workspace → Workspace} (system : System) (workspace : Nat)
    (keeps : ∀ found, (change found).session = found.session) :
    Bypasses system (system.modifyWorkspace workspace change) := by
  have workspaces : (system.modifyWorkspace workspace change).workspaces.map (·.session) =
      system.workspaces.map (·.session) :=
    map_modify_of_keeps keeps system.workspaces workspace
  exact { refl system with workspaces }

theorem addFile (system : System) (file : OpenFile) : Bypasses system (system.addFile file) := by
  have added : Bypasses system { system with files := system.files ++ [file] } :=
    .of_same rfl rfl rfl rfl rfl id
  exact added.trans (.modifyWorkspace _ file.workspace fun _ => rfl)

/-- The diagnostics of an editor are replaced. -/
theorem showing (system : System) (editor : Nat)
    (diagnostics : List Document.PlacedDiagnostic) :
    Bypasses system (system.modifyEditor editor fun found => { found with diagnostics }) := by
  have editors : (system.modifyEditor editor fun found =>
      { found with diagnostics }).editors.map Editor.unshown =
        system.editors.map Editor.unshown :=
    map_modify_of_keeps (by intro _; rfl) system.editors editor
  exact { refl system with editors }

end Bypasses

/-- A frame that writes or closes and has nothing to do with a document. -/
def Frame.IsForeign : Frame → Prop
  | .sending _ frame => concernsDocument frame = false
  | .writing _ | .requesting _ | .closingLink => True
  | _ => False

/-- A step that has nothing to do with a document, and neither has what is left of it. -/
structure Step.Bypasses (before : System) (step : Step) : Prop where
  bypasses : Client.Bypasses before step.1
  frames : ∀ frame ∈ step.2.frames, frame.IsForeign

namespace Step.Bypasses

variable {before middle system : System} {step : Step}

theorem ended (bypasses : Client.Bypasses before system) (outcome : Outcome Reply) :
    Step.Bypasses before (system, .ended outcome) where
  bypasses
  frames := fun _ member => absurd member List.not_mem_nil

theorem suspended (bypasses : Client.Bypasses before system) (promise : Nat) :
    Step.Bypasses before (system, .suspended [] promise) where
  bypasses
  frames := fun _ member => absurd member List.not_mem_nil

theorem after (second : step.Bypasses middle) (first : Client.Bypasses before middle) :
    step.Bypasses before where
  bypasses := first.trans second.bypasses
  frames := second.frames

theorem andThen
    {frame : Frame} {rest : System → Outcome Reply → Step} (first : step.Bypasses before)
    (foreign : frame.IsForeign) (second : ∀ later outcome, (rest later outcome).Bypasses later) :
    (step.andThen frame rest).Bypasses before := by
  obtain ⟨later, outcome | ⟨frames, promise⟩⟩ := step
  · exact (second later outcome).after first.bypasses
  · refine ⟨first.bypasses, List.forall_mem_append.mpr ⟨first.frames, ?_⟩⟩
    simpa using foreign

end Step.Bypasses

namespace System

variable (system : System)

theorem log_bypasses (level : LogLevel) (source : LogSource) (text : String) :
    Bypasses system (system.log level source text) :=
  .note system rfl

theorem await_bypasses (promise : Nat) : (system.await promise).Bypasses system := by
  unfold await
  split
  · exact .ended (.refl system) _
  · exact .suspended (.refl system) promise

/-! ## Writing -/

theorem accept_bypasses (link : Nat) (frame : Value) :
    Bypasses system (system.accept link frame) := by
  refine ((Bypasses.withPeer system _).trans (.note _ rfl)).trans (.onLoop _ fun avoids => ?_)
  refine avoids.enqueue fun callback member => ?_
  obtain ⟨_, _, rfl⟩ := List.mem_map.mp member
  trivial

theorem takeFrame_bypasses (link : Nat) (frame : Value) :
    (system.takeFrame link frame).Bypasses system := by
  cases refused : system.peer.refusalOf? frame with
  | some failure =>
      rw [takeFrame_of_refusal link refused]
      exact .ended (.refl system) _
  | none =>
      rw [takeFrame_of_acceptance link refused]
      exact .ended (accept_bypasses system link frame) _

theorem resumeSending_bypasses (link : Nat) (frame : Value) (outcome : Outcome Reply) :
    (resumeSending link frame system outcome).Bypasses system := by
  cases outcome with
  | returned reply => exact takeFrame_bypasses system link frame
  | failed failure => exact .ended (.refl system) _
  | cancelled => exact .ended (.refl system) _

theorem send_bypasses
    {frame : Value} (link : Nat) (foreign : concernsDocument frame = false) :
    (system.send link frame).Bypasses system := by
  have noted : Bypasses system (system.note (.handed link frame)) :=
    .note system (by simp [Occurrence.documentFrame?, foreign])
  cases holding : system.peer.holding with
  | true =>
      rw [send_of_holding link frame holding]
      refine ⟨noted.trans ((Bypasses.addPromise _).trans (.withPeer _ _)), fun other member => ?_⟩
      rw [List.mem_singleton.mp member]
      exact foreign
  | false =>
      rw [send_of_not_holding link frame holding]
      exact (takeFrame_bypasses _ link frame).after noted

theorem resumeWriting_bypasses (subject : String) (outcome : Outcome Reply) :
    (resumeWriting subject system outcome).Bypasses system := by
  cases outcome <;> exact .ended (.refl system) _

theorem write_bypasses
    {frame : Value} (session : Nat) (subject : String)
    (foreign : concernsDocument frame = false) :
    (system.write session subject frame).Bypasses system := by
  unfold write
  split
  · exact .ended (.refl system) _
  · exact (send_bypasses system _ foreign).andThen trivial
      fun later outcome => resumeWriting_bypasses later subject outcome

theorem answer_bypasses (session : Nat) (id : Value) :
    (system.answer session id).Bypasses system :=
  write_bypasses system session "response" (by
    simp [concernsDocument, answerMessage, methodOf?, Value.get?, member?, messageVersion])

theorem notify_bypasses
    {method : String} (session : Nat) (params : Option Value)
    (foreign : method ∉ documentMethods) :
    (system.notify session method params).Bypasses system := by
  unfold notify
  split
  · exact .ended (.refl system) _
  · split
    · exact .ended (.refl system) _
    · split
      · refine write_bypasses system session method ?_
        simp [concernsDocument, methodOf?_notificationMessage, foreign]
      · exact .ended (.refl system) _

/-! ## Requests -/

theorem resumeRequesting_bypasses (promise : Nat) (outcome : Outcome Reply) :
    (resumeRequesting promise system outcome).Bypasses system := by
  cases outcome with
  | returned reply => exact await_bypasses system promise
  | failed failure => exact .ended (.settle system _ _) _
  | cancelled => exact .ended (.settle system _ _) _

theorem registerRequest_bypasses
    (session : Nat) (id method : String) (timeout : Quantity) (delay : Delay) :
    Bypasses system (system.registerRequest session id method timeout delay) := by
  have unwanted : ¬ (Action.expire session id).IsDebounce := not_false
  refine Bypasses.trans (.onLoop system fun avoids => ?_)
    (.modifySession _ session fun _ isClosed => isClosed)
  exact ((avoids.addPromise rfl).arm delay unwanted).whenSettled _ trivial

theorem request_bypasses
    {method : String} (session : Nat) (params : Option Value) (timeout : Option Quantity)
    (foreign : method ∉ documentMethods) :
    (system.request session method params timeout).Bypasses system := by
  have counted : Bypasses system (system.countRequest session) :=
    .modifySession system session fun _ => id
  have registered (id : String) (timeout : Quantity) (delay : Delay) :=
    counted.trans (registerRequest_bypasses _ session id method timeout delay)
  unfold request
  split
  · exact .ended (.refl system) _
  · split
    · exact .ended (.refl system) _
    · simp only
      split
      · exact .ended counted _
      · split
        · refine ((write_bypasses _ session method ?_).after (registered _ _ _)).andThen trivial
            fun later outcome => resumeRequesting_bypasses later _ outcome
          simp [concernsDocument, methodOf?_requestMessage, foreign]
        · exact .ended (registered _ _ _) _

theorem discard_bypasses (session : Nat) (id : String) :
    Bypasses system (system.discard session id) := by
  unfold discard
  split
  · exact .refl system
  · have forgotten : Bypasses system (system.modifySession session fun found =>
        { found with pending := found.pending.filter fun other => other.id ≠ id }) :=
      .modifySession system session fun _ isClosed => isClosed
    exact forgotten.trans (.onLoop _ fun avoids => avoids.disarm _)

theorem expire_bypasses (session : Nat) (id : String) :
    Bypasses system (system.expire session id) := by
  unfold expire
  split
  · exact .refl system
  · exact (log_bypasses system _ _ _).trans (.settle _ _ _)

/-! ## The end of sessions -/

theorem abandonRequests_bypasses (session : Nat) (reason : SessionEnd) :
    Bypasses system (system.abandonRequests session reason) := by
  have abandoned (entries : List PendingRequest) :
      Bypasses system (entries.foldl (abandonRequest reason) system) :=
    List.foldlRecOn entries _ (.refl system) fun _ bypasses _ _ =>
      bypasses.trans ((Bypasses.onLoop _ fun avoids => avoids.disarm _).trans (.settle _ _ _))
  unfold abandonRequests
  split
  · exact .refl system
  · exact (abandoned _).trans (.modifySession _ session fun _ => id)

theorem loseConnection_bypasses (session : Nat) :
    Bypasses system (system.loseConnection session) := by
  unfold loseConnection
  split
  · exact .refl system
  · split
    · exact .refl system
    · exact ((log_bypasses system _ _ _).trans (.modifySession _ session fun _ _ => rfl)).trans
        (abandonRequests_bypasses _ session .lost)

theorem closeLink_bypasses (link : Nat) : (system.closeLink link).Bypasses system := by
  have closed : Bypasses system { system.note (.closedLink link) with
      links := system.links.modify link fun found => { found with closed := true } } :=
    (Bypasses.note system rfl).trans (.of_same rfl rfl rfl rfl rfl id)
  unfold closeLink
  simp only
  split
  · exact (await_bypasses _ _).after (closed.trans ((Bypasses.addPromise _).trans (.withPeer _ _)))
  · split
    · exact .ended closed _
    · exact .ended closed _

theorem resumeClosingLink_bypasses (outcome : Outcome Reply) :
    (resumeClosingLink system outcome).Bypasses system := by
  cases outcome <;> exact .ended (.refl system) _

/-! ## What is left of a step -/

theorem resumeFrame_bypasses {frame : Frame} (foreign : frame.IsForeign) (outcome : Outcome Reply) :
    (resumeFrame frame system outcome).Bypasses system := by
  cases frame with
  | sending link frame => exact resumeSending_bypasses system link frame outcome
  | writing subject => exact resumeWriting_bypasses system subject outcome
  | requesting promise => exact resumeRequesting_bypasses system promise outcome
  | closingLink => exact resumeClosingLink_bypasses system outcome
  | _ => exact foreign.elim

theorem resumeStack_bypasses
    {frames : List Frame} (foreign : ∀ frame ∈ frames, frame.IsForeign) (outcome : Outcome Reply) :
    (system.resumeStack outcome frames).Bypasses system := by
  induction frames generalizing system outcome with
  | nil => exact .ended (.refl system) outcome
  | cons frame outer inductionHypothesis =>
      obtain ⟨isForeign, areForeign⟩ := List.forall_mem_cons.mp foreign
      have first := resumeFrame_bypasses system isForeign outcome
      rcases result : resumeFrame frame system outcome with ⟨later, ending | ⟨inner, promise⟩⟩
      · rw [result] at first
        rw [resumeStack_of_ended outer result]
        exact (inductionHypothesis later areForeign ending).after first.bypasses
      · rw [result] at first
        rw [resumeStack_of_suspended outer result]
        exact ⟨first.bypasses, List.forall_mem_append.mpr ⟨first.frames, areForeign⟩⟩

/-! ## Messages of the peer -/

theorem whenEnded_bypasses (task : Nat) (action : Action) :
    Bypasses system (system.whenEnded task action) := by
  unfold whenEnded
  split
  · exact .refl system
  · exact .onLoop system fun avoids => avoids.whenSettled _ trivial

theorem takeRequest_bypasses (session : Nat) (id : Value) :
    Bypasses system (system.takeRequest session id) := by
  unfold takeRequest
  split
  · exact .refl system
  · split
    · exact .refl system
    · have spawned : Bypasses system (system.spawn (.answer session id)) :=
        .onLoop system fun avoids => avoids.spawn _
      exact (spawned.trans (whenEnded_bypasses _ _ _)).trans
        (.modifySession _ session fun _ isClosed => isClosed)

theorem endAnswer_bypasses (session task : Nat) :
    Bypasses system (system.endAnswer session task) := by
  have forgotten : Bypasses system (system.modifySession session fun found =>
      { found with answers := found.answers.filter fun other => other ≠ task }) :=
    .modifySession system session fun _ => id
  unfold endAnswer
  simp only
  split
  · exact forgotten.trans (log_bypasses _ _ _ _)
  · exact forgotten
  · exact forgotten
  · exact forgotten

theorem takeResponse_bypasses (session : Nat) (id : String) (message : Value) :
    Bypasses system (system.takeResponse session id message).1 := by
  unfold takeResponse
  split
  · exact log_bypasses system _ _ _
  · split
    · exact .settle system _ _
    · split
      · exact .settle system _ _
      · exact .refl system

theorem showDiagnostics_bypasses (editor : Nat) (published : PublishedDiagnostics) :
    Bypasses system (system.showDiagnostics editor published).1 := by
  unfold showDiagnostics
  split
  · exact .refl system
  · simp only
    split
    · exact .showing system editor _
    · exact (Bypasses.showing system editor _).trans (.note _ rfl)

theorem publish_bypasses (listener : DocumentListener) (params : Value) :
    Bypasses system (system.publish listener params showDiagnostics).1 := by
  unfold publish
  split
  · exact .refl system
  · split
    · exact showDiagnostics_bypasses system _ _
    · exact .note system rfl

theorem takeNotification_bypasses (workspace : Nat) (method params : Value) :
    Bypasses system (takeNotification showDiagnostics system workspace method params).1 := by
  unfold takeNotification
  split
  · exact .refl system
  · split
    · split
      · exact .refl system
      · exact .refl system
      · exact publish_bypasses system _ params
    · split
      · unfold showMessage
        split
        · exact log_bypasses system _ _ _
        · exact .refl system
      · exact .refl system

theorem takeMessage_bypasses (session : Nat) (raw : String) :
    Bypasses system
      (system.takeMessage session raw (takeNotification showDiagnostics)).1 := by
  unfold takeMessage
  split
  · exact log_bypasses system _ _ _
  · exact .refl system
  · rename_i members _
    simp only
    split
    · exact takeRequest_bypasses system session _
    · split
      · exact log_bypasses system _ _ _
      · exact log_bypasses system _ _ _
      · rename_i method _ _ _ listener _ _
        have told := fun workspace => takeNotification_bypasses system workspace method
          (((Value.object members).get? "params").getD .null)
        cases listener with
        | nobody => exact .refl system
        | workspace workspace =>
            simp only
            split
            · exact told workspace
            · exact (told workspace).trans (log_bypasses _ _ _ _)
        | host fails =>
            have heard : Bypasses system (system.note (.told (.notification method
                (((Value.object members).get? "params").getD .null)))) :=
              .note system rfl
            simp only
            split
            · exact heard
            · exact heard.trans (log_bypasses _ _ _ _)
    · exact takeResponse_bypasses system session _ _
    · exact log_bypasses system _ _ _
  · exact log_bypasses system _ _ _

theorem receive_bypasses (link : Nat) (text : String) :
    Bypasses system (system.receive link text) := by
  unfold receive
  split
  · exact .refl system
  · rename_i session _
    have heard := takeMessage_bypasses system session text
    split
    · rename_i result
      rwa [result] at heard
    · rename_i result
      rw [result] at heard
      exact heard.trans (.note _ rfl)

theorem drop_bypasses (link : Nat) : Bypasses system (system.drop link) := by
  unfold drop
  split
  · exact .refl system
  · exact loseConnection_bypasses system _

/-! ## What the peer lets go -/

theorem releases_bypasses {after : System} (releases : system.Releases after) :
    Bypasses system after := by
  cases releases with
  | nothing => exact .refl system
  | promise => exact (Bypasses.withPeer system _).trans (.settle _ _ _)

end System

end LanguageClient.Client
