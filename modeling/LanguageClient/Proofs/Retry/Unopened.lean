import LanguageClient.Proofs.Editor.Flushes
import LanguageClient.Proofs.Editor.Positions
import LanguageClient.Proofs.Retry.Bypass

/-!
# Editors without an open document

As long as the document of an editor is not open, the editor and its synchronizer are as they were
created, apart from the text, and no session is open but the one of a start that is under way. The
creation of a workspace opens a session and closes it again if the handshake does not succeed.
-/

namespace LanguageClient.Client

open LanguageClient.Json LanguageClient.Loop LanguageClient.Number LanguageClient.Protocol

/-- The document of an editor is not open. The editor may have a workspace, and one session may be
alive. -/
structure Unopened
    (setup : EditorSetup) (workspace alive : Option Nat) (system : System) : Prop where
  synchronizer : ∃ text dirty,
    system.synchronizers = [{ setup.view.synchronizer with text, dirty }]
  editor : ∃ unreachable,
    system.editors.map Editor.unshown = [{ setup.editor with workspace, unreachable }]
  sessions : ∀ (session : Nat) (found : Session), system.sessions[session]? = some found →
    found.closed = false → alive = some session
  known : ∀ session, alive = some session → session < system.sessions.length
  timers : system.loop.Avoids Action.IsDebounce

namespace Unopened

variable {setup : EditorSetup} {workspace alive : Option Nat} {before after system : System}

/-- A session that is open later was open before. -/
theorem opened_of_bypasses
    {session : Nat} {found : Session} (bypasses : Bypasses before after)
    (entry : after.sessions[session]? = some found) (isOpen : found.closed = false) :
    ∃ earlier : Session, before.sessions[session]? = some earlier ∧ earlier.closed = false := by
  have inside : session < before.sessions.length :=
    bypasses.sessions ▸ (List.getElem?_eq_some_iff.mp entry).1
  refine ⟨before.sessions[session], List.getElem?_eq_getElem inside, ?_⟩
  cases isClosed : before.sessions[session].closed with
  | false => rfl
  | true =>
      obtain ⟨later, laterEntry, stillClosed⟩ :=
        bypasses.closed session _ (List.getElem?_eq_getElem inside) isClosed
      rw [Option.some.inj (laterEntry.symm.trans entry), isOpen] at stillClosed
      cases stillClosed

theorem of_bypasses (unopened : Unopened setup workspace alive before)
    (bypasses : Bypasses before after) : Unopened setup workspace alive after where
  synchronizer := bypasses.synchronizers ▸ unopened.synchronizer
  editor := bypasses.editors ▸ unopened.editor
  sessions := fun session _ entry isOpen => by
    obtain ⟨earlier, earlierEntry, wasOpen⟩ := opened_of_bypasses bypasses entry isOpen
    exact unopened.sessions session earlier earlierEntry wasOpen
  known := bypasses.sessions ▸ unopened.known
  timers := bypasses.timers unopened.timers

/-- The session that was alive is closed. -/
theorem of_closed
    {session : Nat} {found : Session} (unopened : Unopened setup workspace (some session) system)
    (entry : system.sessions[session]? = some found) (isClosed : found.closed = true) :
    Unopened setup workspace none system where
  synchronizer := unopened.synchronizer
  editor := unopened.editor
  sessions := fun other state otherEntry isOpen => by
    obtain rfl : session = other := Option.some.inj (unopened.sessions other state otherEntry isOpen)
    rw [Option.some.inj (otherEntry.symm.trans entry), isClosed] at isOpen
    cases isOpen
  known := nofun
  timers := unopened.timers

/-- The editor that there is. -/
theorem editors_eq (unopened : Unopened setup workspace alive system) :
    ∃ found : Editor, system.editors = [found] ∧ found.synchronizer = 0 ∧
      found.workspace = workspace ∧ found.documentUri = setup.options.documentUri ∧
      found.languageId = setup.options.languageId := by
  obtain ⟨unreachable, only⟩ := unopened.editor
  obtain ⟨found, isOnly, same⟩ := List.map_eq_singleton_iff.mp only
  refine ⟨found, isOnly, ?_, ?_, ?_, ?_⟩
  · exact congrArg Editor.synchronizer same
  · exact congrArg Editor.workspace same
  · exact congrArg Editor.documentUri same
  · exact congrArg Editor.languageId same

theorem isReady_eq (unopened : Unopened setup workspace alive system) :
    system.isReady 0 = false := by
  obtain ⟨text, dirty, only⟩ := unopened.synchronizer
  simp [System.isReady, only, EditorSetup.view]

/-- The editor gets another workspace. -/
theorem modifyEditor (unopened : Unopened setup workspace alive system) (other : Option Nat) :
    Unopened setup other alive
      (system.modifyEditor 0 fun found => { found with workspace := other }) := by
  obtain ⟨unreachable, only⟩ := unopened.editor
  obtain ⟨found, isOnly, same⟩ := List.map_eq_singleton_iff.mp only
  refine { unopened with editor := ⟨unreachable, ?_⟩ }
  have replaced : ({ found with workspace := other } : Editor).unshown =
      { found.unshown with workspace := other } := rfl
  simp only [System.modifyEditor, isOnly, List.modify_zero_cons, List.map_cons, List.map_nil,
    replaced, same]

/-- The frames that are handed over do not matter. -/
theorem note (unopened : Unopened setup workspace alive system) (occurrence : Occurrence) :
    Unopened setup workspace alive (system.note occurrence) :=
  { unopened with }

end Unopened

namespace System

variable {setup : EditorSetup} {system : System} {workspace : Option Nat} {session : Nat}

theorem documentText_of_bypasses {before after : System} (bypasses : Bypasses before after) :
    after.documentText = before.documentText := by
  unfold documentText
  rw [bypasses.synchronizers]

/-! ## Closing -/

/-- A connection is closed at once, or somebody waits for it. -/
theorem closeLink_cases (system : System) (link : Nat) :
    (∃ later outcome, outcome ≠ .cancelled ∧
      system.closeLink link = (later, .ended outcome)) ∨
    ∃ later promise, later.IsFresh promise ∧
      system.closeLink link = (later, .suspended [] promise) := by
  unfold closeLink
  simp only
  split
  · right
    generalize ({ system.note (.closedLink link) with links := _ } : System) = closed
    have fresh (peer : Peer) :
        ({ closed.addPromise with peer } : System).IsFresh closed.nextPromise :=
      closed.addPromise_isFresh.of_promises _ rfl
    exact ⟨_, _, fresh _, await_of_unsettled (fresh _).unsettled⟩
  · left
    split
    · exact ⟨_, _, by simp, rfl⟩
    · exact ⟨_, _, by simp, rfl⟩

/-- The session that was alive is closed, and nothing else happens. -/
theorem closeSession_unopened (unopened : Unopened setup workspace (some session) system) :
    ∃ later, Bypasses system later ∧ Unopened setup workspace none later ∧
      (system.closeSession session = (later, .ended (.returned .nothing)) ∨
        ∃ promise, later.IsFresh promise ∧
          system.closeSession session = (later, .suspended [.closingLink] promise)) := by
  have inside := unopened.known session rfl
  have entry : system.sessions[session]? = some system.sessions[session] :=
    List.getElem?_eq_getElem inside
  unfold closeSession
  simp only [entry]
  split
  · rename_i isClosed
    exact ⟨system, .refl system, unopened.of_closed entry isClosed, Or.inl rfl⟩
  · generalize endedEq : System.onLoop ((system.modifySession session _).abandonRequests session
      .closed) _ = ended
    have shut : Bypasses system
        (system.modifySession session fun found => { found with closed := true }) :=
      .modifySession system session fun _ _ => rfl
    have whole : Bypasses
        (system.modifySession session fun found => { found with closed := true }) ended := by
      rw [← endedEq]
      refine (abandonRequests_bypasses _ session .closed).trans (.onLoop _ fun avoids => ?_)
      exact List.foldlRecOn _ _ avoids fun _ avoids task _ => avoids.cancel task
    have toEnd : Bypasses ended (ended.closeLink system.sessions[session].link).1 :=
      (closeLink_bypasses ended _).bypasses
    have shutEntry : (system.modifySession session fun found =>
        { found with closed := true }).sessions[session]? =
          some { system.sessions[session] with closed := true } := by
      simp [modifySession, entry]
    obtain ⟨found, laterEntry, isClosed⟩ :=
      (whole.trans toEnd).closed session _ shutEntry rfl
    have bypasses := shut.trans (whole.trans toEnd)
    have closed := (unopened.of_bypasses bypasses).of_closed laterEntry isClosed
    rcases closeLink_cases ended system.sessions[session].link with
      ⟨later, outcome, uncancelled, result⟩ | ⟨later, promise, fresh, result⟩
    · rw [result] at bypasses closed ⊢
      refine ⟨later, bypasses, closed, Or.inl ?_⟩
      cases outcome with
      | returned reply => rfl
      | failed failure => rfl
      | cancelled => exact (uncancelled rfl).elim
    · rw [result] at bypasses closed ⊢
      exact ⟨later, bypasses, closed, Or.inr ⟨promise, fresh, rfl⟩⟩

end System

/-! ## The creation of a workspace -/

/-- Where the creation of a workspace is suspended. Nothing has been written about the document since
the start began. -/
inductive Creating (setup : EditorSetup) (wire : List Value) (system : System) :
    List Frame → Prop where
  | asks (frames : List Frame) (session : Nat) (serverUri : String)
      (foreign : ∀ frame ∈ frames, frame.IsForeign)
      (unopened : Unopened setup none (some session) system) (silent : system.wire = wire) :
    Creating setup wire system (frames ++ [.handshaking session serverUri])
  | confirms (frames : List Frame) (session : Nat) (serverUri : String) (result : InitializeResult)
      (foreign : ∀ frame ∈ frames, frame.IsForeign)
      (unopened : Unopened setup none (some session) system) (silent : system.wire = wire) :
    Creating setup wire system (frames ++ [.confirming session serverUri result])
  | leaves (ending : Outcome Reply) (unreturned : ∀ reply, ending ≠ .returned reply)
      (unopened : Unopened setup none none system) :
    Creating setup wire system [.closingLink, .abandoningHandshake ending]

/-- The workspace of an editor is there, and its session is alive. -/
structure Welcomes (setup : EditorSetup) (workspace session : Nat) (system : System) : Prop where
  unopened : Unopened setup (some workspace) (some session) system
  owner : (system.workspaces.map (·.session))[workspace]? = some session

/-- How far a step gets with the creation of a workspace. -/
inductive Step.Creates (setup : EditorSetup) (wire : List Value) (before : System) : Step → Prop where
  | fails (later : System) (ending : Outcome Reply) (unreturned : ∀ reply, ending ≠ .returned reply)
      (unopened : Unopened setup none none later) : Step.Creates setup wire before (later, .ended ending)
  | succeeds (later : System) (workspace session : Nat)
      (unopened : Unopened setup none (some session) later)
      (owner : (later.workspaces.map (·.session))[workspace]? = some session)
      (silent : later.wire = wire) (text : later.documentText = before.documentText)
      (grown : later.workspaces.length = before.workspaces.length + 1) :
    Step.Creates setup wire before (later, .ended (.returned (.workspace workspace)))
  | waits (later : System) (frames : List Frame) (promise : Nat)
      (creating : Creating setup wire later frames) :
    Step.Creates setup wire before (later, .suspended frames promise)

section Creation

variable {setup : EditorSetup} {wire : List Value} {before system : System} {session : Nat}
  {step : Step} {ending : Outcome Reply}

theorem Bypasses.workspaces_length (bypasses : Bypasses before system) :
    system.workspaces.length = before.workspaces.length := by
  simpa using congrArg List.length bypasses.workspaces

theorem Step.Creates.after
    (creates : step.Creates setup wire system) (text : system.documentText = before.documentText)
    (size : system.workspaces.length = before.workspaces.length) :
    step.Creates setup wire before := by
  cases creates with
  | fails later ending unreturned unopened => exact .fails later ending unreturned unopened
  | succeeds later workspace session unopened owner silent sameText grown =>
      exact .succeeds later workspace session unopened owner silent (sameText.trans text)
        (size ▸ grown)
  | waits later frames promise creating => exact .waits later frames promise creating

/-- What comes before has nothing to do with a document. -/
theorem Step.Bypasses.creates
    {frame : Frame} {rest : System → Outcome Reply → Step} (first : step.Bypasses system)
    (waits : ∀ later frames, Client.Bypasses system later → (∀ other ∈ frames, other.IsForeign) →
      Creating setup wire later (frames ++ [frame]))
    (second : ∀ later outcome, Client.Bypasses system later →
      (rest later outcome).Creates setup wire later) :
    (step.andThen frame rest).Creates setup wire system := by
  obtain ⟨later, outcome | ⟨frames, promise⟩⟩ := step
  · exact (second later outcome first.bypasses).after
      (System.documentText_of_bypasses first.bypasses) first.bypasses.workspaces_length
  · exact .waits later _ promise (waits later frames first.bypasses first.frames)

theorem abandonHandshake_creates
    (unopened : Unopened setup none (some session) system)
    (unreturned : ∀ reply, ending ≠ .returned reply) (serverUri : String) :
    (system.abandonHandshake session serverUri ending).Creates setup wire before := by
  have logged := unopened.of_bypasses (System.log_bypasses system .error .workspace
    ("initialize failed for " ++ serverUri ++ ": " ++ endingText ending))
  unfold System.abandonHandshake
  simp only
  obtain ⟨later, _, closed, result | ⟨promise, _, result⟩⟩ := System.closeSession_unopened logged
  · rw [result]
    exact .fails later ending unreturned closed
  · rw [result]
    exact .waits later _ promise (.leaves ending unreturned closed)

theorem addWorkspace_creates
    (unopened : Unopened setup none (some session) system) (silent : system.wire = wire)
    (result : InitializeResult) :
    Step.Creates setup wire system
      (system.addWorkspace session result, .ended (.returned (.workspace system.workspaces.length))) := by
  have heard : Bypasses { system with workspaces := system.workspaces ++ [{
      session, capabilities := result.capabilities, serverInfo := result.serverInfo }] }
      (system.addWorkspace session result) :=
    .modifySession _ session fun _ => id
  have added : Unopened setup none (some session) { system with
      workspaces := system.workspaces ++ [{
        session, capabilities := result.capabilities, serverInfo := result.serverInfo }] } :=
    { unopened with }
  refine .succeeds _ _ session (added.of_bypasses heard) ?_ (heard.wire.trans silent)
    (System.documentText_of_bypasses heard :) ?_
  · rw [heard.workspaces, List.map_append, List.getElem?_append_right (by simp)]
    simp
  · rw [heard.workspaces_length]
    simp

theorem resumeConfirming_creates
    (unopened : Unopened setup none (some session) system) (silent : system.wire = wire)
    (serverUri : String) (result : InitializeResult) (outcome : Outcome Reply) :
    (System.resumeConfirming session serverUri result system outcome).Creates setup wire system := by
  cases outcome with
  | returned reply => exact addWorkspace_creates unopened silent result
  | failed failure => exact abandonHandshake_creates unopened (by simp) serverUri
  | cancelled => exact abandonHandshake_creates unopened (by simp) serverUri

theorem handshakeDone_foreign : Method.handshakeDone ∉ documentMethods := by decide

theorem resumeHandshaking_creates
    (unopened : Unopened setup none (some session) system) (silent : system.wire = wire)
    (serverUri : String) (outcome : Outcome Reply) :
    (System.resumeHandshaking session serverUri system outcome).Creates setup wire system := by
  unfold System.resumeHandshaking
  split
  · split
    · exact abandonHandshake_creates unopened (by simp) serverUri
    · rename_i result _
      refine (System.notify_bypasses system session _ handshakeDone_foreign).creates ?_ ?_
      · exact fun later frames bypasses foreign => .confirms frames session serverUri result foreign
          (unopened.of_bypasses bypasses) (bypasses.wire.trans silent)
      · exact fun later ending bypasses => resumeConfirming_creates (unopened.of_bypasses bypasses)
          (bypasses.wire.trans silent) serverUri result ending
  · exact abandonHandshake_creates unopened (by simp) serverUri
  · exact abandonHandshake_creates unopened (by simp) serverUri
  · exact abandonHandshake_creates unopened (by simp) serverUri

/-- A new session is alive. -/
theorem Unopened.addSession
    (unopened : Unopened setup none none system) (link : Nat) (timeout : Quantity) :
    Unopened setup none (some system.sessions.length) (system.addSession link timeout) where
  synchronizer := unopened.synchronizer
  editor := unopened.editor
  sessions := fun other found entry isOpen => by
    have added : (system.sessions ++ [{ link, defaultTimeout := timeout }])[other]? = some found :=
      entry
    rcases Nat.lt_or_ge other system.sessions.length with inside | isNew
    · rw [List.getElem?_append_left inside] at added
      cases unopened.sessions other found added isOpen
    · have bound := (List.getElem?_eq_some_iff.mp entry).1
      simp only [System.addSession, List.length_append, List.length_singleton] at bound
      rw [Nat.le_antisymm (Nat.lt_succ_iff.mp bound) isNew]
  known := fun other same => by
    rw [← Option.some.inj same]
    simp [System.addSession]
  timers := unopened.timers

theorem connect_bypasses (system : System) : Bypasses system system.connect.1 := by
  unfold System.connect
  split
  · exact .refl system
  · exact .of_same rfl rfl rfl rfl rfl id

theorem handshake_foreign : Method.handshake ∉ documentMethods := by decide

theorem createWorkspace_creates
    (unopened : Unopened setup none none system) (silent : system.wire = wire)
    (request : WorkspaceRequest) :
    (system.createWorkspace request).Creates setup wire system := by
  have dialled : Bypasses system (system.note (.dialled request.serverUri)) := .note system rfl
  unfold System.createWorkspace
  simp only
  generalize system.note (.dialled request.serverUri) = noted at dialled ⊢
  split
  · exact .fails noted _ (by simp) (unopened.of_bypasses dialled)
  · have connected := dialled.trans (connect_bypasses noted)
    have sessions : noted.connect.1.sessions = noted.sessions := by
      unfold System.connect
      split <;> rfl
    generalize noted.connect = connection at connected sessions ⊢
    obtain ⟨current, link⟩ := connection
    have welcome := (unopened.of_bypasses connected).addSession link request.timeout
    have heard : (current.addSession link request.timeout).wire = wire :=
      connected.wire.trans silent
    rw [sessions] at welcome
    refine ((System.request_bypasses (current.addSession link request.timeout)
      noted.sessions.length _ _ handshake_foreign).creates ?_ ?_).after
        (System.documentText_of_bypasses connected :) connected.workspaces_length
    · exact fun later frames bypasses foreign => .asks frames noted.sessions.length _ foreign
        (welcome.of_bypasses bypasses) (bypasses.wire.trans heard)
    · exact fun later outcome bypasses => resumeHandshaking_creates (welcome.of_bypasses bypasses)
        (bypasses.wire.trans heard) request.serverUri outcome

/-- The creation of a workspace goes on. -/
theorem Creating.resumes
    {frames : List Frame} (creating : Creating setup wire system frames) (outcome : Outcome Reply) :
    (system.resumeStack outcome frames).Creates setup wire system := by
  cases creating with
  | asks inner session serverUri foreign unopened silent =>
      rw [System.resumeStack_concat]
      refine (System.resumeStack_bypasses system foreign outcome).creates ?_ ?_
      · exact fun later frames bypasses areForeign => .asks frames session serverUri areForeign
          (unopened.of_bypasses bypasses) (bypasses.wire.trans silent)
      · exact fun later ending bypasses => resumeHandshaking_creates (unopened.of_bypasses bypasses)
          (bypasses.wire.trans silent) serverUri ending
  | confirms inner session serverUri result foreign unopened silent =>
      rw [System.resumeStack_concat]
      refine (System.resumeStack_bypasses system foreign outcome).creates ?_ ?_
      · exact fun later frames bypasses areForeign => .confirms frames session serverUri result
          areForeign (unopened.of_bypasses bypasses) (bypasses.wire.trans silent)
      · exact fun later ending bypasses => resumeConfirming_creates (unopened.of_bypasses bypasses)
          (bypasses.wire.trans silent) serverUri result ending
  | leaves ending unreturned unopened =>
      rw [System.resumeStack_pair]
      cases outcome with
      | returned reply => exact .fails system ending unreturned unopened
      | failed failure => exact .fails system ending unreturned unopened
      | cancelled => exact .fails system .cancelled (by simp) unopened

end Creation

end LanguageClient.Client
