import LanguageClient.Proofs.Resuming

/-!
# Deeds of a client

What a client does about documents: it announces them, changes them, asks about them and retracts
them, and keeps the registers of its workspaces. All that the operations of the client do beside is
an aside, and a run of an operation is a word of deeds with asides between them.
-/

namespace LanguageClient.Client

open LanguageClient.Json LanguageClient.Loop LanguageClient.Protocol

/-- The methods of the frames that concern a document. -/
def documentMethods : List String :=
  [Method.didOpen, Method.didChange, Method.didClose, Method.hover, Method.completion]

/-- The methods of the frames that ask about a document. -/
def queryMethods : List String := [Method.hover, Method.completion]

/-- Whether a frame concerns a document. -/
def concernsDocument (frame : Value) : Bool :=
  match methodOf? frame with
  | none => false
  | some method => documentMethods.contains method

theorem concernsDocument_notification
    {method : String} (params : Option Value) (isDocument : method ∈ documentMethods) :
    concernsDocument (notificationMessage method params) = true := by
  simpa [concernsDocument, methodOf?_notificationMessage] using isDocument

theorem concernsDocument_request
    {method : String} (id : String) (params : Option Value) (isDocument : method ∈ documentMethods) :
    concernsDocument (requestMessage id method params) = true := by
  simpa [concernsDocument, methodOf?_requestMessage] using isDocument

/-- The frame about a document that is handed to a connection. -/
def Occurrence.documentFrame? : Occurrence → Option Value
  | .handed _ frame => if concernsDocument frame then some frame else none
  | _ => none

/-- Something that is done about documents. A handle is known by its number. -/
inductive Deed where
  /-- A new handle is registered and its document is announced. -/
  | announce (file : Nat)
  /-- Whatever is registered under a uri is withdrawn because an announcement did not succeed. -/
  | withdraw (workspace : Nat) (uri : String)
  /-- A change is handed over through a handle that is open. -/
  | change (file : Nat)
  /-- A handle that is open is withdrawn and the end of its document is announced. -/
  | retract (file : Nat)
  /-- A handle that is open is withdrawn while nothing can be written. -/
  | forget (file : Nat)
  /-- A query is handed over. -/
  | ask
  /-- All handles of a workspace are withdrawn and its session is closed. -/
  | clear (workspace : Nat)
  deriving DecidableEq, Repr

/-- The frames that a deed hands to a connection. -/
def Deed.Hands : Deed → List Value → Prop
  | .announce _, frames => ∃ frame, frames = [frame] ∧ methodOf? frame = some Method.didOpen
  | .change _, frames => ∃ frame, frames = [frame] ∧ methodOf? frame = some Method.didChange
  | .retract _, frames => ∃ frame, frames = [frame] ∧ methodOf? frame = some Method.didClose
  | .ask, frames => ∃ frame method, frames = [frame] ∧ methodOf? frame = some method ∧
      method ∈ queryMethods
  | .withdraw _ _, frames | .forget _, frames | .clear _, frames => frames = []

namespace System

/-- The frames about documents that were handed to connections, in order. -/
def wire (system : System) : List Value := system.journal.filterMap Occurrence.documentFrame?

/-- The connection over which a workspace can write, unless its session is closed. -/
def openLink? (system : System) (workspace : Nat) : Option Nat :=
  (system.workspaces[workspace]?).bind fun found =>
    (system.sessions[found.session]?).bind fun session =>
      if session.closed then none else some session.link

/-- Withdraws all handles of a workspace and closes its session. -/
def clearWorkspace (system : System) (workspace session : Nat) : System :=
  (system.modifyWorkspace workspace fun found => { found with openFiles := [] }).modifySession
    session fun found => { found with closed := true }

/-- Nothing is done about documents. Handles and workspaces may be new, but a new workspace has no
documents, and sessions may end. -/
structure Aside (before after : System) : Prop where
  wire : after.wire = before.wire
  workspaces : ∀ (workspace : Nat) (found : Workspace), before.workspaces[workspace]? = some found →
    after.workspaces[workspace]? = some found
  newWorkspaces : ∀ (workspace : Nat) (found : Workspace), before.workspaces.length ≤ workspace →
    after.workspaces[workspace]? = some found → found.openFiles = []
  files : ∀ (file : Nat) (found : OpenFile), before.files[file]? = some found →
    after.files[file]? = some found
  sessions : ∀ (session : Nat) (found : Session), before.sessions[session]? = some found →
    ∃ later : Session, after.sessions[session]? = some later ∧ later.link = found.link ∧
      (found.closed = true → later.closed = true)
  synchronizers : after.synchronizers.length = before.synchronizers.length

/-- One deed. Only a handle that is open is used, and only while its session is open is anything
handed over through it. -/
inductive Performs (system : System) : Deed → System → Prop where
  | announce (file : OpenFile) (link : Nat) (text : String)
      (free : system.openFile? file.workspace file.uri = none)
      (writable : system.openLink? file.workspace = some link) :
    Performs system (.announce system.files.length)
      ((system.addFile file).note (.handed link (notificationMessage Method.didOpen
        (some (didOpenParams file.uri file.languageId text)))))
  | withdraw (workspace : Nat) (uri : String) :
    Performs system (.withdraw workspace uri) (system.unregister workspace uri)
  | change (file : Nat) (found : OpenFile) (link : Nat) (version : Int) (text : String)
      (known : system.files[file]? = some found) (isOpen : system.isOpen file = true)
      (writable : system.openLink? found.workspace = some link) :
    Performs system (.change file)
      (system.note (.handed link (notificationMessage Method.didChange
        (some (didChangeParams found.uri version text)))))
  | retract (file : Nat) (found : OpenFile) (link : Nat) (known : system.files[file]? = some found)
      (isOpen : system.isOpen file = true)
      (writable : system.openLink? found.workspace = some link) :
    Performs system (.retract file)
      ((system.unregister found.workspace found.uri).note (.handed link
        (notificationMessage Method.didClose (some (didCloseParams found.uri)))))
  | forget (file : Nat) (found : OpenFile) (known : system.files[file]? = some found)
      (isOpen : system.isOpen file = true) (unwritable : system.openLink? found.workspace = none) :
    Performs system (.forget file) (system.unregister found.workspace found.uri)
  | ask (link : Nat) (id method : String) (params : Option Value)
      (isQuery : method ∈ queryMethods) :
    Performs system .ask (system.note (.handed link (requestMessage id method params)))
  | clear (workspace : Nat) (found : Workspace)
      (known : system.workspaces[workspace]? = some found) :
    Performs system (.clear workspace) (system.clearWorkspace workspace found.session)

/-- A word of deeds, one after the other, with asides between them. -/
inductive Does : System → List Deed → System → Prop where
  | aside {before after : System} (aside : Aside before after) : Does before [] after
  | perform {before here there after : System} {deed : Deed} {deeds : List Deed}
      (aside : Aside before here) (performs : Performs here deed there)
      (rest : Does there deeds after) : Does before (deed :: deeds) after

/-! ## Asides -/

theorem wire_note (system : System) (occurrence : Occurrence) :
    (system.note occurrence).wire = system.wire ++ occurrence.documentFrame?.toList := by
  unfold System.wire System.note
  rw [List.filterMap_append]
  cases noted : occurrence.documentFrame? with
  | none => simp [noted]
  | some frame => simp [noted]

theorem wire_handed
    {frame : Value} (system : System) (link : Nat) (concerns : concernsDocument frame = true) :
    (system.note (.handed link frame)).wire = system.wire ++ [frame] := by
  rw [wire_note]
  simp [Occurrence.documentFrame?, concerns]

namespace Aside

variable {before middle after system : System}

theorem of_same
    (wire : after.wire = before.wire) (workspaces : after.workspaces = before.workspaces)
    (files : after.files = before.files) (sessions : after.sessions = before.sessions)
    (synchronizers : after.synchronizers.length = before.synchronizers.length) :
    Aside before after where
  wire
  workspaces := fun workspace found known => by rw [workspaces, known]
  newWorkspaces := fun workspace found isNew known => by
    rw [workspaces, List.getElem?_eq_none isNew] at known
    cases known
  files := fun file found known => by rw [files, known]
  sessions := fun session found known => ⟨found, by rw [sessions, known], rfl, id⟩
  synchronizers

theorem refl (system : System) : Aside system system := .of_same rfl rfl rfl rfl rfl

theorem trans (first : Aside before middle) (second : Aside middle after) : Aside before after where
  wire := second.wire.trans first.wire
  workspaces := fun workspace found known =>
    second.workspaces workspace found (first.workspaces workspace found known)
  newWorkspaces := fun workspace found isNew known => by
    by_cases between : workspace < middle.workspaces.length
    · have middleKnown : middle.workspaces[workspace]? = some middle.workspaces[workspace] :=
        List.getElem?_eq_getElem between
      have kept := second.workspaces workspace _ middleKnown
      rw [known] at kept
      rw [Option.some.inj kept]
      exact first.newWorkspaces workspace _ isNew middleKnown
    · exact second.newWorkspaces workspace found (Nat.le_of_not_lt between) known
  files := fun file found known => second.files file found (first.files file found known)
  sessions := fun session found known => by
    obtain ⟨between, betweenKnown, sameLink, closes⟩ := first.sessions session found known
    obtain ⟨later, laterKnown, laterLink, laterCloses⟩ :=
      second.sessions session between betweenKnown
    exact ⟨later, laterKnown, laterLink.trans sameLink, laterCloses ∘ closes⟩
  synchronizers := second.synchronizers.trans first.synchronizers

theorem note
    {occurrence : Occurrence} (system : System) (foreign : occurrence.documentFrame? = none) :
    Aside system (system.note occurrence) := by
  refine .of_same ?_ rfl rfl rfl rfl
  rw [wire_note, foreign]
  exact List.append_nil _

theorem onLoop (system : System) (change : ClientLoop → ClientLoop) :
    Aside system (system.onLoop change) :=
  .of_same rfl rfl rfl rfl rfl

theorem holdBack (system : System) : Aside system system.holdBack := .of_same rfl rfl rfl rfl rfl

theorem modifySession
    {session : Nat} {change : Session → Session} (system : System)
    (link : ∀ found, (change found).link = found.link)
    (closes : ∀ found : Session, found.closed = true → (change found).closed = true) :
    Aside system (system.modifySession session change) where
  wire := rfl
  workspaces := fun _ _ known => known
  newWorkspaces := fun _ _ isNew known =>
    absurd (List.getElem?_eq_some_iff.mp known).1 (Nat.not_lt.mpr isNew)
  files := fun _ _ known => known
  sessions := fun other found known => by
    by_cases same : session = other
    · exact ⟨change found, by simp [System.modifySession, same, known], link found, closes found⟩
    · exact ⟨found, by simp [System.modifySession, same, known], rfl, id⟩
  synchronizers := rfl

theorem addSession (system : System) (link : Nat) (timeout : Number.Quantity) :
    Aside system (system.addSession link timeout) where
  wire := rfl
  workspaces := fun _ _ known => known
  newWorkspaces := fun _ _ isNew known =>
    absurd (List.getElem?_eq_some_iff.mp known).1 (Nat.not_lt.mpr isNew)
  files := fun _ _ known => known
  sessions := fun session found known => by
    have inside : session < system.sessions.length := (List.getElem?_eq_some_iff.mp known).1
    refine ⟨found, ?_, rfl, id⟩
    simp only [System.addSession]
    rw [List.getElem?_append_left inside, known]
  synchronizers := rfl

theorem addWorkspace (system : System) (session : Nat) (result : InitializeResult) :
    Aside system (system.addWorkspace session result) := by
  have added : Aside system { system with workspaces := system.workspaces ++ [{
      session, capabilities := result.capabilities, serverInfo := result.serverInfo }] } := {
    wire := rfl
    workspaces := fun workspace found known => by
      have inside := (List.getElem?_eq_some_iff.mp known).1
      simp only
      rw [List.getElem?_append_left inside, known]
    newWorkspaces := fun workspace found isNew known => by
      simp only at known
      rw [List.getElem?_append_right isNew] at known
      rw [List.mem_singleton.mp (List.mem_of_getElem? known)]
    files := fun _ _ known => known
    sessions := fun session found known => ⟨found, known, rfl, id⟩
    synchronizers := rfl }
  exact added.trans (modifySession _ (fun _ => rfl) fun _ => id)

/-- A handle that was never registered is known from then on and nothing else. -/
theorem addHandle (system : System) (file : OpenFile) :
    Aside system { system with files := system.files ++ [file] } where
  wire := rfl
  workspaces := fun _ _ known => known
  newWorkspaces := fun _ _ isNew known =>
    absurd (List.getElem?_eq_some_iff.mp known).1 (Nat.not_lt.mpr isNew)
  files := fun place found known => by
    have inside := (List.getElem?_eq_some_iff.mp known).1
    simp only
    rw [List.getElem?_append_left inside, known]
  sessions := fun session found known => ⟨found, known, rfl, id⟩
  synchronizers := rfl

end Aside

theorem Performs.wire
    {before after : System} {deed : Deed} (performs : Performs before deed after) :
    ∃ frames, deed.Hands frames ∧ after.wire = before.wire ++ frames := by
  have unchanged : before.wire = before.wire ++ [] := (List.append_nil _).symm
  cases performs with
  | announce new link text free writable =>
      have wire := (before.addFile new).wire_handed link (concernsDocument_notification
        (some (didOpenParams new.uri new.languageId text))
        (by decide : Method.didOpen ∈ documentMethods))
      exact ⟨_, ⟨_, rfl, methodOf?_notificationMessage Method.didOpen _⟩, wire⟩
  | withdraw owner withdrawn => exact ⟨[], rfl, unchanged⟩
  | change changed found link version text known isOpen writable =>
      have wire := before.wire_handed link (concernsDocument_notification
        (some (didChangeParams found.uri version text))
        (by decide : Method.didChange ∈ documentMethods))
      exact ⟨_, ⟨_, rfl, methodOf?_notificationMessage Method.didChange _⟩, wire⟩
  | retract retracted found link known isOpen writable =>
      have wire := (before.unregister found.workspace found.uri).wire_handed link
        (concernsDocument_notification (some (didCloseParams found.uri))
          (by decide : Method.didClose ∈ documentMethods))
      exact ⟨_, ⟨_, rfl, methodOf?_notificationMessage Method.didClose _⟩, wire⟩
  | forget forgotten found known isOpen unwritable => exact ⟨[], rfl, unchanged⟩
  | ask link id method params isQuery =>
      have isDocument : method ∈ documentMethods := by
        simp only [queryMethods, List.mem_cons, List.not_mem_nil, or_false] at isQuery
        rcases isQuery with rfl | rfl
        · decide
        · decide
      have wire := before.wire_handed link (concernsDocument_request id params isDocument)
      exact ⟨_, ⟨_, method, rfl, methodOf?_requestMessage id method params, isQuery⟩, wire⟩
  | clear cleared found known => exact ⟨[], rfl, unchanged⟩

/-! ## Words of deeds -/

namespace Does

variable {before middle after : System} {deed : Deed} {deeds more : List Deed}

theorem refl (system : System) : Does system [] system := .aside (.refl system)

theorem of_aside_left (aside : Aside before middle) (does : Does middle deeds after) :
    Does before deeds after := by
  cases does with
  | aside quiet => exact .aside (aside.trans quiet)
  | perform quiet performs rest => exact .perform (aside.trans quiet) performs rest

theorem trans (first : Does before deeds middle) (second : Does middle more after) :
    Does before (deeds ++ more) after := by
  induction first with
  | aside quiet => exact second.of_aside_left quiet
  | perform quiet performs rest inductionHypothesis =>
      exact .perform quiet performs (inductionHypothesis second)

theorem one (performs : Performs before deed after) : Does before [deed] after :=
  .perform (.refl before) performs (.refl after)

theorem of_nil (does : Does before [] after) : Aside before after := by
  cases does with
  | aside quiet => exact quiet

theorem of_cons (does : Does before (deed :: deeds) after) :
    ∃ here there, Aside before here ∧ Performs here deed there ∧ Does there deeds after := by
  cases does with
  | perform quiet performs rest => exact ⟨_, _, quiet, performs, rest⟩

/-- Whatever was handed over stays. -/
theorem wire (does : Does before deeds after) : ∃ frames, after.wire = before.wire ++ frames := by
  induction does with
  | aside quiet => exact ⟨[], by rw [quiet.wire, List.append_nil]⟩
  | perform quiet performs rest inductionHypothesis =>
      obtain ⟨first, _, handed⟩ := performs.wire
      obtain ⟨more, later⟩ := inductionHypothesis
      exact ⟨first ++ more, by rw [later, handed, quiet.wire, List.append_assoc]⟩

/-- What asides and deeds of some kind keep is kept by words of such deeds. -/
theorem induction
    {invariant : System → Prop} {allowed : Deed → Prop}
    (quiet : ∀ before after, Aside before after → invariant before → invariant after)
    (performs : ∀ before deed after, Performs before deed after → allowed deed →
      invariant before → invariant after)
    (does : Does before deeds after) (within : ∀ deed ∈ deeds, allowed deed)
    (holds : invariant before) :
    invariant after := by
  induction does with
  | aside aside => exact quiet _ _ aside holds
  | perform aside performed rest inductionHypothesis =>
      have done := performs _ _ _ performed (within _ List.mem_cons_self)
        (quiet _ _ aside holds)
      exact inductionHypothesis
        (fun deed member => within deed (List.mem_cons_of_mem _ member)) done

end Does

theorem filter_of_lookup_eq_none
    {entries : List (String × Nat)} {uri : String} (free : entries.lookup uri = none) :
    entries.filter (fun entry => entry.1 ≠ uri) = entries := by
  rw [List.filter_eq_self]
  intro entry member
  have different : (uri == entry.1) = false := by
    simpa using List.lookup_eq_none_iff.mp free entry member
  have distinct : entry.1 ≠ uri := fun same => by simp [same] at different
  exact decide_eq_true distinct

/-- A handle whose announcement could not even be handed over is left behind, and nothing else. -/
theorem addFile_unregister
    {system : System} {file : OpenFile} (free : system.openFile? file.workspace file.uri = none) :
    (system.addFile file).unregister file.workspace file.uri =
      { system with files := system.files ++ [file] } := by
  simp only [addFile, unregister, modifyWorkspace, System.mk.injEq, true_and, and_true]
  apply List.ext_getElem?
  intro place
  simp only [List.getElem?_modify]
  cases known : system.workspaces[place]? with
  | none => rfl
  | some found =>
      by_cases same : file.workspace = place
      · have unregistered : found.openFiles.lookup file.uri = none := by
          simpa [openFile?, same, known] using free
        have kept := filter_of_lookup_eq_none unregistered
        simp only [ne_eq, decide_not] at kept
        simp [same, kept]
      · simp [same]

end System

end LanguageClient.Client
