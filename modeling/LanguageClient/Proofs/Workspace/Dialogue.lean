import LanguageClient.Proofs.Workspace.Turns

/-!
# The dialogue about a document

The frames about one document, with the handles through which they are handed to a connection, come in
groups: an opening, changes, and a closing, all through one handle. The register of the workspace holds
the handle of the group that is not finished yet, until the session is closed and nothing more is
said.
-/

namespace LanguageClient.Client

open LanguageClient.Json LanguageClient.Loop LanguageClient.Number LanguageClient.Protocol

/-! ## What is handed over -/

/-- The uri of the document that the parameters of a frame name. -/
def documentUri? (frame : Value) : Option Value := do
  let params ← frame.get? "params"
  let document ← params.get? "textDocument"
  document.get? "uri"

/-- A frame about a document, and the handle whose call handed it to a connection. -/
structure Handover where
  handle : Option Nat
  frame : Value
  deriving DecidableEq, Repr

/-- The handle of a call: the one through which it is made, or the new one. -/
def Call.handle? (call : Call) (system : System) : Option Nat :=
  match call with
  | .openFile _ _ _ _ _ => some system.files.length
  | .changeFile file _ _ | .closeFile file => some file
  | _ => none

namespace System

/-- The handle of the call that begins with an input. -/
def comingHandle? (system : System) (input : Input) : Option Nat :=
  match input, system.comingTask? with
  | .turn, some (_, [.begin call]) => call.handle? system
  | _, _ => none

/-- What an input hands over. -/
def handoversIn (system : System) (input : Input) : List Handover :=
  (system.handedIn input).map fun frame => { handle := system.comingHandle? input, frame }

/-- What was handed over by some of the inputs of a run, in order. -/
def handovers (system : System) (inputs : Nat → Input) : Nat → List Handover
  | 0 => []
  | count + 1 =>
    system.handovers inputs count ++ (system.after inputs count).handoversIn (inputs count)

/-- Whether something was handed over through a handle of a document. -/
def isAbout (system : System) (workspace : Nat) (uri : String) (handover : Handover) : Bool :=
  match handover.handle.bind (system.files[·]?) with
  | none => false
  | some found => found.workspace = workspace && found.uri = uri

end System

/-- A dialogue about a document: groups of an opening, changes and a closing, each of them through a
handle of its own. The last group may be unfinished, and then its handle is given. -/
inductive Dialogue : List Handover → Option Nat → Prop where
  | nil : Dialogue [] none
  | opens {said : List Handover} (handle : Nat) (frame : Value) (dialogue : Dialogue said none)
      (isNew : ∀ handover ∈ said, handover.handle ≠ some handle)
      (isOpening : methodOf? frame = some Method.didOpen) :
    Dialogue (said ++ [⟨some handle, frame⟩]) (some handle)
  | changes {said : List Handover} {handle : Nat} (frame : Value)
      (dialogue : Dialogue said (some handle))
      (isChange : methodOf? frame = some Method.didChange) :
    Dialogue (said ++ [⟨some handle, frame⟩]) (some handle)
  | closes {said : List Handover} {handle : Nat} (frame : Value)
      (dialogue : Dialogue said (some handle))
      (isClosing : methodOf? frame = some Method.didClose) :
    Dialogue (said ++ [⟨some handle, frame⟩]) none

/-! ## Handovers and the register -/

/-- What was said about the documents of a workspace agrees with its register. -/
structure Told (workspace : Nat) (said : List Handover) (system : System) : Prop where
  handles : ∀ handover ∈ said, ∃ file found, handover.handle = some file ∧
    system.files[file]? = some found ∧ documentUri? handover.frame = some (.string found.uri)
  hosts : ∃ session, system.sessionOf? workspace = some session
  dialogues : ∀ uri, ∃ current, Dialogue (said.filter (system.isAbout workspace uri)) current ∧
    (system.openFile? workspace uri = current ∨ system.IsShut workspace)

namespace Told

open LanguageClient.Client.System

variable {workspace : Nat} {said : List Handover} {before here there after : System}
  {deeds : List Deed}

theorem isAbout_eq
    (told : Told workspace said before) (does : Does before deeds after) (uri : String) :
    said.filter (after.isAbout workspace uri) = said.filter (before.isAbout workspace uri) := by
  refine List.filter_congr fun handover member => ?_
  obtain ⟨file, found, isHandle, known, _⟩ := told.handles handover member
  simp only [isAbout, isHandle, Option.bind_some, known, does.files known]

theorem handles_of_does
    (told : Told workspace said before) (does : Does before deeds after) :
    ∀ handover ∈ said, ∃ file found, handover.handle = some file ∧
      after.files[file]? = some found ∧
        documentUri? handover.frame = some (.string found.uri) := by
  intro handover member
  obtain ⟨file, found, isHandle, known, names⟩ := told.handles handover member
  exact ⟨file, found, isHandle, does.files known, names⟩

theorem hosts_of_does
    (told : Told workspace said before) (does : Does before deeds after) :
    ∃ session, after.sessionOf? workspace = some session := by
  obtain ⟨session, known⟩ := told.hosts
  obtain ⟨later, laterKnown, _⟩ := does.sessionOf? known
  exact ⟨later, laterKnown⟩

/-- Nothing is said, and the entries of the register that change belong to a workspace that is shut
or to others. -/
theorem silent
    (told : Told workspace said before) (does : Does before deeds after)
    (same : ∀ uri, after.openFile? workspace uri = before.openFile? workspace uri ∨
      after.IsShut workspace) :
    Told workspace said after where
  handles := told.handles_of_does does
  hosts := told.hosts_of_does does
  dialogues := fun uri => by
    obtain ⟨current, dialogue, agrees⟩ := told.dialogues uri
    refine ⟨current, told.isAbout_eq does uri ▸ dialogue, ?_⟩
    rcases agrees with agrees | shut
    · exact (same uri).imp_left fun kept => kept.trans agrees
    · exact Or.inr (does.shut shut)

theorem quiet (told : Told workspace said before) (aside : Aside before after) :
    Told workspace said after :=
  told.silent (.aside aside) fun uri => Or.inl (aside.openFile? workspace uri)

/-- One frame is said through a handle. It continues the dialogue about the document of the handle,
and the other entries of the register stay. -/
theorem speaks
    {file : Nat} {found : OpenFile} {frame : Value} (told : Told workspace said before)
    (does : Does before deeds after) (known : after.files[file]? = some found)
    (names : documentUri? frame = some (.string found.uri))
    (others : ∀ uri, (workspace, uri) ≠ (found.workspace, found.uri) →
      after.openFile? workspace uri = before.openFile? workspace uri)
    (continues : found.workspace = workspace → ∀ current,
      Dialogue (said.filter (before.isAbout workspace found.uri)) current →
        (before.openFile? workspace found.uri = current ∨ before.IsShut workspace) →
          ∃ later, Dialogue (said.filter (before.isAbout workspace found.uri) ++
            [⟨some file, frame⟩]) later ∧ after.openFile? workspace found.uri = later) :
    Told workspace (said ++ [⟨some file, frame⟩]) after where
  handles := fun handover member => by
    rcases List.mem_append.mp member with earlier | isNew
    · exact told.handles_of_does does handover earlier
    · rw [List.mem_singleton.mp isNew]
      exact ⟨file, found, rfl, known, names⟩
  hosts := told.hosts_of_does does
  dialogues := fun uri => by
    obtain ⟨current, dialogue, agrees⟩ := told.dialogues uri
    rw [List.filter_append, told.isAbout_eq does uri]
    by_cases mine : (workspace, uri) = (found.workspace, found.uri)
    · obtain ⟨isWorkspace, rfl⟩ := Prod.mk.inj mine
      have isAbout : [(⟨some file, frame⟩ : Handover)].filter
          (after.isAbout workspace found.uri) = [⟨some file, frame⟩] := by
        simp [System.isAbout, known, isWorkspace]
      rw [isAbout]
      obtain ⟨later, longer, register⟩ := continues isWorkspace.symm current dialogue agrees
      exact ⟨later, longer, Or.inl register⟩
    · have notAbout : [(⟨some file, frame⟩ : Handover)].filter (after.isAbout workspace uri) = [] := by
        have different : ¬ (found.workspace = workspace ∧ found.uri = uri) :=
          fun same => mine (by rw [same.1, same.2])
        simpa [System.isAbout, known] using different
      rw [notAbout, List.append_nil]
      refine ⟨current, dialogue, ?_⟩
      rcases agrees with agrees | shut
      · exact Or.inl ((others uri mine).trans agrees)
      · exact Or.inr (does.shut shut)


/-! ### One deed -/

theorem announces
    {file : Nat} (told : Told workspace said before) (isNext : file = before.files.length)
    (does : Does before [.announce file] after) :
    ∃ frame, after.wire = before.wire ++ [frame] ∧
      Told workspace (said ++ [⟨some file, frame⟩]) after := by
  obtain ⟨here, there, aside, performs, rest⟩ := does.single
  obtain ⟨isFile, new, link, text, free, writable, isThere⟩ := performs.announced rfl
  have wire : there.wire = here.wire ++ [_] := isThere ▸ (here.addFile new).wire_handed link
    (concernsDocument_notification (some (didOpenParams new.uri new.languageId text))
      (by decide : Method.didOpen ∈ documentMethods))
  refine ⟨_, by rw [rest.wire, wire, aside.wire], ?_⟩
  obtain ⟨found, _, isWorkspace, _⟩ := openLink?_eq_some.mp writable
  have register (uri : String) : after.openFile? workspace uri =
      (here.addFile new).openFile? workspace uri := by
    rw [rest.openFile?, isThere]
    rfl
  have known : after.files[file]? = some new := by
    refine rest.files file new ?_
    rw [isThere, isFile]
    exact List.getElem?_concat_length
  refine told.speaks does known rfl (fun uri other => ?_) fun isOwner current dialogue agrees => ?_
  · rw [register, openFile?_addFile_of_ne here other, aside.openFile?]
  · have notShut : ¬ before.IsShut workspace := aside.not_shut (isOwner ▸ writable)
    have isFree : current = none := by
      rw [← agrees.resolve_right notShut, ← aside.openFile?, ← isOwner]
      exact free
    refine ⟨some file, .opens file _ (isFree ▸ dialogue) (fun handover member same => ?_)
      (methodOf?_notificationMessage Method.didOpen _), ?_⟩
    · obtain ⟨earlier, record, isHandle, inFiles, _⟩ :=
        told.handles handover (List.mem_filter.mp member).1
      have inside : earlier < before.files.length := (List.getElem?_eq_some_iff.mp inFiles).1
      rw [isHandle, isNext] at same
      exact Nat.lt_irrefl _ (Option.some.inj same ▸ inside)
    · rw [register, ← isOwner, openFile?_addFile_self isWorkspace free, isFile]

theorem changes
    {file : Nat} (told : Told workspace said before) (does : Does before [.change file] after) :
    ∃ frame, after.wire = before.wire ++ [frame] ∧
      Told workspace (said ++ [⟨some file, frame⟩]) after := by
  obtain ⟨here, there, aside, performs, rest⟩ := does.single
  cases performs with
  | change _ found link version text known isOpen writable =>
      have wire := here.wire_handed link
        (concernsDocument_notification (some (didChangeParams found.uri version text))
          (by decide : Method.didChange ∈ documentMethods))
      refine ⟨_, by rw [rest.wire, wire, aside.wire], ?_⟩
      have register (uri : String) :
          after.openFile? workspace uri = before.openFile? workspace uri :=
        (rest.openFile? workspace uri).trans (aside.openFile? workspace uri)
      refine told.speaks does (rest.files file found known) rfl (fun uri _ => register uri)
        fun isOwner current dialogue agrees => ?_
      have notShut : ¬ before.IsShut workspace := aside.not_shut (isOwner ▸ writable)
      have isFile : before.openFile? workspace found.uri = some file := by
        rw [← aside.openFile?, ← isOpen_of_openFile? known isOwner rfl]
        exact isOpen
      have isCurrent : current = some file := by
        rw [← agrees.resolve_right notShut, isFile]
      exact ⟨some file, .changes _ (isCurrent ▸ dialogue)
        (methodOf?_notificationMessage Method.didChange _), (register _).trans isFile⟩

theorem retracts
    {file : Nat} (told : Told workspace said before) (does : Does before [.retract file] after) :
    ∃ frame, after.wire = before.wire ++ [frame] ∧
      Told workspace (said ++ [⟨some file, frame⟩]) after := by
  obtain ⟨here, there, aside, performs, rest⟩ := does.single
  cases performs with
  | retract _ found link known isOpen writable =>
      have wire := (here.unregister found.workspace found.uri).wire_handed link
        (concernsDocument_notification (some (didCloseParams found.uri))
          (by decide : Method.didClose ∈ documentMethods))
      refine ⟨_, by rw [rest.wire, wire]; exact congrArg (· ++ [_]) aside.wire, ?_⟩
      have register (uri : String) : after.openFile? workspace uri =
          (here.unregister found.workspace found.uri).openFile? workspace uri :=
        rest.openFile? workspace uri
      refine told.speaks does (rest.files file found known) rfl (fun uri other => ?_)
        fun isOwner current dialogue agrees => ?_
      · rw [register, openFile?_unregister_of_ne here other, aside.openFile?]
      · have notShut : ¬ before.IsShut workspace := aside.not_shut (isOwner ▸ writable)
        have isCurrent : current = some file := by
          rw [← agrees.resolve_right notShut, ← aside.openFile?,
            ← isOpen_of_openFile? known isOwner rfl]
          exact isOpen
        refine ⟨none, .closes _ (isCurrent ▸ dialogue)
          (methodOf?_notificationMessage Method.didClose _), ?_⟩
        rw [register, ← isOwner, openFile?_unregister_self]

/-- A handle is given up without a word only when nothing can be said any more. -/
theorem forgets
    {file : Nat} (told : Told workspace said before) (does : Does before [.forget file] after) :
    after.wire = before.wire ∧ Told workspace said after := by
  obtain ⟨here, there, aside, performs, rest⟩ := does.single
  cases performs with
  | forget _ found known isOpen unwritable =>
      refine ⟨rest.wire.trans aside.wire, told.silent does fun uri => ?_⟩
      by_cases mine : (workspace, uri) = (found.workspace, found.uri)
      · right
        obtain ⟨isOwner, rfl⟩ := Prod.mk.inj mine
        obtain ⟨session, isSession⟩ := told.hosts
        obtain ⟨later, isLater, _⟩ := aside.sessionOf? isSession
        have shut : here.IsShut workspace := shut_of_not_writable isLater (isOwner ▸ unwritable)
        exact (Does.perform (.refl here) (.forget file found known isOpen unwritable)
          (.aside rest)).shut shut
      · left
        rw [rest.openFile?, openFile?_unregister_of_ne here mine, aside.openFile?]

/-- A workspace that is cleared has no documents and cannot write. -/
theorem shut_of_clear
    (told : Told workspace said before) (does : Does before [.clear workspace] after) :
    after.IsShut workspace ∧ ∀ uri, after.openFile? workspace uri = none := by
  obtain ⟨here, there, aside, performs, rest⟩ := does.single
  cases performs with
  | clear _ found known =>
      obtain ⟨session, isSession⟩ := told.hosts
      obtain ⟨later, isLater, _⟩ := aside.sessionOf? isSession
      have inSessions : here.sessions[found.session]? = some later := by
        simpa [System.sessionOf?, known] using isLater
      refine ⟨(Does.aside rest).shut ⟨{ later with closed := true }, ?_, rfl⟩, fun uri => ?_⟩
      · simp [System.sessionOf?, clearWorkspace, modifyWorkspace, modifySession, known, inSessions]
      · rw [rest.openFile?, openFile?_clearWorkspace_self]

theorem clears
    {cleared : Nat} (told : Told workspace said before) (does : Does before [.clear cleared] after) :
    after.wire = before.wire ∧ Told workspace said after := by
  obtain ⟨here, there, aside, performs, rest⟩ := does.single
  obtain ⟨_, rfl, wire⟩ := performs.wire
  refine ⟨by rw [rest.wire, wire, List.append_nil, aside.wire], told.silent does fun uri => ?_⟩
  by_cases mine : cleared = workspace
  · exact Or.inr (told.shut_of_clear (mine ▸ does)).1
  · left
    cases performs with
    | clear _ found known =>
        rw [rest.openFile?, openFile?_clearWorkspace_of_ne here _ uri mine, aside.openFile?]

end Told

/-! ## A run -/

namespace System

variable {before : System} {input : Input} {file : Nat}

theorem handoversIn_of_silent (silent : (before.step input).wire = before.wire) :
    before.handoversIn input = [] := by
  simp [handoversIn, handedIn, silent]

theorem handoversIn_of_frame
    {frame : Value} (handed : (before.step input).wire = before.wire ++ [frame])
    (handle : before.comingHandle? input = some file) :
    before.handoversIn input = [⟨some file, frame⟩] := by
  simp [handoversIn, handedIn, handed, handle]

theorem comingHandle?_of_call
    {task : Nat} {call : Call} (coming : before.comingTask? = some (task, [.begin call])) :
    before.comingHandle? .turn = call.handle? before := by
  simp [comingHandle?, coming]

/-- Every announcement that was begun has not ended yet or has succeeded. -/
def AnnouncesUnfailingly (start : System) (inputs : Nat → Input) : Prop :=
  ∀ (made count task : Nat) (outcome : Outcome Reply),
    (start.after inputs made).announcer? (inputs made) = some task →
      .ended task outcome ∈ (start.after inputs count).journal → ∃ reply, outcome = .returned reply

end System

section Run

open LanguageClient.Client.System

variable {start : System} {inputs : Nat → Input} {workspace count : Nat}

/-- What is known of a run in which no announcement fails. -/
structure ToldRun (start : System) (inputs : Nat → Input) (workspace count : Nat) : Prop where
  world : WorkspaceWorld (start.after inputs count)
  told : Told workspace (start.handovers inputs count) (start.after inputs count)
  openings : ∀ (task : Nat) (found : TaskState Frame),
    (start.after inputs count).loop.tasks[task]? = some found → IsOpening found.stack →
      ∃ made, (start.after inputs made).announcer? (inputs made) = some task

namespace ToldRun

variable (told : ToldRun start inputs workspace count)
  (unfailing : start.AnnouncesUnfailingly inputs)

include unfailing

/-- No announcement is refused. -/
theorem not_refused
    {task owner file : Nat} {uri text : String} {languageId : Value} {deeds : List Deed}
    {listeners : List (String × DocumentListener)} {failure : Failure}
    (isTurn : inputs count = .turn)
    (coming : (start.after inputs count).comingTask? =
      some (task, [.begin (.openFile owner uri languageId text listeners)]))
    (does : Does (start.after inputs count) (.announce file :: deeds)
      ((start.after inputs count).step (inputs count)))
    (ended : .ended task (.failed failure) ∈
      ((start.after inputs count).step (inputs count)).journal) : False := by
  have announcer : (start.after inputs count).announcer? (inputs count) = some task := by
    rw [isTurn] at does ⊢
    exact announcer?_of_announce coming does
  obtain ⟨reply, returned⟩ := unfailing count (count + 1) task _ announcer ended
  cases returned

include told

/-- No announcement is withdrawn later. -/
theorem not_withdrawn
    {task : Nat} {outcome : Outcome Reply}
    (opening : ∃ found, (start.after inputs count).loop.tasks[task]? = some found ∧
      IsOpening found.stack)
    (ended : .ended task outcome ∈ ((start.after inputs count).step (inputs count)).journal)
    (fails : ∀ reply, outcome ≠ .returned reply) : False := by
  obtain ⟨found, entry, isOpening⟩ := opening
  obtain ⟨made, announcer⟩ := told.openings task found entry isOpening
  obtain ⟨reply, returned⟩ := unfailing made (count + 1) task outcome announcer ended
  exact fails reply returned

theorem step (allowed : (inputs count).OnWorkspace) :
    ToldRun start inputs workspace (count + 1) := by
  obtain ⟨moves, world, openings⟩ := told.world.step allowed
  refine ⟨world, ?_, fun task found entry isOpening => ?_⟩
  · have silent (kept : ((start.after inputs count).step (inputs count)).wire =
        (start.after inputs count).wire ∧ Told workspace (start.handovers inputs count)
          ((start.after inputs count).step (inputs count))) :
        Told workspace (start.handovers inputs (count + 1)) (start.after inputs (count + 1)) := by
      rw [handovers, handoversIn_of_silent kept.1, List.append_nil]
      exact kept.2
    have speaks {file : Nat} (handle : (start.after inputs count).comingHandle? (inputs count) =
          some file)
        (said : ∃ frame, ((start.after inputs count).step (inputs count)).wire =
          (start.after inputs count).wire ++ [frame] ∧
            Told workspace (start.handovers inputs count ++ [⟨some file, frame⟩])
              ((start.after inputs count).step (inputs count))) :
        Told workspace (start.handovers inputs (count + 1)) (start.after inputs (count + 1)) := by
      obtain ⟨frame, handed, later⟩ := said
      rw [handovers, handoversIn_of_frame handed handle]
      exact later
    cases moves with
    | quiet aside => exact silent ⟨aside.wire, told.told.quiet aside⟩
    | clears cleared does => exact silent (told.told.clears does)
    | changes task file version text isTurn coming does =>
        exact speaks (isTurn ▸ comingHandle?_of_call coming) (told.told.changes does)
    | closes task file deed isTurn coming isClosing does =>
        rcases isClosing with rfl | rfl
        · exact speaks (isTurn ▸ comingHandle?_of_call coming) (told.told.retracts does)
        · exact silent (told.told.forgets does)
    | announces task owner uri languageId text listeners isTurn coming does =>
        exact speaks (isTurn ▸ comingHandle?_of_call coming) (told.told.announces rfl does)
    | refused task owner uri languageId text listeners failure isTurn coming does ended =>
        exact (not_refused unfailing isTurn coming does ended).elim
    | withdraws task owner uri outcome opening does ended fails =>
        exact (told.not_withdrawn unfailing opening ended fails).elim
  · rcases openings task found entry isOpening with ⟨earlier, earlierEntry, wasOpening⟩ | announcer
    · exact told.openings task earlier earlierEntry wasOpening
    · exact ⟨count, announcer⟩

/-- A document is closed by its own handle or together with its workspace. -/
theorem closer
    {file : Nat} {found : OpenFile} (allowed : (inputs count).OnWorkspace)
    (known : (start.after inputs count).files[file]? = some found)
    (ofWorkspace : found.workspace = workspace)
    (wasOpen : (start.after inputs count).isOpen file = true)
    (isClosed : (start.after inputs (count + 1)).isOpen file = false) :
    (inputs count = .turn ∧ ∃ task, (start.after inputs count).comingTask? =
      some (task, [.begin (.closeFile file)])) ∨
    (start.after inputs (count + 1)).openLink? workspace = none ∧
      ∀ uri, (start.after inputs (count + 1)).openFile? workspace uri = none := by
  have moves := (told.world.step allowed).1
  have registered := (isOpen_of_openFile? known ofWorkspace rfl).mp wasOpen
  have withdrawn {deeds : List Deed} (does : Does (start.after inputs count) deeds
      (start.after inputs (count + 1))) : ∃ deed ∈ deeds, deed = .withdraw workspace found.uri ∨
        deed = .retract file ∨ deed = .forget file ∨ deed = .clear workspace := by
    refine (does.openFile?_keeps registered).resolve_left fun kept => ?_
    rw [← isOpen_of_openFile? (does.files known) ofWorkspace rfl, isClosed] at kept
    cases kept
  cases moves with
  | quiet aside =>
      obtain ⟨deed, member, _⟩ := withdrawn (.aside aside)
      exact absurd member List.not_mem_nil
  | clears cleared does =>
      obtain ⟨deed, member, isDeed⟩ := withdrawn does
      obtain rfl := List.mem_singleton.mp member
      have isWorkspace : cleared = workspace := by simpa using isDeed
      obtain ⟨shut, dropped⟩ := told.told.shut_of_clear (isWorkspace ▸ does)
      exact Or.inr ⟨shut.not_writable, dropped⟩
  | changes task other version text isTurn coming does =>
      obtain ⟨deed, member, isDeed⟩ := withdrawn does
      obtain rfl := List.mem_singleton.mp member
      simp at isDeed
  | closes task other closing isTurn coming isClosing does =>
      obtain ⟨deed, member, isDeed⟩ := withdrawn does
      obtain rfl := List.mem_singleton.mp member
      have isFile : other = file := by
        rcases isClosing with rfl | rfl
        · simpa using isDeed
        · simpa using isDeed
      exact Or.inl ⟨isTurn, task, isFile ▸ coming⟩
  | announces task owner uri languageId text listeners isTurn coming does =>
      obtain ⟨deed, member, isDeed⟩ := withdrawn does
      obtain rfl := List.mem_singleton.mp member
      simp at isDeed
  | refused task owner uri languageId text listeners failure isTurn coming does ended =>
      exact (not_refused unfailing isTurn coming does ended).elim
  | withdraws task owner uri outcome opening does ended fails =>
      exact (told.not_withdrawn unfailing opening ended fails).elim

end ToldRun

end Run

end LanguageClient.Client
