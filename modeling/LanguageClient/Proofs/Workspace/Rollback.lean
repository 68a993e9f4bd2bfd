import LanguageClient.Proofs.Workspace.Discipline

/-!
# Openings that fail

A call that fails to open a document withdraws what it has registered. It withdraws by uri, and not by
handle: while its announcement is held back, the handle may be closed and the document opened once more,
and then the newer handle is withdrawn.
-/

namespace LanguageClient.Client

open LanguageClient.Json LanguageClient.Loop LanguageClient.Number LanguageClient.Protocol

/-- A call that opens a document: its task, the document and the handle. -/
structure OpeningCall where
  task : Nat
  workspace : Nat
  uri : String
  file : Nat
  deriving DecidableEq, Repr

/-- The opening call whose turn comes. The handle of a call that has not begun is the next one. -/
def System.comingOpening? (system : System) : Option OpeningCall :=
  match system.comingTask? with
  | some (task, [.begin (.openFile workspace uri _ _ _)]) =>
    some { task, workspace, uri, file := system.files.length }
  | some (task, [.sending _ _, .writing _, .opening workspace uri file]) =>
    some { task, workspace, uri, file }
  | _ => none

/-- What a failure of an opening call does to the handles. -/
structure System.Undoes (before : System) (opening : OpeningCall) (after : System) : Prop where
  gone : after.isOpen opening.file = false
  older : ∀ file, after.isOpen file = true → before.isOpen file = true
  keeps : ∀ file, file ≠ opening.file → before.isOpen file = true →
    (after.isOpen file = true ↔ ¬ (opening.file < before.files.length ∧
      before.IsHandleOf file opening.workspace opening.uri))

/-- Announcements that are under way are those of handles of their documents. -/
def System.Announces (system : System) : Prop :=
  ∀ (task : Nat) (found : TaskState Frame) (link : Nat) (frame : Value) (subject : String)
    (workspace : Nat) (uri : String) (file : Nat), system.loop.tasks[task]? = some found →
      found.stack = [.sending link frame, .writing subject, .opening workspace uri file] →
        system.IsHandleOf file workspace uri

section Turn

open LanguageClient.Client.System

variable {before after : System} {task : Nat} {found : TaskState Frame} {rest : ClientLoop}
  {deeds : List Deed}

/-! ## The register after a failure -/

theorem lt_of_isOpen
    {file : Nat} (isOpen : before.isOpen file = true) : file < before.files.length := by
  obtain ⟨found, known, _⟩ := isOpen_iff.mp isOpen
  exact (List.getElem?_eq_some_iff.mp known).1

/-- A handle that is registered under its own uri and was registered before was open before. -/
theorem isOpen_of_registered
    {file : Nat} (world : WorkspaceWorld before) (does : Does before deeds after)
    (registered : ∀ found, after.files[file]? = some found →
      after.openFile? found.workspace found.uri = some file →
        before.openFile? found.workspace found.uri = some file)
    (isOpen : after.isOpen file = true) : before.isOpen file = true := by
  obtain ⟨found, known, laterRegistered⟩ := isOpen_iff.mp isOpen
  have earlier := registered found known laterRegistered
  have inside := world.registered _ _ _ earlier
  have earlierKnown := List.getElem?_eq_getElem inside
  have same := does.files earlierKnown
  rw [known] at same
  rw [← Option.some.inj same] at earlierKnown
  exact isOpen_iff.mpr ⟨found, earlierKnown, earlier⟩

/-- Whoever was open is open as long as the register has him. -/
theorem isOpen_iff_of_does
    {file : Nat} {handle : OpenFile} (does : Does before deeds after)
    (known : before.files[file]? = some handle) :
    after.isOpen file = true ↔ after.openFile? handle.workspace handle.uri = some file :=
  isOpen_of_openFile? (does.files known) rfl rfl

/-- A call that fails in the turn in which it begins leaves the register as it was. -/
theorem undoes_of_same
    (world : WorkspaceWorld before) (does : Does before deeds after)
    (same : ∀ workspace uri, after.openFile? workspace uri = before.openFile? workspace uri)
    (task workspace : Nat) (uri : String) :
    before.Undoes { task, workspace, uri, file := before.files.length } after := by
  have older (file : Nat) : after.isOpen file = true → before.isOpen file = true :=
    isOpen_of_registered world does fun found _ registered => same _ _ ▸ registered
  refine ⟨?_, older, fun file different isOpen => ?_⟩
  · rw [← Bool.not_eq_true]
    exact fun isOpen => Nat.lt_irrefl _ (lt_of_isOpen (older _ isOpen))
  · obtain ⟨found, known, registered⟩ := isOpen_iff.mp isOpen
    simp only [isOpen_iff_of_does does known, same, registered, true_iff]
    exact fun inside => Nat.lt_irrefl _ inside.1

/-- A call that fails later withdraws whoever is registered under its uri. -/
theorem undoes_of_withdraw
    {opening : OpeningCall} (world : WorkspaceWorld before)
    (handle : before.IsHandleOf opening.file opening.workspace opening.uri)
    (does : Does before [.withdraw opening.workspace opening.uri] after) :
    before.Undoes opening after := by
  have freed : after.openFile? opening.workspace opening.uri = none := does.openFile?_withdrawn
  have kept {workspace : Nat} {uri : String}
      (different : (workspace, uri) ≠ (opening.workspace, opening.uri)) :
      after.openFile? workspace uri = before.openFile? workspace uri :=
    does.openFile?_of_ne_withdrawn different
  refine ⟨?_, fun file => ?_, fun file different isOpen => ?_⟩
  · rw [← Bool.not_eq_true, (does.isHandleOf handle).isOpen_iff, freed]
    exact Option.some_ne_none _ ∘ Eq.symm
  · refine isOpen_of_registered world does fun found _ registered => ?_
    have different : (found.workspace, found.uri) ≠ (opening.workspace, opening.uri) := by
      intro same
      obtain ⟨sameWorkspace, sameUri⟩ := Prod.mk.inj same
      rw [sameWorkspace, sameUri, freed] at registered
      cases registered
    rw [← kept different, registered]
  · obtain ⟨found, known, registered⟩ := isOpen_iff.mp isOpen
    obtain ⟨_, own, _⟩ := handle
    have inside : opening.file < before.files.length := (List.getElem?_eq_some_iff.mp own).1
    rw [isOpen_iff_of_does does known]
    by_cases same : (found.workspace, found.uri) = (opening.workspace, opening.uri)
    · obtain ⟨sameWorkspace, sameUri⟩ := Prod.mk.inj same
      simp only [sameWorkspace, sameUri, freed, reduceCtorEq, false_iff, not_not]
      exact ⟨inside, found, known, sameWorkspace, sameUri⟩
    · simp only [kept same, registered, true_iff]
      rintro ⟨_, other, otherKnown, sameWorkspace, sameUri⟩
      rw [known] at otherKnown
      rw [← Option.some.inj otherKnown] at sameWorkspace sameUri
      exact same (by rw [sameWorkspace, sameUri])

/-! ## The turn in which a call fails -/

/-- A call that fails in the turn in which it begins. -/
theorem undoes_of_begin
    {workspace : Nat} {uri text : String} {languageId : Value} {outcome : Outcome Reply}
    {listeners : List (String × DocumentListener)} (world : WorkspaceWorld before)
    (resumes : Resumes before task rest found)
    (begins : found.stack = [.begin (.openFile workspace uri languageId text listeners)])
    (ended : (before.step .turn).journal.getLast? = some (.ended task outcome))
    (fails : ∀ reply, outcome ≠ .returned reply) :
    before.Undoes { task, workspace, uri, file := before.files.length } (before.step .turn) := by
  have does {deeds : List Deed} {step : Step} (isStep : before.resumption rest task found = step)
      (word : Does (before.resumed rest task) deeds step.1) : Does before deeds (before.step .turn) :=
    resumes.does_of_resumption (isStep ▸ word)
  have undoes {deeds : List Deed} {step : Step} (isStep : before.resumption rest task found = step)
      (word : Does (before.resumed rest task) deeds step.1)
      (same : ∀ other otherUri, step.1.openFile? other otherUri =
        (before.resumed rest task).openFile? other otherUri) :
      before.Undoes { task, workspace, uri, file := before.files.length } (before.step .turn) := by
    refine undoes_of_same world (does isStep word) (fun other otherUri => ?_) task workspace uri
    rw [resumes.step_turn, isStep]
    exact ((settleTask_aside task found.completion step).openFile? other otherUri).trans
      (same other otherUri)
  rcases before.resumption_begin rest task begins with result | ⟨outcome, _, result⟩
  · have opening := (before.resumed rest task).openFile_opening workspace uri languageId text
      listeners
    change before.resumption rest task found =
      (before.resumed rest task).openFile workspace uri languageId text listeners at result
    rw [← result] at opening
    generalize isStep : before.resumption rest task found = step at opening
    cases opening with
    | fails later failure aside => exact undoes isStep (.aside aside) aside.openFile?
    | holds later link frame subject promise announced last handle =>
        rw [resumes.journal_of_suspended isStep, last] at ended
        cases ended
    | opens later announced =>
        rw [resumes.journal_of_ended isStep, List.getLast?_concat] at ended
        exact (fails _ (Occurrence.ended.inj (Option.some.inj ended)).2.symm).elim
    | refused later failure undone same => exact undoes isStep undone same
  · exact undoes result (.aside (.refl _)) fun _ _ => rfl

/-- A call that fails while its announcement is under way. -/
theorem undoes_of_announcing
    {link workspace file : Nat} {frame : Value} {subject uri : String} {outcome : Outcome Reply}
    (world : WorkspaceWorld before) (announces : before.Announces)
    (resumes : Resumes before task rest found)
    (stackEq : found.stack = [.sending link frame, .writing subject, .opening workspace uri file])
    (ended : (before.step .turn).journal.getLast? = some (.ended task outcome))
    (fails : ∀ reply, outcome ≠ .returned reply) :
    before.Undoes { task, workspace, uri, file } (before.step .turn) := by
  have handle := announces task found link frame subject workspace uri file resumes.entry stackEq
  obtain ⟨last, heard, result, ends⟩ := resumes.hearsOpening stackEq
  have same : heard = outcome := by
    rw [resumes.journal_of_ended result, List.getLast?_concat] at ended
    exact (Occurrence.ended.inj (Option.some.inj ended)).2
  rcases ends with ⟨returned, _⟩ | ⟨_, does⟩
  · exact (fails _ (same.symm.trans returned)).elim
  · exact undoes_of_withdraw world handle does

/-- The turn in which an opening call fails. -/
theorem WorkspaceWorld.undoes
    {opening : OpeningCall} {outcome : Outcome Reply} (world : WorkspaceWorld before)
    (announces : before.Announces) (coming : before.comingOpening? = some opening)
    (ended : (before.step .turn).journal.getLast? = some (.ended opening.task outcome))
    (fails : ∀ reply, outcome ≠ .returned reply) :
    before.Undoes opening (before.step .turn) := by
  unfold comingOpening? at coming
  split at coming
  · rename_i _ task workspace uri languageId text listeners isComing
    obtain rfl := Option.some.inj coming
    obtain ⟨rest, found, resumes, begins⟩ := resumes_of_comingTask? isComing
    exact undoes_of_begin world resumes begins ended fails
  · rename_i _ task link frame subject workspace uri file isComing
    obtain rfl := Option.some.inj coming
    obtain ⟨rest, found, resumes, stackEq⟩ := resumes_of_comingTask? isComing
    exact undoes_of_announcing world announces resumes stackEq ended fails
  · cases coming

/-- The handle of an opening call is new, or it is a handle of the document. -/
theorem System.Announces.handle
    {opening : OpeningCall} (announces : before.Announces)
    (coming : before.comingOpening? = some opening) :
    opening.file = before.files.length ∨
      before.IsHandleOf opening.file opening.workspace opening.uri := by
  unfold comingOpening? at coming
  split at coming
  · obtain rfl := Option.some.inj coming
    exact Or.inl rfl
  · rename_i _ task link frame subject workspace uri file isComing
    obtain rfl := Option.some.inj coming
    obtain ⟨rest, found, resumes, stackEq⟩ := resumes_of_comingTask? isComing
    exact Or.inr
      (announces task found link frame subject workspace uri file resumes.entry stackEq)
  · cases coming

/-! ## The invariant -/

/-- An announcement that is under way after its first turn is that of the new handle. -/
theorem announces_of_begin
    {link workspace file : Nat} {frame : Value} {subject uri : String} {later : TaskState Frame}
    (world : WorkspaceWorld before) (resumes : Resumes before task rest found)
    (left : (before.step .turn).loop.tasks[task]? = some later)
    (stackEq : later.stack = [.sending link frame, .writing subject, .opening workspace uri file]) :
    (before.step .turn).IsHandleOf file workspace uri := by
  have tracked := (world.shapes task found resumes.entry).isTracked
  obtain ⟨_, sameLater, sameStack, _⟩ := resumes.left (before.resumption_conducts rest task tracked)
  obtain ⟨_, _, laterLeft, announcer⟩ := world.turn resumes
  obtain rfl := Option.some.inj (left.symm.trans sameLater)
  obtain rfl := Option.some.inj (left.symm.trans laterLeft)
  rw [stackEq] at sameStack
  obtain ⟨owner, ownerUri, languageId, text, listeners, coming⟩ := begins_of_announcer?
    (announcer.2 ⟨link, frame, subject, workspace, uri, file, stackEq⟩)
  rw [resumes.comingTask?] at coming
  have begins := (Prod.mk.inj (Option.some.inj coming)).2
  rcases before.resumption_begin rest task begins with result | ⟨outcome, _, result⟩
  · have opening := (before.resumed rest task).openFile_opening owner ownerUri languageId text
      listeners
    change before.resumption rest task found =
      (before.resumed rest task).openFile owner ownerUri languageId text listeners at result
    rw [← result] at opening
    generalize isStep : before.resumption rest task found = step at *
    cases opening with
    | holds there thereLink thereFrame thereSubject promise announced last handle =>
        injection sameStack with _ more
        injection more with _ more
        injection more with same _
        obtain ⟨rfl, rfl, rfl⟩ := Frame.opening.inj same
        rw [resumes.step_turn, isStep]
        exact (Does.aside (settleTask_aside task found.completion _)).isHandleOf handle
    | fails there failure aside => cases sameStack
    | opens there announced => cases sameStack
    | refused there failure undone same => cases sameStack
  · rw [result] at sameStack
    cases sameStack

theorem System.Announces.step
    {input : Input} (announces : before.Announces) (world : WorkspaceWorld before)
    (allowed : input.OnWorkspace) : (before.step input).Announces := by
  intro task later link frame subject workspace uri file entry stackEq
  obtain ⟨deeds, does⟩ := (world.step allowed).1.does
  have ofStays (stays : Stays before input task later) :
      (before.step input).IsHandleOf file workspace uri := by
    rcases stays with ⟨earlier, earlierEntry, sameStack, _⟩ | ⟨_, _, begins⟩
    · exact does.isHandleOf (announces task earlier link frame subject workspace uri file
        earlierEntry (sameStack.symm.trans stackEq))
    · rcases begins with (⟨session, id, begins⟩ | ⟨synchronizer, begins⟩) | ⟨call, _, begins⟩
      · cases begins.symm.trans stackEq
      · cases begins.symm.trans stackEq
      · cases begins.symm.trans stackEq
  cases step_conducted (fun task found entry => (world.shapes task found entry).isTracked) input with
  | aside aside stays => exact ofStays (stays task later entry)
  | turn turning rest found isTurn resumes turned =>
      subst isTurn
      by_cases same : task = turning
      · subst same
        exact announces_of_begin world resumes entry stackEq
      · exact ofStays (turned.others task later same entry)

end Turn

/-! ## Runs of a workspace -/

theorem workspace_announces
    {inputs : Nat → Input} (resolution : Rat) (timeout : Quantity) (result : InitializeResult)
    (allowed : ∀ place, (inputs place).OnWorkspace) (count : Nat) :
    ((System.ofWorkspace resolution timeout result).after inputs count).Announces := by
  induction count with
  | zero =>
      exact fun _ _ _ _ _ _ _ _ entry => absurd (List.mem_of_getElem? entry) List.not_mem_nil
  | succ count inductionHypothesis =>
      exact inductionHypothesis.step (workspace_worlds resolution timeout result allowed count)
        (allowed count)

/-- In every run of a workspace, a call that fails to open a document leaves its own handle closed and
opens no other one. The other handles that were open stay open, apart from a newer handle of the same
document, which is closed as well if the call has waited for its announcement. There is no such handle
as long as that of the call itself is open. -/
theorem failed_opening_undone
    (resolution : Rat) (timeout : Quantity) (result : InitializeResult) (inputs : Nat → Input)
    (allowed : ∀ place, (inputs place).OnWorkspace) (count : Nat) (opening : OpeningCall)
    (outcome : Outcome Reply) (isTurn : inputs count = .turn)
    (coming : ((System.ofWorkspace resolution timeout result).after inputs count).comingOpening? =
      some opening)
    (ended : ((System.ofWorkspace resolution timeout result).after inputs
      (count + 1)).journal.getLast? = some (.ended opening.task outcome))
    (fails : ∀ reply, outcome ≠ .returned reply) :
    let run := (System.ofWorkspace resolution timeout result).after inputs
    (run count).Undoes opening (run (count + 1)) ∧
      ((run count).isOpen opening.file = true ∨ opening.file = (run count).files.length →
        ∀ file, file ≠ opening.file → (run count).isOpen file = true →
          (run (count + 1)).isOpen file = true) := by
  intro run
  have world := workspace_worlds resolution timeout result allowed count
  have announces := workspace_announces resolution timeout result allowed count
  have undoes : (run count).Undoes opening (run (count + 1)) := by
    rw [System.after, isTurn] at ended
    change (run count).Undoes opening ((run count).step (inputs count))
    rw [isTurn]
    exact world.undoes announces coming ended fails
  refine ⟨undoes, fun own file different isOpen => (undoes.keeps file different isOpen).mpr ?_⟩
  rintro ⟨inside, handle⟩
  -- A handle that is not new is the one that is registered, if it is open.
  rcases announces.handle coming with isNew | ownHandle
  · exact Nat.lt_irrefl _ (isNew ▸ inside)
  · rcases own with ownOpen | isNew
    · rw [handle.isOpen_iff] at isOpen
      rw [ownHandle.isOpen_iff, isOpen] at ownOpen
      exact different (Option.some.inj ownOpen)
    · exact Nat.lt_irrefl _ (isNew ▸ inside)

/-! ## A document that is closed and reopened while it is announced -/

/-- The announcement of a document is held back. Its handle is closed and the document is opened once
more. Then the first call is cancelled. -/
def overtakenDocument : Nat → Input
  | 0 => .behave { holding := true }
  | 1 => .call (.openFile 0 "file:///a" (.string "text") "a" [])
  | 3 => .call (.closeFile 0)
  | 5 => .behave {}
  | 6 => .call (.openFile 0 "file:///a" (.string "text") "b" [])
  | 8 => .cancel 0
  | 2 | 4 | 7 | 9 => .turn
  | _ => .tick 0

theorem overtakenDocument_onWorkspace (place : Nat) : (overtakenDocument place).OnWorkspace := by
  unfold overtakenDocument
  split <;> trivial

theorem failed_opening_undone_overtakenDocument :
    let run := plainWorkspace.after overtakenDocument
    let opening : OpeningCall := { task := 0, workspace := 0, uri := "file:///a", file := 0 }
    (∀ place, (overtakenDocument place).OnWorkspace) ∧ overtakenDocument 9 = .turn ∧
      (run 9).comingOpening? = some opening ∧
      (run 10).journal.getLast? = some (.ended opening.task .cancelled) ∧
      (run 9).Undoes opening (run 10) ∧
      (run 9).isOpen 1 = true ∧ (run 10).isOpen 1 = false := by
  intro run opening
  have coming : (run 9).comingOpening? = some opening := by decide +kernel
  have ended : (run 10).journal.getLast? = some (.ended opening.task .cancelled) := by
    decide +kernel
  have undone := failed_opening_undone 0 (.int 10)
    { capabilities := { hover := false, completion := none }, serverInfo := none } overtakenDocument
    overtakenDocument_onWorkspace 9 opening .cancelled rfl coming ended (by simp)
  exact ⟨overtakenDocument_onWorkspace, rfl, coming, ended, undone.1, by decide +kernel,
    by decide +kernel⟩

end LanguageClient.Client
