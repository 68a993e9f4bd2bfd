import LanguageClient.Proofs.Conduct.Workspace

/-!
# The register of a workspace

An aside leaves the registers of all workspaces alone. A deed changes the entry of one uri at most,
or empties the register of one workspace. A handle is registered once, when it is new: whoever is not
open any more is never open again.
-/

namespace LanguageClient.Client.System

open LanguageClient.Json LanguageClient.Loop LanguageClient.Number LanguageClient.Protocol

variable {before after system : System} {deed : Deed} {deeds : List Deed}

/-- The session of a workspace. -/
def sessionOf? (system : System) (workspace : Nat) : Option Session :=
  (system.workspaces[workspace]?).bind fun found => system.sessions[found.session]?

/-- A workspace whose session is closed. Nothing is written in it any more. -/
def IsShut (system : System) (workspace : Nat) : Prop :=
  ∃ session, system.sessionOf? workspace = some session ∧ session.closed = true

theorem isOpen_iff {file : Nat} :
    system.isOpen file = true ↔ ∃ found, system.files[file]? = some found ∧
      system.openFile? found.workspace found.uri = some file := by
  unfold isOpen
  cases known : system.files[file]? with
  | none => simp
  | some found => simp

theorem isOpen_of_openFile?
    {workspace file : Nat} {uri : String} {found : OpenFile}
    (known : system.files[file]? = some found) (ofWorkspace : found.workspace = workspace)
    (ofUri : found.uri = uri) :
    system.isOpen file = true ↔ system.openFile? workspace uri = some file := by
  rw [isOpen_iff, known, ← ofWorkspace, ← ofUri]
  simp

/-- A handle of the document that has a uri in a workspace. -/
def IsHandleOf (system : System) (file workspace : Nat) (uri : String) : Prop :=
  ∃ found, system.files[file]? = some found ∧ found.workspace = workspace ∧ found.uri = uri

theorem IsHandleOf.isOpen_iff
    {workspace file : Nat} {uri : String} (handle : system.IsHandleOf file workspace uri) :
    system.isOpen file = true ↔ system.openFile? workspace uri = some file := by
  obtain ⟨found, known, ofWorkspace, ofUri⟩ := handle
  exact isOpen_of_openFile? known ofWorkspace ofUri

theorem isHandleOf_addFile (system : System) (file : OpenFile) :
    (system.addFile file).IsHandleOf system.files.length file.workspace file.uri :=
  ⟨file, List.getElem?_concat_length, rfl, rfl⟩

/-! ## What a workspace can write -/

theorem openLink?_eq_bind (system : System) (workspace : Nat) :
    system.openLink? workspace = (system.sessionOf? workspace).bind fun session =>
      if session.closed then none else some session.link := by
  unfold openLink? sessionOf?
  rw [Option.bind_assoc]

theorem IsShut.not_writable {workspace : Nat} (shut : system.IsShut workspace) :
    system.openLink? workspace = none := by
  obtain ⟨session, known, closed⟩ := shut
  simp [openLink?_eq_bind, known, closed]

theorem shut_of_not_writable
    {workspace : Nat} {session : Session} (known : system.sessionOf? workspace = some session)
    (silent : system.openLink? workspace = none) : system.IsShut workspace := by
  refine ⟨session, known, ?_⟩
  simpa [openLink?_eq_bind, known] using silent

theorem sessionOf?_modifyWorkspace
    {change : Workspace → Workspace} (system : System) (workspace other : Nat)
    (session : ∀ found, (change found).session = found.session) :
    (system.modifyWorkspace workspace change).sessionOf? other = system.sessionOf? other := by
  simp only [sessionOf?, modifyWorkspace, List.getElem?_modify]
  by_cases same : workspace = other
  · simp [same, Option.bind_map, session]
  · simp [same]

/-! ## One change of a register -/

theorem openFile?_unregister_self (system : System) (workspace : Nat) (uri : String) :
    (system.unregister workspace uri).openFile? workspace uri = none := by
  simp only [openFile?, unregister, modifyWorkspace, List.getElem?_modify_eq]
  cases system.workspaces[workspace]? with
  | none => rfl
  | some found =>
      change List.lookup uri (found.openFiles.filter fun entry => entry.1 ≠ uri) = none
      rw [List.lookup_eq_none_iff]
      intro entry member
      have different : entry.1 ≠ uri := by simpa using (List.mem_filter.mp member).2
      simpa using Ne.symm different

theorem lookup_filter_of_ne
    {entries : List (String × Nat)} {uri other : String} (different : other ≠ uri) :
    (entries.filter fun entry => entry.1 ≠ uri).lookup other = entries.lookup other := by
  induction entries with
  | nil => rfl
  | cons entry rest inductionHypothesis =>
      by_cases isUri : entry.1 = uri
      · have notOther : (other == entry.1) = false := by simpa [isUri] using different
        rw [List.filter_cons_of_neg (by simpa using isUri), inductionHypothesis, List.lookup_cons,
          notOther]
      · rw [List.filter_cons_of_pos (by simpa using isUri), List.lookup_cons, List.lookup_cons,
          inductionHypothesis]

theorem openFile?_unregister_of_ne
    {workspace other : Nat} {uri otherUri : String} (system : System)
    (different : (other, otherUri) ≠ (workspace, uri)) :
    (system.unregister workspace uri).openFile? other otherUri =
      system.openFile? other otherUri := by
  simp only [openFile?, unregister, modifyWorkspace, List.getElem?_modify]
  by_cases same : workspace = other
  · have otherUris : otherUri ≠ uri := fun sameUri => different (by rw [same, sameUri])
    cases system.workspaces[other]? with
    | none => rfl
    | some found =>
        simp only [same, if_true, Option.bind_some]
        exact lookup_filter_of_ne otherUris
  · simp [same]

theorem openFile?_of_unregister
    {workspace other file : Nat} {uri otherUri : String}
    (registered : (system.unregister workspace uri).openFile? other otherUri = some file) :
    system.openFile? other otherUri = some file := by
  by_cases same : (other, otherUri) = (workspace, uri)
  · obtain ⟨rfl, rfl⟩ := Prod.mk.inj same
    rw [openFile?_unregister_self] at registered
    cases registered
  · rwa [openFile?_unregister_of_ne system same] at registered

theorem openFile?_addFile_self
    {file : OpenFile} {found : Workspace} (known : system.workspaces[file.workspace]? = some found)
    (free : system.openFile? file.workspace file.uri = none) :
    (system.addFile file).openFile? file.workspace file.uri = some system.files.length := by
  have unregistered : found.openFiles.lookup file.uri = none := by
    simpa [openFile?, known] using free
  simp [openFile?, addFile, modifyWorkspace, known, List.lookup_append, unregistered]

theorem openFile?_addFile_of_ne
    {file : OpenFile} {workspace : Nat} {uri : String} (system : System)
    (different : (workspace, uri) ≠ (file.workspace, file.uri)) :
    (system.addFile file).openFile? workspace uri = system.openFile? workspace uri := by
  simp only [openFile?, addFile, modifyWorkspace, List.getElem?_modify]
  by_cases same : file.workspace = workspace
  · have otherUri : uri ≠ file.uri := fun sameUri => different (by rw [same, sameUri])
    cases system.workspaces[workspace]? with
    | none => rfl
    | some found =>
        have notNew : (uri == file.uri) = false := by simpa using otherUri
        simp [same, List.lookup_append, List.lookup_cons, notNew]
  · simp [same]

theorem openFile?_clearWorkspace_self (system : System) (workspace session : Nat) (uri : String) :
    (system.clearWorkspace workspace session).openFile? workspace uri = none := by
  simp only [openFile?, clearWorkspace, modifyWorkspace, modifySession, List.getElem?_modify_eq]
  cases system.workspaces[workspace]? with
  | none => rfl
  | some found => rfl

theorem openFile?_clearWorkspace_of_ne
    {workspace other : Nat} (system : System) (session : Nat) (uri : String)
    (different : workspace ≠ other) :
    (system.clearWorkspace workspace session).openFile? other uri = system.openFile? other uri := by
  simp [openFile?, clearWorkspace, modifyWorkspace, modifySession, different]

/-! ## Asides -/

namespace Aside

variable (aside : Aside before after)

include aside

theorem openFile? (workspace : Nat) (uri : String) :
    after.openFile? workspace uri = before.openFile? workspace uri := by
  unfold System.openFile?
  cases known : before.workspaces[workspace]? with
  | some found => rw [aside.workspaces workspace found known]
  | none =>
      cases later : after.workspaces[workspace]? with
      | none => rfl
      | some found =>
          have isNew := List.getElem?_eq_none_iff.mp known
          simp [aside.newWorkspaces workspace found isNew later]

theorem isOpen {file : Nat} {found : OpenFile} (known : before.files[file]? = some found) :
    after.isOpen file = before.isOpen file := by
  simp only [System.isOpen, known, aside.files file found known, aside.openFile?]

/-- The session of a workspace stays, and it stays closed if it is. -/
theorem sessionOf?
    {workspace : Nat} {session : Session} (known : before.sessionOf? workspace = some session) :
    ∃ later, after.sessionOf? workspace = some later ∧
      (session.closed = true → later.closed = true) := by
  obtain ⟨found, isWorkspace, isSession⟩ := Option.bind_eq_some_iff.mp known
  obtain ⟨later, laterKnown, _, closes⟩ := aside.sessions found.session session isSession
  refine ⟨later, ?_, closes⟩
  rw [System.sessionOf?, aside.workspaces workspace found isWorkspace, Option.bind_some, laterKnown]

/-- Who can write after an aside could do so before. -/
theorem not_shut
    {workspace link : Nat} (writable : after.openLink? workspace = some link) :
    ¬ before.IsShut workspace := by
  rintro ⟨session, known, closed⟩
  obtain ⟨later, laterKnown, closes⟩ := aside.sessionOf? known
  have shut : after.IsShut workspace := ⟨later, laterKnown, closes closed⟩
  rw [shut.not_writable] at writable
  cases writable

end Aside

/-! ## Deeds -/

namespace Performs

variable (performs : Performs before deed after)

include performs

theorem files {file : Nat} {found : OpenFile} (known : before.files[file]? = some found) :
    after.files[file]? = some found := by
  cases performs with
  | announce new link text free writable =>
      have inside : file < before.files.length := (List.getElem?_eq_some_iff.mp known).1
      change (before.files ++ [new])[file]? = some found
      rw [List.getElem?_append_left inside, known]
  | _ => exact known

/-- Whoever is registered after a deed was registered before it or is new. -/
theorem openFile?_cases
    {workspace file : Nat} {uri : String} (registered : after.openFile? workspace uri = some file) :
    before.openFile? workspace uri = some file ∨
      before.files.length ≤ file ∧ file < after.files.length := by
  cases performs with
  | announce new link text free writable =>
      by_cases same : (workspace, uri) = (new.workspace, new.uri)
      · obtain ⟨rfl, rfl⟩ := Prod.mk.inj same
        obtain ⟨found, _, known, _⟩ := openLink?_eq_some.mp writable
        have isNew : (before.addFile new).openFile? new.workspace new.uri = some file := registered
        rw [openFile?_addFile_self known free] at isNew
        obtain rfl := Option.some.inj isNew
        refine Or.inr ⟨Nat.le_refl _, ?_⟩
        change before.files.length < (before.files ++ [new]).length
        rw [List.length_append]
        exact Nat.lt_succ_self _
      · have kept : (before.addFile new).openFile? workspace uri = some file := registered
        rw [openFile?_addFile_of_ne before same] at kept
        exact Or.inl kept
  | withdraw owner withdrawn => exact Or.inl (openFile?_of_unregister registered)
  | change changed found link version text known isOpen writable => exact Or.inl registered
  | retract retracted found link known isOpen writable =>
      exact Or.inl (openFile?_of_unregister registered)
  | forget forgotten found known isOpen unwritable =>
      exact Or.inl (openFile?_of_unregister registered)
  | ask link id method params isQuery => exact Or.inl registered
  | clear cleared found known =>
      by_cases same : cleared = workspace
      · rw [same, openFile?_clearWorkspace_self] at registered
        cases registered
      · rw [openFile?_clearWorkspace_of_ne before _ uri same] at registered
        exact Or.inl registered

/-- Whoever is registered before a deed stays registered unless the deed withdraws him. -/
theorem openFile?_keeps
    {workspace file : Nat} {uri : String} (registered : before.openFile? workspace uri = some file) :
    after.openFile? workspace uri = some file ∨ deed = .withdraw workspace uri ∨
      deed = .retract file ∨ deed = .forget file ∨ deed = .clear workspace := by
  -- Two handles that are open under one uri are the same.
  have unregisters (other : Nat) (found : OpenFile) (known : before.files[other]? = some found)
      (isOpen : before.isOpen other = true) :
      (before.unregister found.workspace found.uri).openFile? workspace uri = some file ∨
        other = file := by
    by_cases same : (workspace, uri) = (found.workspace, found.uri)
    · obtain ⟨rfl, rfl⟩ := Prod.mk.inj same
      rw [isOpen_of_openFile? known rfl rfl, registered] at isOpen
      exact Or.inr (Option.some.inj isOpen).symm
    · rw [openFile?_unregister_of_ne before same]
      exact Or.inl registered
  cases performs with
  | announce new link text free writable =>
      left
      have different : (workspace, uri) ≠ (new.workspace, new.uri) := fun same => by
        obtain ⟨rfl, rfl⟩ := Prod.mk.inj same
        rw [free] at registered
        cases registered
      have kept : (before.addFile new).openFile? workspace uri = some file := by
        rw [openFile?_addFile_of_ne before different, registered]
      exact kept
  | withdraw owner withdrawn =>
      by_cases same : (workspace, uri) = (owner, withdrawn)
      · obtain ⟨rfl, rfl⟩ := Prod.mk.inj same
        exact Or.inr (Or.inl rfl)
      · rw [openFile?_unregister_of_ne before same]
        exact Or.inl registered
  | change changed found link version text known isOpen writable => exact Or.inl registered
  | retract retracted found link known isOpen writable =>
      rcases unregisters retracted found known isOpen with kept | rfl
      · exact Or.inl kept
      · exact Or.inr (Or.inr (Or.inl rfl))
  | forget forgotten found known isOpen unwritable =>
      rcases unregisters forgotten found known isOpen with kept | rfl
      · exact Or.inl kept
      · exact Or.inr (Or.inr (Or.inr (Or.inl rfl)))
  | ask link id method params isQuery => exact Or.inl registered
  | clear cleared found known =>
      by_cases same : cleared = workspace
      · exact Or.inr (Or.inr (Or.inr (Or.inr (by rw [same]))))
      · rw [openFile?_clearWorkspace_of_ne before _ uri same]
        exact Or.inl registered

/-- The session of a workspace stays, and it stays closed if it is. -/
theorem sessionOf?
    {workspace : Nat} {session : Session} (known : before.sessionOf? workspace = some session) :
    ∃ later, after.sessionOf? workspace = some later ∧
      (session.closed = true → later.closed = true) := by
  have unregistered (owner : Nat) (uri : String) :
      (before.unregister owner uri).sessionOf? workspace = some session := by
    rw [← known]
    exact sessionOf?_modifyWorkspace before owner workspace fun _ => rfl
  cases performs with
  | announce new link text free writable =>
      refine ⟨session, ?_, id⟩
      rw [← known]
      exact sessionOf?_modifyWorkspace { before with files := before.files ++ [new] } new.workspace
        workspace fun _ => rfl
  | withdraw owner withdrawn => exact ⟨session, unregistered owner withdrawn, id⟩
  | change changed found link version text isFile isOpen writable => exact ⟨session, known, id⟩
  | retract retracted found link isFile isOpen writable =>
      exact ⟨session, unregistered found.workspace found.uri, id⟩
  | forget forgotten found isFile isOpen unwritable =>
      exact ⟨session, unregistered found.workspace found.uri, id⟩
  | ask link id method params isQuery => exact ⟨session, known, fun closed => closed⟩
  | clear cleared found isWorkspace =>
      have emptied : (before.modifyWorkspace cleared fun found =>
          { found with openFiles := [] }).sessionOf? workspace = some session := by
        rw [← known]
        exact sessionOf?_modifyWorkspace before cleared workspace fun _ => rfl
      have closes : Aside (before.modifyWorkspace cleared fun found => { found with openFiles := [] })
          (before.clearWorkspace cleared found.session) :=
        .modifySession _ (fun _ => rfl) fun _ _ => rfl
      exact closes.sessionOf? emptied

/-- An announcement of a new handle. -/
theorem announced {file : Nat} (isAnnounced : deed = .announce file) :
    file = before.files.length ∧ ∃ (new : OpenFile) (link : Nat) (text : String),
      before.openFile? new.workspace new.uri = none ∧
        before.openLink? new.workspace = some link ∧
          after = (before.addFile new).note (.handed link (notificationMessage Method.didOpen
            (some (didOpenParams new.uri new.languageId text)))) := by
  cases performs with
  | announce new link text free writable =>
      exact ⟨(Deed.announce.inj isAnnounced).symm, new, link, text, free, writable, rfl⟩
  | _ => cases isAnnounced

end Performs

/-! ## Words of deeds -/

namespace Does

theorem single (does : Does before [deed] after) :
    ∃ here there, Aside before here ∧ Performs here deed there ∧ Aside there after := by
  obtain ⟨here, there, aside, performs, rest⟩ := does.of_cons
  exact ⟨here, there, aside, performs, rest.of_nil⟩

section Withdrawn

variable {workspace : Nat} {uri : String} (does : Does before [.withdraw workspace uri] after)

include does

theorem openFile?_withdrawn : after.openFile? workspace uri = none := by
  obtain ⟨here, there, aside, performs, rest⟩ := does.single
  cases performs with
  | withdraw workspace uri => rw [rest.openFile?, openFile?_unregister_self]

theorem openFile?_of_ne_withdrawn
    {other : Nat} {otherUri : String} (different : (other, otherUri) ≠ (workspace, uri)) :
    after.openFile? other otherUri = before.openFile? other otherUri := by
  obtain ⟨here, there, aside, performs, rest⟩ := does.single
  cases performs with
  | withdraw workspace uri =>
      rw [rest.openFile?, openFile?_unregister_of_ne here different, aside.openFile?]

end Withdrawn

variable (does : Does before deeds after)

include does

theorem openFile?_keeps
    {workspace file : Nat} {uri : String} (registered : before.openFile? workspace uri = some file) :
    after.openFile? workspace uri = some file ∨ ∃ deed ∈ deeds, deed = .withdraw workspace uri ∨
      deed = .retract file ∨ deed = .forget file ∨ deed = .clear workspace := by
  induction does with
  | aside aside => exact Or.inl ((aside.openFile? workspace uri).trans registered)
  | perform aside performs rest inductionHypothesis =>
      rcases performs.openFile?_keeps ((aside.openFile? workspace uri).trans registered) with
        kept | withdraws
      · exact (inductionHypothesis kept).imp_right fun ⟨deed, member, withdraws⟩ =>
          ⟨deed, List.mem_cons_of_mem _ member, withdraws⟩
      · exact Or.inr ⟨_, List.mem_cons_self, withdraws⟩

theorem files {file : Nat} {found : OpenFile} (known : before.files[file]? = some found) :
    after.files[file]? = some found := by
  induction does with
  | aside aside => exact aside.files file found known
  | perform aside performs rest inductionHypothesis =>
      exact inductionHypothesis (performs.files (aside.files file found known))

theorem isHandleOf
    {workspace file : Nat} {uri : String} (handle : before.IsHandleOf file workspace uri) :
    after.IsHandleOf file workspace uri := by
  obtain ⟨found, known, ofWorkspace, ofUri⟩ := handle
  exact ⟨found, does.files known, ofWorkspace, ofUri⟩

theorem length_files : before.files.length ≤ after.files.length := by
  by_contra shorter
  have inside : after.files.length < before.files.length := Nat.lt_of_not_le shorter
  have kept := does.files (List.getElem?_eq_getElem inside)
  exact Nat.lt_irrefl _ (List.getElem?_eq_some_iff.mp kept).1

theorem openFile?_cases
    {workspace file : Nat} {uri : String} (registered : after.openFile? workspace uri = some file) :
    before.openFile? workspace uri = some file ∨
      before.files.length ≤ file ∧ file < after.files.length := by
  induction does with
  | aside aside => exact Or.inl (aside.openFile? workspace uri ▸ registered)
  | @perform before here there after deed deeds aside performs rest inductionHypothesis =>
      have grown : before.files.length ≤ here.files.length := (Does.aside aside).length_files
      have grownMore : here.files.length ≤ there.files.length := (Does.one performs).length_files
      rcases inductionHypothesis registered with kept | ⟨isNew, inside⟩
      · rcases performs.openFile?_cases kept with earlier | ⟨isNew, inside⟩
        · exact Or.inl (aside.openFile? workspace uri ▸ earlier)
        · exact Or.inr ⟨Nat.le_trans grown isNew,
            Nat.lt_of_lt_of_le inside rest.length_files⟩
      · exact Or.inr ⟨Nat.le_trans grown (Nat.le_trans grownMore isNew), inside⟩

/-- Whoever is known and not open is never open again. -/
theorem not_isOpen
    {file : Nat} {found : OpenFile} (known : before.files[file]? = some found)
    (isClosed : before.isOpen file = false) : after.isOpen file = false := by
  rw [← Bool.not_eq_true, isOpen_of_openFile? (does.files known) rfl rfl]
  intro registered
  rcases does.openFile?_cases registered with earlier | ⟨isNew, _⟩
  · rw [← isOpen_of_openFile? known rfl rfl, isClosed] at earlier
    cases earlier
  · exact Nat.lt_irrefl _ (Nat.lt_of_lt_of_le (List.getElem?_eq_some_iff.mp known).1 isNew)

theorem sessionOf?
    {workspace : Nat} {session : Session} (known : before.sessionOf? workspace = some session) :
    ∃ later, after.sessionOf? workspace = some later ∧
      (session.closed = true → later.closed = true) := by
  induction does generalizing session with
  | aside aside => exact aside.sessionOf? known
  | perform aside performs rest inductionHypothesis =>
      obtain ⟨first, firstKnown, firstCloses⟩ := aside.sessionOf? known
      obtain ⟨second, secondKnown, secondCloses⟩ := performs.sessionOf? firstKnown
      obtain ⟨later, laterKnown, laterCloses⟩ := inductionHypothesis secondKnown
      exact ⟨later, laterKnown, laterCloses ∘ secondCloses ∘ firstCloses⟩

theorem synchronizers : after.synchronizers.length = before.synchronizers.length := by
  induction does with
  | aside aside => exact aside.synchronizers
  | perform aside performs rest inductionHypothesis =>
      have kept : ∀ {before after : System} {deed : Deed}, Performs before deed after →
          after.synchronizers.length = before.synchronizers.length := by
        intro before after deed performs
        cases performs with
        | _ => rfl
      exact (inductionHypothesis.trans (kept performs)).trans aside.synchronizers

theorem shut {workspace : Nat} (shut : before.IsShut workspace) : after.IsShut workspace := by
  obtain ⟨session, known, closed⟩ := shut
  obtain ⟨later, laterKnown, closes⟩ := does.sessionOf? known
  exact ⟨later, laterKnown, closes closed⟩

end Does

end LanguageClient.Client.System
