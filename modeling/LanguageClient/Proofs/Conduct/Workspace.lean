import LanguageClient.Proofs.Conduct.Session

/-!
# The conduct of a workspace

The handshake does nothing about documents. A document is announced, changed and retracted through
its handle, and nothing is handed over once the session of the workspace is closed.
-/

namespace LanguageClient.Client.System

open LanguageClient.Json LanguageClient.Loop LanguageClient.Number LanguageClient.Protocol

variable {held : List Nat} {before system : System}

/-! ## The handshake -/

section Handshake

variable (respects : Respects held before system)

include respects

theorem resumeAbandoningHandshake_conducts (ending outcome : Outcome Reply) :
    (resumeAbandoningHandshake ending system outcome).Conducts held before 1 system := by
  have nothing := (Idles.refl respects).ended Language.nil_mem_one
  cases outcome with
  | returned reply => exact nothing _
  | failed failure => exact nothing _
  | cancelled => exact nothing _

theorem abandonHandshake_conducts
    (session : Nat) (serverUri : String) (ending : Outcome Reply) :
    (system.abandonHandshake session serverUri ending).Conducts held before 1 system := by
  have logged := Idles.log respects .error .workspace
    ("initialize failed for " ++ serverUri ++ ": " ++ endingText ending)
  refine .after_aside ?_ logged.aside
  exact (closeSession_conducts logged.respects session).andThen_silent rfl nofun trivial
    fun later outcome _ laterRespects =>
      resumeAbandoningHandshake_conducts laterRespects ending outcome

theorem addWorkspace_idles (session : Nat) (result : InitializeResult) :
    Idles held before system (system.addWorkspace session result) where
  aside := .addWorkspace system session result
  respects := (respects.of_same rfl rfl rfl rfl : Respects held before { system with
    workspaces := system.workspaces ++ [{
      session, capabilities := result.capabilities,
      serverInfo := result.serverInfo }] }).modifySession session fun _ _ => Or.inl

theorem resumeConfirming_conducts
    (session : Nat) (serverUri : String) (result : InitializeResult) (outcome : Outcome Reply) :
    (resumeConfirming session serverUri result system outcome).Conducts held before 1 system := by
  cases outcome with
  | returned reply =>
      exact (addWorkspace_idles respects session result).ended Language.nil_mem_one _
  | failed failure => exact abandonHandshake_conducts respects session serverUri _
  | cancelled => exact abandonHandshake_conducts respects session serverUri _

theorem resumeHandshaking_conducts
    (session : Nat) (serverUri : String) (outcome : Outcome Reply) :
    (resumeHandshaking session serverUri system outcome).Conducts held before 1 system := by
  unfold resumeHandshaking
  split
  · split
    · exact abandonHandshake_conducts respects session serverUri _
    · rename_i result _
      exact (notify_silent respects session _ (by decide)).andThen_silent rfl nofun trivial
        fun later outcome _ laterRespects =>
          resumeConfirming_conducts laterRespects session serverUri result outcome
  · exact abandonHandshake_conducts respects session serverUri _
  · exact abandonHandshake_conducts respects session serverUri _
  · exact abandonHandshake_conducts respects session serverUri _

theorem addSession_idles (link : Nat) (timeout : Quantity) :
    Idles held before system (system.addSession link timeout) where
  aside := .addSession system link timeout
  respects := by
    refine respects.of_sameLoop rfl (fun task member => ?_) fun _ => id
    simpa [System.ownTasks, System.addSession, List.flatMap_append] using member

theorem connect_idles : Idles held before system system.connect.1 := by
  unfold connect
  split
  · exact .refl respects
  · exact ⟨.of_same rfl rfl rfl rfl rfl, respects.of_same rfl rfl rfl rfl⟩

theorem createWorkspace_conducts (request : WorkspaceRequest) :
    (system.createWorkspace request).Conducts held before 1 system := by
  have dialled : Idles held before system (system.note (.dialled request.serverUri)) :=
    .note respects rfl
  unfold createWorkspace
  simp only
  split
  · exact dialled.ended Language.nil_mem_one _
  · have connected := dialled.trans (connect_idles dialled.respects)
    have added := connected.trans (addSession_idles connected.respects
      (system.note (.dialled request.serverUri)).connect.2 request.timeout)
    refine .after_aside ?_ added.aside
    exact (request_foreign added.respects _ _ _ (by decide)).andThen_silent rfl nofun trivial
      fun later outcome _ laterRespects =>
        resumeHandshaking_conducts laterRespects _ request.serverUri outcome

end Handshake

/-! ## What a workspace can write -/

theorem openLink?_eq_some {workspace link : Nat} :
    system.openLink? workspace = some link ↔
      ∃ found session, system.workspaces[workspace]? = some found ∧
        system.sessions[found.session]? = some session ∧ session.closed = false ∧
          session.link = link := by
  unfold openLink?
  constructor
  · intro writable
    obtain ⟨found, known, ofSession⟩ := Option.bind_eq_some_iff.mp writable
    obtain ⟨session, sessionKnown, isLink⟩ := Option.bind_eq_some_iff.mp ofSession
    by_cases closed : session.closed = true
    · simp [closed] at isLink
    · rw [if_neg closed] at isLink
      exact ⟨found, session, known, sessionKnown, Bool.eq_false_iff.mpr closed,
        Option.some.inj isLink⟩
  · rintro ⟨found, session, known, sessionKnown, isOpen, rfl⟩
    simp [known, sessionKnown, isOpen]

theorem openLink?_modifyWorkspace
    {change : Workspace → Workspace} (system : System) (workspace other : Nat)
    (session : ∀ found, (change found).session = found.session) :
    (system.modifyWorkspace workspace change).openLink? other = system.openLink? other := by
  unfold openLink? modifyWorkspace
  simp only [List.getElem?_modify]
  cases system.workspaces[other]? with
  | none => rfl
  | some found =>
      by_cases same : workspace = other
      · simp [same, session]
      · simp [same]

theorem openLink?_unregister (system : System) (workspace other : Nat) (uri : String) :
    (system.unregister workspace uri).openLink? other = system.openLink? other :=
  openLink?_modifyWorkspace system workspace other fun _ => rfl

theorem openLink?_addFile (system : System) (file : OpenFile) (other : Nat) :
    (system.addFile file).openLink? other = system.openLink? other :=
  openLink?_modifyWorkspace { system with files := system.files ++ [file] } file.workspace other
    fun _ => rfl

/-- A notification of a workspace fails where it stands, or it is written. The latter is so if the
workspace can write and the parameters can be written. -/
theorem notifyIn_cases (system : System) (workspace : Nat) (method : String) (params : Value) :
    ((isWritable params = true → system.openLink? workspace = none) ∧ ∃ failure,
      system.notifyIn workspace method params = (system, .ended (.failed failure))) ∨
    ∃ session found, system.openLink? workspace = some found.link ∧
      system.sessions[session]? = some found ∧
      system.notifyIn workspace method params =
        system.write session method (notificationMessage method (some params)) := by
  cases known : system.workspaces[workspace]? with
  | none =>
      left
      refine ⟨fun _ => by simp [openLink?, known], .missing, ?_⟩
      simp only [notifyIn, known, Step.failed]
  | some found =>
      cases target : system.sessions[found.session]? with
      | none =>
          left
          refine ⟨fun _ => by simp [openLink?, known, target], .missing, ?_⟩
          simp only [notifyIn, known, notify, target, Step.failed]
      | some session =>
          by_cases closed : session.closed = true
          · left
            refine ⟨fun _ => by simp [openLink?, known, target, closed], .sessionClosed method, ?_⟩
            simp only [notifyIn, known, notify, target, closed, if_true, Step.failed]
          · by_cases written : isWritable params = true
            · right
              refine ⟨found.session, session, ?_, target, ?_⟩
              · simp [openLink?, known, target, closed]
              · simp [notifyIn, known, notify, target, closed, written]
            · left
              refine ⟨fun isWritten => absurd isWritten written, .nestedTooDeep, ?_⟩
              simp [notifyIn, known, notify, target, closed, written, Step.failed]

/-- A change that changes nothing of a session. -/
theorem modifySession_of_same
    {session : Nat} {change : Session → Session}
    (same : ∀ found, system.sessions[session]? = some found → change found = found) :
    system.modifySession session change = system := by
  have sessions : system.sessions.modify session change = system.sessions := by
    apply List.ext_getElem?
    intro place
    rw [List.getElem?_modify]
    by_cases here : session = place
    · cases known : system.sessions[place]? with
      | none => rfl
      | some found =>
          subst here
          simp [same found known]
    · simp [here]
  simp only [modifySession, sessions]

/-! ## Documents -/

section Documents

variable (respects : Respects held before system)

include respects

theorem resumeOpening_conducts
    (workspace : Nat) (uri : String) (file : Nat) (outcome : Outcome Reply) :
    (resumeOpening workspace uri file system outcome).Conducts held before
      (withdrawingCourse workspace uri) system := by
  have withdrawn : Does system [.withdraw workspace uri] (system.unregister workspace uri) :=
    .one (.withdraw workspace uri)
  have rolledBack : Respects held before (system.unregister workspace uri) :=
    respects.of_same rfl rfl rfl rfl
  cases outcome with
  | returned reply => exact (Idles.refl respects).ended (Or.inl rfl) _
  | failed failure => exact .ended withdrawn (Or.inr rfl) rolledBack _
  | cancelled => exact .ended withdrawn (Or.inr rfl) rolledBack _

theorem openFile_conducts
    (workspace : Nat) (uri : String) (languageId : Value) (text : String)
    (listeners : List (String × DocumentListener)) :
    (system.openFile workspace uri languageId text listeners).Conducts held before
      (openingCourse workspace uri) system := by
  unfold openFile
  split
  · exact (Idles.refl respects).ended (Or.inl rfl) _
  · rename_i free
    simp only
    have added : Respects held before (system.addFile { workspace, uri, languageId, listeners }) :=
      respects.of_same rfl rfl rfl rfl
    rcases notifyIn_cases (system.addFile { workspace, uri, languageId, listeners }) workspace
        Method.didOpen (didOpenParams uri languageId text) with
      ⟨_, failure, fails⟩ | ⟨session, found, writable, known, writes⟩
    · rw [fails]
      simp only [Step.andThen, resumeOpening, Step.ended]
      rw [addFile_unregister free]
      exact .idle (.addHandle system _) (respects.of_same rfl rfl rfl rfl) (Or.inl rfl) _
    · rw [writes]
      have announced : Does system [.announce system.files.length]
          ((system.addFile { workspace, uri, languageId, listeners }).note (.handed found.link
            (notificationMessage Method.didOpen (some (didOpenParams uri languageId text))))) :=
        .one (.announce { workspace, uri, languageId, listeners } found.link text free
          (openLink?_addFile system _ workspace ▸ writable))
      have written : ((system.addFile { workspace, uri, languageId, listeners }).write session
          Method.didOpen (notificationMessage Method.didOpen
            (some (didOpenParams uri languageId text)))).Conducts held before
              {deeds | deeds = [.announce system.files.length]} system :=
        write_conducts added known announced rfl
      have noPromise : ∀ promise ∈ (Frame.opening workspace uri system.files.length).promises,
          before.Owns held promise := by simp [Frame.promises]
      have opened := written.andThen rfl noPromise trivial fun later outcome _ laterRespects =>
        resumeOpening_conducts laterRespects workspace uri system.files.length outcome
      refine opened.mono fun deeds member => ?_
      obtain ⟨first, rfl, last, isLast, rfl⟩ := Language.mem_mul.mp member
      rcases isLast with rfl | rfl
      · exact Or.inr ⟨_, Or.inl rfl⟩
      · exact Or.inr ⟨_, Or.inr rfl⟩

theorem changeFile_conducts (file : Nat) (version : Int) (text : String) :
    (system.changeFile file version text).Conducts held before (changingCourse file) system := by
  have nothing (outcome : Outcome Reply) :
      Step.Conducts held before (changingCourse file) system (system, .ended outcome) :=
    (Idles.refl respects).ended (Or.inl rfl) outcome
  unfold changeFile
  split
  · exact nothing _
  · rename_i found known
    by_cases isOpen : system.isOpen file = true
    · rw [isOpen]
      simp only [Bool.not_true, Bool.false_eq_true, if_false]
      split
      · exact nothing _
      · rcases notifyIn_cases system found.workspace Method.didChange
            (didChangeParams found.uri version text) with
          ⟨_, failure, fails⟩ | ⟨session, target, writable, targetKnown, writes⟩
        · rw [fails]
          exact nothing _
        · rw [writes]
          exact write_conducts respects targetKnown
            (.one (.change file found target.link version text known isOpen writable)) (Or.inr rfl)
    · simp only [isOpen]
      exact nothing _

theorem resumeClosingFile_conducts (uri : String) (outcome : Outcome Reply) :
    (resumeClosingFile uri system outcome).Conducts held before 1 system := by
  cases outcome with
  | returned reply => exact (Idles.refl respects).ended Language.nil_mem_one _
  | failed failure => exact (Idles.log respects _ _ _).ended Language.nil_mem_one _
  | cancelled => exact (Idles.refl respects).ended Language.nil_mem_one _

theorem closeFile_conducts (file : Nat) :
    (system.closeFile file).Conducts held before (closingCourse file) system := by
  have nothing (outcome : Outcome Reply) :
      Step.Conducts held before (closingCourse file) system (system, .ended outcome) :=
    (Idles.refl respects).ended (Or.inl rfl) outcome
  unfold closeFile
  split
  · exact nothing _
  · rename_i found known
    by_cases isOpen : system.isOpen file = true
    · rw [isOpen]
      simp only [Bool.not_true, Bool.false_eq_true, if_false]
      have withdrawn : Respects held before (system.unregister found.workspace found.uri) :=
        respects.of_same rfl rfl rfl rfl
      refine .andThen_silent ?_ rfl nofun trivial fun later outcome _ laterRespects =>
        resumeClosingFile_conducts laterRespects found.uri outcome
      rcases notifyIn_cases (system.unregister found.workspace found.uri) found.workspace
          Method.didClose (didCloseParams found.uri) with
        ⟨unwritable, failure, fails⟩ | ⟨session, target, writable, targetKnown, writes⟩
      · rw [fails]
        have silent : system.openLink? found.workspace = none := by
          rw [← openLink?_unregister system found.workspace found.workspace found.uri]
          exact unwritable (isWritable_didCloseParams found.uri)
        exact .ended (.one (.forget file found known isOpen silent)) (Or.inr (Or.inr rfl))
          withdrawn _
      · rw [writes]
        rw [openLink?_unregister] at writable
        exact write_conducts withdrawn targetKnown
          (.one (.retract file found target.link known isOpen writable)) (Or.inr (Or.inl rfl))
    · simp only [isOpen]
      exact nothing _

theorem closeWorkspace_conducts (workspace : Nat) :
    (system.closeWorkspace workspace).Conducts held before clearingCourse system := by
  unfold closeWorkspace
  split
  · exact (Idles.refl respects).ended (Or.inl rfl) _
  · rename_i found known
    have cleared : Does system [.clear workspace] (system.clearWorkspace workspace found.session) :=
      .one (.clear workspace found known)
    have isWord : [.clear workspace] ∈ clearingCourse := Or.inr ⟨workspace, rfl⟩
    have emptied : Respects held before
        (system.modifyWorkspace workspace fun found => { found with openFiles := [] }) :=
      respects.of_same rfl rfl rfl rfl
    unfold closeSession
    split
    · rename_i missing
      have same : system.clearWorkspace workspace found.session =
          system.modifyWorkspace workspace fun found => { found with openFiles := [] } := by
        unfold clearWorkspace
        exact modifySession_of_same (fun session isKnown => by rw [missing] at isKnown; cases isKnown)
      exact .ended (same ▸ cleared) isWord emptied _
    · rename_i session sessionKnown
      split
      · rename_i closed
        have same : system.clearWorkspace workspace found.session =
            system.modifyWorkspace workspace fun found => { found with openFiles := [] } := by
          unfold clearWorkspace
          refine modifySession_of_same fun other isKnown => ?_
          rw [sessionKnown] at isKnown
          obtain rfl := Option.some.inj isKnown
          rw [← closed]
        exact .ended (same ▸ cleared) isWord emptied _
      · have shut := shut_idles emptied found.session
        refine (closeShut_conducts shut.respects found.session session.link
          (mayCancel_answers emptied sessionKnown)).prepend cleared ?_
        rintro rest rfl
        exact isWord

end Documents

end LanguageClient.Client.System
