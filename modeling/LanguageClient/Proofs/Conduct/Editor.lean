import LanguageClient.Proofs.Conduct.Synchronizer

/-!
# The conduct of an editor

A start announces the document once and may have to clear the workspace. A query hands over at most
one change and then at most one question. Closing an editor retracts its document and then clears its
workspace.
-/

namespace LanguageClient.Client.System

open LanguageClient.Json LanguageClient.Loop LanguageClient.Number LanguageClient.Protocol

variable {held : List Nat} {before system : System}

section Editor

variable (respects : Respects held before system)

include respects

theorem modifyEditor_idles (editor : Nat) (change : Editor → Editor) :
    Idles held before system (system.modifyEditor editor change) :=
  ⟨.of_same rfl rfl rfl rfl rfl, respects.of_same rfl rfl rfl rfl⟩

/-! ## Starting -/

theorem resumeAbandoningStart_conducts (editor : Nat) (ending outcome : Outcome Reply) :
    (resumeAbandoningStart editor ending system outcome).Conducts held before 1 system := by
  cases outcome with
  | returned reply => exact (modifyEditor_idles respects editor _).ended Language.nil_mem_one _
  | failed failure => exact (Idles.refl respects).ended Language.nil_mem_one _
  | cancelled => exact (Idles.refl respects).ended Language.nil_mem_one _

/-- Nothing is done after the workspace of an editor is closed. -/
theorem closeWorkspaceOf_conducts
    (editor : Nat) {frame : Frame} {rest : System → Outcome Reply → Step}
    (silent : frame.course = 1) (noPromises : frame.promises = []) (inner : frame.IsInner)
    (next : ∀ later outcome, Respects held before later →
      (rest later outcome).Conducts held before 1 later) :
    (system.closeWorkspaceOf editor frame rest).Conducts held before clearingCourse system := by
  unfold closeWorkspaceOf
  split
  · exact (Idles.refl respects).ended (Or.inl rfl) _
  · rename_i workspace _
    exact (closeWorkspace_conducts respects workspace).andThen_silent silent
      (fun promise member => absurd (noPromises ▸ member) List.not_mem_nil) inner
      fun later outcome _ laterRespects => next later outcome laterRespects

theorem resumeOpeningDocument_conducts (editor : Nat) (text : String) (outcome : Outcome Reply) :
    (resumeOpeningDocument editor text system outcome).Conducts held before clearingCourse
      system := by
  have nothing (ending : Outcome Reply) :
      Step.Conducts held before clearingCourse system (system, .ended ending) :=
    (Idles.refl respects).ended (Or.inl rfl) ending
  have abandons : ∀ ending, (system.closeWorkspaceOf editor (.abandoningStart editor ending)
      (resumeAbandoningStart editor ending)).Conducts held before clearingCourse system :=
    fun ending => closeWorkspaceOf_conducts respects editor rfl rfl trivial
      fun later outcome laterRespects =>
        resumeAbandoningStart_conducts laterRespects editor ending outcome
  unfold resumeOpeningDocument
  split
  · rename_i file found _
    have attached := attach_idles respects found.synchronizer file text
    split
    · rename_i later result
      rw [result] at attached
      exact attached.ended (Or.inl rfl) _
    · rename_i later failure result
      rw [result] at attached
      exact attached.ended (Or.inl rfl) _
  · exact nothing _
  · exact abandons _
  · exact abandons _

theorem openDocument_conducts (workspace editor : Nat) (found : Editor) (text : String) :
    (system.openDocument workspace editor found text).Conducts held before announcingCourse
      system := by
  unfold openDocument
  split
  · rename_i uri _
    exact (openFile_conducts respects workspace uri _ _ _).mono fun deeds isWord =>
      ⟨workspace, uri, isWord⟩
  · exact (Idles.refl respects).ended nil_mem_announcingCourse _

theorem resumeCreatingWorkspace_conducts (editor : Nat) (outcome : Outcome Reply) :
    (resumeCreatingWorkspace editor system outcome).Conducts held before startingCourse system := by
  unfold resumeCreatingWorkspace
  split
  · rename_i workspace found _
    have noted := modifyEditor_idles respects editor fun found =>
      { found with workspace := some workspace }
    refine .after_aside ?_ noted.aside
    exact (openDocument_conducts noted.respects workspace editor found _).andThen rfl nofun trivial
      fun later outcome _ laterRespects =>
        resumeOpeningDocument_conducts laterRespects editor _ outcome
  · exact (Idles.refl respects).ended nil_mem_startingCourse _
  · exact (Idles.refl respects).ended nil_mem_startingCourse _
  · exact (Idles.refl respects).ended nil_mem_startingCourse _

theorem start_conducts (editor : Nat) :
    (system.start editor).Conducts held before startingCourse system := by
  unfold start
  split
  · exact (Idles.refl respects).ended nil_mem_startingCourse _
  · exact (createWorkspace_conducts respects _).silent_andThen rfl nofun trivial
      fun later outcome _ laterRespects =>
        resumeCreatingWorkspace_conducts laterRespects editor outcome

/-! ## Queries -/

theorem recover_conducts (failure : Failure) (without : Reply) :
    (system.recover failure without).Conducts held before 1 system := by
  unfold recover
  split
  · exact (Idles.refl respects).ended Language.nil_mem_one _
  · exact (Idles.refl respects).ended Language.nil_mem_one _

theorem requestOf_conducts
    (editor : Editor) {method : String} (params : Value) (isQuery : method ∈ queryMethods) :
    (system.requestOf editor method params).Conducts held before askingCourse system := by
  unfold requestOf
  split
  · exact (Idles.refl respects).ended (Or.inl rfl) _
  · exact request_asks respects _ _ _ isQuery

theorem resumeHovering_conducts (editor : Nat) (position : Position) (outcome : Outcome Reply) :
    (resumeHovering editor position system outcome).Conducts held before 1 system := by
  have nothing := (Idles.refl respects).ended Language.nil_mem_one
  unfold resumeHovering
  split
  · split
    · exact recover_conducts respects _ _
    · split
      · exact nothing _
      · exact nothing _
  · exact nothing _
  · exact recover_conducts respects _ _
  · exact nothing _

theorem resumeFlushingForHover_conducts
    (editor : Nat) (offset : Int) (outcome : Outcome Reply) :
    (resumeFlushingForHover editor offset system outcome).Conducts held before askingCourse
      system := by
  have recovers (failure : Failure) :
      (system.recover failure (.hover none)).Conducts held before askingCourse system :=
    (recover_conducts respects failure _).mono fun _ isWord => Or.inl isWord
  unfold resumeFlushingForHover
  split
  · split
    · exact recovers _
    · rename_i found _ _ position _
      exact (requestOf_conducts respects found _ (by decide)).andThen_silent rfl nofun trivial
        fun later outcome _ laterRespects =>
          resumeHovering_conducts laterRespects editor position outcome
  · exact (Idles.refl respects).ended (Or.inl rfl) _
  · exact recovers _
  · exact (Idles.refl respects).ended (Or.inl rfl) _

theorem hover_conducts (editor : Nat) (offset : Int) :
    (system.hover editor offset).Conducts held before (flushingCourse * askingCourse) system := by
  have nothing := (Idles.refl respects).ended nil_mem_queryCourse
  unfold hover
  split
  · exact nothing _
  · rename_i found _
    split
    · exact nothing _
    · split
      · exact (flush_conducts respects found.synchronizer false).andThen rfl nofun trivial
          fun later outcome _ laterRespects =>
            resumeFlushingForHover_conducts laterRespects editor offset outcome
      · exact nothing _

theorem resumeCompleting_conducts (query : CompletionQuery) (outcome : Outcome Reply) :
    (resumeCompleting query system outcome).Conducts held before 1 system := by
  have nothing := (Idles.refl respects).ended Language.nil_mem_one
  unfold resumeCompleting
  split
  · split
    · exact recover_conducts respects _ _
    · exact nothing _
    · exact nothing _
  · exact nothing _
  · exact recover_conducts respects _ _
  · exact nothing _

theorem resumeFlushingForCompletion_conducts
    (editor : Nat) (query : CompletionQuery) (outcome : Outcome Reply) :
    (resumeFlushingForCompletion editor query system outcome).Conducts held before askingCourse
      system := by
  unfold resumeFlushingForCompletion
  split
  · rename_i found _
    exact (requestOf_conducts respects found _ (by decide)).andThen_silent rfl nofun trivial
      fun later outcome _ laterRespects => resumeCompleting_conducts laterRespects query outcome
  · exact (Idles.refl respects).ended (Or.inl rfl) _
  · exact (recover_conducts respects _ _).mono fun _ isWord => Or.inl isWord
  · exact (Idles.refl respects).ended (Or.inl rfl) _

theorem complete_conducts (editor : Nat) (offset : Int) (explicit : Bool) :
    (system.complete editor offset explicit).Conducts held before (flushingCourse * askingCourse)
      system := by
  have nothing := (Idles.refl respects).ended nil_mem_queryCourse
  unfold complete
  split
  · exact nothing _
  · rename_i found _
    split
    · exact nothing _
    · split
      · exact nothing _
      · rename_i query _
        exact (flush_conducts respects found.synchronizer false).andThen rfl nofun trivial
          fun later outcome _ laterRespects =>
            resumeFlushingForCompletion_conducts laterRespects editor query outcome

theorem resumeRefreshing_conducts (outcome : Outcome Reply) :
    (resumeRefreshing system outcome).Conducts held before 1 system := by
  cases outcome with
  | returned reply => exact (Idles.refl respects).ended Language.nil_mem_one _
  | failed failure => exact recover_conducts respects failure .nothing
  | cancelled => exact (Idles.refl respects).ended Language.nil_mem_one _

theorem refresh_conducts (editor : Nat) :
    (system.refresh editor).Conducts held before flushingCourse system := by
  unfold refresh
  split
  · exact (Idles.refl respects).ended nil_mem_flushingCourse _
  · rename_i found _
    split
    · exact (Idles.refl respects).ended nil_mem_flushingCourse _
    · exact (flush_conducts respects found.synchronizer true).andThen_silent rfl nofun trivial
        fun later outcome _ laterRespects => resumeRefreshing_conducts laterRespects outcome

/-! ## Closing -/

theorem resumeClosingWorkspace_conducts (editor : Nat) (ending outcome : Outcome Reply) :
    (resumeClosingWorkspace editor ending system outcome).Conducts held before 1 system := by
  cases outcome with
  | returned reply => exact (modifyEditor_idles respects editor _).ended Language.nil_mem_one _
  | failed failure => exact (Idles.refl respects).ended Language.nil_mem_one _
  | cancelled => exact (Idles.refl respects).ended Language.nil_mem_one _

theorem resumeClosingSynchronizer_conducts (editor : Nat) (outcome : Outcome Reply) :
    (resumeClosingSynchronizer editor system outcome).Conducts held before clearingCourse system :=
  closeWorkspaceOf_conducts respects editor rfl rfl trivial fun _ ending laterRespects =>
    resumeClosingWorkspace_conducts laterRespects editor outcome ending

theorem closeEditor_conducts (editor : Nat) :
    (system.closeEditor editor).Conducts held before (detachingCourse * clearingCourse) system := by
  have nothing := (Idles.refl respects).ended nil_mem_endingCourse
  unfold closeEditor
  split
  · exact nothing _
  · rename_i found _
    split
    · exact nothing _
    · exact (closeSynchronizer_conducts respects found.synchronizer).andThen rfl nofun trivial
        fun later outcome _ laterRespects =>
          resumeClosingSynchronizer_conducts laterRespects editor outcome

end Editor

end LanguageClient.Client.System
