import LanguageClient.Proofs.Editor.Starting

/-!
# Queries of an editor

What a call does when its send has ended. A hover looks its offset up in the text as it is then, a
completion has done so before its send; both hand their request to the connection in the same turn.
-/

namespace LanguageClient.Client

open LanguageClient.Json LanguageClient.Loop LanguageClient.Number LanguageClient.Protocol

/-- The request that a call hands on when its send has ended and the editor has some text. -/
inductive Asks (uri text : String) : Frame → Value → Prop where
  | hover (offset : Int) (position : Position) (id : String)
      (resolved : (Document.Snapshot.ofText text).toPosition offset = .ok position) :
    Asks uri text (.flushingForHover 0 offset)
      (requestMessage id Method.hover (some (hoverParams uri position)))
  | completion (query : CompletionQuery) (id : String) :
    Asks uri text (.flushingForCompletion 0 query)
      (requestMessage id Method.completion
        (some (completionParams uri query.position query.trigger)))

/-! ## Documents during a request -/

/-- A step that opens and closes no document. -/
structure Step.KeepsDocuments (system : System) (step : Step) : Prop where
  files : step.1.files = system.files
  workspaces : step.1.workspaces = system.workspaces

section Documents

variable {system : System}

theorem Step.KeepsDocuments.andThen
    {step : Step} {frame : Frame} {rest : System → Outcome Reply → Step}
    (first : step.KeepsDocuments system)
    (second : ∀ after outcome, (rest after outcome).KeepsDocuments after) :
    (step.andThen frame rest).KeepsDocuments system := by
  obtain ⟨after, outcome | ⟨frames, promise⟩⟩ := step
  · exact ⟨(second after outcome).files.trans first.files,
      (second after outcome).workspaces.trans first.workspaces⟩
  · exact ⟨first.files, first.workspaces⟩

theorem Step.KeepsDocuments.isOpen
    {step : Step} (keeps : step.KeepsDocuments system) (file : Nat) :
    step.1.isOpen file = system.isOpen file := by
  unfold System.isOpen System.openFile?
  rw [keeps.files, keeps.workspaces]

theorem System.await_keepsDocuments (system : System) (promise : Nat) :
    (system.await promise).KeepsDocuments system := by
  unfold System.await
  split
  · exact ⟨rfl, rfl⟩
  · exact ⟨rfl, rfl⟩

theorem System.recover_keepsDocuments (system : System) (failure : Failure) (without : Reply) :
    (system.recover failure without).KeepsDocuments system := by
  unfold System.recover
  split
  · exact ⟨rfl, rfl⟩
  · exact ⟨rfl, rfl⟩

theorem System.write_keepsDocuments
    (system : System) (session : Nat) (subject : String) (frame : Value) :
    (system.write session subject frame).KeepsDocuments system := by
  cases sessionFound : system.sessions[session]? with
  | none =>
      simp only [System.write, sessionFound]
      exact ⟨rfl, rfl⟩
  | some found =>
      rcases System.write_cases subject frame sessionFound with
        ⟨failure, _, result⟩ | result | result
      · rw [result]
        exact ⟨rfl, rfl⟩
      · rw [result]
        exact ⟨rfl, rfl⟩
      · rw [result]
        exact ⟨rfl, rfl⟩

theorem System.request_keepsDocuments
    (system : System) (session : Nat) (method : String) (params : Option Value)
    (timeout : Option Quantity) :
    (system.request session method params timeout).KeepsDocuments system := by
  have requesting (promise : Nat) (after : System) (outcome : Outcome Reply) :
      (System.resumeRequesting promise after outcome).KeepsDocuments after := by
    cases outcome with
    | returned reply => exact after.await_keepsDocuments promise
    | failed failure => exact ⟨rfl, rfl⟩
    | cancelled => exact ⟨rfl, rfl⟩
  unfold System.request
  split
  · exact ⟨rfl, rfl⟩
  · split
    · exact ⟨rfl, rfl⟩
    · simp only
      split
      · exact ⟨rfl, rfl⟩
      · split
        · refine Step.KeepsDocuments.andThen ⟨?_, ?_⟩ (requesting _)
          · exact (System.write_keepsDocuments _ session method _).files
          · exact (System.write_keepsDocuments _ session method _).workspaces
        · exact ⟨rfl, rfl⟩

theorem System.requestOf_keepsDocuments
    (system : System) (editor : Editor) (method : String) (params : Value) :
    (system.requestOf editor method params).KeepsDocuments system := by
  unfold System.requestOf
  split
  · exact ⟨rfl, rfl⟩
  · exact system.request_keepsDocuments _ _ _ _

end Documents

/-! ## When a send has ended -/

section Callers

variable {uri : String} {running : Option Nat} {before system : System} {view : View}

/-- A request of an editor asks at most with its own message. -/
theorem requestOf_quiet
    {method : String} (passage : EditorPassage uri running before view system) (editor : Editor)
    (params : Value) (noOpening : method ≠ Method.didOpen) (noChange : method ≠ Method.didChange) :
    QuietRun uri running before view
      (fun query => ∃ id, query = requestMessage id method (some params))
      (system.requestOf editor method params) := by
  unfold System.requestOf
  split
  · exact .ended passage _
  · exact (request_quiet passage _ (some params) _ noOpening noChange).mono fun _ => And.left

theorem EditorPassage.snapshotOf
    {found : Editor} (passage : EditorPassage uri running before view system)
    (synchronizer : found.synchronizer = 0) :
    system.snapshotOf found = .ofText view.synchronizer.text := by
  rw [System.snapshotOf, System.editorText, synchronizer, passage.parts.synchronizers]
  rfl

theorem resumeFlushingForHover_quiet
    (passage : EditorPassage uri running before view system) (offset : Int)
    (outcome : Outcome Reply) :
    QuietRun uri running before view
      (fun query => (∃ reply, outcome = .returned reply) ∧
        Asks uri view.synchronizer.text (.flushingForHover 0 offset) query)
      (System.resumeFlushingForHover 0 offset system outcome) := by
  obtain ⟨found, editors, synchronizer, documentUri⟩ := passage.parts.editor
  cases outcome with
  | returned reply =>
      simp only [System.resumeFlushingForHover, editors, List.getElem?_cons_zero,
        passage.snapshotOf synchronizer]
      split
      · exact recover_quiet passage _ _
      · rename_i position resolved
        have asked := requestOf_quiet passage found
          (hoverParams found.documentUri.display position)
          (by decide : Method.hover ≠ Method.didOpen) (by decide)
        rw [documentUri] at asked ⊢
        refine (asked.mono ?_).andThen trivial nofun fun _ _ ending _ next =>
          resumeHovering_quiet next 0 position ending
        rintro query ⟨id, rfl⟩
        exact ⟨⟨reply, rfl⟩, .hover offset position id resolved⟩
  | failed failure => exact recover_quiet passage _ _
  | cancelled => exact .ended passage _

theorem resumeFlushingForCompletion_quiet
    (passage : EditorPassage uri running before view system) (query : CompletionQuery)
    (outcome : Outcome Reply) :
    QuietRun uri running before view
      (fun asked => (∃ reply, outcome = .returned reply) ∧
        Asks uri view.synchronizer.text (.flushingForCompletion 0 query) asked)
      (System.resumeFlushingForCompletion 0 query system outcome) := by
  obtain ⟨found, editors, _, documentUri⟩ := passage.parts.editor
  cases outcome with
  | returned reply =>
      simp only [System.resumeFlushingForCompletion, editors, List.getElem?_cons_zero]
      have asked := requestOf_quiet passage found
        (completionParams found.documentUri.display query.position query.trigger)
        (by decide : Method.completion ≠ Method.didOpen) (by decide)
      rw [documentUri] at asked ⊢
      refine (asked.mono ?_).andThen trivial nofun fun _ _ ending _ next =>
        resumeCompleting_quiet next query ending
      rintro _ ⟨id, rfl⟩
      exact ⟨⟨reply, rfl⟩, .completion query id⟩
  | failed failure => exact recover_quiet passage _ _
  | cancelled => exact .ended passage _

theorem resumeSendingDebounced_quiet
    {asks : Value → Prop} (passage : EditorPassage uri running before view system)
    (synchronizer : Nat) (outcome : Outcome Reply) :
    QuietRun uri running before view asks
      (System.resumeSendingDebounced synchronizer system outcome) := by
  cases outcome with
  | returned reply => exact .ended passage _
  | failed failure => exact .ended (passage.log _ _ _) _
  | cancelled => exact .ended passage _

theorem resumeRefreshing_quiet
    {asks : Value → Prop} (passage : EditorPassage uri running before view system)
    (outcome : Outcome Reply) :
    QuietRun uri running before view asks (System.resumeRefreshing system outcome) := by
  cases outcome with
  | returned reply => exact .ended passage _
  | failed failure => exact recover_quiet passage _ _
  | cancelled => exact .ended passage _

/-- A call whose send has returned hands its request on; otherwise it asks nothing. -/
theorem resumeCaller_quiet
    {caller : Frame} (passage : EditorPassage uri running before view system)
    (sends : caller.AwaitsSend) (outcome : Outcome Reply) :
    QuietRun uri running before view
      (fun query => (∃ reply, outcome = .returned reply) ∧
        Asks uri view.synchronizer.text caller query)
      (System.resumeFrame caller system outcome) := by
  cases caller with
  | flushingForHover editor offset =>
      obtain rfl : editor = 0 := sends
      exact resumeFlushingForHover_quiet passage offset outcome
  | flushingForCompletion editor query =>
      obtain rfl : editor = 0 := sends
      exact resumeFlushingForCompletion_quiet passage query outcome
  | sendingDebounced synchronizer => exact resumeSendingDebounced_quiet passage synchronizer outcome
  | refreshing => exact resumeRefreshing_quiet passage outcome
  | _ => exact sends.elim

theorem resumeHovering_keepsDocuments
    (system : System) (editor : Nat) (position : Position) (outcome : Outcome Reply) :
    (System.resumeHovering editor position system outcome).KeepsDocuments system := by
  unfold System.resumeHovering
  split
  · split
    · exact system.recover_keepsDocuments _ _
    · split
      · exact ⟨rfl, rfl⟩
      · exact ⟨rfl, rfl⟩
  · exact ⟨rfl, rfl⟩
  · exact system.recover_keepsDocuments _ _
  · exact ⟨rfl, rfl⟩

theorem resumeCompleting_keepsDocuments
    (system : System) (query : CompletionQuery) (outcome : Outcome Reply) :
    (System.resumeCompleting query system outcome).KeepsDocuments system := by
  unfold System.resumeCompleting
  split
  · split
    · exact system.recover_keepsDocuments _ _
    · exact ⟨rfl, rfl⟩
    · exact ⟨rfl, rfl⟩
  · exact ⟨rfl, rfl⟩
  · exact system.recover_keepsDocuments _ _
  · exact ⟨rfl, rfl⟩

theorem resumeCaller_keepsDocuments
    {caller : Frame} (sends : caller.AwaitsSend) (system : System) (outcome : Outcome Reply) :
    (System.resumeFrame caller system outcome).KeepsDocuments system := by
  cases caller with
  | flushingForHover editor offset =>
      change (System.resumeFlushingForHover editor offset system outcome).KeepsDocuments system
      unfold System.resumeFlushingForHover
      split
      · split
        · exact system.recover_keepsDocuments _ _
        · exact (system.requestOf_keepsDocuments _ _ _).andThen fun after =>
            resumeHovering_keepsDocuments after _ _
      · exact ⟨rfl, rfl⟩
      · exact system.recover_keepsDocuments _ _
      · exact ⟨rfl, rfl⟩
  | flushingForCompletion editor query =>
      change (System.resumeFlushingForCompletion editor query system outcome).KeepsDocuments system
      unfold System.resumeFlushingForCompletion
      split
      · exact (system.requestOf_keepsDocuments _ _ _).andThen fun after =>
          resumeCompleting_keepsDocuments after query
      · exact ⟨rfl, rfl⟩
      · exact system.recover_keepsDocuments _ _
      · exact ⟨rfl, rfl⟩
  | sendingDebounced synchronizer =>
      cases outcome with
      | returned reply => exact ⟨rfl, rfl⟩
      | failed failure => exact ⟨rfl, rfl⟩
      | cancelled => exact ⟨rfl, rfl⟩
  | refreshing =>
      cases outcome with
      | returned reply => exact ⟨rfl, rfl⟩
      | failed failure => exact system.recover_keepsDocuments _ _
      | cancelled => exact ⟨rfl, rfl⟩
  | _ => exact sends.elim

end Callers

end LanguageClient.Client
