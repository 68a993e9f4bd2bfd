import LanguageClient.Proofs.Editor.Quiet

/-!
# Quiet frames of an editor

Every quiet frame goes on with a quiet step, and so does a stack of them.
-/

namespace LanguageClient.Client

open LanguageClient.Json LanguageClient.Loop LanguageClient.Number LanguageClient.Protocol

section Frames

variable {uri : String} {running : Option Nat} {before system : System} {view : View}

/-! ## The handshake -/

theorem resumeAbandoningHandshake_quiet
    (passage : EditorPassage uri running before view system) (ending outcome : Outcome Reply) :
    QuietRun uri running before view noQuery
      (System.resumeAbandoningHandshake ending system outcome) := by
  cases outcome <;> exact .ended passage _

theorem abandonHandshake_quiet
    (passage : EditorPassage uri running before view system) (session : Nat) (serverUri : String)
    (ending : Outcome Reply) :
    QuietRun uri running before view noQuery
      (system.abandonHandshake session serverUri ending) :=
  (closeSession_quiet (passage.log _ _ _) session).andThen trivial nofun
    fun _ _ outcome _ next => resumeAbandoningHandshake_quiet next ending outcome

theorem resumeConfirming_quiet
    (passage : EditorPassage uri running before view system) (session : Nat) (serverUri : String)
    (result : InitializeResult) (outcome : Outcome Reply) :
    QuietRun uri running before view noQuery
      (System.resumeConfirming session serverUri result system outcome) := by
  cases outcome with
  | returned reply => exact .ended (passage.addWorkspace session result) _
  | failed failure => exact abandonHandshake_quiet passage session serverUri _
  | cancelled => exact abandonHandshake_quiet passage session serverUri _

theorem notification_silent
    (uri method : String) (params : Option Value) (noOpening : method ≠ Method.didOpen)
    (noChange : method ≠ Method.didChange) (noHover : method ≠ Method.hover)
    (noCompletion : method ≠ Method.completion) :
    delivery? uri (notificationMessage method params) = none ∧
      isQuery (notificationMessage method params) = false := by
  have isMethod : methodOf? (notificationMessage method params) = some method := by
    simp [methodOf?, notificationMessage, messageVersion, Value.get?, member?]
  exact ⟨delivery?_of_method uri isMethod noOpening noChange,
    by simp [isQuery, isMethod, noHover, noCompletion]⟩

theorem resumeHandshaking_quiet
    (passage : EditorPassage uri running before view system) (session : Nat) (serverUri : String)
    (outcome : Outcome Reply) :
    QuietRun uri running before view noQuery
      (System.resumeHandshaking session serverUri system outcome) := by
  have confirms (result : InitializeResult) : QuietRun uri running before view noQuery
      (Step.andThen (system.notify session Method.handshakeDone (some (.object [])))
        (.confirming session serverUri result)
        (System.resumeConfirming session serverUri result)) := by
    obtain ⟨nothing, other⟩ := notification_silent uri Method.handshakeDone
      (some (.object [])) (by decide) (by decide) (by decide) (by decide)
    exact (notify_quiet passage session nothing other).andThen trivial nofun
      fun _ _ outcome _ next => resumeConfirming_quiet next session serverUri result outcome
  unfold System.resumeHandshaking
  split
  · split
    · exact abandonHandshake_quiet passage session serverUri _
    · exact confirms _
  · exact abandonHandshake_quiet passage session serverUri _
  · exact abandonHandshake_quiet passage session serverUri _
  · exact abandonHandshake_quiet passage session serverUri _

theorem createWorkspace_quiet
    (passage : EditorPassage uri running before view system) (request : WorkspaceRequest) :
    QuietRun uri running before view noQuery (system.createWorkspace request) := by
  have dialled : EditorPassage uri running before view
      (system.note (.dialled request.serverUri)) :=
    passage.note trivial
  unfold System.createWorkspace
  simp only
  split
  · exact .ended dialled _
  · have connected := (dialled.connect).addSession
      (system.note (.dialled request.serverUri)).connect.2 request.timeout
    exact (request_silent connected _ _ _ (by decide) (by decide) (by decide) (by decide)).andThen
      trivial nofun fun _ _ outcome _ next =>
        resumeHandshaking_quiet next _ request.serverUri outcome

/-! ## Answers to queries -/

theorem resumeHovering_quiet
    (passage : EditorPassage uri running before view system) (editor : Nat) (position : Position)
    (outcome : Outcome Reply) :
    QuietRun uri running before view noQuery
      (System.resumeHovering editor position system outcome) := by
  unfold System.resumeHovering
  split
  · split
    · exact recover_quiet passage _ _
    · split
      · exact .ended passage _
      · exact .ended passage _
  · exact .ended passage _
  · exact recover_quiet passage _ _
  · exact .ended passage _

theorem resumeCompleting_quiet
    (passage : EditorPassage uri running before view system) (query : CompletionQuery)
    (outcome : Outcome Reply) :
    QuietRun uri running before view noQuery (System.resumeCompleting query system outcome) := by
  unfold System.resumeCompleting
  split
  · split
    · exact recover_quiet passage _ _
    · exact .ended passage _
    · exact .ended passage _
  · exact .ended passage _
  · exact recover_quiet passage _ _
  · exact .ended passage _

/-! ## Closing the document and the workspace -/

theorem resumeClosingWorkspace_quiet
    (passage : EditorPassage uri running before view system) (editor : Nat)
    (ending outcome : Outcome Reply) :
    QuietRun uri running before view noQuery
      (System.resumeClosingWorkspace editor ending system outcome) := by
  have left : EditorPassage uri running before view
      (system.modifyEditor editor fun found => { found with workspace := none }) :=
    passage.modifyEditor editor fun _ => ⟨rfl, rfl⟩
  cases outcome with
  | returned reply => exact .ended left _
  | failed failure => exact .ended passage _
  | cancelled => exact .ended passage _

theorem resumeAbandoningStart_quiet
    (passage : EditorPassage uri running before view system) (editor : Nat)
    (ending outcome : Outcome Reply) :
    QuietRun uri running before view noQuery
      (System.resumeAbandoningStart editor ending system outcome) :=
  resumeClosingWorkspace_quiet passage editor ending outcome

theorem resumeClosingSynchronizer_quiet
    (passage : EditorPassage uri running before view system) (editor : Nat)
    (outcome : Outcome Reply) :
    QuietRun uri running before view noQuery
      (System.resumeClosingSynchronizer editor system outcome) :=
  closeWorkspaceOf_quiet passage editor trivial nofun fun _ _ later next =>
    resumeClosingWorkspace_quiet next editor outcome later

theorem resumeClosingFile_quiet
    (passage : EditorPassage uri running before view system) (name : String)
    (outcome : Outcome Reply) :
    QuietRun uri running before view noQuery
      (System.resumeClosingFile name system outcome) := by
  cases outcome with
  | returned reply => exact .ended passage _
  | failed failure => exact .ended (passage.log _ _ _) _
  | cancelled => exact .ended passage _

theorem closeFile_quiet
    (passage : EditorPassage uri running before view system) (file : Nat) :
    QuietRun uri running before view noQuery (system.closeFile file) := by
  unfold System.closeFile
  split
  · exact .ended passage _
  · rename_i found _
    split
    · exact .ended passage _
    · have unregistered : EditorPassage uri running before view
          (system.unregister found.workspace found.uri) :=
        passage.modifyWorkspace found.workspace _
      have told : QuietRun uri running before view noQuery
          ((system.unregister found.workspace found.uri).notifyIn found.workspace Method.didClose
            (didCloseParams found.uri)) := by
        obtain ⟨nothing, other⟩ := notification_silent uri Method.didClose
          (some (didCloseParams found.uri)) (by decide) (by decide) (by decide) (by decide)
        unfold System.notifyIn
        split
        · exact .ended unregistered _
        · exact notify_quiet unregistered _ nothing other
      exact told.andThen trivial nofun fun _ _ outcome _ next =>
        resumeClosingFile_quiet next found.uri outcome

theorem resumeDetaching_quiet
    (passage : EditorPassage uri running before view system) (outcome : Outcome Reply) :
    QuietRun uri running before view noQuery (System.resumeDetaching 0 system outcome) := by
  cases outcome with
  | returned reply =>
      have detached := passage.modifySynchronizer (fun found => { found with file := none }) rfl
      have keeps : view.Keeps noQuery
          { view with synchronizer := { view.synchronizer with file := none } } :=
        { View.Keeps.refl view with file := Or.inr rfl }
      exact ⟨⟨_, keeps, detached⟩, nofun⟩
  | failed failure => exact .ended passage _
  | cancelled => exact .ended passage _

theorem closeAttached_quiet (passage : EditorPassage uri running before view system) :
    QuietRun uri running before view noQuery (system.closeAttached 0) := by
  unfold System.closeAttached
  split
  · exact .ended passage _
  · rename_i file _
    exact (closeFile_quiet passage file).andThen rfl nofun fun _ _ outcome _ next =>
      resumeDetaching_quiet next outcome

theorem resumeSettlingSends_quiet
    (passage : EditorPassage uri running before view system) (outcome : Outcome Reply) :
    QuietRun uri running before view noQuery (System.resumeSettlingSends 0 system outcome) := by
  cases outcome with
  | returned reply => exact closeAttached_quiet passage
  | failed failure => exact .ended passage _
  | cancelled => exact .ended passage _

/-- The view without a timer. -/
def View.untimed (view : View) : View :=
  { view with synchronizer := { view.synchronizer with timer := none } }

theorem View.untimed_keeps (view : View) : view.Keeps noQuery view.untimed :=
  { View.Keeps.refl view with }

theorem EditorPassage.cancelTimer (passage : EditorPassage uri running before view system) :
    EditorPassage uri running before view.untimed (system.cancelTimer 0) := by
  simp only [System.cancelTimer, passage.parts.synchronizers, List.getElem?_cons_zero,
    Option.bind_some]
  cases armed : view.synchronizer.timer with
  | none =>
      have same : view.untimed = view := by
        rw [View.untimed, ← armed]
      rw [same]
      exact passage
  | some timer =>
      exact (passage.disarm timer).modifySynchronizer
        (fun found => { found with timer := none }) rfl

theorem closeSynchronizer_quiet (passage : EditorPassage uri running before view system) :
    QuietRun uri running before view noQuery (system.closeSynchronizer 0) := by
  have cancelled := passage.cancelTimer
  refine .of_keeps view.untimed_keeps ?_
  unfold System.closeSynchronizer
  simp only
  split
  · exact closeAttached_quiet cancelled
  · refine QuietRun.andThen (await_quiet (cancelled.gather _)
      (Scheduler.gather_isPlain cancelled.loop.orderly _ Reply.nothing)) ?_ ?_ ?_
    · rfl
    · nofun
    · exact fun _ _ outcome _ next => resumeSettlingSends_quiet next outcome

theorem closeEditor_quiet
    (passage : EditorPassage uri running before view system) (editor : Nat) :
    QuietRun uri running before view noQuery (system.closeEditor editor) := by
  unfold System.closeEditor
  split
  · exact .ended passage _
  · rename_i found entry
    split
    · exact .ended passage _
    · obtain ⟨only, editors, synchronizer, _⟩ := passage.parts.editor
      rw [editors] at entry
      rw [List.mem_singleton.mp (List.mem_of_getElem? entry), synchronizer]
      exact (closeSynchronizer_quiet passage).andThen trivial nofun fun _ _ outcome _ next =>
        resumeClosingSynchronizer_quiet next editor outcome

/-! ## Stacks -/

theorem resumeFrame_quiet
    {frame : Frame} (passage : EditorPassage uri running before view system)
    (quiet : frame.IsQuiet uri)
    (requests : ∀ promise, frame = .requesting promise → system.loop.IsPlain promise)
    (outcome : Outcome Reply) :
    QuietRun uri running before view noQuery (System.resumeFrame frame system outcome) := by
  cases frame with
  | sending link value =>
      cases outcome with
      | returned reply => exact takeFrame_quiet passage link quiet
      | failed failure => exact .ended passage _
      | cancelled => exact .ended passage _
  | writing subject => exact resumeWriting_quiet passage subject outcome
  | requesting promise => exact resumeRequesting_quiet passage (requests promise rfl) outcome
  | closingLink => exact resumeClosingLink_quiet passage outcome
  | handshaking session serverUri => exact resumeHandshaking_quiet passage session serverUri outcome
  | confirming session serverUri result =>
      exact resumeConfirming_quiet passage session serverUri result outcome
  | abandoningHandshake ending => exact resumeAbandoningHandshake_quiet passage ending outcome
  | closingFile name => exact resumeClosingFile_quiet passage name outcome
  | settlingSends synchronizer =>
      obtain rfl : synchronizer = 0 := quiet
      exact resumeSettlingSends_quiet passage outcome
  | detaching synchronizer =>
      obtain rfl : synchronizer = 0 := quiet
      exact resumeDetaching_quiet passage outcome
  | abandoningStart editor ending => exact resumeAbandoningStart_quiet passage editor ending outcome
  | hovering editor position => exact resumeHovering_quiet passage editor position outcome
  | completing query => exact resumeCompleting_quiet passage query outcome
  | closingSynchronizer editor => exact resumeClosingSynchronizer_quiet passage editor outcome
  | closingWorkspace editor ending =>
      exact resumeClosingWorkspace_quiet passage editor ending outcome
  | _ => exact quiet.elim

/-- Quiet frames either are suspended again, in front of the frames behind them, or they end and
those go on. -/
theorem resumeStack_quiet
    {frames : List Frame} (passage : EditorPassage uri running before view system)
    (quiet : ∀ frame ∈ frames, frame.IsQuiet uri)
    (requests : ∀ promise, .requesting promise ∈ frames → system.loop.IsPlain promise)
    (outcome : Outcome Reply) (outer : List Frame) :
    (∃ later after ending, view.Keeps noQuery later ∧
        EditorPassage uri running before later after ∧
        system.resumeStack outcome (frames ++ outer) = after.resumeStack ending outer) ∨
      ∃ later after inner promise, view.Keeps noQuery later ∧
        EditorPassage uri running before later after ∧ Suspension uri after inner promise ∧
        system.resumeStack outcome (frames ++ outer) =
          (after, .suspended (inner ++ outer) promise) := by
  induction frames generalizing system view outcome with
  | nil => exact Or.inl ⟨view, system, outcome, .refl view, passage, rfl⟩
  | cons frame others inductionHypothesis =>
      have othersQuiet : ∀ other ∈ others, other.IsQuiet uri :=
        fun other member => quiet other (List.mem_cons_of_mem frame member)
      have run := resumeFrame_quiet passage.rebase (quiet frame List.mem_cons_self)
        (fun promise same => requests promise (same ▸ List.mem_cons_self)) outcome
      obtain ⟨⟨later, keeps, next⟩, suspended⟩ := run
      rcases result : System.resumeFrame frame system outcome with
        ⟨after, ending | ⟨inner, promise⟩⟩
      · rw [result] at next
        have othersRequest : ∀ promise, .requesting promise ∈ others →
            after.loop.IsPlain promise := fun promise member =>
          next.loop.advances.plain _ (requests promise (List.mem_cons_of_mem frame member))
        rw [List.cons_append, System.resumeStack_of_ended _ result]
        rcases inductionHypothesis (passage.trans next) othersQuiet othersRequest ending with
          ⟨last, lastSystem, lastEnding, lastKeeps, lastPassage, same⟩ |
            ⟨last, lastSystem, lastInner, lastPromise, lastKeeps, lastPassage, place, same⟩
        · exact Or.inl ⟨last, lastSystem, lastEnding, keeps.trans lastKeeps, lastPassage, same⟩
        · exact Or.inr ⟨last, lastSystem, lastInner, lastPromise, keeps.trans lastKeeps, lastPassage,
            place, same⟩
      · rw [result] at next suspended
        have place := suspended inner promise rfl
        rw [List.cons_append, System.resumeStack_of_suspended _ result]
        refine Or.inr ⟨later, after, inner ++ others, promise, keeps, passage.trans next, ?_,
          by rw [List.append_assoc]⟩
        exact {
          plain := place.plain
          quiet := fun other member => by
            rcases List.mem_append.mp member with isInner | isOuter
            · exact place.quiet other isInner
            · exact othersQuiet other isOuter
          requests := fun other member => by
            rcases List.mem_append.mp member with isInner | isOuter
            · exact place.requests other isInner
            · exact next.loop.advances.plain _
                (requests other (List.mem_cons_of_mem frame isOuter)) }

end Frames

end LanguageClient.Client
