import LanguageClient.Proofs.Editor.Turns
import LanguageClient.Proofs.Session.Responses

/-!
# Events around an editor

What happens besides the turns of tasks: the peer sends messages and lets frames go, deadlines end
requests, ends of tasks are noted, and the timer starts a send. Nothing of the document is delivered
meanwhile, and no query is handed on.
-/

namespace LanguageClient.Client

open LanguageClient.Json LanguageClient.Loop LanguageClient.Number LanguageClient.Protocol

namespace EditorPassage

variable {uri : String} {running : Option Nat} {before system : System} {view : View}

/-! ## Messages of the peer -/

theorem takeRequest
    (passage : EditorPassage uri running before view system) (session : Nat) (id : Value) :
    EditorPassage uri running before view (system.takeRequest session id) := by
  unfold System.takeRequest
  split
  · exact passage
  · split
    · exact passage
    · have spawned : EditorPassage uri running before view (system.spawn (.answer session id)) :=
        passage.spawn trivial trivial
      have noted : EditorPassage uri running before view
          ((system.spawn (.answer session id)).whenEnded system.nextTask
            (.answerEnded session system.nextTask)) :=
        spawned.whenEnded _ trivial
      exact noted.modifySession session fun _ _ member => member

theorem openRequest?_promised
    {session : Nat} {id : String} {entry : PendingRequest}
    (isOpen : system.openRequest? session id = some entry) :
    entry.promise ∈ system.promised := by
  obtain ⟨found, isFound, isPending, _⟩ := entry_of_openRequest? isOpen
  exact System.mem_promised.mpr
    (Or.inr ⟨found, List.mem_of_getElem? isFound, entry, isPending, rfl⟩)

theorem takeResponse
    (passage : EditorPassage uri running before view system) (session : Nat) (id : String)
    (message : Value) :
    EditorPassage uri running before view (system.takeResponse session id message).1 := by
  unfold System.takeResponse
  split
  · exact passage.log _ _ _
  · rename_i entry isOpen
    have promised := openRequest?_promised isOpen
    split
    · exact passage.settle_promised promised _
    · split
      · exact passage.settle_promised promised _
      · exact passage

theorem showDiagnostics
    (passage : EditorPassage uri running before view system) (editor : Nat)
    (published : PublishedDiagnostics) :
    EditorPassage uri running before view (system.showDiagnostics editor published).1 := by
  unfold System.showDiagnostics
  split
  · exact passage
  · rename_i found _
    have shown : EditorPassage uri running before view (system.modifyEditor editor fun editor =>
        { editor with
          diagnostics := Document.placeDiagnostics (system.snapshotOf found)
            published.diagnostics }) :=
      passage.modifyEditor editor fun _ => ⟨rfl, rfl⟩
    simp only
    split
    · exact shown
    · exact shown.note trivial

theorem publish
    (passage : EditorPassage uri running before view system) (listener : DocumentListener)
    (params : Value) :
    EditorPassage uri running before view
      (system.publish listener params System.showDiagnostics).1 := by
  unfold System.publish
  split
  · exact passage
  · cases listener with
    | editor editor => exact passage.showDiagnostics editor _
    | host name fails => exact passage.note trivial

theorem takeNotification
    (passage : EditorPassage uri running before view system) (workspace : Nat)
    (method params : Value) :
    EditorPassage uri running before view
      (System.takeNotification System.showDiagnostics system workspace method params).1 := by
  unfold System.takeNotification
  split
  · exact passage
  · split
    · split
      · exact passage
      · exact passage
      · exact passage.publish _ params
    · split
      · unfold System.showMessage
        split
        · exact passage.log _ _ _
        · exact passage
      · exact passage

theorem takeMessage
    (passage : EditorPassage uri running before view system) (session : Nat) (raw : String) :
    EditorPassage uri running before view
      (system.takeMessage session raw (System.takeNotification System.showDiagnostics)).1 := by
  unfold System.takeMessage
  split
  · exact passage.log _ _ _
  · exact passage
  · rename_i members _
    simp only
    split
    · exact passage.takeRequest session _
    · split
      · exact passage.log _ _ _
      · exact passage.log _ _ _
      · rename_i method _ _ _ listener _ _
        have told := fun workspace => passage.takeNotification workspace method
          (((Value.object members).get? "params").getD .null)
        cases listener with
        | nobody => exact passage
        | workspace workspace =>
            simp only
            split
            · exact told workspace
            · exact (told workspace).log _ _ _
        | host fails =>
            have heard : EditorPassage uri running before view
                (system.note (.told (.notification method
                  (((Value.object members).get? "params").getD .null)))) :=
              passage.note trivial
            simp only
            split
            · exact heard
            · exact heard.log _ _ _
    · exact passage.takeResponse session _ _
    · exact passage.log _ _ _
  · exact passage.log _ _ _

theorem receive
    (passage : EditorPassage uri running before view system) (link : Nat) (text : String) :
    EditorPassage uri running before view (system.receive link text) := by
  unfold System.receive
  split
  · exact passage
  · rename_i session _
    have taken := passage.takeMessage session text
    split
    · rename_i later result
      rw [result] at taken
      exact taken
    · rename_i later failure result
      rw [result] at taken
      exact taken.note trivial

/-! ## The end of requests and sessions -/

theorem endAnswer
    (passage : EditorPassage uri running before view system) (session task : Nat) :
    EditorPassage uri running before view (system.endAnswer session task) := by
  have removed : EditorPassage uri running before view
      (system.modifySession session fun found =>
        { found with answers := found.answers.filter fun other => other ≠ task }) :=
    passage.modifySession session fun _ _ => id
  unfold System.endAnswer
  simp only
  split
  · exact removed.log _ _ _
  · exact removed
  · exact removed
  · exact removed

theorem discard
    (passage : EditorPassage uri running before view system) (session : Nat) (id : String) :
    EditorPassage uri running before view (system.discard session id) := by
  unfold System.discard
  split
  · exact passage
  · have removed : EditorPassage uri running before view
        (system.modifySession session fun found =>
          { found with pending := found.pending.filter fun other => other.id ≠ id }) :=
      passage.modifySession session fun _ _ member => (List.mem_filter.mp member).1
    exact removed.disarm _

theorem expire
    (passage : EditorPassage uri running before view system) (session : Nat) (id : String) :
    EditorPassage uri running before view (system.expire session id) := by
  unfold System.expire
  split
  · exact passage
  · rename_i entry isOpen
    have logged := passage.log .warning .session
      ("request " ++ (Failure.timedOut entry.method id entry.timeout).message)
    exact logged.settle_promised (openRequest?_promised isOpen) _

theorem loseConnection
    (passage : EditorPassage uri running before view system) (session : Nat) :
    EditorPassage uri running before view (system.loseConnection session) := by
  unfold System.loseConnection
  split
  · exact passage
  · split
    · exact passage
    · have closed : EditorPassage uri running before view
          ((system.log .warning .session
            "connection lost, failing outstanding requests").modifySession session
              fun found => { found with closed := true }) :=
        (passage.log _ _ _).modifySession session fun _ _ => id
      exact closed.abandonRequests session _

theorem drop
    (passage : EditorPassage uri running before view system) (link : Nat) :
    EditorPassage uri running before view (system.drop link) := by
  unfold System.drop
  split
  · exact passage
  · exact passage.loseConnection _

/-! ## What the peer holds back -/

/-- What the peer lets go is settled. -/
theorem releases
    {after : System} (passage : EditorPassage uri running before view system)
    (releases : system.Releases after) :
    EditorPassage uri running before view after := by
  cases releases with
  | nothing => exact passage
  | @promise promise peer detained fewer kept =>
      have member : promise ∈ system.promised := System.mem_promised.mpr (Or.inl detained)
      exact (passage.settle_promised member _).withPeer peer fewer

end EditorPassage

/-! ## Callbacks -/

section Callbacks

variable {uri : String} {before system : System} {view : View}

/-- An event leaves the document and the queries as they are. -/
def EditorEvent (uri : String) (view : View) (before after : System) : Prop :=
  ∃ later, view.Keeps noQuery later ∧ EditorPassage uri none before later after

theorem EditorPassage.event (passage : EditorPassage uri none before view system) :
    EditorEvent uri view before system :=
  ⟨view, .refl view, passage⟩

theorem EditorPassage.debounce (passage : EditorPassage uri none before view system) :
    EditorEvent uri view before (system.debounce 0) := by
  have spawned : EditorPassage uri none before view (system.spawn (.sendDebounced 0)) :=
    passage.spawn rfl trivial
  have noted : EditorPassage uri none before view
      ((system.spawn (.sendDebounced 0)).whenEnded system.nextTask
        (.sendEnded 0 system.nextTask)) :=
    spawned.whenEnded _ rfl
  have sending := noted.modifySynchronizer
    (fun found => { found with timer := none, sends := found.sends ++ [system.nextTask] }) rfl
  refine ⟨_, ?_, sending⟩
  exact ⟨rfl, rfl, rfl, rfl, Or.inl rfl, rfl, Or.inl rfl⟩

theorem EditorPassage.endSend
    (passage : EditorPassage uri none before view system) (task : Nat) :
    EditorEvent uri view before (system.endSend 0 task) := by
  have ended := passage.modifySynchronizer
    (fun found => { found with sends := found.sends.filter fun other => other ≠ task }) rfl
  refine ⟨_, ?_, ended⟩
  exact ⟨rfl, rfl, rfl, rfl, Or.inl rfl, rfl, Or.inl rfl⟩

/-- A callback that lets no task go on. -/
theorem EditorPassage.runCallback
    {callback : Callback Action} (passage : EditorPassage uri none before view system)
    (allowed : (editorScope uri).callback callback) (noTask : ∀ task, callback ≠ .resume task) :
    EditorEvent uri view before (system.runCallback callback) := by
  cases callback with
  | resume task => exact (noTask task rfl).elim
  | memberEnded group => exact (passage.endMember group).event
  | skipped => exact passage.event
  | fire timer action =>
      cases action with
      | debounce synchronizer =>
          obtain rfl : synchronizer = 0 := allowed
          exact passage.debounce
      | expire session id => exact (passage.expire session id).event
      | _ => exact allowed.elim
  | act action =>
      cases action with
      | discard session id => exact (passage.discard session id).event
      | answerEnded session task => exact (passage.endAnswer session task).event
      | deliver link text => exact (passage.receive link text).event
      | sendEnded synchronizer task =>
          obtain rfl : synchronizer = 0 := allowed
          exact passage.endSend task
      | _ => exact allowed.elim

end Callbacks

end LanguageClient.Client
