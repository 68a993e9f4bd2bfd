import LanguageClient.Proofs.Conduct.Turns
import LanguageClient.Proofs.Workspace.Register

/-!
# The world of workspaces

A client whose host opens, changes and closes files and workspaces, and nothing else. Documents are
announced, changed and retracted in the very turns in which the calls to do so begin; whatever is left
of such a call afterwards withdraws an announcement at most.
-/

namespace LanguageClient.Client

open LanguageClient.Json LanguageClient.Loop LanguageClient.Number LanguageClient.Protocol

/-- A call that a host makes of its workspaces, or that the client makes by itself. -/
def Call.AtWorkspace : Call → Prop
  | .createWorkspace _ | .openFile _ _ _ _ _ | .changeFile _ _ _ | .closeFile _
  | .closeWorkspace _ | .closeSession _ | .answer _ _ | .sendDebounced _ => True
  | _ => False

/-- What may happen to a client with workspaces. -/
def Input.OnWorkspace : Input → Prop
  | .call made => made.AtWorkspace
  | .attach _ _ _ | .edit _ _ | .editText _ _ => False
  | .cancel _ | .listen _ _ | .receive _ _ | .drop _ | .behave _ | .release _ | .releaseClose _
  | .tick _ | .turn => True

theorem Call.AtWorkspace.isPlain {call : Call} (allowed : call.AtWorkspace) : call.IsPlain := by
  cases call with
  | request session method params timeout => exact allowed.elim
  | notify session method params => exact allowed.elim
  | runCommand command => exact allowed.elim
  | _ => trivial

/-- Where a task can be, and what it awaits there: its call has not begun, the announcement of a
document is held back, or nothing is left to be done about documents but to clear a workspace. -/
inductive WorkspaceShape : List Frame → Option Nat → Prop where
  | begins (call : Call) (allowed : call.AtWorkspace) : WorkspaceShape [.begin call] none
  | opens (link : Nat) (frame : Value) (subject : String) (workspace : Nat) (uri : String)
      (file : Nat) (awaiting : Option Nat) :
    WorkspaceShape [.sending link frame, .writing subject, .opening workspace uri file] awaiting
  | rests (frames : List Frame) (awaiting : Option Nat) (inner : ∀ frame ∈ frames, frame.IsInner)
      (course : courseOf frames ≤ clearingCourse) : WorkspaceShape frames awaiting

/-- The invariant between two turns. -/
structure WorkspaceWorld (system : System) : Prop where
  shapes : ∀ (task : Nat) (found : TaskState Frame), system.loop.tasks[task]? = some found →
    WorkspaceShape found.stack found.awaiting
  unsynchronized : system.synchronizers.length = 0
  registered : ∀ (workspace file : Nat) (uri : String),
    system.openFile? workspace uri = some file → file < system.files.length

theorem WorkspaceShape.isTracked
    {stack : List Frame} {awaiting : Option Nat} (shape : WorkspaceShape stack awaiting) :
    System.IsTracked stack := by
  cases shape with
  | begins call allowed => exact Or.inl ⟨call, rfl, allowed.isPlain⟩
  | opens link frame subject workspace uri file awaiting =>
      refine Or.inr fun frame member => ?_
      simp only [List.mem_cons, List.not_mem_nil, or_false] at member
      rcases member with rfl | rfl | rfl
      · trivial
      · trivial
      · trivial
  | rests frames awaiting inner course => exact Or.inr inner

theorem WorkspaceShape.of_silent
    {frames : List Frame} (awaiting : Option Nat) (inner : ∀ frame ∈ frames, frame.IsInner)
    (silent : ∀ frame ∈ frames, frame.course = 1) : WorkspaceShape frames awaiting := by
  refine .rests frames awaiting inner ?_
  rw [courseOf_eq_one silent]
  exact fun deeds isWord => Or.inl (Language.mem_one deeds |>.mp isWord)

theorem WorkspaceShape.nil (awaiting : Option Nat) : WorkspaceShape [] awaiting :=
  .of_silent awaiting (fun _ member => absurd member List.not_mem_nil)
    fun _ member => absurd member List.not_mem_nil

namespace System

variable {held : List Nat} {before after system : System} {task : Nat} {found : TaskState Frame}

/-! ## What is left of a call -/

theorem write_leaves
    {session : Nat} {subject : String} {frame : Value} :
    ∀ left ∈ (system.write session subject frame).2.frames, left.course = 1 := by
  intro left member
  cases known : system.sessions[session]? with
  | none =>
      simp only [write, known] at member
      exact absurd member List.not_mem_nil
  | some found =>
      rcases write_cases subject frame known with ⟨failure, _, result⟩ | result | result
      · rw [result] at member
        exact absurd member List.not_mem_nil
      · rw [result] at member
        rcases List.mem_cons.mp member with rfl | last
        · rfl
        · rw [List.mem_singleton.mp last]
          rfl
      · rw [result] at member
        exact absurd member List.not_mem_nil

theorem notifyIn_leaves
    {workspace : Nat} {method : String} {params : Value} :
    ∀ left ∈ (system.notifyIn workspace method params).2.frames, left.course = 1 := by
  rcases notifyIn_cases system workspace method params with
    ⟨_, failure, fails⟩ | ⟨session, found, _, _, writes⟩
  · rw [fails]
    exact fun _ member => absurd member List.not_mem_nil
  · rw [writes]
    exact write_leaves

theorem changeFile_leaves
    {file : Nat} {version : Int} {text : String} :
    ∀ left ∈ (system.changeFile file version text).2.frames, left.course = 1 := by
  unfold changeFile
  split
  · exact fun _ member => absurd member List.not_mem_nil
  · split
    · exact fun _ member => absurd member List.not_mem_nil
    · split
      · exact fun _ member => absurd member List.not_mem_nil
      · exact notifyIn_leaves

theorem closeFile_leaves
    {file : Nat} : ∀ left ∈ (system.closeFile file).2.frames, left.course = 1 := by
  unfold closeFile
  split
  · exact fun _ member => absurd member List.not_mem_nil
  · rename_i found _
    split
    · exact fun _ member => absurd member List.not_mem_nil
    · intro left member
      have told : ∀ left ∈ ((system.unregister found.workspace found.uri).notifyIn found.workspace
          Method.didClose (didCloseParams found.uri)).2.frames, left.course = 1 :=
        notifyIn_leaves
      rcases result : (system.unregister found.workspace found.uri).notifyIn found.workspace
          Method.didClose (didCloseParams found.uri) with ⟨later, ending | ⟨frames, promise⟩⟩
      · simp only [result, Step.andThen] at member
        cases ending with
        | returned reply => exact absurd member List.not_mem_nil
        | failed failure => exact absurd member List.not_mem_nil
        | cancelled => exact absurd member List.not_mem_nil
      · simp only [result, Step.andThen, Progress.frames] at member
        rw [result] at told
        rcases List.mem_append.mp member with isInside | last
        · exact told left isInside
        · rw [List.mem_singleton.mp last]
          rfl

/-- A debounced send of a synchronizer that does not exist does nothing. -/
theorem sendDebounced_idles
    (respects : Respects held before system) {synchronizer : Nat}
    (missing : system.synchronizers[synchronizer]? = none) :
    (system.sendDebounced synchronizer).Conducts held before 1 system := by
  have taken := takeLock_idles respects synchronizer
  have stillMissing : (system.modifyLock synchronizer fun lock =>
      { lock with held := true }).synchronizers[synchronizer]? = none := by
    simp [modifyLock, modifySynchronizer, missing]
  simp only [sendDebounced, sendChange, lockOf, missing, Option.map_none, Option.getD_none,
    Bool.not_false, List.all_nil, Bool.and_self, if_true, changeLocked, stillMissing, Step.failed,
    Step.andThen, resumeSendingDebounced, Step.returned]
  exact (taken.trans (.log taken.respects _ _ _)).ended Language.nil_mem_one _

/-! ## Opening a file -/

/-- What comes of opening a file: nothing is announced; or a document is announced, and that is held
back, accepted, or refused and undone. -/
inductive Opening (system : System) (workspace : Nat) (uri : String) : Step → Prop where
  | fails (later : System) (failure : Failure) (aside : Aside system later) :
    Opening system workspace uri (later, .ended (.failed failure))
  | holds (later : System) (link : Nat) (frame : Value) (subject : String) (promise : Nat)
      (does : Does system [.announce system.files.length] later)
      (last : later.journal.getLast? = some (.handed link frame))
      (handle : later.IsHandleOf system.files.length workspace uri) :
    Opening system workspace uri (later, .suspended
      [.sending link frame, .writing subject, .opening workspace uri system.files.length] promise)
  | opens (later : System) (does : Does system [.announce system.files.length] later) :
    Opening system workspace uri (later, .ended (.returned (.file system.files.length)))
  | refused (later : System) (failure : Failure)
      (does : Does system [.announce system.files.length, .withdraw workspace uri] later)
      (same : ∀ other otherUri, later.openFile? other otherUri = system.openFile? other otherUri) :
    Opening system workspace uri (later, .ended (.failed failure))

theorem openFile_opening
    (system : System) (workspace : Nat) (uri : String) (languageId : Value) (text : String)
    (listeners : List (String × DocumentListener)) :
    Opening system workspace uri (system.openFile workspace uri languageId text listeners) := by
  unfold openFile
  split
  · exact .fails system _ (.refl system)
  · rename_i free
    simp only
    rcases notifyIn_cases (system.addFile { workspace, uri, languageId, listeners }) workspace
        Method.didOpen (didOpenParams uri languageId text) with
      ⟨_, failure, fails⟩ | ⟨session, found, writable, known, writes⟩
    · rw [fails]
      simp only [Step.andThen, resumeOpening, Step.ended]
      rw [addFile_unregister free]
      exact .fails _ failure (.addHandle system _)
    · rw [writes]
      have announced : Does system [.announce system.files.length]
          ((system.addFile { workspace, uri, languageId, listeners }).note (.handed found.link
            (notificationMessage Method.didOpen (some (didOpenParams uri languageId text))))) :=
        .one (.announce { workspace, uri, languageId, listeners } found.link text free
          (openLink?_addFile system _ workspace ▸ writable))
      have handle : (system.addFile { workspace, uri, languageId, listeners }).IsHandleOf
          system.files.length workspace uri :=
        system.isHandleOf_addFile _
      rcases write_cases Method.didOpen (notificationMessage Method.didOpen
          (some (didOpenParams uri languageId text))) known with
        ⟨failure, _, result⟩ | result | result
      · rw [result]
        simp only [Step.andThen, resumeOpening, Step.ended]
        refine .refused _ _ (announced.trans (.one (.withdraw workspace uri))) fun other otherUri => ?_
        have undone : ((system.addFile { workspace, uri, languageId, listeners }).unregister
            workspace uri).openFile? other otherUri = system.openFile? other otherUri := by
          rw [addFile_unregister free]
          rfl
        exact undone
      · rw [result]
        refine .holds _ found.link _ Method.didOpen _ (announced.trans (.aside (.holdBack _))) ?_
          handle
        simp [holdBack, note, addPromise, onLoop]
      · rw [result]
        have here : Respects [] system ((system.addFile { workspace, uri, languageId, listeners }).note
            (.handed found.link (notificationMessage Method.didOpen
              (some (didOpenParams uri languageId text))))) :=
          (Respects.refl [] system).of_same rfl rfl rfl rfl
        exact .opens _ (announced.trans (.aside (Idles.accept here _ _).aside))

end System

end LanguageClient.Client
