import LanguageClient.Proofs.Workspace.World

/-!
# Turns in the world of workspaces

What one input does about documents, with the task that does it and the call that the task has begun.
-/

namespace LanguageClient.Client

open LanguageClient.Json LanguageClient.Loop LanguageClient.Number LanguageClient.Protocol

/-- A task that has announced a document and has not heard yet what came of it. -/
def IsOpening (stack : List Frame) : Prop :=
  ∃ link frame subject workspace uri file,
    stack = [.sending link frame, .writing subject, .opening workspace uri file]

namespace System

/-- The task that announces a document with an input. -/
def announcer? (system : System) (input : Input) : Option Nat :=
  match input, system.comingTask? with
  | .turn, some (task, [.begin (.openFile _ _ _ _ _)]) =>
    if system.handedIn .turn = [] then none else some task
  | _, _ => none

/-- What one input does about documents. -/
inductive Moves (before : System) (input : Input) (after : System) : Prop where
  | quiet (aside : Aside before after)
  | clears (workspace : Nat) (does : Does before [.clear workspace] after)
  | changes (task file : Nat) (version : Int) (text : String) (isTurn : input = .turn)
      (coming : before.comingTask? = some (task, [.begin (.changeFile file version text)]))
      (does : Does before [.change file] after)
  | closes (task file : Nat) (deed : Deed) (isTurn : input = .turn)
      (coming : before.comingTask? = some (task, [.begin (.closeFile file)]))
      (isClosing : deed = .retract file ∨ deed = .forget file) (does : Does before [deed] after)
  | announces (task workspace : Nat) (uri : String) (languageId : Value) (text : String)
      (listeners : List (String × DocumentListener)) (isTurn : input = .turn)
      (coming : before.comingTask? =
        some (task, [.begin (.openFile workspace uri languageId text listeners)]))
      (does : Does before [.announce before.files.length] after)
  | refused (task workspace : Nat) (uri : String) (languageId : Value) (text : String)
      (listeners : List (String × DocumentListener)) (failure : Failure) (isTurn : input = .turn)
      (coming : before.comingTask? =
        some (task, [.begin (.openFile workspace uri languageId text listeners)]))
      (does : Does before [.announce before.files.length, .withdraw workspace uri] after)
      (ended : .ended task (.failed failure) ∈ after.journal)
  | withdraws (task workspace : Nat) (uri : String) (outcome : Outcome Reply)
      (opening : ∃ found, before.loop.tasks[task]? = some found ∧ IsOpening found.stack)
      (does : Does before [.withdraw workspace uri] after)
      (ended : .ended task outcome ∈ after.journal) (fails : ∀ reply, outcome ≠ .returned reply)

variable {held : List Nat} {before after system : System} {task : Nat} {found : TaskState Frame}
  {rest : ClientLoop} {deeds : List Deed}

theorem Resumes.journal_of_ended
    {later : System} {outcome : Outcome Reply} (resumes : Resumes system task rest found)
    (ends : system.resumption rest task found = (later, .ended outcome)) :
    (system.step .turn).journal = later.journal ++ [.ended task outcome] := by
  rw [resumes.step_turn, ends]
  rfl

theorem Resumes.journal_of_suspended
    {later : System} {frames : List Frame} {promise : Nat}
    (resumes : Resumes system task rest found)
    (suspends : system.resumption rest task found = (later, .suspended frames promise)) :
    (system.step .turn).journal = later.journal := by
  rw [resumes.step_turn, suspends]
  rfl

/-! ## One word of deeds -/

theorem mem_clearingCourse {deeds : List Deed} :
    deeds ∈ clearingCourse ↔ deeds = [] ∨ ∃ workspace, deeds = [.clear workspace] := Iff.rfl

/-- What follows a part of clearing is clearing again. -/
theorem clearingCourse_suffix
    {deeds : List Deed} {frames : List Frame}
    (words : ∀ more ∈ courseOf frames, deeds ++ more ∈ clearingCourse) :
    courseOf frames ≤ clearingCourse := by
  intro more isWord
  rcases mem_clearingCourse.mp (words more isWord) with nothing | ⟨workspace, clears⟩
  · exact Or.inl (List.append_eq_nil_iff.mp nothing).2
  · rcases List.append_eq_singleton_iff.mp clears with ⟨_, isMore⟩ | ⟨_, isMore⟩
    · exact Or.inr ⟨workspace, isMore⟩
    · exact Or.inl isMore

/-! ## The turn of a task -/

/-- What is known after the turn of a task. -/
structure MovesOn (before : System) (task : Nat) (after : System) : Prop where
  moves : Moves before .turn after
  shape : ∃ later, after.loop.tasks[task]? = some later ∧
    WorkspaceShape later.stack later.awaiting ∧
      (IsOpening later.stack → before.announcer? .turn = some task)

theorem not_isOpening_of_silent
    {frames : List Frame} (silent : ∀ frame ∈ frames, frame.course = 1) : ¬ IsOpening frames := by
  rintro ⟨link, frame, subject, workspace, uri, file, rfl⟩
  have isOne : withdrawingCourse workspace uri = 1 :=
    silent (.opening workspace uri file) (by simp)
  have isWord : [.withdraw workspace uri] ∈ withdrawingCourse workspace uri := Or.inr rfl
  rw [isOne] at isWord
  exact absurd (Language.mem_one _ |>.mp isWord) (List.cons_ne_nil _ _)

theorem not_isOpening_of_clearing
    {frames : List Frame} (course : courseOf frames ≤ clearingCourse) : ¬ IsOpening frames := by
  rintro ⟨link, frame, subject, workspace, uri, file, rfl⟩
  have isCourse : courseOf [.sending link frame, .writing subject, .opening workspace uri file] =
      withdrawingCourse workspace uri := by
    simp [courseOf, Frame.course]
  have isWord : [.withdraw workspace uri] ∈ withdrawingCourse workspace uri := Or.inr rfl
  rcases mem_clearingCourse.mp (course (isCourse ▸ isWord)) with nothing | ⟨other, clears⟩
  · cases nothing
  · cases clears

/-- A task whose deeds can only clear a workspace. -/
theorem Resumes.clears
    {language : Language Deed} (resumes : Resumes before task rest found)
    (conducts : (before.resumption rest task found).Conducts held (before.resumed rest task)
      language (before.resumed rest task)) (within : language ≤ clearingCourse) :
    MovesOn before task (before.step .turn) := by
  obtain ⟨deeds, later, does, left, words, inner⟩ := (resumes.turned conducts).does
  have clearing : ∀ more ∈ courseOf later.stack, deeds ++ more ∈ clearingCourse :=
    fun more isWord => within (words more isWord)
  have course := clearingCourse_suffix clearing
  refine ⟨?_, later, left, .rests _ _ inner course,
    fun opening => (not_isOpening_of_clearing course opening).elim⟩
  have whole := clearing [] (nil_mem_courseOf inner)
  rw [List.append_nil] at whole
  rcases mem_clearingCourse.mp whole with rfl | ⟨workspace, rfl⟩
  · exact .quiet does.of_nil
  · exact .clears workspace does

/-- A task of a call that did not begin, or left nothing but silence. -/
theorem Resumes.silent
    (resumes : Resumes before task rest found)
    (conducts : (before.resumption rest task found).Conducts held (before.resumed rest task)
      (courseOf found.stack) (before.resumed rest task))
    (silent : ∀ frame ∈ (before.resumption rest task found).2.frames, frame.course = 1)
    (moves : ∀ deeds ∈ courseOf found.stack, Does before deeds (before.step .turn) →
      Moves before .turn (before.step .turn)) :
    MovesOn before task (before.step .turn) := by
  obtain ⟨deeds, does, words⟩ := conducts.does
  obtain ⟨later, left, sameStack, _⟩ := resumes.left conducts
  refine ⟨?_, later, left, ?_, fun opening => ?_⟩
  · have whole := words [] (nil_mem_courseOf conducts.inner)
    rw [List.append_nil] at whole
    exact moves deeds whole (resumes.does_of_resumption does)
  · rw [sameStack]
    exact .of_silent _ conducts.inner silent
  · rw [sameStack] at opening
    exact (not_isOpening_of_silent silent opening).elim

/-- What a call leaves, unless it was cancelled before it began. -/
theorem resumption_leaves
    {call : Call} (system : System) (rest : ClientLoop) (task : Nat)
    (begins : found.stack = [.begin call])
    (leaves : ∀ frame ∈ ((system.resumed rest task).call call).2.frames, frame.course = 1) :
    ∀ frame ∈ (system.resumption rest task found).2.frames, frame.course = 1 := by
  rcases resumption_begin system rest task begins with result | ⟨outcome, _, result⟩
  · rw [result]
    exact leaves
  · rw [result]
    exact fun _ member => absurd member List.not_mem_nil

theorem Resumes.changesFile
    {file : Nat} {version : Int} {text : String} (resumes : Resumes before task rest found)
    (begins : found.stack = [.begin (.changeFile file version text)]) :
    MovesOn before task (before.step .turn) := by
  have coming := resumes.comingTask?
  rw [begins] at coming
  refine resumes.silent (before.resumption_conducts rest task
    (Or.inl ⟨_, begins, trivial⟩)) (before.resumption_leaves rest task begins changeFile_leaves) ?_
  intro deeds isWord does
  rw [begins, courseOf_begin] at isWord
  rcases isWord with rfl | rfl
  · exact .quiet does.of_nil
  · exact .changes task file version text rfl coming does

theorem Resumes.closesFile
    {file : Nat} (resumes : Resumes before task rest found)
    (begins : found.stack = [.begin (.closeFile file)]) :
    MovesOn before task (before.step .turn) := by
  have coming := resumes.comingTask?
  rw [begins] at coming
  refine resumes.silent (before.resumption_conducts rest task
    (Or.inl ⟨_, begins, trivial⟩)) (before.resumption_leaves rest task begins closeFile_leaves) ?_
  intro deeds isWord does
  rw [begins, courseOf_begin] at isWord
  rcases isWord with rfl | rfl | rfl
  · exact .quiet does.of_nil
  · exact .closes task file _ rfl coming (Or.inl rfl) does
  · exact .closes task file _ rfl coming (Or.inr rfl) does

/-- A debounced send has no synchronizer to send for. -/
theorem Resumes.sendsDebounced
    {synchronizer : Nat} (resumes : Resumes before task rest found)
    (unsynchronized : before.synchronizers.length = 0)
    (begins : found.stack = [.begin (.sendDebounced synchronizer)]) :
    MovesOn before task (before.step .turn) := by
  have missing : (before.resumed rest task).synchronizers[synchronizer]? = none := by
    have same : (before.resumed rest task).synchronizers = before.synchronizers := rfl
    rw [same, List.length_eq_zero_iff.mp unsynchronized]
    rfl
  have here : Respects [] (before.resumed rest task) (before.resumed rest task) := .refl [] _
  have idle : (before.resumption rest task found).Conducts [] (before.resumed rest task) 1
      (before.resumed rest task) := by
    rcases resumption_begin before rest task begins with result | ⟨outcome, _, result⟩
    · rw [result]
      exact sendDebounced_idles here missing
    · rw [result]
      exact (Idles.refl here).ended Language.nil_mem_one outcome
  exact resumes.clears idle fun deeds isWord => Or.inl ((Language.mem_one deeds).mp isWord)

theorem begins_of_announcer? (announces : before.announcer? .turn = some task) :
    ∃ workspace uri languageId text listeners, before.comingTask? =
      some (task, [.begin (.openFile workspace uri languageId text listeners)]) := by
  unfold announcer? at announces
  split at announces
  · rename_i coming
    split at announces
    · cases announces
    · obtain rfl := Option.some.inj announces
      exact ⟨_, _, _, _, _, coming⟩
  · cases announces

theorem announcer?_of_announce
    {workspace : Nat} {uri : String} {languageId : Value} {text : String}
    {listeners : List (String × DocumentListener)} {file : Nat}
    (coming : before.comingTask? =
      some (task, [.begin (.openFile workspace uri languageId text listeners)]))
    (does : Does before (.announce file :: deeds) (before.step .turn)) :
    before.announcer? .turn = some task := by
  obtain ⟨here, there, aside, performs, rest⟩ := does.of_cons
  obtain ⟨_, ⟨frame, rfl, _⟩, wire⟩ := performs.wire
  obtain ⟨more, later⟩ := rest.wire
  have handed : before.handedIn .turn ≠ [] := by
    rw [handedIn, later, wire, aside.wire, List.append_assoc, List.drop_left]
    exact List.cons_ne_nil _ _
  simp only [announcer?, coming, handed, if_false]

theorem Resumes.opensFile
    {workspace : Nat} {uri : String} {languageId : Value} {text : String}
    {listeners : List (String × DocumentListener)} (resumes : Resumes before task rest found)
    (begins : found.stack = [.begin (.openFile workspace uri languageId text listeners)]) :
    MovesOn before task (before.step .turn) := by
  have coming := resumes.comingTask?
  rw [begins] at coming
  have conducts := before.resumption_conducts rest task
    (Or.inl ⟨_, begins, trivial⟩ : IsTracked found.stack)
  obtain ⟨later, left, sameStack, _⟩ := resumes.left conducts
  have ended (moves : Moves before .turn (before.step .turn))
      (ends : (before.resumption rest task found).2.frames = []) :
      MovesOn before task (before.step .turn) := by
    refine ⟨moves, later, left, ?_, fun opening => ?_⟩
    · rw [sameStack, ends]
      exact .nil _
    · obtain ⟨link, frame, subject, workspace, uri, file, isOpening⟩ := opening
      rw [sameStack, ends] at isOpening
      cases isOpening
  rcases before.resumption_begin rest task begins with result | ⟨outcome, _, result⟩
  · have opening := (before.resumed rest task).openFile_opening workspace uri languageId text
      listeners
    change before.resumption rest task found =
      (before.resumed rest task).openFile workspace uri languageId text listeners at result
    rw [← result] at opening
    have does {deeds : List Deed}
        (word : Does (before.resumed rest task) deeds (before.resumption rest task found).1) :=
      resumes.does_of_resumption word
    generalize isStep : before.resumption rest task found = step at *
    cases opening with
    | fails after failure aside => exact ended (.quiet (does (.aside aside)).of_nil) rfl
    | holds after link frame subject promise announced last handle =>
        have told : Does before [.announce before.files.length] (before.step .turn) :=
          does announced
        refine ⟨.announces task workspace uri languageId text listeners rfl coming told, later,
          left, ?_, fun _ => announcer?_of_announce coming told⟩
        rw [sameStack]
        exact .opens link frame subject workspace uri _ _
    | opens after announced =>
        exact ended (.announces task workspace uri languageId text listeners rfl coming
          (does announced)) rfl
    | refused after failure undone same =>
        refine ended (.refused task workspace uri languageId text listeners failure rfl coming
          (does undone) ?_) rfl
        rw [resumes.journal_of_ended isStep]
        exact List.mem_append_right _ (List.mem_singleton.mpr rfl)
  · have idle : Aside before (before.step .turn) := by
      refine (resumes.does_of_resumption (.aside ?_)).of_nil
      rw [result]
      exact .refl _
    exact ended (.quiet idle) (by rw [result]; rfl)

/-- A task that waits for its announcement hears that it was accepted, or withdraws it. -/
theorem Resumes.hearsOpening
    {link workspace file : Nat} {frame : Value} {subject uri : String}
    (resumes : Resumes before task rest found)
    (opening : found.stack = [.sending link frame, .writing subject, .opening workspace uri file]) :
    ∃ last outcome, before.resumption rest task found = (last, .ended outcome) ∧
      (outcome = .returned (.file file) ∧ Aside before (before.step .turn) ∨
        (∀ reply, outcome ≠ .returned reply) ∧
          Does before [.withdraw workspace uri] (before.step .turn)) := by
  have heard := resumeStack_sending (before.resumed rest task) link frame subject
    [.opening workspace uri file] (before.signalOf found)
  rw [← opening] at heard
  rcases heard with ⟨reply, _, _, accepts⟩ | ⟨outcome, notReturned, _, fails⟩
  · have result : before.resumption rest task found =
        ((before.resumed rest task).accept link frame, .ended (.returned (.file file))) := accepts
    have accepted := (Idles.accept (.refl [] (before.resumed rest task)) link frame).aside
    refine ⟨_, _, result, Or.inl ⟨rfl, (resumes.does_of_resumption ?_).of_nil⟩⟩
    rw [result]
    exact .aside accepted
  · have result : before.resumption rest task found =
        ((before.resumed rest task).unregister workspace uri, .ended outcome) := by
      unfold resumption
      rw [fails, resumeStack_singleton]
      cases outcome with
      | returned reply => exact (notReturned reply rfl).elim
      | failed failure => rfl
      | cancelled => rfl
    refine ⟨_, _, result, Or.inr ⟨notReturned, resumes.does_of_resumption ?_⟩⟩
    rw [result]
    exact .one (.withdraw workspace uri)

theorem Moves.does {input : Input} (moves : Moves before input after) :
    ∃ deeds, Does before deeds after := by
  cases moves with
  | quiet aside => exact ⟨_, .aside aside⟩
  | clears workspace does => exact ⟨_, does⟩
  | changes task file version text isTurn coming does => exact ⟨_, does⟩
  | closes task file deed isTurn coming isClosing does => exact ⟨_, does⟩
  | announces task workspace uri languageId text listeners isTurn coming does => exact ⟨_, does⟩
  | refused task workspace uri languageId text listeners failure isTurn coming does ended =>
      exact ⟨_, does⟩
  | withdraws task workspace uri outcome opening does ended fails => exact ⟨_, does⟩

end System

/-! ## The invariant -/

namespace WorkspaceWorld

open LanguageClient.Client.System

variable {before : System} {task : Nat} {found : TaskState Frame} {rest : ClientLoop}

/-- The turn of any task. -/
theorem turn
    (world : WorkspaceWorld before) (resumes : Resumes before task rest found) :
    MovesOn before task (before.step .turn) := by
  have shape := world.shapes task found resumes.entry
  have conducts := before.resumption_conducts rest task shape.isTracked
  generalize stackEq : found.stack = stack at shape
  generalize found.awaiting = awaiting at shape
  cases shape with
  | begins call allowed =>
      have within (course : call.course ≤ clearingCourse) :
          MovesOn before task (before.step .turn) := by
        refine resumes.clears conducts ?_
        rw [stackEq, courseOf_begin]
        exact course
      have silent (course : call.course = 1) : call.course ≤ clearingCourse := by
        rw [course]
        exact fun deeds isWord => Or.inl ((Language.mem_one deeds).mp isWord)
      cases call with
      | openFile workspace uri languageId text listeners => exact resumes.opensFile stackEq
      | changeFile file version text => exact resumes.changesFile stackEq
      | closeFile file => exact resumes.closesFile stackEq
      | sendDebounced synchronizer => exact resumes.sendsDebounced world.unsynchronized stackEq
      | createWorkspace request => exact within (silent rfl)
      | closeSession session => exact within (silent rfl)
      | answer session id => exact within (silent rfl)
      | closeWorkspace workspace => exact within (le_refl _)
      | _ => exact allowed.elim
  | opens link frame subject workspace uri file awaiting =>
      obtain ⟨later, left, sameStack, _⟩ := resumes.left conducts
      obtain ⟨last, outcome, result, heard⟩ := resumes.hearsOpening stackEq
      have nothingLeft : later.stack = [] := by
        rw [sameStack, result]
        rfl
      refine ⟨?_, later, left, ?_, fun opening => ?_⟩
      · rcases heard with ⟨_, idle⟩ | ⟨notReturned, does⟩
        · exact .quiet idle
        · refine .withdraws task workspace uri outcome ⟨found, resumes.entry, ?_⟩ does ?_ notReturned
          · exact ⟨link, frame, subject, workspace, uri, file, stackEq⟩
          · rw [resumes.journal_of_ended result]
            exact List.mem_append_right _ (List.mem_singleton.mpr rfl)
      · rw [nothingLeft]
        exact .nil _
      · obtain ⟨_, _, _, _, _, _, isOpening⟩ := opening
        rw [nothingLeft] at isOpening
        cases isOpening
  | rests frames awaiting inner course =>
      refine resumes.clears conducts ?_
      rw [stackEq]
      exact course

theorem shape_of_stays
    {input : Input} {later : TaskState Frame} (world : WorkspaceWorld before)
    (allowed : input.OnWorkspace) (stays : Stays before input task later) :
    WorkspaceShape later.stack later.awaiting ∧ (IsOpening later.stack →
      ∃ earlier, before.loop.tasks[task]? = some earlier ∧ IsOpening earlier.stack) := by
  rcases stays with ⟨earlier, entry, sameStack, sameAwaiting⟩ | ⟨_, idle, begins⟩
  · rw [sameStack, sameAwaiting]
    exact ⟨world.shapes task earlier entry, fun opening => ⟨earlier, entry, opening⟩⟩
  · obtain ⟨call, isAllowed, isCall⟩ :
        ∃ call : Call, call.AtWorkspace ∧ later.stack = [.begin call] := by
      rcases begins with (⟨session, id, begins⟩ | ⟨synchronizer, begins⟩) | ⟨call, rfl, begins⟩
      · exact ⟨.answer session id, trivial, begins⟩
      · exact ⟨.sendDebounced synchronizer, trivial, begins⟩
      · exact ⟨call, allowed, begins⟩
    rw [isCall, idle]
    refine ⟨.begins call isAllowed, ?_⟩
    rintro ⟨_, _, _, _, _, _, isOpening⟩
    cases isOpening

/-- What one input does, and where all tasks are afterwards. -/
theorem step
    {input : Input} (world : WorkspaceWorld before) (allowed : input.OnWorkspace) :
    System.Moves before input (before.step input) ∧ WorkspaceWorld (before.step input) ∧
      ∀ (task : Nat) (later : TaskState Frame),
        (before.step input).loop.tasks[task]? = some later → IsOpening later.stack →
          (∃ earlier, before.loop.tasks[task]? = some earlier ∧ IsOpening earlier.stack) ∨
            before.announcer? input = some task := by
  have keeps (moves : System.Moves before input (before.step input))
      (tasks : ∀ (task : Nat) (later : TaskState Frame),
        (before.step input).loop.tasks[task]? = some later →
          WorkspaceShape later.stack later.awaiting ∧ (IsOpening later.stack →
            (∃ earlier, before.loop.tasks[task]? = some earlier ∧ IsOpening earlier.stack) ∨
              before.announcer? input = some task)) :
      System.Moves before input (before.step input) ∧ WorkspaceWorld (before.step input) ∧
        ∀ (task : Nat) (later : TaskState Frame),
          (before.step input).loop.tasks[task]? = some later → IsOpening later.stack →
            (∃ earlier, before.loop.tasks[task]? = some earlier ∧ IsOpening earlier.stack) ∨
              before.announcer? input = some task := by
    obtain ⟨deeds, does⟩ := moves.does
    refine ⟨moves, ⟨fun task later entry => (tasks task later entry).1,
      does.synchronizers.trans world.unsynchronized, fun workspace file uri registered => ?_⟩,
      fun task later entry => (tasks task later entry).2⟩
    rcases does.openFile?_cases registered with earlier | ⟨_, inside⟩
    · exact Nat.lt_of_lt_of_le (world.registered workspace file uri earlier) does.length_files
    · exact inside
  cases step_conducted (fun task found entry => (world.shapes task found entry).isTracked) input with
  | aside aside stays =>
      refine keeps (.quiet aside) fun task later entry => ?_
      exact (world.shape_of_stays allowed (stays task later entry)).imp_right
        fun opening isOpening => Or.inl (opening isOpening)
  | turn task rest found isTurn resumes turned =>
      subst isTurn
      obtain ⟨moves, later, left, shape, opening⟩ := world.turn resumes
      refine keeps moves fun other otherLater entry => ?_
      by_cases same : other = task
      · rw [same, left] at entry
        rw [← Option.some.inj entry, same]
        exact ⟨shape, fun isOpening => Or.inr (opening isOpening)⟩
      · exact (world.shape_of_stays allowed (turned.others other otherLater same entry)).imp_right
          fun opening isOpening => Or.inl (opening isOpening)

end WorkspaceWorld

end LanguageClient.Client
