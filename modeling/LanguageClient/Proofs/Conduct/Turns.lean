import LanguageClient.Proofs.Conduct.Events
import LanguageClient.Proofs.Synchronizer.Steps

/-!
# The conduct of a run

One input either leaves the documents and the frames of all tasks alone, or it is the turn of a task.
The deeds of such a turn, together with the words of the frames that the task is left with, are words
of the frames that it had. So the deeds of a task form a word of its call, however the turns of tasks
follow on one another.
-/

namespace LanguageClient.Client

open LanguageClient.Json LanguageClient.Loop LanguageClient.Number LanguageClient.Protocol

/-- A frame whose deeds are known. -/
def Frame.IsTracked : Frame → Prop
  | .begin call => call.IsPlain
  | frame => frame.IsInner

theorem Frame.IsInner.isTracked {frame : Frame} (inner : frame.IsInner) : frame.IsTracked := by
  cases frame with
  | begin call => exact inner.elim
  | _ => exact inner

theorem nil_mem_course {call : Call} (plain : call.IsPlain) : [] ∈ call.course := by
  cases call with
  | request session method params timeout => exact plain.elim
  | notify session method params => exact plain.elim
  | closeSession session => exact Language.nil_mem_one
  | answer session id => exact Language.nil_mem_one
  | createWorkspace request => exact Language.nil_mem_one
  | openFile workspace uri languageId text listeners => exact Or.inl rfl
  | changeFile file version text => exact Or.inl rfl
  | closeFile file => exact Or.inl rfl
  | closeWorkspace workspace => exact Or.inl rfl
  | flush synchronizer force => exact nil_mem_flushingCourse
  | sendDebounced synchronizer => exact nil_mem_flushingCourse
  | closeSynchronizer synchronizer => exact nil_mem_detachingCourse
  | start editor => exact nil_mem_startingCourse
  | hover editor offset => exact nil_mem_queryCourse
  | complete editor offset explicit => exact nil_mem_queryCourse
  | refresh editor => exact nil_mem_flushingCourse
  | closeEditor editor => exact nil_mem_endingCourse
  | runCommand command => exact plain.elim

/-- The promise that a task is left waiting for. -/
def Progress.awaited : Progress → Option Nat
  | .ended _ => none
  | .suspended _ promise => some promise

namespace System

variable {held : List Nat} {before system : System}

/-! ## Frames and stacks -/

section Frames

variable (respects : Respects held before system)

include respects

theorem call_conducts {call : Call} (plain : call.IsPlain) :
    (system.call call).Conducts held before call.course system := by
  cases call with
  | request session method params timeout => exact plain.elim
  | notify session method params => exact plain.elim
  | closeSession session => exact closeSession_conducts respects session
  | answer session id => exact answer_conducts respects session id
  | createWorkspace request => exact createWorkspace_conducts respects request
  | openFile workspace uri languageId text listeners =>
      exact openFile_conducts respects workspace uri languageId text listeners
  | changeFile file version text => exact changeFile_conducts respects file version text
  | closeFile file => exact closeFile_conducts respects file
  | closeWorkspace workspace => exact closeWorkspace_conducts respects workspace
  | flush synchronizer force => exact flush_conducts respects synchronizer force
  | sendDebounced synchronizer => exact sendDebounced_conducts respects synchronizer
  | closeSynchronizer synchronizer => exact closeSynchronizer_conducts respects synchronizer
  | start editor => exact start_conducts respects editor
  | hover editor offset => exact hover_conducts respects editor offset
  | complete editor offset explicit => exact complete_conducts respects editor offset explicit
  | refresh editor => exact refresh_conducts respects editor
  | closeEditor editor => exact closeEditor_conducts respects editor
  | runCommand command => exact plain.elim

theorem resumeBegin_conducts {call : Call} (plain : call.IsPlain) (outcome : Outcome Reply) :
    (resumeBegin call system outcome).Conducts held before call.course system := by
  cases outcome with
  | returned reply => exact call_conducts respects plain
  | failed failure => exact (Idles.refl respects).ended (nil_mem_course plain) _
  | cancelled => exact (Idles.refl respects).ended (nil_mem_course plain) _

theorem resumeFrame_conducts
    {frame : Frame} (tracked : frame.IsTracked)
    (owns : ∀ promise ∈ frame.promises, before.Owns held promise) (outcome : Outcome Reply) :
    (resumeFrame frame system outcome).Conducts held before frame.course system := by
  cases frame with
  | begin call => exact resumeBegin_conducts respects tracked outcome
  | sending link frame => exact resumeSending_conducts respects link frame outcome
  | writing subject => exact resumeWriting_conducts respects subject outcome
  | requesting promise =>
      exact resumeRequesting_conducts respects (owns promise (List.mem_singleton.mpr rfl)) outcome
  | closingLink => exact resumeClosingLink_conducts respects outcome
  | handshaking session serverUri =>
      exact resumeHandshaking_conducts respects session serverUri outcome
  | confirming session serverUri result =>
      exact resumeConfirming_conducts respects session serverUri result outcome
  | abandoningHandshake ending =>
      exact resumeAbandoningHandshake_conducts respects ending outcome
  | opening workspace uri file =>
      exact resumeOpening_conducts respects workspace uri file outcome
  | closingFile uri => exact resumeClosingFile_conducts respects uri outcome
  | locking synchronizer promise force =>
      exact resumeLocking_conducts respects synchronizer promise force outcome
  | changing synchronizer version wasDirty =>
      exact resumeChanging_conducts respects synchronizer version wasDirty outcome
  | sendingDebounced synchronizer =>
      exact resumeSendingDebounced_conducts respects synchronizer outcome
  | settlingSends synchronizer => exact resumeSettlingSends_conducts respects synchronizer outcome
  | detaching synchronizer => exact resumeDetaching_conducts respects synchronizer outcome
  | creatingWorkspace editor => exact resumeCreatingWorkspace_conducts respects editor outcome
  | openingDocument editor text =>
      exact resumeOpeningDocument_conducts respects editor text outcome
  | abandoningStart editor ending =>
      exact resumeAbandoningStart_conducts respects editor ending outcome
  | flushingForHover editor offset =>
      exact resumeFlushingForHover_conducts respects editor offset outcome
  | hovering editor position => exact resumeHovering_conducts respects editor position outcome
  | flushingForCompletion editor query =>
      exact resumeFlushingForCompletion_conducts respects editor query outcome
  | completing query => exact resumeCompleting_conducts respects query outcome
  | refreshing => exact resumeRefreshing_conducts respects outcome
  | closingSynchronizer editor => exact resumeClosingSynchronizer_conducts respects editor outcome
  | closingWorkspace editor ending =>
      exact resumeClosingWorkspace_conducts respects editor ending outcome
  | startingCommand command => exact tracked.elim
  | hoveringCommand command => exact tracked.elim
  | completingCommand command => exact tracked.elim
  | waitingCommand command => exact tracked.elim
  | closingCommand ending => exact tracked.elim

/-- The frames of a stack go on one after the other. -/
theorem resumeStack_conducts
    {stack : List Frame} (tracked : ∀ frame ∈ stack, frame.IsTracked)
    (inner : ∀ frame ∈ stack.tail, frame.IsInner)
    (owns : ∀ promise ∈ stack.flatMap Frame.promises, before.Owns held promise)
    (outcome : Outcome Reply) :
    (system.resumeStack outcome stack).Conducts held before (courseOf stack) system := by
  induction stack generalizing system outcome with
  | nil => exact (Idles.refl respects).ended Language.nil_mem_one _
  | cons frame outer inductionHypothesis =>
      have ownsFrame : ∀ promise ∈ frame.promises, before.Owns held promise :=
        fun promise member => owns promise (List.mem_append_left _ member)
      have ownsOuter : ∀ promise ∈ outer.flatMap Frame.promises, before.Owns held promise :=
        fun promise member => owns promise (List.mem_append_right _ member)
      have first := resumeFrame_conducts respects (tracked frame List.mem_cons_self) ownsFrame
        outcome
      have isCourse : courseOf (frame :: outer) = frame.course * courseOf outer :=
        List.prod_cons
      rw [isCourse]
      rcases result : resumeFrame frame system outcome with ⟨later, ending | ⟨frames, promise⟩⟩
      · rw [resumeStack_of_ended outer result]
        rw [result] at first
        obtain ⟨deeds, does, words⟩ := first.does
        have isWord : deeds ∈ frame.course := by
          have whole := words [] Language.nil_mem_one
          rwa [List.append_nil] at whole
        have rest := inductionHypothesis first.respects
          (fun other member => tracked other (List.mem_cons_of_mem frame member))
          (fun other member => inner other (List.mem_of_mem_tail member)) ownsOuter ending
        exact rest.prepend does fun more isMore => Language.append_mem_mul isWord isMore
      · rw [resumeStack_of_suspended outer result]
        rw [result] at first
        obtain ⟨deeds, does, words⟩ := first.does
        refine ⟨⟨deeds, does, fun more isMore => ?_⟩, first.respects, fun other member => ?_,
          fun other member => ?_⟩
        · have split : more ∈ courseOf (frames ++ outer) := isMore
          rw [courseOf_append] at split
          obtain ⟨left, isLeft, right, isRight, rfl⟩ := Language.mem_mul.mp split
          rw [← List.append_assoc]
          exact Language.append_mem_mul (words left isLeft) isRight
        · have cases : other ∈ heldPromises frames (some promise) ∨
              other ∈ outer.flatMap Frame.promises := by
            simpa [Progress.promises, heldPromises, List.flatMap_append, or_assoc] using member
          exact cases.elim (first.owns other) (ownsOuter other)
        · rcases List.mem_append.mp member with isFrame | isOuter
          · exact first.inner other isFrame
          · exact inner other isOuter

end Frames

/-! ## The turn of a task -/

theorem settleTask_aside (task completion : Nat) (step : Step) :
    Aside step.1 (settleTask task completion step) := by
  obtain ⟨later, outcome | ⟨frames, promise⟩⟩ := step
  · have noted : Aside later (later.note (.ended task outcome)) := .note later rfl
    exact noted.trans (.onLoop _ _)
  · exact .onLoop later _

/-- Where a task that has not just had its turn comes from. -/
def Stays (before : System) (input : Input) (task : Nat) (later : TaskState Frame) : Prop :=
  (∃ earlier : TaskState Frame, before.loop.tasks[task]? = some earlier ∧
    later.stack = earlier.stack ∧ later.awaiting = earlier.awaiting) ∨
  before.nextTask ≤ task ∧ later.awaiting = none ∧
    (IsOwnBeginning later.stack ∨ ∃ call, input = .call call ∧ later.stack = [.begin call])

section Turn

variable {task : Nat} {found : TaskState Frame} {step : Step}
  (respects : Respects held (system.cleared task) step.1)

include respects

/-- A task is cancelled in its own turn only if the client minds it. -/
theorem settleTask_self (entry : system.loop.tasks[task]? = some found) :
    ∃ cancelRequested : Bool,
      (settleTask task found.completion step).loop.tasks[task]? = some {
        stack := step.2.frames, awaiting := step.2.awaited, cancelRequested,
        completion := found.completion } ∧
      (cancelRequested = false ∨ (system.cleared task).MayCancel step.1.nextTask task) := by
  obtain ⟨later, progress⟩ := step
  obtain ⟨cancelRequested, running, flag⟩ :=
    respects.loop.tasks task _ (Scheduler.clearTask_self entry)
  refine ⟨cancelRequested, ?_, flag⟩
  cases progress with
  | ended outcome =>
      have same := Scheduler.settle_tasks found.completion outcome
        (later.note (.ended task outcome)).loop
      exact (congrArg (·[task]?) same).trans running
  | suspended frames promise => exact Scheduler.suspend_tasks_self frames promise running

theorem settleTask_other
    {other : Nat} {later : TaskState Frame} (different : other ≠ task)
    (laterEntry : (settleTask task found.completion step).loop.tasks[other]? = some later) :
    Stays system .turn other later := by
  rcases respects.loop.task_cases ((settleTask_tasks_of_ne different).symm.trans laterEntry) with
    ⟨earlier, earlierEntry, sameStack, sameAwaiting, _⟩ | ⟨isNew, idle, own, _⟩
  · exact Or.inl ⟨earlier, (Scheduler.clearTask_other system.loop different).symm.trans earlierEntry,
      sameStack, sameAwaiting⟩
  · have sameNext : (system.cleared task).nextTask = system.nextTask :=
      Scheduler.modifyTask_nextTask system.loop task _
    exact Or.inr ⟨sameNext ▸ isNew, idle, Or.inl own⟩

end Turn

/-- A stack whose deeds are known: it has just begun, or it has no beginning in it. -/
def IsTracked (stack : List Frame) : Prop :=
  (∃ call, stack = [.begin call] ∧ call.IsPlain) ∨ ∀ frame ∈ stack, frame.IsInner

theorem IsTracked.frames
    {stack : List Frame} (tracked : IsTracked stack) :
    (∀ frame ∈ stack, frame.IsTracked) ∧ ∀ frame ∈ stack.tail, frame.IsInner := by
  rcases tracked with ⟨call, rfl, plain⟩ | inner
  · refine ⟨fun frame member => ?_, fun _ member => absurd member List.not_mem_nil⟩
    rw [List.mem_singleton.mp member]
    exact plain
  · exact ⟨fun frame member => (inner frame member).isTracked,
      fun frame member => inner frame (List.mem_of_mem_tail member)⟩

/-- The turn of a task that has not ended comes next. -/
structure Resumes (system : System) (task : Nat) (rest : ClientLoop) (found : TaskState Frame) :
    Prop where
  next : system.loop.next? = some (.resume task, rest)
  entry : system.loop.tasks[task]? = some found
  unended : system.loop.hasEnded task = false

/-- The client when a task takes its turn. -/
def resumed (system : System) (rest : ClientLoop) (task : Nat) : System :=
  ({ system with loop := rest } : System).cleared task

/-- What a task does in its turn. -/
def resumption (system : System) (rest : ClientLoop) (task : Nat) (found : TaskState Frame) : Step :=
  (system.resumed rest task).resumeStack (system.signalOf found) found.stack

theorem aside_resumed (system : System) (rest : ClientLoop) (task : Nat) :
    Aside system (system.resumed rest task) :=
  .of_same rfl rfl rfl rfl rfl

theorem resumption_conducts
    {found : TaskState Frame} (system : System) (rest : ClientLoop) (task : Nat)
    (tracked : IsTracked found.stack) :
    (system.resumption rest task found).Conducts (heldPromises found.stack found.awaiting)
      (system.resumed rest task) (courseOf found.stack) (system.resumed rest task) :=
  resumeStack_conducts (.refl _ _) tracked.frames.1 tracked.frames.2
    (fun _ member => Or.inl (List.mem_append_right _ member)) _

/-- What the turn of a task does about documents and to the frames of tasks, when the deeds of the
task and the words of what it is left with are in a language. -/
structure Turned (before : System) (task : Nat) (language : Language Deed) (after : System) :
    Prop where
  does : ∃ deeds later, Does before deeds after ∧ after.loop.tasks[task]? = some later ∧
    (∀ rest ∈ courseOf later.stack, deeds ++ rest ∈ language) ∧
      ∀ frame ∈ later.stack, frame.IsInner
  others : ∀ (other : Nat) (later : TaskState Frame), other ≠ task →
    after.loop.tasks[other]? = some later → Stays before .turn other later

namespace Resumes

variable {task : Nat} {rest : ClientLoop} {found : TaskState Frame} {deeds : List Deed}
  {language : Language Deed} (resumes : Resumes system task rest found)

include resumes

theorem taken : Scheduler.Taken system.loop (.resume task) rest :=
  Scheduler.taken_of_next? resumes.next

theorem restEntry : rest.tasks[task]? = some found := resumes.taken.tasks ▸ resumes.entry

theorem restUnended : rest.hasEnded task = false :=
  (resumes.taken.hasEnded_eq task).trans resumes.unended

theorem resumed_outcome? (promise : Nat) :
    (system.resumed rest task).loop.outcome? promise = system.loop.outcome? promise :=
  resumes.taken.outcome?_eq promise

/-- What a task waits for is settled when it goes on. -/
theorem settled
    (punctual : system.loop.Punctual none) {promise : Nat} (awaits : found.awaiting = some promise) :
    system.loop.outcome? promise ≠ none := by
  rw [← resumes.taken.outcome?_eq]
  exact (punctual.resumed_of_taken resumes.taken).2 found resumes.restEntry promise awaits

theorem step_turn :
    system.step .turn =
      settleTask task found.completion (system.resumption rest task found) := by
  simp only [step, turn?, resumes.next, Option.map_some, Option.getD_some, runCallback, resumeTask,
    resumes.restEntry, resumes.restUnended, Bool.false_eq_true, if_false,
    signalOf_of_taken resumes.taken]
  rfl

theorem does_of_resumption
    (does : Does (system.resumed rest task) deeds (system.resumption rest task found).1) :
    Does system deeds (system.step .turn) := by
  rw [resumes.step_turn]
  have whole := (does.of_aside_left (aside_resumed system rest task)).trans
    (.aside (settleTask_aside task found.completion _))
  rwa [List.append_nil] at whole

section Conducts

variable (conducts : (system.resumption rest task found).Conducts held (system.resumed rest task)
  language (system.resumed rest task))

include conducts

theorem leftEntry :
    ∃ cancelRequested : Bool, (system.step .turn).loop.tasks[task]? = some {
      stack := (system.resumption rest task found).2.frames
      awaiting := (system.resumption rest task found).2.awaited
      cancelRequested
      completion := found.completion } ∧
    (cancelRequested = false ∨ (system.resumed rest task).MayCancel
      (system.resumption rest task found).1.nextTask task) := by
  rw [resumes.step_turn]
  exact settleTask_self conducts.respects
    resumes.restEntry

theorem left :
    ∃ later : TaskState Frame, (system.step .turn).loop.tasks[task]? = some later ∧
      later.stack = (system.resumption rest task found).2.frames ∧
        later.completion = found.completion := by
  obtain ⟨cancelRequested, entry, _⟩ := resumes.leftEntry conducts
  exact ⟨_, entry, rfl, rfl⟩

theorem others
    {other : Nat} {later : TaskState Frame} (different : other ≠ task)
    (entry : (system.step .turn).loop.tasks[other]? = some later) :
    Stays system .turn other later := by
  have taken := resumes.taken
  rw [resumes.step_turn] at entry
  have stays := settleTask_other conducts.respects different entry
  simpa only [Stays, nextTask, Scheduler.nextTask, taken.tasks] using stays

theorem turned : Turned system task language (system.step .turn) := by
  refine ⟨?_, fun other later different entry => resumes.others conducts different entry⟩
  obtain ⟨deeds, does, words⟩ := conducts.does
  obtain ⟨later, left, sameStack, _⟩ := resumes.left conducts
  refine ⟨deeds, later, resumes.does_of_resumption does, left, ?_, ?_⟩
  · rw [sameStack]
    exact words
  · rw [sameStack]
    exact conducts.inner

end Conducts

end Resumes

/-! ## One input -/

/-- A wait of the host ends with the callback that comes next. -/
def Wakes (system : System) (promise : Nat) : Prop :=
  system.comingCallback? = some (.act (.wake promise)) ∨
    ∃ timer, system.comingCallback? = some (.fire timer (.wake promise))

/-- What one input is: something that lets no task go on, a call or a cancellation of the host, or the
turn of a task. -/
inductive Happens (before : System) : Input → System → Prop where
  | idles {input : Input} {after : System} (held : List Nat)
      (ends : ∀ promise ∈ held, before.loop.groupOf? promise ≠ none ∨ before.Wakes promise)
      (idles : Idles held before before after) : Happens before input after
  | calls (call : Call) : Happens before (.call call) (before.spawn call)
  | cancels (task : Nat) : Happens before (.cancel task) (before.onLoop (·.cancel task))
  | goesOn (task : Nat) (rest : ClientLoop) (found : TaskState Frame)
      (resumes : Resumes before task rest found) : Happens before .turn (before.step .turn)

/-- Taking a callback changes nothing that others can see. -/
theorem Idles.of_taken
    {callback : Callback Action} {rest : ClientLoop} {after : System}
    (taken : Scheduler.Taken before.loop callback rest)
    (idles : Idles held { before with loop := rest } { before with loop := rest } after) :
    Idles held before before after := by
  have aside : Aside before { before with loop := rest } := .of_same rfl rfl rfl rfl rfl
  have sameMinds : ({ before with loop := rest } : System).Minds = before.Minds := by
    funext task
    simp only [Minds, ownTasks, Scheduler.groupOf?, taken.promises]
  have sameMay : ({ before with loop := rest } : System).MayCancel = before.MayCancel := by
    funext started task
    simp only [MayCancel, sameMinds, nextTask, Scheduler.nextTask, taken.tasks]
  have sameSettles :
      ({ before with loop := rest } : System).MaySettle held = before.MaySettle held := by
    funext promise outcome
    simp only [MaySettle, sameMinds, Owns, nextPromise, Scheduler.nextPromise, taken.promises,
      taken.tasks, signals]
  have sameNextTask : ({ before with loop := rest } : System).nextTask = before.nextTask :=
    congrArg List.length taken.tasks
  have sameNextPromise :
      ({ before with loop := rest } : System).nextPromise = before.nextPromise :=
    congrArg List.length taken.promises
  obtain ⟨loop, ownTasks, signals⟩ := idles.respects
  rw [sameMay, sameSettles] at loop
  rw [sameNextTask] at ownTasks
  rw [sameNextPromise] at signals
  exact ⟨aside.trans idles.aside,
    (Scheduler.Stands.of_same taken.promises taken.tasks).trans loop, ownTasks, signals⟩

/-- A task that is unknown or has ended does not go on. -/
theorem runCallback_of_ended
    {rest : ClientLoop} {task : Nat}
    (taken : Scheduler.Taken before.loop (.resume task) rest)
    (ended : before.loop.hasEnded task = true) :
    ({ before with loop := rest } : System).runCallback (.resume task) =
      { before with loop := rest } := by
  have restEnded := (taken.hasEnded_eq task).trans ended
  cases entry : rest.tasks[task]? with
  | none => simp only [runCallback, resumeTask, entry]
  | some found => simp only [runCallback, resumeTask, entry, restEnded, if_true]

/-- A task that is to go on next takes its turn, or nothing happens because it has ended. -/
theorem resume_cases
    {rest : ClientLoop} {task : Nat} (next : before.loop.next? = some (.resume task, rest)) :
    (∃ found, Resumes before task rest found) ∨
      before.loop.hasEnded task = true ∧
        ({ before with loop := rest } : System).runCallback (.resume task) =
          { before with loop := rest } := by
  cases ended : before.loop.hasEnded task with
  | true => exact Or.inr ⟨rfl, runCallback_of_ended (Scheduler.taken_of_next? next) ended⟩
  | false =>
      cases entry : before.loop.tasks[task]? with
      | none => simp [Scheduler.hasEnded, entry] at ended
      | some found => exact Or.inl ⟨found, next, entry, ended⟩

/-- The end of a member matters to a group only. -/
theorem endMember_of_ungrouped
    {loop : ClientLoop} {promise : Nat} (ungrouped : loop.groupOf? promise = none) :
    loop.endMember promise .nothing = loop := by
  unfold Scheduler.endMember
  split
  · rfl
  · rename_i group isOpen
    rw [Scheduler.groupOf?_of_openGroup? isOpen] at ungrouped
    cases ungrouped

theorem turn_happens (before : System) : Happens before .turn (before.step .turn) := by
  rcases before.step_turn_cases with ⟨_, same⟩ | ⟨callback, rest, next, runs⟩
  · rw [same]
    exact .idles [] nofun (.refl (.refl [] before))
  · have taken := Scheduler.taken_of_next? next
    have unchanged : Idles [] before before { before with loop := rest } :=
      .of_taken taken (.refl (.refl [] _))
    have coming : before.comingCallback? = some callback := by
      simp only [comingCallback?, next, Option.map_some]
    have runsQuietly (other : callback.resumed? = none) :
        Idles callback.promises before before
          (({ before with loop := rest } : System).runCallback callback) :=
      .of_taken taken (runCallback_idles (.refl _ _) other fun promise member => Or.inl member)
    cases callback with
    | resume task =>
        rcases resume_cases next with ⟨found, resumes⟩ | ⟨_, stays⟩
        · exact .goesOn task rest found resumes
        · rw [runs, stays]
          exact .idles [] nofun unchanged
    | memberEnded promise =>
        rw [runs]
        cases ungrouped : before.loop.groupOf? promise with
        | none =>
            have restUngrouped : rest.groupOf? promise = none := by
              rw [← ungrouped, Scheduler.groupOf?, taken.promises, Scheduler.groupOf?]
            have same : ({ before with loop := rest } : System).runCallback
                (.memberEnded promise) = { before with loop := rest } := by
              simp only [runCallback, onLoop, endMember_of_ungrouped restUngrouped]
            rw [same]
            exact .idles [] nofun unchanged
        | some group =>
            refine .idles _ (fun other member => Or.inl ?_) (runsQuietly rfl)
            rw [List.mem_singleton.mp member, ungrouped]
            exact Option.some_ne_none group
    | fire timer action =>
        rw [runs]
        refine .idles _ (fun promise member => Or.inr (Or.inr ⟨timer, ?_⟩)) (runsQuietly rfl)
        cases action with
        | wake other => rw [coming, List.mem_singleton.mp member]
        | _ => cases member
    | act action =>
        rw [runs]
        refine .idles _ (fun promise member => Or.inr (Or.inl ?_)) (runsQuietly rfl)
        cases action with
        | wake other => rw [coming, List.mem_singleton.mp member]
        | _ => cases member
    | skipped =>
        rw [runs]
        exact .idles _ (fun _ member => absurd member List.not_mem_nil) (runsQuietly rfl)

theorem step_happens (before : System) (input : Input) :
    Happens before input (before.step input) := by
  have here : Respects [] before before := .refl [] before
  cases input with
  | call call => exact .calls call
  | cancel task => exact .cancels task
  | listen session listener =>
      have heard : Idles [] before before
          (before.modifySession session fun found => { found with listener }) :=
        .modifySession here session (fun _ => rfl) (fun _ => id) fun _ _ => id
      exact .idles [] nofun heard
  | attach synchronizer file openedText =>
      exact .idles [] nofun (noteEscaped_idles (attach_idles here synchronizer file openedText))
  | edit synchronizer text =>
      exact .idles [] nofun (noteEscaped_idles (edit_idles here synchronizer text))
  | editText editor text =>
      exact .idles [] nofun (noteEscaped_idles (editText_idles here editor text))
  | receive link text => exact .idles [] nofun (receive_idles here link text)
  | drop link => exact .idles [] nofun (drop_idles here link)
  | behave peer => exact .idles [] nofun (withPeer_idles here peer)
  | release place => exact .idles [] nofun (releases_idles here (before.releaseFrame_releases place))
  | releaseClose place =>
      exact .idles [] nofun (releases_idles here (before.releaseClosing_releases place))
  | tick moment => exact .idles [] nofun (moveClock_idles here moment)
  | turn => exact before.turn_happens

/-- What one input does about documents and to the frames of tasks. -/
inductive Conducted (before : System) (input : Input) (after : System) : Prop where
  | aside (aside : Aside before after)
      (tasks : ∀ (task : Nat) (later : TaskState Frame), after.loop.tasks[task]? = some later →
        Stays before input task later)
  | turn (task : Nat) (rest : ClientLoop) (found : TaskState Frame) (isTurn : input = .turn)
      (resumes : Resumes before task rest found)
      (turned : Turned before task (courseOf found.stack) after)

theorem Idles.stays
    {after : System} (idles : Idles held before before after) (input : Input) {task : Nat}
    {later : TaskState Frame} (entry : after.loop.tasks[task]? = some later) :
    Stays before input task later := by
  rcases idles.respects.loop.task_cases entry with
    ⟨earlier, earlierEntry, sameStack, sameAwaiting, _⟩ | ⟨isNew, idle, own, _⟩
  · exact Or.inl ⟨earlier, earlierEntry, sameStack, sameAwaiting⟩
  · exact Or.inr ⟨isNew, idle, Or.inl own⟩

theorem cancel_stays {task other : Nat} {input : Input} {later : TaskState Frame}
    (entry : (before.onLoop (·.cancel task)).loop.tasks[other]? = some later) :
    Stays before input other later := by
  have stands : before.loop.Stands (fun _ => True) (fun _ _ => True) IsOwnBeginning
      (before.loop.cancel task) :=
    Scheduler.cancel_stands trivial (fun _ _ _ _ _ => trivial) fun _ _ _ _ _ _ => trivial
  rcases stands.task_cases entry with
    ⟨earlier, earlierEntry, sameStack, sameAwaiting, _⟩ | ⟨isNew, idle, own, _⟩
  · exact Or.inl ⟨earlier, earlierEntry, sameStack, sameAwaiting⟩
  · exact Or.inr ⟨isNew, idle, Or.inl own⟩

theorem spawn_stays {task : Nat} {call : Call} {later : TaskState Frame}
    (entry : (before.spawn call).loop.tasks[task]? = some later) :
    Stays before (.call call) task later := by
  have stands : before.loop.Stands (fun _ => True) (fun _ _ => True)
      (fun stack => stack = [.begin call]) (before.loop.spawn [.begin call]) :=
    before.loop.spawn_stands rfl
  rcases stands.task_cases entry with
    ⟨earlier, earlierEntry, sameStack, sameAwaiting, _⟩ | ⟨isNew, idle, begins, _⟩
  · exact Or.inl ⟨earlier, earlierEntry, sameStack, sameAwaiting⟩
  · exact Or.inr ⟨isNew, idle, Or.inr ⟨call, rfl, begins⟩⟩

/-- What one input does. -/
theorem step_conducted
    (tracked : ∀ (task : Nat) (found : TaskState Frame), before.loop.tasks[task]? = some found →
      IsTracked found.stack) (input : Input) :
    Conducted before input (before.step input) := by
  cases before.step_happens input with
  | idles held ends idles => exact .aside idles.aside fun _ _ entry => idles.stays input entry
  | calls call => exact .aside (.onLoop before _) fun _ _ entry => spawn_stays entry
  | cancels task => exact .aside (.onLoop before _) fun _ _ entry => cancel_stays entry
  | goesOn task rest found resumes =>
      exact .turn task rest found rfl resumes
        (resumes.turned (before.resumption_conducts rest task (tracked task found resumes.entry)))

/-! ## The task whose turn comes -/

/-- The task whose turn comes, with its stack. -/
def comingTask? (system : System) : Option (Nat × List Frame) :=
  match system.comingCallback? with
  | some (.resume task) =>
    if system.loop.hasEnded task then none
    else (system.loop.tasks[task]?).map fun found => (task, found.stack)
  | _ => none

/-- The frames about documents that an input hands to connections. -/
def handedIn (system : System) (input : Input) : List Value :=
  (system.step input).wire.drop system.wire.length

section Coming

variable {task : Nat} {rest : ClientLoop} {found : TaskState Frame}

theorem Resumes.comingTask? (resumes : Resumes system task rest found) :
    system.comingTask? = some (task, found.stack) := by
  simp only [System.comingTask?, comingCallback?, resumes.next, Option.map_some, resumes.unended,
    Bool.false_eq_true, if_false, resumes.entry]

theorem resumes_of_comingTask?
    {stack : List Frame} (coming : system.comingTask? = some (task, stack)) :
    ∃ rest found, Resumes system task rest found ∧ found.stack = stack := by
  unfold System.comingTask? at coming
  split at coming
  · rename_i other isComing
    split at coming
    · cases coming
    · rename_i unended
      obtain ⟨found, entry, isTask⟩ := Option.map_eq_some_iff.mp coming
      obtain ⟨rfl, rfl⟩ := Prod.mk.inj isTask
      obtain ⟨⟨callback, rest⟩, next, rfl⟩ := Option.map_eq_some_iff.mp isComing
      exact ⟨rest, found, ⟨next, entry, Bool.not_eq_true _ ▸ unended⟩, rfl⟩
  · cases coming

/-- A task that begins a call does so, unless it was cancelled before. -/
theorem resumption_begin
    {call : Call} (system : System) (rest : ClientLoop) (task : Nat)
    (begins : found.stack = [.begin call]) :
    system.resumption rest task found = (system.resumed rest task).call call ∨
      ∃ outcome, (∀ reply, outcome ≠ .returned reply) ∧
        system.resumption rest task found = (system.resumed rest task, .ended outcome) := by
  unfold resumption
  rw [begins]
  cases system.signalOf found with
  | returned reply => exact Or.inl (resumeStack_begin _ reply call)
  | failed failure =>
      exact Or.inr ⟨.failed failure, by simp, resumeStack_not_begin _ call (by simp)⟩
  | cancelled => exact Or.inr ⟨.cancelled, by simp, resumeStack_not_begin _ call (by simp)⟩

end Coming

end System

end LanguageClient.Client
