import LanguageClient.Proofs.Conduct.Endings
import LanguageClient.Proofs.Tenure.Runs

/-!
# The end of an attachment

A call that closes the synchronizer disarms the timer first and gives the document up last. Whatever
is edited or flushed in between can leave a timer or a send behind, but once the call has returned
nothing more is handed over before the next attachment.
-/

namespace LanguageClient.Client

open LanguageClient.Json LanguageClient.Loop LanguageClient.Number LanguageClient.Protocol

/-! ## The call -/

/-- The synchronizer has no document. -/
def System.Detached (system : System) : Prop :=
  (system.synchronizers[0]?).bind (·.file) = none

theorem TenureWorld.detached_iff
    {holder : Option (Nat × Consignment)} {synchronizer : Synchronizer} {system : System}
    (world : TenureWorld holder synchronizer system) :
    system.Detached ↔ synchronizer.file = none := by
  rw [System.Detached, world.parts.synchronizers]
  rfl

/-- Where a task can be that closes the synchronizer. -/
inductive ClosingStack : List Frame → Prop where
  | begins : ClosingStack [.begin (.closeSynchronizer 0)]
  | settles : ClosingStack [.settlingSends 0]
  | detaches (inner : List Frame) : ClosingStack (inner ++ [.detaching 0])

/-- A step towards the end of an attachment: the task is left at such a place, or it has ended, and if
it has returned the synchronizer has no document. -/
structure Step.Detaches (step : Step) : Prop where
  suspended : ∀ frames promise, step.2 = .suspended frames promise → ClosingStack frames
  returned : ∀ reply, step.2 = .ended (.returned reply) → step.1.Detached

section Call

variable (system : System)

theorem Step.detaches_of_ended
    {outcome : Outcome Reply} (unreturned : ∀ reply, outcome ≠ .returned reply) :
    Step.Detaches (system, .ended outcome) where
  suspended := fun _ _ suspends => by cases suspends
  returned := fun reply returned => (unreturned reply (Progress.ended.inj returned)).elim

theorem Step.detaches_of_returned {reply : Reply} (detached : system.Detached) :
    Step.Detaches (system, .ended (.returned reply)) where
  suspended := fun _ _ suspends => by cases suspends
  returned := fun _ _ => detached

theorem resumeDetaching_detaches (outcome : Outcome Reply) :
    (System.resumeDetaching 0 system outcome).Detaches := by
  cases outcome with
  | returned reply =>
      refine Step.detaches_of_returned _ ?_
      simp only [System.Detached, System.modifySynchronizer, List.getElem?_modify, if_true]
      cases system.synchronizers[0]? with
      | none => rfl
      | some found => rfl
  | failed failure => exact Step.detaches_of_ended system fun _ same => by cases same
  | cancelled => exact Step.detaches_of_ended system fun _ same => by cases same

theorem andThen_detaching_detaches (step : Step) :
    (step.andThen (.detaching 0) (System.resumeDetaching 0)).Detaches := by
  obtain ⟨later, outcome | ⟨frames, promise⟩⟩ := step
  · exact resumeDetaching_detaches later outcome
  · refine ⟨fun others other suspends => ?_, fun _ ends => by cases ends⟩
    obtain ⟨rfl, rfl⟩ := Progress.suspended.inj suspends
    exact .detaches frames

theorem closeAttached_detaches : (system.closeAttached 0).Detaches := by
  unfold System.closeAttached
  split
  · rename_i detached
    exact Step.detaches_of_returned system detached
  · exact andThen_detaching_detaches _

theorem resumeSettlingSends_detaches (outcome : Outcome Reply) :
    (System.resumeSettlingSends 0 system outcome).Detaches := by
  cases outcome with
  | returned reply => exact closeAttached_detaches system
  | failed failure => exact Step.detaches_of_ended system fun _ same => by cases same
  | cancelled => exact Step.detaches_of_ended system fun _ same => by cases same

theorem closeSynchronizer_detaches : (system.closeSynchronizer 0).Detaches := by
  unfold System.closeSynchronizer
  simp only
  split
  · exact closeAttached_detaches _
  · unfold System.await
    split
    · exact resumeSettlingSends_detaches _ _
    · refine ⟨fun frames promise suspends => ?_, fun _ ends => by cases ends⟩
      obtain ⟨rfl, rfl⟩ := Progress.suspended.inj suspends
      exact .settles

theorem resumeStack_detaches
    {stack : List Frame} (closing : ClosingStack stack) (outcome : Outcome Reply) :
    (system.resumeStack outcome stack).Detaches := by
  cases closing with
  | begins =>
      rw [System.resumeStack_singleton]
      cases outcome with
      | returned reply => exact closeSynchronizer_detaches system
      | failed failure => exact Step.detaches_of_ended system fun _ same => by cases same
      | cancelled => exact Step.detaches_of_ended system fun _ same => by cases same
  | settles =>
      rw [System.resumeStack_singleton]
      exact resumeSettlingSends_detaches system outcome
  | detaches inner =>
      rw [System.resumeStack_concat]
      exact andThen_detaching_detaches _

end Call

/-! ## The sends that the call waits for -/

/-- How far a call has got that waits for sends: it awaits a group to which all of them belong, or all
of them have ended, or the call itself has ended and has not returned. -/
inductive SettlesSends
    (sends : List Nat) (ending? : Option (Outcome Reply)) (frames : List Frame)
    (awaited : Option Nat) (loop : ClientLoop) :
    Prop where
  | gathers (promise : Nat) (group : Group) (unended : ending? = none)
      (stack : frames = [.settlingSends 0]) (awaits : awaited = some promise)
      (isGroup : loop.groupOf? promise = some group)
      (members : ∀ task ∈ sends, task ∈ group.members)
  | settled (allOver : ∀ task ∈ sends, loop.IsOver task)
  | breaksOff (outcome : Outcome Reply) (unreturned : ∀ reply, outcome ≠ .returned reply)
      (ends : ending? = some outcome)

/-- A step at whose end a call has got so far. -/
def Step.SettlesSends (step : Step) (sends : List Nat) : Prop :=
  LanguageClient.Client.SettlesSends sends step.2.ending? step.2.frames step.2.awaited step.1.loop

theorem SettlesSends.retains
    {sends later : List Nat} {ending? : Option (Outcome Reply)} {frames : List Frame}
    {awaited : Option Nat} {before after : ClientLoop}
    (settles : SettlesSends sends ending? frames awaited before)
    (retains : Scheduler.Retains before after) (fewer : ∀ task ∈ later, task ∈ sends) :
    SettlesSends later ending? frames awaited after := by
  cases settles with
  | gathers promise group unended stack awaits isGroup members =>
      obtain ⟨laterGroup, isLater, same⟩ := retains.members promise group isGroup
      exact .gathers promise laterGroup unended stack awaits isLater fun task member =>
        same ▸ members task (fewer task member)
  | settled allOver =>
      exact .settled fun task member => retains.ended task (allOver task (fewer task member))
  | breaksOff outcome unreturned ends => exact .breaksOff outcome unreturned ends

/-- When the call has returned, all the sends have ended. -/
theorem SettlesSends.over_of_returned
    {sends : List Nat} {ending? : Option (Outcome Reply)} {frames : List Frame}
    {awaited : Option Nat} {loop : ClientLoop} {reply : Reply}
    (settles : SettlesSends sends ending? frames awaited loop)
    (returned : ending? = some (.returned reply)) : ∀ task ∈ sends, loop.IsOver task := by
  cases settles with
  | gathers promise group unended =>
      rw [unended] at returned
      cases returned
  | settled allOver => exact allOver
  | breaksOff outcome unreturned ends =>
      exact (unreturned reply (Option.some.inj (ends.symm.trans returned))).elim

section Settling

variable {running : Option Nat} {before system : System} {synchronizer : Synchronizer}
  {changes : List Occurrence}

theorem Step.settlesSends_of_ended
    {sends : List Nat} {outcome : Outcome Reply} (unreturned : ∀ reply, outcome ≠ .returned reply) :
    Step.SettlesSends (system, .ended outcome) sends :=
  .breaksOff outcome unreturned rfl

/-- When the group has ended as usual, all its members have ended. -/
theorem resumeSettlingSends_settlesSends
    {sends : List Nat} {outcome : Outcome Reply}
    (passage : TenurePassage running before synchronizer changes system)
    (allOver : ∀ reply, outcome = .returned reply → ∀ task ∈ sends, system.loop.IsOver task) :
    (System.resumeSettlingSends 0 system outcome).SettlesSends sends := by
  cases outcome with
  | returned reply =>
      obtain ⟨⟨_, _, closed⟩, _⟩ := closeAttached_aside passage.rebase
      exact .settled fun task member => closed.retains.ended task (allOver reply rfl task member)
  | failed failure => exact Step.settlesSends_of_ended nofun
  | cancelled => exact Step.settlesSends_of_ended nofun

/-- The call waits for all sends that the timer has started. -/
theorem closeSynchronizer_settlesSends
    (passage : TenurePassage running before synchronizer changes system) :
    (system.closeSynchronizer 0).SettlesSends synchronizer.sends := by
  have cancelled := passage.cancelTimer
  unfold System.closeSynchronizer
  simp only [passage.cancelTimer_sends]
  split
  · rename_i nobody
    exact .settled (by simp [nobody])
  · have gathered := cancelled.gather cancelled.parts.books.known
    obtain ⟨group, isGroup, members⟩ := (Scheduler.gather_gains cancelled.completionsKnown
      cancelled.parts.books.known Reply.nothing).gathered
    cases settled : ((system.cancelTimer 0).loop.gather synchronizer.sends
        Reply.nothing).outcome? (system.cancelTimer 0).nextPromise with
    | none =>
        rw [System.await_of_unsettled settled]
        exact .gathers _ group rfl rfl rfl isGroup fun task member => members ▸ member
    | some outcome =>
        rw [System.await_of_settled settled]
        refine resumeSettlingSends_settlesSends gathered fun reply returned task member => ?_
        rw [returned] at settled
        exact gathered.parts.books.tallied.complete _ group reply isGroup settled task
          (members ▸ member)

end Settling

/-! ## When tasks end -/

section Ends

variable {holder : Option (Nat × Consignment)} {synchronizer : Synchronizer} {before : System}
  {task : Nat} {rest : ClientLoop} {found : TaskState Frame}

open LanguageClient.Client.System

theorem TenureWorld.resumption_run
    (world : TenureWorld holder synchronizer before) (resumes : Resumes before task rest found) :
    ∃ later laterHolder added, TenureRun task (before.resumed rest task) synchronizer holder
      found.stack (before.resumption rest task found) later laterHolder added := by
  obtain ⟨restWorld, _⟩ := world.taken resumes.next
  obtain ⟨notReady, settled⟩ := world.punctual.resumed_of_taken resumes.taken
  obtain ⟨later, laterHolder, added, run⟩ :=
    restWorld.runTask resumes.restEntry notReady (settled found resumes.restEntry)
  rw [signalOf_of_taken resumes.taken] at run
  exact ⟨later, laterHolder, added, run⟩

/-- A task begins its turn. -/
theorem TenureWorld.resumed_start
    (world : TenureWorld holder synchronizer before) (resumes : Resumes before task rest found) :
    TenurePassage (some task) (before.resumed rest task) synchronizer
      (before.resumed rest task).changes (before.resumed rest task) := by
  obtain ⟨restWorld, _⟩ := world.taken resumes.next
  obtain ⟨notReady, settled⟩ := world.punctual.resumed_of_taken resumes.taken
  exact restWorld.start_task resumes.restEntry notReady (settled found resumes.restEntry)

theorem resumed_keepsGroups (resumes : Resumes before task rest found) :
    Scheduler.KeepsGroups before.loop (before.resumed rest task).loop :=
  (Scheduler.keepsGroups_of_next? resumes.next).trans
    (rest.modifyTask_keepsGroups task fun _ => rfl)

/-- Between the start and the end of a turn no completion is settled. -/
theorem TenureWorld.resumption_loop
    (world : TenureWorld holder synchronizer before) (resumes : Resumes before task rest found) :
    Scheduler.Passage tenureScope (some task) True (fun _ _ => True)
      (before.resumed rest task).loop (before.resumption rest task found).1.loop := by
  obtain ⟨_, _, _, run⟩ := world.resumption_run resumes
  exact run.passage.loop

theorem TenurePassage.keepsTask
    {running : Option Nat} {changes : List Occurrence} {after : System}
    (passage : TenurePassage running before synchronizer changes after)
    (known : task < before.nextTask) : before.KeepsTask after task :=
  keepsTask_of_advances passage.loop.advances known

/-- What an input does that is no turn and no call and does not move the clock. -/
theorem TenureWorld.input_passage
    {input : Input} (world : TenureWorld holder synchronizer before) (allowed : input.OnTenure) :
    input = .turn ∨ (∃ call, input = .call call) ∨ (∃ moment, input = .tick moment) ∨
      ∃ later changes, TenurePassage none before later changes (before.step input) := by
  have start := world.start
  have passes {later : Synchronizer} {changes : List Occurrence} {after : System}
      (passage : TenurePassage none before later changes after) :
      input = .turn ∨ (∃ call, input = .call call) ∨ (∃ moment, input = .tick moment) ∨
        ∃ later changes, TenurePassage none before later changes after :=
    Or.inr (Or.inr (Or.inr ⟨later, changes, passage⟩))
  cases input with
  | turn => exact Or.inl rfl
  | call call => exact Or.inr (Or.inl ⟨call, rfl⟩)
  | tick moment => exact Or.inr (Or.inr (Or.inl ⟨moment, rfl⟩))
  | edit other text =>
      obtain rfl : other = 0 := allowed
      obtain ⟨_, _, passage⟩ := world.edit_passage text
      exact passes passage
  | attach other file openedText =>
      obtain rfl : other = 0 := allowed
      obtain ⟨_, passage⟩ := world.attach_passage file openedText
      exact passes passage
  | cancel other => exact passes (start.cancel other)
  | listen session listener =>
      have heard : TenurePassage none before synchronizer before.changes
          (before.modifySession session fun found => { found with listener }) :=
        start.modifySession session fun _ _ => id
      exact passes heard
  | receive link text => exact passes (start.receive link text)
  | drop link => exact passes (start.drop link)
  | behave peer =>
      have behaved := start.withPeer { peer with
        held := before.peer.held
        heldCloses := before.peer.heldCloses } fun _ => id
      exact passes behaved
  | release place => exact passes (start.releases (before.releaseFrame_releases place))
  | releaseClose place => exact passes (start.releases (before.releaseClosing_releases place))
  | editText editor text => exact allowed.elim

/-- A task stays where it is unless it has its turn. -/
theorem TenureWorld.keepsTask_step
    {input : Input} (world : TenureWorld holder synchronizer before) (allowed : input.OnTenure)
    (known : task < before.nextTask)
    (waits : ∀ rest found, input = .turn → ¬ Resumes before task rest found) :
    before.KeepsTask (before.step input) task := by
  rcases world.input_passage allowed with rfl | ⟨call, rfl⟩ | ⟨moment, rfl⟩ | ⟨_, _, passage⟩
  · refine keepsTask_turn_of_waiting (fun callback rest next other => ?_)
      (fun _ _ _ => world.resumption_loop) known fun rest found => waits rest found rfl
    obtain ⟨restWorld, inScope, due⟩ := world.taken next
    obtain ⟨_, _, passage⟩ := restWorld.start.runCallback inScope due other
    exact passage.loop.advances
  · exact keepsTask_of_advances (world.spawn_passage (Call.of_onTenure allowed).1).advances known
  · exact .of_same rfl rfl
  · exact passage.keepsTask known

theorem settleTask_same_synchronizers (task completion : Nat) (step : Step) :
    (System.settleTask task completion step).synchronizers = step.1.synchronizers := by
  obtain ⟨later, outcome | ⟨frames, promise⟩⟩ := step <;> rfl

/-- At the end of its turn a task ends or is left. -/
theorem settleTask_retains
    {completion : Nat} {step : Step} (ungrouped : step.1.loop.IsUngrouped completion) (task : Nat) :
    Scheduler.Retains step.1.loop (System.settleTask task completion step).loop := by
  obtain ⟨later, outcome | ⟨frames, promise⟩⟩ := step
  · refine (Scheduler.settle_keepsGroups later.loop fun group reply isGroup _ => ?_).retains
    rw [groupOf?_of_isUngrouped ungrouped] at isGroup
    cases isGroup
  · exact (later.loop.suspend_keepsGroups task frames promise).retains

/-- From the last frame of its turn to the end of it nothing is lost. -/
theorem TenureWorld.resumption_retains
    (world : TenureWorld holder synchronizer before) (resumes : Resumes before task rest found) :
    Scheduler.Retains before.loop (before.resumption rest task found).1.loop ∧
      Scheduler.Retains (before.resumption rest task found).1.loop (before.step .turn).loop := by
  obtain ⟨_, _, _, run⟩ := world.resumption_run resumes
  have isCompletion : found.completion ∈ (before.resumption rest task found).1.loop.completions :=
    run.passage.loop.advances.completion_mem (List.mem_map.mpr
      ⟨_, List.mem_of_getElem? (Scheduler.clearTask_self resumes.restEntry), rfl⟩)
  rw [resumes.step_turn]
  exact ⟨(resumed_keepsGroups resumes).retains.trans run.passage.retains,
    settleTask_retains (run.passage.loop.orderly.completionsUngrouped _ isCompletion) task⟩

/-- With an input no group is lost, and who has ended has ended. -/
theorem TenureWorld.retains_step
    {input : Input} (world : TenureWorld holder synchronizer before) (allowed : input.OnTenure) :
    Scheduler.Retains before.loop (before.step input).loop := by
  rcases world.input_passage allowed with rfl | ⟨call, rfl⟩ | ⟨moment, rfl⟩ | ⟨_, _, passage⟩
  · rcases before.step_turn_cases with ⟨_, same⟩ | ⟨callback, rest, next, runs⟩
    · rw [same]
      exact (Scheduler.KeepsGroups.refl before.loop).retains
    · have taken := (Scheduler.keepsGroups_of_next? next).retains
      by_cases isResume : ∃ other, callback = .resume other
      · obtain ⟨other, rfl⟩ := isResume
        rcases resume_cases next with ⟨found, resumes⟩ | ⟨_, stays⟩
        · obtain ⟨first, last⟩ := world.resumption_retains resumes
          exact first.trans last
        · rw [runs, stays]
          exact taken
      · obtain ⟨restWorld, inScope, due⟩ := world.taken next
        obtain ⟨_, _, passage⟩ := restWorld.start.runCallback inScope due fun other same =>
          isResume ⟨other, same⟩
        rw [runs]
        exact taken.trans passage.retains
  · exact (before.loop.spawn_keepsGroups _).retains
  · exact (before.loop.moveClock_keepsGroups moment).retains
  · exact passage.retains

/-- The call disarms the timer when it begins and waits for sends, if it was not cancelled before. -/
theorem TenureWorld.begins_closing
    (world : TenureWorld holder synchronizer before) (resumes : Resumes before task rest found)
    (begins : found.stack = [.begin (.closeSynchronizer 0)]) :
    (∃ outcome, (∀ reply, outcome ≠ .returned reply) ∧
      (before.step .turn).ending? task = some outcome) ∨
    ∃ later, (before.step .turn).synchronizers = [later] ∧ later.timer = none ∧
      later.sends = synchronizer.sends ∧
      (before.resumption rest task found).SettlesSends synchronizer.sends := by
  rcases before.resumption_begin rest task begins with calls | ⟨outcome, unreturned, ends⟩
  · have passage := world.resumed_start resumes
    obtain ⟨⟨later, leaves, reached⟩, _⟩ := closeSynchronizer_aside passage
    refine Or.inr ⟨later, ?_, leaves.timer.elim id id, leaves.sends, ?_⟩
    · rw [resumes.step_turn, settleTask_same_synchronizers, calls]
      exact reached.parts.synchronizers
    · rw [calls]
      exact closeSynchronizer_settlesSends passage
  · refine Or.inl ⟨outcome, unreturned, ?_⟩
    rw [resumes.ending?_turn (world.resumption_loop resumes), ends]
    rfl

/-- A call that waits for sends goes on when all of them have ended. -/
theorem TenureWorld.settling_turn
    {sends : List Nat} (world : TenureWorld holder synchronizer before)
    (resumes : Resumes before task rest found)
    (settles : SettlesSends sends none found.stack found.awaiting before.loop) :
    (before.resumption rest task found).SettlesSends sends := by
  cases settles with
  | gathers promise group unended stack awaits isGroup members =>
      obtain ⟨_, settled⟩ := world.punctual.resumed_of_taken resumes.taken
      have settledBefore : before.loop.outcome? promise ≠ none :=
        resumes.taken.outcome?_eq promise ▸ settled found resumes.restEntry promise awaits
      rw [System.resumption, stack, System.resumeStack_singleton]
      refine resumeSettlingSends_settlesSends (world.resumed_start resumes)
        fun reply returned member inside => (resumed_keepsGroups resumes).isOver ?_
      exact world.parts.books.tallied.complete promise group reply isGroup
        (outcome?_of_signalOf awaits settledBefore returned) member (members member inside)
  | settled allOver =>
      exact .settled fun member inside =>
        (world.resumption_retains resumes).1.ended member (allOver member inside)
  | breaksOff outcome unreturned ends => cases ends

/-- How far a call has got after its turn. -/
theorem TenureWorld.settlesSends_turn
    {sends later : List Nat} {laterFound : TaskState Frame}
    (world : TenureWorld holder synchronizer before) (resumes : Resumes before task rest found)
    (settles : (before.resumption rest task found).SettlesSends sends)
    (fewer : ∀ other ∈ later, other ∈ sends)
    (left : (before.step .turn).loop.tasks[task]? = some laterFound) :
    SettlesSends later ((before.step .turn).ending? task) laterFound.stack laterFound.awaiting
      (before.step .turn).loop := by
  obtain ⟨⟨flag, entry⟩, ended⟩ := resumes.leaves_turn (world.resumption_loop resumes)
  obtain rfl := Option.some.inj (entry.symm.trans left)
  rw [ended]
  exact SettlesSends.retains settles (world.resumption_retains resumes).2 fewer

/-- The task of the call is left at one of its places, or has given the document up. -/
theorem TenureWorld.closing_turn
    (world : TenureWorld holder synchronizer before) (resumes : Resumes before task rest found)
    (closing : ClosingStack found.stack) :
    (∃ later, (before.step .turn).loop.tasks[task]? = some later ∧
      ((before.step .turn).ending? task = none → ClosingStack later.stack)) ∧
    ∀ reply, (before.step .turn).ending? task = some (.returned reply) →
      (before.step .turn).Detached := by
  have detaches : (before.resumption rest task found).Detaches :=
    resumeStack_detaches (before.resumed rest task) closing (before.signalOf found)
  obtain ⟨⟨flag, left⟩, ended⟩ := resumes.leaves_turn (world.resumption_loop resumes)
  rw [ended]
  refine ⟨⟨_, left, fun unended => ?_⟩, fun reply returned => ?_⟩
  · cases progress : (before.resumption rest task found).2 with
    | ended outcome =>
        rw [progress] at unended
        cases unended
    | suspended frames promise => exact detaches.suspended frames promise progress
  · have detached := detaches.returned reply (Progress.ending?_eq_some.mp returned)
    rw [System.Detached, resumes.step_turn, settleTask_same_synchronizers]
    exact detached

end Ends

/-! ## The course of the call -/

section Course

variable (start : System) (inputs : Nat → Input) (called : Nat)

/-- The task of the call that the host makes with an input. -/
def System.calledTask : Nat := (start.after inputs called).nextTask

/-- A task returns with an input. -/
def System.ReturnsAt (task place : Nat) : Prop :=
  (start.after inputs place).ending? task = none ∧
    ∃ reply, (start.after inputs (place + 1)).ending? task = some (.returned reply)

/-- The host edits the text or attaches the synchronizer between two inputs. -/
def DisturbedBetween (inputs : Nat → Input) (first last : Nat) : Prop :=
  ∃ place, first < place ∧ place < last ∧
    ((inputs place).isEdit = true ∨ (inputs place).isAttach = true)

/-- How far the call has got: it has not begun, it was cancelled before, or it has begun, and unless an
edit or an attachment came since, the timer is not armed and the call waits for all sends that the timer
has started. -/
inductive Closes (place : Nat) (synchronizer : Synchronizer) : Prop where
  | waits (found : TaskState Frame)
      (entry : (start.after inputs place).loop.tasks[start.calledTask inputs called]? = some found)
      (begins : found.stack = [.begin (.closeSynchronizer 0)])
      (unended : (start.after inputs place).ending? (start.calledTask inputs called) = none)
  | isCancelled (outcome : Outcome Reply) (unreturned : ∀ reply, outcome ≠ .returned reply)
      (ended : (start.after inputs place).ending? (start.calledTask inputs called) = some outcome)
  | hasBegun (begun : Nat) (after : called < begun) (before : begun < place)
      (coming : (start.after inputs begun).comingTask? =
        some (start.calledTask inputs called, [.begin (.closeSynchronizer 0)]))
      (found : TaskState Frame)
      (entry : (start.after inputs place).loop.tasks[start.calledTask inputs called]? = some found)
      (closing : (start.after inputs place).ending? (start.calledTask inputs called) = none →
        ClosingStack found.stack)
      (settles : synchronizer.timer = none ∧
          SettlesSends synchronizer.sends
            ((start.after inputs place).ending? (start.calledTask inputs called)) found.stack
            found.awaiting (start.after inputs place).loop ∨
        DisturbedBetween inputs begun place)

end Course

section Runs

variable {start : System} {inputs : Nat → Input} {called place : Nat}
  {holder laterHolder : Option (Nat × Consignment)} {synchronizer later : Synchronizer}

open LanguageClient.Client.System

theorem DisturbedBetween.goesOn
    {first : Nat} (disturbed : DisturbedBetween inputs first place) :
    DisturbedBetween inputs first (place + 1) := by
  obtain ⟨other, after, before, disturbs⟩ := disturbed
  exact ⟨other, after, Nat.lt_succ_of_lt before, disturbs⟩

/-- Only an edit and an attachment arm the timer. -/
theorem TenureStep.timer_cases
    (step : TenureStep synchronizer holder (start.after inputs place)
      (start.after inputs (place + 1)) (inputs place) later laterHolder) :
    later.timer = synchronizer.timer ∨ later.timer = none ∨
      (inputs place).isEdit = true ∨ (inputs place).isAttach = true := by
  generalize inputs place = input at step
  cases step with
  | stands input later noEdit noAttach follows =>
      exact follows.timer.imp_right Or.inl
  | edits text timer? armed changes => exact Or.inr (Or.inr (Or.inl rfl))
  | attaches file openedText timer? changes => exact Or.inr (Or.inr (Or.inr rfl))
  | turns task found later laterHolder added coming entry turn =>
      exact turn.follows.timer.imp_right Or.inl

/-- A send is started only because the timer has fired. -/
theorem TenureStep.sends_cases
    {input : Input} {before after : System} {task : Nat}
    (step : TenureStep synchronizer holder before after input later laterHolder)
    (member : task ∈ later.sends) : task ∈ synchronizer.sends ∨ synchronizer.timer ≠ none := by
  cases step with
  | stands input later noEdit noAttach follows dirty version changes sends =>
      exact sends task member
  | edits => exact Or.inl member
  | attaches => exact Or.inl member
  | turns task found later laterHolder added coming entry turn => exact Or.inl (turn.sends ▸ member)

theorem TenureStep.fewer_sends
    {input : Input} {before after : System}
    (step : TenureStep synchronizer holder before after input later laterHolder)
    (untimed : synchronizer.timer = none) : ∀ task ∈ later.sends, task ∈ synchronizer.sends :=
  fun _ member => (step.sends_cases member).resolve_right fun armed => armed untimed

theorem after_turn (start : System) (isTurn : inputs place = .turn) :
    start.after inputs (place + 1) = (start.after inputs place).step .turn := by
  rw [← isTurn]
  rfl

/-- Without a document an edit does not arm the timer. -/
theorem TenureStep.detached_goesOn
    {input : Input} {before after : System}
    (step : TenureStep synchronizer holder before after input later laterHolder)
    (file : synchronizer.file = none) (noAttach : input.isAttach = false) :
    later.file = none ∧ (synchronizer.timer = none → later.timer = none) := by
  have follows (follows : synchronizer.Follows later) :
      later.file = none ∧ (synchronizer.timer = none → later.timer = none) :=
    ⟨follows.file.elim (fun same => same.trans file) id, fun untimed =>
      follows.timer.elim (fun same => same.trans untimed) id⟩
  cases step with
  | stands input later noEdit noAttach isLater => exact follows isLater
  | edits text armed? armed changes =>
      obtain rfl : armed? = synchronizer.timer := armed.resolve_right fun attached => attached file
      exact ⟨file, id⟩
  | attaches => cases noAttach
  | turns task found later laterHolder added coming entry turn => exact follows turn.follows

section Steps

variable (world : TenureWorld holder synchronizer (start.after inputs place))
  (allowed : ∀ place, (inputs place).OnTenure)

include world allowed

/-- A task that is known has its turn, or stays where it is. -/
theorem turns_or_keeps
    {task : Nat} {found : TaskState Frame}
    (entry : (start.after inputs place).loop.tasks[task]? = some found) :
    (inputs place = .turn ∧ ∃ rest, Resumes (start.after inputs place) task rest found) ∨
      (start.after inputs place).KeepsTask (start.after inputs (place + 1)) task := by
  by_cases turns : inputs place = .turn ∧
      ∃ rest state, Resumes (start.after inputs place) task rest state
  · obtain ⟨isTurn, rest, state, resumes⟩ := turns
    obtain rfl : state = found := Option.some.inj (resumes.entry.symm.trans entry)
    exact Or.inl ⟨isTurn, rest, resumes⟩
  · exact Or.inr (world.keepsTask_step (allowed place) (List.getElem?_eq_some_iff.mp entry).1
      fun rest state isTurn resumes => turns ⟨isTurn, rest, state, resumes⟩)

variable (laterWorld : TenureWorld laterHolder later (start.after inputs (place + 1)))

include laterWorld

/-- The call has its first turn, or waits for it. -/
theorem Closes.of_waits
    {found : TaskState Frame} (after : called < place)
    (entry : (start.after inputs place).loop.tasks[start.calledTask inputs called]? = some found)
    (begins : found.stack = [.begin (.closeSynchronizer 0)])
    (unended : (start.after inputs place).ending? (start.calledTask inputs called) = none) :
    Closes start inputs called (place + 1) later := by
  rcases turns_or_keeps world allowed entry with ⟨isTurn, rest, resumes⟩ | keeps
  · have reached := after_turn start isTurn
    have closing : ClosingStack found.stack := begins ▸ .begins
    obtain ⟨⟨laterFound, left, laterClosing⟩, _⟩ := world.closing_turn resumes closing
    rcases world.begins_closing resumes begins with ⟨outcome, unreturned, ends⟩ |
      ⟨current, only, untimed, sends, waits⟩
    · exact .isCancelled outcome unreturned (reached ▸ ends)
    · rw [← reached, laterWorld.parts.synchronizers] at only
      obtain rfl := (List.cons.inj only).1
      have settles := world.settlesSends_turn resumes waits
        (fun task member => sends ▸ member) left
      refine .hasBegun place after (Nat.lt_succ_self place) ?_ laterFound (reached ▸ left)
        (reached ▸ laterClosing) (Or.inl ⟨untimed, reached ▸ settles⟩)
      rw [resumes.comingTask?, begins]
  · obtain ⟨flag, laterEntry⟩ := keeps.entry found entry
    exact .waits _ laterEntry begins (keeps.ending.trans unended)

variable (step : TenureStep synchronizer holder (start.after inputs place)
  (start.after inputs (place + 1)) (inputs place) later laterHolder)

include step

theorem Closes.goesOn
    (closes : Closes start inputs called place synchronizer) (after : called < place) :
    Closes start inputs called (place + 1) later := by
  cases closes with
  | waits found entry begins unended =>
      exact .of_waits world allowed laterWorld after entry begins unended
  | isCancelled outcome unreturned ended =>
      obtain ⟨found, entry⟩ : ∃ found,
          (start.after inputs place).loop.tasks[start.calledTask inputs called]? = some found :=
        ⟨_, List.getElem?_eq_getElem (known_of_ending ended)⟩
      rcases turns_or_keeps world allowed entry with ⟨isTurn, rest, resumes⟩ | keeps
      · rw [ending?_of_unended resumes.unended] at ended
        cases ended
      · exact .isCancelled outcome unreturned (keeps.ending.trans ended)
  | hasBegun begun afterCall before coming found entry closing settles =>
      -- Unless something disturbs the call, the timer stays as it is and no send is started.
      have goesOn {laterFound : TaskState Frame}
          (laterSettles : synchronizer.timer = none →
            SettlesSends synchronizer.sends
              ((start.after inputs place).ending? (start.calledTask inputs called)) found.stack
              found.awaiting (start.after inputs place).loop →
            SettlesSends later.sends
              ((start.after inputs (place + 1)).ending? (start.calledTask inputs called))
              laterFound.stack laterFound.awaiting (start.after inputs (place + 1)).loop) :
          later.timer = none ∧
              SettlesSends later.sends
                ((start.after inputs (place + 1)).ending? (start.calledTask inputs called))
                laterFound.stack laterFound.awaiting (start.after inputs (place + 1)).loop ∨
            DisturbedBetween inputs begun (place + 1) := by
        rcases settles with ⟨untimed, settles⟩ | disturbed
        · rcases step.timer_cases with same | isNone | disturbs
          · exact Or.inl ⟨same.trans untimed, laterSettles untimed settles⟩
          · exact Or.inl ⟨isNone, laterSettles untimed settles⟩
          · exact Or.inr ⟨place, before, Nat.lt_succ_self place, disturbs⟩
        · exact Or.inr disturbed.goesOn
      rcases turns_or_keeps world allowed entry with ⟨isTurn, rest, resumes⟩ | keeps
      · have reached := after_turn start isTurn
        have unended := ending?_of_unended resumes.unended
        obtain ⟨⟨laterFound, left, laterClosing⟩, _⟩ := world.closing_turn resumes (closing unended)
        refine .hasBegun begun afterCall (Nat.lt_succ_of_lt before) coming laterFound
          (reached ▸ left) (reached ▸ laterClosing) (goesOn fun untimed settles => ?_)
        rw [unended] at settles
        exact reached ▸ world.settlesSends_turn resumes (world.settling_turn resumes settles)
          (step.fewer_sends untimed) left
      · obtain ⟨flag, laterEntry⟩ := keeps.entry found entry
        refine .hasBegun begun afterCall (Nat.lt_succ_of_lt before) coming _ laterEntry
          (keeps.ending ▸ closing) (goesOn fun untimed settles => ?_)
        rw [keeps.ending]
        exact settles.retains (world.retains_step (allowed place)) (step.fewer_sends untimed)

end Steps

/-- The call waits for its first turn when it is made. -/
theorem closes_of_call
    (start : System) (calls : inputs called = .call (.closeSynchronizer 0)) :
    Closes start inputs called (called + 1) synchronizer := by
  have spawned : start.after inputs (called + 1) =
      (start.after inputs called).spawn (.closeSynchronizer 0) := by
    rw [System.after, calls]
    rfl
  have entry := spawn_task (start.after inputs called) (.closeSynchronizer 0)
  have unended : ((start.after inputs called).spawn (.closeSynchronizer 0)).ending?
      (start.calledTask inputs called) = none := by
    rw [System.calledTask, ending?_of_entry entry]
    exact Scheduler.addPromise_outcome?_new {} (start.after inputs called).loop
  rw [← spawned] at entry unended
  exact .waits _ entry rfl unended

variable (world : TenureWorld holder synchronizer start) (allowed : ∀ place, (inputs place).OnTenure)
  (calls : inputs called = .call (.closeSynchronizer 0))

include world allowed calls

theorem closing_run (after : called < place) :
    ∃ holder current, TenureWorld holder current (start.after inputs place) ∧
      Closes start inputs called place current := by
  obtain ⟨holder, current, currentWorld, closes⟩ := tenure_induction
    (fun count current _ => called < count → Closes start inputs called count current)
    world allowed (fun impossible => (Nat.not_lt_zero _ impossible).elim)
    (fun count current later holder laterHolder currentWorld closes step laterWorld inside => by
      rcases Nat.lt_succ_iff_lt_or_eq.mp inside with before | rfl
      · exact (closes before).goesOn currentWorld allowed laterWorld step before
      · exact closes_of_call start calls) place
  exact ⟨holder, current, currentWorld, closes after⟩

end Runs

section Return

variable {start : System} {inputs : Nat → Input} {called returned place : Nat}
  {holder : Option (Nat × Consignment)} {synchronizer : Synchronizer}
  (allowed : ∀ place, (inputs place).OnTenure)

include allowed

open LanguageClient.Client.System

/-- A call that returns has its turn. -/
theorem turn_of_returns
    {task : Nat} {found : TaskState Frame} (returns : start.ReturnsAt inputs task returned)
    (world : TenureWorld holder synchronizer (start.after inputs returned))
    (entry : (start.after inputs returned).loop.tasks[task]? = some found) :
    inputs returned = .turn ∧ ∃ rest, Resumes (start.after inputs returned) task rest found := by
  obtain ⟨unended, reply, ended⟩ := returns
  rcases turns_or_keeps world allowed entry with turns | keeps
  · exact turns
  · rw [keeps.ending, unended] at ended
    cases ended

/-- When the call returns, the document is given up. -/
theorem detached_of_returns
    (world : TenureWorld holder synchronizer (start.after inputs returned))
    (returns : start.ReturnsAt inputs (start.calledTask inputs called) returned)
    (closes : Closes start inputs called returned synchronizer) :
    inputs returned = .turn ∧ (start.after inputs (returned + 1)).Detached := by
  have detached {found : TaskState Frame}
      (entry : (start.after inputs returned).loop.tasks[start.calledTask inputs called]? =
        some found) (closing : ClosingStack found.stack) :
      inputs returned = .turn ∧ (start.after inputs (returned + 1)).Detached := by
    obtain ⟨isTurn, rest, resumes⟩ := turn_of_returns allowed returns world entry
    obtain ⟨_, reply, ended⟩ := returns
    have reached := after_turn start isTurn
    rw [reached] at ended ⊢
    exact ⟨isTurn, (world.closing_turn resumes closing).2 reply ended⟩
  cases closes with
  | waits found entry begins => exact detached entry (begins ▸ .begins)
  | isCancelled outcome unreturned isEnded =>
      rw [returns.1] at isEnded
      cases isEnded
  | hasBegun begun afterCall before coming found entry closing timer =>
      exact detached entry (closing returns.1)

/-- Without a document no timer is armed and no send is started until the next attachment. -/
theorem detached_run
    (world : TenureWorld holder synchronizer (start.after inputs (returned + 1)))
    (file : synchronizer.file = none) (after : returned < place)
    (only : ∀ other, returned < other → other < place → (inputs other).isAttach = false) :
    ∃ laterHolder later, TenureWorld laterHolder later (start.after inputs place) ∧
      later.file = none ∧
      (synchronizer.timer = none →
        (∀ task ∈ synchronizer.sends, (start.after inputs (returned + 1)).loop.IsOver task) →
          later.timer = none ∧ ∀ task ∈ later.sends, (start.after inputs place).loop.IsOver task) := by
  induction place with
  | zero => exact (Nat.not_lt_zero _ after).elim
  | succ place inductionHypothesis =>
      rcases Nat.lt_succ_iff_lt_or_eq.mp after with before | rfl
      · obtain ⟨holder, current, currentWorld, currentFile, rests⟩ := inductionHypothesis before
          fun other afterwards inside => only other afterwards (Nat.lt_succ_of_lt inside)
        obtain ⟨laterHolder, later, laterWorld, step⟩ := currentWorld.step (allowed place)
        obtain ⟨laterFile, staysUntimed⟩ :=
          step.detached_goesOn currentFile (only place before (Nat.lt_succ_self place))
        refine ⟨laterHolder, later, laterWorld, laterFile, fun untimed allOver => ?_⟩
        obtain ⟨currentUntimed, currentOver⟩ := rests untimed allOver
        refine ⟨staysUntimed currentUntimed, fun task member => ?_⟩
        exact (currentWorld.retains_step (allowed place)).ended task
          (currentOver task (step.fewer_sends currentUntimed task member))
      · exact ⟨holder, synchronizer, world, file, fun untimed allOver => ⟨untimed, allOver⟩⟩

end Return

/-! ## After the call -/

/-- Nothing is left of the timer: it is neither armed nor due, and no send that it started is in
progress. -/
structure System.AtRest (system : System) : Prop where
  timer : ∀ synchronizer ∈ system.synchronizers, synchronizer.timer = none
  waiting : ∀ timer ∈ system.loop.timers, timer.action ≠ .debounce 0
  due : ∀ timer, .fire timer (.debounce 0) ∉ system.loop.ready
  sends : ∀ (task : Nat) (found : TaskState Frame), system.loop.tasks[task]? = some found →
    system.ending? task = none → ¬ IsTimerSend found.stack

theorem TenureWorld.atRest
    {holder : Option (Nat × Consignment)} {synchronizer : Synchronizer} {system : System}
    (world : TenureWorld holder synchronizer system) (untimed : synchronizer.timer = none)
    (allOver : ∀ task ∈ synchronizer.sends, system.loop.IsOver task) : system.AtRest := by
  have books := world.parts.books
  rw [untimed] at books
  exact {
    timer := fun found member => by
      rw [world.parts.synchronizers] at member
      exact List.mem_singleton.mp member ▸ untimed
    waiting := fun timer waits isDebounce => by
      cases books.debounce.waiting timer waits isDebounce
    due := fun timer fires => by
      cases books.debounce.due timer fires
    sends := fun task found entry unended timed => by
      rw [ending?_of_entry entry] at unended
      obtain ⟨state, stateEntry, ended⟩ := allOver task (books.sent task found entry unended timed)
      rw [entry] at stateEntry
      exact ended (Option.some.inj stateEntry ▸ unended) }

/-- What holds of a synchronizer that was closed until it is attached again. The call had its first
turn with the input `begun` and its last with the input `returned`. -/
structure System.StaysClosed
    (start : System) (inputs : Nat → Input) (begun returned place : Nat) : Prop where
  detached : (start.after inputs place).Detached
  quiet : ¬ start.HandsOver inputs place
  rests : (start.after inputs place).AtRest ∨ DisturbedBetween inputs begun returned

/-- When a call that closes the synchronizer has returned, no change is handed over until the
synchronizer is attached again, and unless an edit or an attachment came while the call waited, the
timer is not armed and every send that it started has ended. -/
theorem synchronizer_staysClosed
    (resolution : Rat) (uri : String) (languageId : Value) (text : String) (debounce : Quantity)
    (inputs : Nat → Input) (called returned : Nat) (allowed : ∀ place, (inputs place).OnTenure)
    (calls : inputs called = .call (.closeSynchronizer 0)) (after : called < returned) :
    let start := System.ofSynchronizer resolution uri languageId text debounce
    start.ReturnsAt inputs (start.calledTask inputs called) returned →
      ∃ begun, called < begun ∧ begun ≤ returned ∧
        (start.after inputs begun).comingTask? =
          some (start.calledTask inputs called, [.begin (.closeSynchronizer 0)]) ∧
        ∀ place, returned < place →
          (∀ other, returned < other → other < place → (inputs other).isAttach = false) →
            start.StaysClosed inputs begun returned place := by
  intro start returns
  have world := ofSynchronizer_world resolution uri languageId text debounce
  obtain ⟨holder, current, currentWorld, closes⟩ := closing_run world allowed calls after
  obtain ⟨isTurn, detached⟩ := detached_of_returns allowed currentWorld returns closes
  obtain ⟨laterHolder, later, laterWorld, laterCloses⟩ :=
    closing_run world allowed calls (Nat.lt_succ_of_lt after)
  have file : later.file = none := laterWorld.detached_iff.mp detached
  obtain ⟨_, reply, ended⟩ := returns
  cases laterCloses with
  | waits found entry begins unended =>
      rw [unended] at ended
      cases ended
  | isCancelled outcome unreturned isEnded =>
      exact (unreturned reply (Option.some.inj (isEnded.symm.trans ended))).elim
  | hasBegun begun afterCall before coming found entry closing settles =>
      refine ⟨begun, afterCall, Nat.lt_succ_iff.mp before, coming, fun place afterReturn only => ?_⟩
      obtain ⟨restHolder, rest, restWorld, restFile, rests⟩ :=
        detached_run allowed laterWorld file afterReturn only
      obtain ⟨nextHolder, next, nextWorld, step⟩ := restWorld.step (allowed place)
      refine ⟨restWorld.detached_iff.mpr restFile,
        fun hands => (step.of_handsOver hands).2.1 restFile, ?_⟩
      rcases settles with ⟨untimed, settles⟩ | disturbed
      · obtain ⟨restUntimed, restOver⟩ := rests untimed (settles.over_of_returned ended)
        exact Or.inl (restWorld.atRest restUntimed restOver)
      · obtain ⟨other, begins, ends, disturbs⟩ := disturbed
        refine Or.inr
          ⟨other, begins, (Nat.lt_succ_iff_lt_or_eq.mp ends).resolve_right ?_, disturbs⟩
        rintro rfl
        rw [isTurn] at disturbs
        rcases disturbs with isEdit | isAttach
        · cases isEdit
        · cases isAttach

/-- A call that closes the synchronizer waits for a send that the timer started, and the host edits the
text meanwhile. -/
def editedWhileClosing : Nat → Input
  | 0 => .call (.createWorkspace {
      serverUri := "ws://localhost/lsp"
      rootUri := .null
      folders := none
      timeout := .int 1
      unreachable := none })
  | 2 => .receive 0 "\x7b\"id\": \"1\", \"result\": \x7b\"capabilities\": \x7b\x7d\x7d\x7d"
  | 5 => .call (.openFile 0 "file:///document" (.string "text") "first" [])
  | 7 => .attach 0 0 "first"
  | 8 => .edit 0 "second"
  | 9 => .behave { holding := true }
  | 10 => .tick 1
  | 13 => .call (.closeSynchronizer 0)
  | 15 => .edit 0 "third"
  | 16 => .behave {}
  | 17 => .release 0
  | _ => .turn

theorem editedWhileClosing_onTenure (place : Nat) : (editedWhileClosing place).OnTenure := by
  unfold editedWhileClosing
  split <;> first | rfl | trivial

/-- The timer of the edit outlives the document. -/
theorem synchronizer_staysClosed_editedWhileClosing :
    let start := System.ofSynchronizer 0 "file:///document" (.string "text") "first" (.int 1)
    start.ReturnsAt editedWhileClosing (start.calledTask editedWhileClosing 13) 21 ∧
      (∃ begun, 13 < begun ∧ begun ≤ 21 ∧ start.StaysClosed editedWhileClosing begun 21 22) ∧
      (start.after editedWhileClosing 22).synchronizers.map (·.timer) = [some 2] := by
  intro start
  have returns : start.ReturnsAt editedWhileClosing (start.calledTask editedWhileClosing 13) 21 :=
    ⟨by decide +kernel, .nothing, by decide +kernel⟩
  obtain ⟨begun, after, before, _, rests⟩ := synchronizer_staysClosed 0 "file:///document"
    (.string "text") "first" (.int 1) editedWhileClosing 13 21 editedWhileClosing_onTenure rfl
    (by decide) returns
  refine ⟨returns, ⟨begun, after, before, rests 22 (by decide) fun other later inside => ?_⟩,
    by decide +kernel⟩
  omega

end LanguageClient.Client
