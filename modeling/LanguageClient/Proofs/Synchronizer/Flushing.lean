import LanguageClient.Proofs.Conduct.Endings
import LanguageClient.Proofs.Synchronizer.Consistency

/-!
# What a flush delivers

A flush that returns while the document is open leaves the peer with a text that the synchronizer has
had since the flush began. Either the flush has handed that text over by itself, or it found nothing
unsent when it had the lock.
-/

namespace LanguageClient.Client

open LanguageClient.Json LanguageClient.Loop LanguageClient.Number LanguageClient.Protocol

/-! ## Where a flush is -/

/-- The frames of a flush that waits: for the lock, or until its frame with one of some texts is
accepted. -/
inductive FlushShape (uri : String) (seen : String → Prop) : List Frame → Prop where
  | locks (promise : Nat) (force : Bool) : FlushShape uri seen [.locking 0 promise force]
  | changes (link : Nat) (change : Change) (wasSeen : seen change.text) :
    FlushShape uri seen (changeFrames uri link change)

/-- A flush returns with one of some texts delivered, unless the document is closed, or it waits. -/
structure Step.FlushesTo (uri : String) (seen : String → Prop) (result : Step) : Prop where
  returned : ∀ reply, result.2 = .ended (.returned reply) → result.1.isReady 0 = true →
    ∃ text, seen text ∧ result.1.deliveredText? uri = some text
  suspended : ∀ frames promise, result.2 = .suspended frames promise → FlushShape uri seen frames

namespace FlushShape

variable {uri : String} {seen later : String → Prop} {stack caller : List Frame}

theorem mono (shape : FlushShape uri seen stack) (more : ∀ text, seen text → later text) :
    FlushShape uri later stack := by
  cases shape with
  | locks promise force => exact .locks promise force
  | changes link change wasSeen => exact .changes link change (more _ wasSeen)

theorem not_begins (shape : FlushShape uri seen stack) (call : Call) : stack ≠ [.begin call] := by
  cases shape <;> simp [changeFrames]

theorem carries (shape : FlushShape uri seen stack) : ∃ text, Carries uri text stack := by
  cases shape with
  | locks promise force => exact ⟨"", .locks promise force []⟩
  | changes link change =>
      have carried : Carries uri change.text (changeFrames uri link change ++ []) :=
        .changes link change [] rfl
      exact ⟨change.text, List.append_nil (changeFrames uri link change) ▸ carried⟩

theorem caller_of_locking
    {promise : Nat} {force : Bool}
    (shape : FlushShape uri seen (.locking 0 promise force :: caller)) : caller = [] := by
  generalize stackEq : Frame.locking 0 promise force :: caller = stack at shape
  cases shape with
  | locks => exact (List.cons.inj stackEq).2
  | changes => cases stackEq

theorem caller_of_changes
    {link : Nat} {change : Change}
    (shape : FlushShape uri seen (changeFrames uri link change ++ caller)) :
    caller = [] ∧ seen change.text := by
  generalize stackEq : changeFrames uri link change ++ caller = stack at shape
  cases shape with
  | locks => cases stackEq
  | changes other otherChange wasSeen =>
      rw [← List.append_nil (changeFrames uri other otherChange)] at stackEq
      obtain rfl := changeFrames_inj stackEq
      simp only [changeFrames, List.cons_append, List.nil_append, List.cons.injEq, true_and] at stackEq
      exact ⟨stackEq.2, wasSeen⟩

end FlushShape

section Turns

open LanguageClient.Client.System

variable {calm : Prop} {uri : String} {running : Option Nat} {before system : System}
  {synchronizer later : Synchronizer} {holder : Option (Nat × Change)}
  {change? laterChange? : Option Change} {task : Nat} {rest : ClientLoop}
  {found : TaskState Frame} {seen : String → Prop} {result : Step}

theorem SendStep.flushesTo
    (step : SendStep calm uri running before [] synchronizer change? system result later laterChange?)
    (isSeen : seen synchronizer.text) : result.FlushesTo uri seen where
  returned := fun reply returns ready => ⟨_, isSeen, step.returned rfl reply returns ready⟩
  suspended := fun frames promise suspends => by
    obtain ⟨_, ⟨link, change, _, _, sameText, rfl⟩ | ⟨force, _, _, rfl⟩⟩ :=
      step.suspended frames promise suspends
    · exact .changes link change (sameText ▸ isSeen)
    · exact .locks promise force

theorem Step.FlushesTo.of_unreturned
    {ending : Outcome Reply} (ends : result.2 = .ended ending)
    (unreturned : ∀ reply, ending ≠ .returned reply) : result.FlushesTo uri seen where
  returned := fun reply returns => by
    rw [ends] at returns
    exact (unreturned reply (Progress.ended.inj returns)).elim
  suspended := fun frames promise suspends => by
    rw [ends] at suspends
    cases suspends

section Resumed

variable (world : SyncWorld calm uri holder synchronizer before)
  (resumes : Resumes before task rest found)

include world resumes

theorem SyncWorld.resumption_start :
    SyncPassage calm uri (some task) (before.resumed rest task) synchronizer
        (before.resumed rest task) ∧
      ∃ later laterHolder, TaskRun calm uri task (before.resumed rest task) synchronizer holder found
        (before.signalOf found) (before.resumption rest task found) later laterHolder := by
  have entry := resumes.restEntry
  obtain ⟨restWorld, _⟩ := world.taken resumes.taken
  obtain ⟨notReady, settled⟩ := world.punctual.resumed_of_taken resumes.taken
  obtain ⟨later, laterHolder, run⟩ := restWorld.runTask entry notReady (settled found entry)
  rw [signalOf_of_taken resumes.taken] at run
  exact ⟨restWorld.start_task entry notReady (settled found entry), later, laterHolder, run⟩

theorem SyncWorld.resumption_ledger :
    Ledger (holder.map (·.2)) synchronizer ((before.resumed rest task).deliveries uri) :=
  (world.taken resumes.taken).1.ledger

theorem SyncWorld.resumption_passage :
    ∃ later, SyncPassage calm uri (some task) (before.resumed rest task) later
      (before.resumption rest task found).1 := by
  obtain ⟨start, later, _, run⟩ := world.resumption_start resumes
  exact ⟨later, (run.taskStep start (world.resumption_ledger resumes)).passage⟩

/-- A flush begins: the text is the one that the synchronizer has. -/
theorem SyncWorld.begin_flushesTo
    {force : Bool} (begins : found.stack = [.begin (.flush 0 force)])
    (isSeen : seen synchronizer.text) :
    (before.resumption rest task found).FlushesTo uri seen := by
  obtain ⟨start, _⟩ := world.resumption_start resumes
  rcases resumption_begin before rest task begins with calls | ⟨outcome, unreturned, ends⟩
  · obtain ⟨_, _, step⟩ := flush_step force start (world.resumption_ledger resumes)
    have flushes : before.resumption rest task found = (before.resumed rest task).flush 0 force :=
      calls
    rw [flushes]
    exact step.flushesTo isSeen
  · rw [ends]
    exact .of_unreturned rfl unreturned

/-- A flush goes on: it takes the lock with the text of that moment, or its text was accepted. -/
theorem SyncWorld.goOn_flushesTo
    (shape : FlushShape uri seen found.stack) (isSeen : seen synchronizer.text) :
    (before.resumption rest task found).FlushesTo uri seen := by
  obtain ⟨_, later, laterHolder, run⟩ := world.resumption_start resumes
  obtain ⟨text, carries⟩ := shape.carries
  cases run with
  | quiet _ other =>
      rcases other with nothing | ⟨⟨call, begins⟩, _⟩
      · exact (nothing text carries).elim
      · exact (shape.not_begins call begins).elim
  | closes _ nothing => exact (nothing text carries).elim
  | flushes _ _ nothing => exact (nothing text carries).elim
  | sends _ _ begins => exact (shape.not_begins _ begins).elim
  | takes promise force caller later change? locks _ _ _ step =>
      rw [locks] at shape
      obtain rfl := shape.caller_of_locking
      exact step.flushesTo isSeen
  | givesUp promise force caller ending locks _ _ ends _ _ _ unreturned =>
      rw [locks] at shape
      exact .of_unreturned ends (unreturned shape.caller_of_locking)
  | delivers link change caller ending changes _ _ ends _ _ _ delivered =>
      rw [changes] at shape
      refine ⟨fun _ _ _ => ⟨_, shape.caller_of_changes.2, delivered⟩, fun _ _ suspends => ?_⟩
      rw [ends] at suspends
      cases suspends
  | restores link change caller ending changes _ _ ends _ _ _ unreturned =>
      rw [changes] at shape
      exact .of_unreturned ends (unreturned shape.caller_of_changes.1)

end Resumed

/-- A task stays where it is unless it has its turn. -/
theorem SyncWorld.keepsTask_step
    {input : Input} (world : SyncWorld calm uri holder synchronizer before)
    (allowed : input.OnSynchronizer) (known : task < before.nextTask)
    (waits : ∀ rest found, input = .turn → ¬ Resumes before task rest found) :
    before.KeepsTask (before.step input) task := by
  cases input with
  | turn =>
      refine keepsTask_turn_of_waiting (fun callback rest next other => ?_)
        (fun other rest found resumes => (world.resumption_passage resumes).choose_spec.loop) known
        fun rest found => waits rest found rfl
      obtain ⟨restWorld, inScope⟩ := world.taken (Scheduler.taken_of_next? next)
      by_cases timer : ∃ timer action, callback = .fire timer action
      · obtain ⟨timer, action, rfl⟩ := timer
        obtain ⟨_, event⟩ := fire_event restWorld inScope
        exact event.passage.loop.advances
      · obtain ⟨_, event⟩ := callback_event restWorld inScope other
          fun found action same => timer ⟨found, action, same⟩
        exact event.passage.loop.advances
  | edit other text =>
      obtain rfl : other = 0 := allowed
      obtain ⟨_, passage, _⟩ := edit_passage world.start.passage text
      exact keepsTask_of_advances passage.loop.advances known
  | cancel other =>
      have advances : before.loop.Advances True (fun _ _ => True) (before.loop.cancel other) :=
        Scheduler.cancel_advances world.orderly trivial (fun _ => trivial) other
      exact keepsTask_of_advances advances known
  | tick moment => exact .of_same rfl rfl
  | _ =>
      exact keepsTask_of_advances
        (input_event world allowed nofun nofun nofun nofun).passage.loop.advances known

end Turns

/-! ## The course of a flush -/

section Runs

open LanguageClient.Client.System

variable {inputs : Nat → Input} {started count : Nat} {force : Bool}

/-- The synchronizer had a text at some moment since another one. -/
def HadText (run : Nat → System) (begun count : Nat) (text : String) : Prop :=
  ∃ moment synchronizer, begun ≤ moment ∧ moment < count ∧
    (run moment).synchronizers = [synchronizer] ∧ synchronizer.text = text

/-- A task begins a flush in the turn that comes. -/
def BeginsFlush (run : Nat → System) (inputs : Nat → Input) (task begun : Nat) (force : Bool) : Prop :=
  inputs begun = .turn ∧ (run begun).comingTask? = some (task, [.begin (.flush 0 force)])

/-- A flush that has been started waits for its beginning, or it has begun and is on its way with a
text that the synchronizer has had since then. -/
def FlushCourse
    (uri : String) (run : Nat → System) (inputs : Nat → Input) (task started count : Nat)
    (force : Bool) (stack : List Frame) : Prop :=
  stack = [.begin (.flush 0 force)] ∨
    ∃ begun, started < begun ∧ begun < count ∧ BeginsFlush run inputs task begun force ∧
      FlushShape uri (HadText run begun count) stack

theorem HadText.mono
    {run : Nat → System} {begun later : Nat} {text : String} (had : HadText run begun count text)
    (more : count ≤ later) : HadText run begun later text := by
  obtain ⟨moment, synchronizer, since, before, has⟩ := had
  exact ⟨moment, synchronizer, since, Nat.lt_of_lt_of_le before more, has⟩

variable (attachment : Attachment) (allowed : ∀ place, (inputs place).OnSynchronizer)

include allowed

theorem sync_world_of_run (count : Nat) :
    ∃ holder synchronizer, SyncWorld False attachment.uri holder synchronizer
      (attachment.start.after inputs count) := by
  obtain ⟨timer?, started, _⟩ := attachment.start_world False
  exact sync_world ⟨none, attachment.attached timer?, started⟩ allowed
    (fun _ _ _ impossible => impossible.elim) count

/-- In its own turn a flush begins or goes on. -/
theorem flushesTo_of_course
    {task : Nat} {rest : ClientLoop} {found : TaskState Frame} (isTurn : inputs count = .turn)
    (since : started < count)
    (resumes : Resumes (attachment.start.after inputs count) task rest found)
    (course : FlushCourse attachment.uri (attachment.start.after inputs) inputs task started count
      force found.stack) :
    ∃ begun, started < begun ∧ begun < count + 1 ∧
      BeginsFlush (attachment.start.after inputs) inputs task begun force ∧
      ((attachment.start.after inputs count).resumption rest task found).FlushesTo attachment.uri
        (HadText (attachment.start.after inputs) begun (count + 1)) := by
  obtain ⟨_, synchronizer, world⟩ := sync_world_of_run attachment allowed count
  have hasNow {begun : Nat} (since : begun ≤ count) :
      HadText (attachment.start.after inputs) begun (count + 1) synchronizer.text :=
    ⟨count, synchronizer, since, Nat.lt_succ_self count, world.parts.synchronizers, rfl⟩
  rcases course with begins | ⟨begun, after, before, isBeginning, shape⟩
  · refine ⟨count, since, Nat.lt_succ_self count, ⟨isTurn, ?_⟩,
      world.begin_flushesTo resumes begins (hasNow (Nat.le_refl count))⟩
    rw [resumes.comingTask?, begins]
  · exact ⟨begun, after, Nat.lt_succ_of_lt before, isBeginning,
      world.goOn_flushesTo resumes (shape.mono fun _ had => had.mono (Nat.le_succ count))
        (hasNow (Nat.le_of_lt before))⟩

/-- A flush that has not ended is on its course. -/
theorem flushCourse_of_run
    (calls : inputs started = .call (.flush 0 force)) {count : Nat} (since : started < count)
    (unended : (attachment.start.after inputs count).ending?
      (attachment.start.after inputs started).nextTask = none) :
    ∃ found, (attachment.start.after inputs count).loop.tasks[
        (attachment.start.after inputs started).nextTask]? = some found ∧
      FlushCourse attachment.uri (attachment.start.after inputs) inputs
        (attachment.start.after inputs started).nextTask started count force found.stack := by
  induction count, since using Nat.le_induction with
  | base =>
      have stepped : attachment.start.after inputs (started + 1) =
          (attachment.start.after inputs started).spawn (.flush 0 force) := by
        rw [System.after, calls]
        rfl
      rw [stepped]
      exact ⟨_, spawn_task _ _, Or.inl rfl⟩
  | succ count since inductionHypothesis =>
      obtain ⟨_, _, world⟩ := sync_world_of_run attachment allowed count
      have earlier : (attachment.start.after inputs count).ending?
          (attachment.start.after inputs started).nextTask = none := by
        cases ended : (attachment.start.after inputs count).ending?
            (attachment.start.after inputs started).nextTask with
        | none => rfl
        | some outcome =>
            have keeps := world.keepsTask_step (allowed count) (known_of_ending ended)
              fun rest found _ resumes => by
                rw [ending?_of_unended resumes.unended] at ended
                cases ended
            exact (ended.symm.trans (keeps.ending.symm.trans unended)).symm ▸ rfl
      obtain ⟨found, entry, course⟩ := inductionHypothesis earlier
      by_cases own : ∃ rest found, inputs count = .turn ∧
          Resumes (attachment.start.after inputs count)
            (attachment.start.after inputs started).nextTask rest found
      · obtain ⟨rest, same, isTurn, resumes⟩ := own
        obtain rfl := Option.some.inj (resumes.entry.symm.trans entry)
        obtain ⟨begun, after, before, begins, flushes⟩ :=
          flushesTo_of_course attachment allowed isTurn since resumes course
        obtain ⟨_, passage⟩ := world.resumption_passage resumes
        obtain ⟨⟨_, left⟩, ending⟩ := resumes.leaves_turn passage.loop
        rw [System.after, isTurn] at unended ⊢
        refine ⟨_, left, Or.inr ⟨begun, after, before, begins, ?_⟩⟩
        rw [ending] at unended
        generalize (attachment.start.after inputs count).resumption rest _ same = result
          at flushes unended ⊢
        obtain ⟨later, outcome | ⟨frames, promise⟩⟩ := result
        · cases unended
        · exact flushes.suspended frames promise rfl
      · have keeps := world.keepsTask_step (allowed count) (List.getElem?_eq_some_iff.mp entry).1
          fun rest found isTurn resumes => own ⟨rest, found, isTurn, resumes⟩
        obtain ⟨_, later⟩ := keeps.entry found entry
        refine ⟨_, later, course.imp_right ?_⟩
        rintro ⟨begun, after, before, begins, shape⟩
        exact ⟨begun, after, Nat.lt_succ_of_lt before, begins,
          shape.mono fun _ had => had.mono (Nat.le_succ count)⟩

omit allowed in
/-- A flush that returns while the document is open has delivered a text that the synchronizer has had
since the flush began, whatever the host, the peer and the clock did meanwhile. -/
theorem flush_delivers
    (attachment : Attachment) (inputs : Nat → Input)
    (allowed : ∀ place, (inputs place).OnSynchronizer) (started place : Nat) (force : Bool)
    (reply : Reply) (calls : inputs started = .call (.flush 0 force)) (since : started < place)
    (unended : (attachment.start.after inputs place).ending?
      (attachment.start.after inputs started).nextTask = none)
    (returns : (attachment.start.after inputs (place + 1)).ending?
      (attachment.start.after inputs started).nextTask = some (.returned reply))
    (ready : (attachment.start.after inputs (place + 1)).isReady 0 = true) :
    let run := attachment.start.after inputs
    ∃ begun moment synchronizer, started < begun ∧ begun ≤ moment ∧ moment ≤ place ∧
      inputs begun = .turn ∧
      (run begun).comingTask? = some ((run started).nextTask, [.begin (.flush 0 force)]) ∧
      (run moment).synchronizers = [synchronizer] ∧
      (run (place + 1)).deliveredText? attachment.uri = some synchronizer.text := by
  intro run
  obtain ⟨_, _, world⟩ := sync_world_of_run attachment allowed place
  obtain ⟨found, entry, course⟩ := flushCourse_of_run attachment allowed calls since unended
  have own : ∃ rest found, inputs place = .turn ∧ Resumes (run place)
      (run started).nextTask rest found := by
    refine Classical.byContradiction fun other => ?_
    have keeps := world.keepsTask_step (allowed place) (List.getElem?_eq_some_iff.mp entry).1
      fun rest found isTurn resumes => other ⟨rest, found, isTurn, resumes⟩
    rw [← keeps.ending] at unended
    exact Option.some_ne_none _ (returns.symm.trans unended)
  obtain ⟨rest, same, isTurn, resumes⟩ := own
  obtain rfl := Option.some.inj (resumes.entry.symm.trans entry)
  obtain ⟨begun, after, before, ⟨beginsAt, begins⟩, flushes⟩ :=
    flushesTo_of_course attachment allowed isTurn since resumes course
  obtain ⟨_, passage⟩ := world.resumption_passage resumes
  have stepped : attachment.start.after inputs (place + 1) = (run place).step .turn := by
    simp only [run, System.after, isTurn]
  rw [stepped, resumes.ending?_turn passage.loop] at returns
  rw [stepped, resumes.step_turn, settleTask_isReady] at ready
  obtain ⟨_, ⟨moment, synchronizer, since, inside, has, rfl⟩, delivered⟩ :=
    flushes.returned reply (Progress.ending?_eq_some.mp returns) ready
  refine ⟨begun, moment, synchronizer, after, since, Nat.le_of_lt_succ inside, beginsAt, begins, has,
    ?_⟩
  have sameText : (run (place + 1)).deliveredText? attachment.uri =
      ((run place).resumption rest (run started).nextTask same).1.deliveredText? attachment.uri := by
    rw [← settleTask_deliveredText? attachment.uri, ← resumes.step_turn, ← stepped]
  exact sameText.trans delivered

end Runs

/-! ## A run -/

/-- A flush that waits for the lock until the frame of another one is accepted, while the host makes
one more edit. -/
def contendedDocument : Nat → Input
  | 0 => .edit 0 "second"
  | 1 => .behave { holding := true }
  | 2 => .call (.flush 0 false)
  | 4 => .call (.flush 0 false)
  | 6 => .edit 0 "third"
  | 7 => .behave {}
  | 8 => .release 0
  | _ => .turn

theorem contendedDocument_onSynchronizer (place : Nat) :
    (contendedDocument place).OnSynchronizer := by
  unfold contendedDocument
  split <;> first | rfl | trivial

theorem flush_delivers_contendedDocument :
    let run := openedDocument.start.after contendedDocument
    (∀ place, (contendedDocument place).OnSynchronizer) ∧
      contendedDocument 4 = .call (.flush 0 false) ∧ 4 < 10 ∧
      (run 10).ending? (run 4).nextTask = none ∧
      (run 11).ending? (run 4).nextTask = some (.returned .nothing) ∧
      (run 11).isReady 0 = true ∧
      ∃ begun moment synchronizer, 4 < begun ∧ begun ≤ moment ∧ moment ≤ 10 ∧
        contendedDocument begun = .turn ∧
        (run begun).comingTask? = some ((run 4).nextTask, [.begin (.flush 0 false)]) ∧
        (run moment).synchronizers = [synchronizer] ∧
        (run 11).deliveredText? openedDocument.uri = some synchronizer.text := by
  intro run
  have unended : (run 10).ending? (run 4).nextTask = none := by decide +kernel
  have returns : (run 11).ending? (run 4).nextTask = some (.returned .nothing) := by decide +kernel
  have ready : (run 11).isReady 0 = true := by decide +kernel
  exact ⟨contendedDocument_onSynchronizer, rfl, by decide, unended, returns, ready,
    flush_delivers openedDocument contendedDocument contendedDocument_onSynchronizer 4 10 false
      .nothing rfl (by decide) unended returns ready⟩

end LanguageClient.Client
