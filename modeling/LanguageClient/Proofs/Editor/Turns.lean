import LanguageClient.Proofs.Editor.Tasks

/-!
# The turns of an editor's tasks

The invariant holds again when a task that went on waits or has ended. All other tasks stand where
they stood, except for those that the client has started meanwhile.
-/

namespace LanguageClient.Client

open LanguageClient.Json LanguageClient.Loop LanguageClient.Number LanguageClient.Protocol

/-- A task stands where it stood before, or the client has started it by itself. -/
def StandsStill (before : ClientLoop) (task : Nat) (found : TaskState Frame) : Prop :=
  (∃ earlier, before.tasks[task]? = some earlier ∧ found.stack = earlier.stack) ∨
    ∃ call, found.stack = [.begin call] ∧ call.IsOwn

/-- A task stands where it stood before, or it has been started with a call that starts no
editor. -/
def StandsOrBegins (before : ClientLoop) (task : Nat) (found : TaskState Frame) : Prop :=
  (∃ earlier, before.tasks[task]? = some earlier ∧ found.stack = earlier.stack) ∨
    ∃ call, found.stack = [.begin call] ∧ ∀ editor, call ≠ .start editor

theorem StandsStill.orBegins
    {loop : ClientLoop} {task : Nat} {found : TaskState Frame}
    (still : StandsStill loop task found) :
    StandsOrBegins loop task found := by
  rcases still with stood | ⟨call, stack, own⟩
  · exact Or.inl stood
  · refine Or.inr ⟨call, stack, ?_⟩
    rintro editor rfl
    exact own

/-! ## The places of tasks that stand still -/

section Still

variable {uri : String} {opened : Bool} {holder : Option (Nat × Change)} {waiters : List Nat}
  {loop : ClientLoop} {task : Nat} {found : TaskState Frame}

/-- Frames that hold more than the beginning of a call were there before. -/
theorem StandsOrBegins.earlier
    {frame : Frame} (still : StandsOrBegins loop task found) (member : frame ∈ found.stack)
    (notBegin : ∀ call : Call, frame = .begin call → ∃ editor, call = .start editor) :
    ∃ earlier, loop.tasks[task]? = some earlier ∧ found.stack = earlier.stack := by
  rcases still with stood | ⟨call, stack, noStart⟩
  · exact stood
  · rw [stack] at member
    obtain ⟨editor, isStart⟩ := notBegin call (List.mem_singleton.mp member)
    exact (noStart editor isStart).elim

theorem StandsOrBegins.earlier_cons
    {frame : Frame} {outer : List Frame} (still : StandsOrBegins loop task found)
    (stack : found.stack = frame :: outer) (notBegin : ∀ call, frame ≠ .begin call) :
    ∃ earlier, loop.tasks[task]? = some earlier ∧ earlier.stack = frame :: outer := by
  have member : frame ∈ found.stack := by
    rw [stack]
    exact List.mem_cons_self
  obtain ⟨earlier, entry, same⟩ :=
    still.earlier member fun call isBegin => (notBegin call isBegin).elim
  exact ⟨earlier, entry, same.symm.trans stack⟩

theorem StandsOrBegins.earlier_start
    (still : StandsOrBegins loop task found) (starting : IsStarting found.stack) :
    ∃ earlier, loop.tasks[task]? = some earlier ∧ IsStarting earlier.stack := by
  obtain ⟨frame, member, starts⟩ := starting
  have notBegin : ∀ call : Call, frame = .begin call → ∃ editor, call = .start editor := by
    rintro call rfl
    cases call with
    | start editor => exact ⟨editor, rfl⟩
    | _ => exact starts.elim
  obtain ⟨earlier, entry, same⟩ := still.earlier member notBegin
  rw [same] at member
  exact ⟨earlier, entry, frame, member, starts⟩

theorem EditorPlaces.requests_of_still
    {promise : Nat} (places : EditorPlaces uri opened holder waiters loop)
    (still : StandsOrBegins loop task found) (member : .requesting promise ∈ found.stack) :
    loop.IsPlain promise := by
  obtain ⟨earlier, entry, same⟩ := still.earlier member fun _ => nofun
  rw [same] at member
  exact places.requests task earlier promise entry member

theorem EditorPlaces.of_still
    {laterLoop : ClientLoop} (places : EditorPlaces uri opened holder waiters loop)
    (still : ∀ task found, laterLoop.tasks[task]? = some found → StandsOrBegins loop task found)
    (plain : ∀ promise, loop.IsPlain promise → laterLoop.IsPlain promise) :
    EditorPlaces uri opened holder waiters laterLoop where
  locks := fun task found promise force outer entry stack => by
    obtain ⟨earlier, earlierEntry, earlierStack⟩ :=
      (still task found entry).earlier_cons stack fun _ => nofun
    exact places.locks task earlier promise force outer earlierEntry earlierStack
  locksOnce := fun first second firstFound secondFound promise force otherForce outer otherOuter
      firstEntry secondEntry firstStack secondStack => by
    obtain ⟨firstEarlier, firstEarlierEntry, firstEarlierStack⟩ :=
      (still first firstFound firstEntry).earlier_cons firstStack fun _ => nofun
    obtain ⟨secondEarlier, secondEarlierEntry, secondEarlierStack⟩ :=
      (still second secondFound secondEntry).earlier_cons secondStack fun _ => nofun
    exact places.locksOnce first second firstEarlier secondEarlier promise force otherForce outer
      otherOuter firstEarlierEntry secondEarlierEntry firstEarlierStack secondEarlierStack
  changes := fun task found link change outer entry stack => by
    obtain ⟨earlier, earlierEntry, earlierStack⟩ :=
      (still task found entry).earlier_cons stack fun _ => nofun
    exact places.changes task earlier link change outer earlierEntry earlierStack
  starts := fun task found entry starting => by
    obtain ⟨earlier, earlierEntry, earlierStarting⟩ := (still task found entry).earlier_start starting
    exact places.starts task earlier earlierEntry earlierStarting
  startsOnce := fun first second firstFound secondFound firstEntry secondEntry firstStarting
      secondStarting => by
    obtain ⟨firstEarlier, firstEarlierEntry, firstEarlierStarting⟩ :=
      (still first firstFound firstEntry).earlier_start firstStarting
    obtain ⟨secondEarlier, secondEarlierEntry, secondEarlierStarting⟩ :=
      (still second secondFound secondEntry).earlier_start secondStarting
    exact places.startsOnce first second firstEarlier secondEarlier firstEarlierEntry
      secondEarlierEntry firstEarlierStarting secondEarlierStarting
  requests := fun task found promise entry member =>
    plain promise (places.requests_of_still (still task found entry) member)

end Still

/-! ## Going on -/

section Start

variable {uri : String} {opened : Bool} {holder : Option (Nat × Change)} {view : View}
  {system : System} {task : Nat} {found : TaskState Frame}

theorem cleared_editorParts (parts : EditorParts uri view system) (task : Nat) :
    EditorParts uri view (system.cleared task) :=
  { parts with
    lock := parts.lock.of_plain
      (fun _ plain =>
        plain.of_le (Scheduler.clearTask_completions task system.loop) (Nat.le_refl _))
      (fun _ => id) fun _ _ => rfl }

theorem EditorWorld.start_task
    (world : EditorWorld uri opened holder view system)
    (entry : system.loop.tasks[task]? = some found) (notReady : task ∉ resumed system.loop.ready)
    (settled : ∀ promise, found.awaiting = some promise → system.loop.outcome? promise ≠ none) :
    EditorPassage uri (some task) (system.cleared task) view (system.cleared task) where
  parts := cleared_editorParts world.parts task
  loop := Scheduler.Passage.start world.orderly world.punctual entry notReady settled .idle
  spawned := fun other otherFound isNew otherEntry => by
    rw [List.getElem?_eq_none isNew] at otherEntry
    cases otherEntry

theorem EditorWorld.runTask
    (world : EditorWorld uri opened holder view system)
    (entry : system.loop.tasks[task]? = some found) (notReady : task ∉ resumed system.loop.ready)
    (settled : ∀ promise, found.awaiting = some promise → system.loop.outcome? promise ≠ none) :
    ∃ later laterOpened laterHolder,
      EditorRun uri task (system.cleared task) opened holder view found.stack
        ((system.cleared task).resumeStack (system.signalOf found) found.stack) later laterOpened
        laterHolder := by
  have start := world.start_task entry notReady settled
  have account := world.account
  have shape := world.orderly.tasks found (List.mem_of_getElem? entry)
  have requests : ∀ promise, .requesting promise ∈ found.stack →
      (system.cleared task).loop.IsPlain promise := fun promise member =>
    (world.places.requests task found promise entry member).of_le
      (Scheduler.clearTask_completions task system.loop) (Nat.le_refl _)
  generalize stackEq : found.stack = stack, awaitsEq : found.awaiting = awaited at shape requests ⊢
  cases shape with
  | idle => exact (QuietRun.ended start (system.signalOf found)).run account
  | begins call allowed =>
      refine begin_editorRun allowed _ ?_ start account
      rintro editor rfl
      exact world.places.starts task found entry
        ⟨.begin (.start editor), by rw [stackEq]; exact List.mem_cons_self, trivial⟩
  | quiet frames promise quiet => exact quiet_editorRun quiet requests _ start account
  | locks promise force caller sends =>
      exact locks_editorRun sends
        (world.places.locks task found promise force [caller] entry stackEq)
        (fun reply returned => outcome?_of_signalOf awaitsEq (settled promise awaitsEq) returned)
        start account
  | changes link change promise caller sends =>
      exact changes_editorRun sends _
        (world.places.changes task found link change [caller] entry stackEq) start account
  | creates frames promise quiet =>
      have starting : IsStarting (frames ++ [.creatingWorkspace 0]) :=
        ⟨.creatingWorkspace 0, by simp, trivial⟩
      have unopened := world.places.starts task found entry (stackEq ▸ starting)
      refine starts_editorRun (fun unopenedAccount => ?_) unopened starting account
      exact resumeCreatingFrames_run start unopenedAccount quiet
        (fun other member => requests other (List.mem_append_left _ member)) _
  | opens link languageId text workspace file promise =>
      have starting : IsStarting (openingFrames uri link languageId text workspace file) :=
        ⟨.openingDocument 0 text, by simp [openingFrames], trivial⟩
      have unopened := world.places.starts task found entry (stackEq ▸ starting)
      refine starts_editorRun (fun unopenedAccount => ?_) unopened starting account
      exact resumeOpeningFrames_run link languageId text workspace file start unopenedAccount _

end Start

/-! ## Where a task is left -/

/-- The frames of a task come from those that it went on from while the editor had some text. -/
structure Moves (uri text : String) (stack frames : List Frame) : Prop where
  begins : ∀ call, frames ≠ [.begin call]
  locks : ∀ promise force caller, frames = [.locking 0 promise force, caller] →
    Sends uri text stack caller text
  changes : ∀ link change caller, frames = changeFrames uri link change ++ [caller] →
    Sends uri text stack caller text ∧ change.text = text

theorem Moves.nil (uri text : String) (stack : List Frame) : Moves uri text stack [] where
  begins := by simp
  locks := by simp
  changes := by simp [changeFrames]

theorem changeFrame_not_quiet (uri : String) (link : Nat) (change : Change) :
    ¬ (Frame.sending link (changeFrame uri change.version change.text)).IsQuiet uri := by
  intro quiet
  have nothing : delivery? uri (changeFrame uri change.version change.text) = none := quiet
  rw [delivery?_changeFrame] at nothing
  cases nothing

/-- Frames of a handshake or of its end send nothing of the document. -/
theorem not_changeFrames_of_quiet
    {uri : String} {link : Nat} {change : Change} {frames caller last : List Frame}
    (quiet : ∀ frame ∈ frames, frame.IsQuiet uri)
    (lastOther : ∀ frame ∈ last.head?, ∀ place value, frame ≠ .sending place value) :
    frames ++ last ≠ changeFrames uri link change ++ caller := by
  intro same
  cases frames with
  | nil =>
      cases last with
      | nil => cases same
      | cons frame others => exact lastOther frame rfl _ _ (List.cons.inj same).1
  | cons frame others =>
      have isHead := (List.cons.inj same).1
      have headQuiet := quiet frame List.mem_cons_self
      rw [isHead] at headQuiet
      exact changeFrame_not_quiet uri link change headQuiet

theorem not_locking_of_quiet
    {uri : String} {promise : Nat} {force : Bool} {frames outer last : List Frame}
    (quiet : ∀ frame ∈ frames, frame.IsQuiet uri)
    (lastOther : ∀ frame ∈ last.head?, frame ≠ .locking 0 promise force) :
    frames ++ last ≠ .locking 0 promise force :: outer := by
  intro same
  cases frames with
  | nil =>
      cases last with
      | nil => cases same
      | cons frame others => exact lastOther frame rfl (List.cons.inj same).1
  | cons frame others =>
      have isHead := (List.cons.inj same).1
      have headQuiet := quiet frame List.mem_cons_self
      rw [isHead] at headQuiet
      exact headQuiet

namespace LeftWaiting

variable {uri : String} {task : Nat} {view later : View} {opened : Bool}
  {holder : Option (Nat × Change)} {stack frames : List Frame} {after : System} {promise : Nat}

theorem shape (left : LeftWaiting uri task view later opened holder stack after promise frames) :
    EditorShape uri frames (some promise) := by
  cases left with
  | quiet frames place => exact .quiet frames promise place.quiet
  | starts frames unopened starting place =>
      cases place with
      | creates frames place => exact .creates frames promise place.quiet
      | opens link languageId text workspace file plain =>
          exact .opens link languageId text workspace file promise
  | locks force caller plain source waits own =>
      exact .locks promise force caller source.awaitsSend
  | changes link change caller plain source same isHolder =>
      exact .changes link change promise caller source.awaitsSend

theorem plain (left : LeftWaiting uri task view later opened holder stack after promise frames) :
    after.loop.IsPlain promise := by
  cases left with
  | quiet frames place => exact place.plain
  | starts frames unopened starting place =>
      cases place with
      | creates frames place => exact place.plain
      | opens link languageId text workspace file plain => exact plain
  | locks force caller plain source waits own => exact plain
  | changes link change caller plain source same isHolder => exact plain

theorem locks_of
    {other : Nat} {force : Bool} {outer : List Frame}
    (left : LeftWaiting uri task view later opened holder stack after promise frames)
    (isLocking : frames = .locking 0 other force :: outer) :
    (∃ caller, outer = [caller] ∧
        Sends uri view.synchronizer.text stack caller view.synchronizer.text) ∧
      other ∈ later.synchronizer.lock.waiters ∧
      (other ∈ view.synchronizer.lock.waiters →
        ∃ earlier others, stack = .locking 0 other earlier :: others) := by
  cases left with
  | quiet frames place =>
      have same : frames ++ [] = .locking 0 other force :: outer := by
        rw [List.append_nil]
        exact isLocking
      exact (not_locking_of_quiet place.quiet (by simp) same).elim
  | starts frames unopened starting place =>
      cases place with
      | creates frames place =>
          exact (not_locking_of_quiet place.quiet (by simp) isLocking).elim
      | opens link languageId text workspace file plain => cases isLocking
  | locks force caller plain source waits own =>
      cases isLocking
      exact ⟨⟨caller, rfl, source⟩, waits, own⟩
  | changes link change caller plain source same isHolder => cases isLocking

theorem changes_of
    {link : Nat} {change : Change} {outer : List Frame}
    (left : LeftWaiting uri task view later opened holder stack after promise frames)
    (isChange : frames = changeFrames uri link change ++ outer) :
    (∃ caller, outer = [caller] ∧
        Sends uri view.synchronizer.text stack caller view.synchronizer.text) ∧
      change.text = view.synchronizer.text ∧ holder = some (task, change) := by
  cases left with
  | quiet frames place =>
      have same : frames ++ [] = changeFrames uri link change ++ outer := by
        rw [List.append_nil]
        exact isChange
      exact (not_changeFrames_of_quiet place.quiet (by simp) same).elim
  | starts frames unopened starting place =>
      cases place with
      | creates frames place =>
          exact (not_changeFrames_of_quiet place.quiet (by simp) isChange).elim
      | opens other languageId text workspace file plain =>
          have sameFrame := (Frame.sending.inj (List.cons.inj isChange).1).2
          have sameDelivery := congrArg (delivery? uri) sameFrame
          rw [delivery?_didOpenFrame, delivery?_changeFrame] at sameDelivery
          cases sameDelivery
  | locks force caller plain source waits own => cases isChange
  | changes other otherChange caller plain source same isHolder =>
      obtain rfl := changeFrames_inj isChange
      have sameOuter : [caller] = outer := (List.append_inj isChange rfl).2
      exact ⟨⟨caller, sameOuter.symm, source⟩, same, isHolder⟩

theorem starts_of
    (left : LeftWaiting uri task view later opened holder stack after promise frames)
    (starts : IsStarting frames) :
    opened = false ∧ IsStarting stack := by
  have notQuiet : ∀ frame : Frame, frame.Starts → ¬ frame.IsQuiet uri := by
    intro frame
    cases frame <;> simp [Frame.Starts, Frame.IsQuiet]
  have notSending : ∀ frame : Frame, frame.AwaitsSend → ¬ frame.Starts := by
    intro frame
    cases frame <;> simp [Frame.Starts, Frame.AwaitsSend]
  obtain ⟨frame, member, isStart⟩ := starts
  cases left with
  | quiet frames place => exact (notQuiet frame isStart (place.quiet frame member)).elim
  | starts frames unopened starting place => exact ⟨unopened, starting⟩
  | locks force caller plain source waits own =>
      simp only [List.mem_cons, List.not_mem_nil, or_false] at member
      rcases member with rfl | rfl
      · exact isStart.elim
      · exact (notSending frame source.awaitsSend isStart).elim
  | changes link change caller plain source same isHolder =>
      simp only [changeFrames, List.cons_append, List.nil_append, List.mem_cons, List.not_mem_nil,
        or_false] at member
      rcases member with rfl | rfl | rfl | rfl
      · exact isStart.elim
      · exact isStart.elim
      · exact isStart.elim
      · exact (notSending frame source.awaitsSend isStart).elim

theorem requests_of
    {other : Nat} (left : LeftWaiting uri task view later opened holder stack after promise frames)
    (member : .requesting other ∈ frames) :
    after.loop.IsPlain other := by
  cases left with
  | quiet frames place => exact place.requests other member
  | starts frames unopened starting place =>
      cases place with
      | creates frames place =>
          rcases List.mem_append.mp member with inner | last
          · exact place.requests other inner
          · simp at last
      | opens link languageId text workspace file plain => simp [openingFrames] at member
  | locks force caller plain source waits own =>
      simp only [List.mem_cons, reduceCtorEq, List.not_mem_nil, or_false, false_or] at member
      have sends := source.awaitsSend
      rw [← member] at sends
      exact sends.elim
  | changes link change caller plain source same isHolder =>
      simp only [changeFrames, List.cons_append, List.nil_append, List.mem_cons, reduceCtorEq,
        List.not_mem_nil, or_false, false_or] at member
      have sends := source.awaitsSend
      rw [← member] at sends
      exact sends.elim

theorem moves (left : LeftWaiting uri task view later opened holder stack after promise frames) :
    Moves uri view.synchronizer.text stack frames where
  begins := fun call isBegin => by
    have shape := left.shape
    rw [isBegin] at shape
    generalize stackEq : [Frame.begin call] = others at shape
    cases shape with
    | quiet others promise quiet =>
        have impossible := quiet (.begin call) (by rw [← stackEq]; exact List.mem_cons_self)
        exact impossible
    | locks promise force caller sends => cases stackEq
    | changes link change promise caller sends => cases stackEq
    | creates frames promise quiet =>
        have member : Frame.creatingWorkspace 0 ∈ [Frame.begin call] := by
          rw [stackEq]
          simp
        simp at member
    | opens link languageId text workspace file promise => cases stackEq
  locks := fun other force caller isLocking => by
    obtain ⟨⟨_, same, source⟩, _⟩ := left.locks_of isLocking
    rw [← List.singleton_inj.mp same] at source
    exact source
  changes := fun link change caller isChange => by
    obtain ⟨⟨_, same, source⟩, sameText, _⟩ := left.changes_of isChange
    rw [← List.singleton_inj.mp same] at source
    exact ⟨source, sameText⟩

end LeftWaiting

/-! ## The invariant after the turn of a task -/

section Ends

variable {uri : String} {opened laterOpened : Bool} {holder laterHolder : Option (Nat × Change)}
  {view later : View} {system : System} {task : Nat} {found : TaskState Frame}

/-- After a turn the task has the frames that it is left with, and all others stand still. -/
theorem settleTask_stands
    {scope : Scope Frame Action} {cancels : Prop} {settles : Nat → Outcome Reply → Prop}
    {result : Step} {other : Nat} {otherFound : TaskState Frame}
    (entry : system.loop.tasks[task]? = some found)
    (passage : Scheduler.Passage scope (some task) cancels settles (system.loop.clearTask task)
      result.1.loop)
    (spawned : ∀ (other : Nat) (state : TaskState Frame),
      (system.loop.clearTask task).nextTask ≤ other → result.1.loop.tasks[other]? = some state →
        ∃ call, state.stack = [.begin call] ∧ call.IsOwn)
    (otherEntry :
      (System.settleTask task found.completion result).loop.tasks[other]? = some otherFound) :
    other = task ∧ otherFound.stack = result.2.frames ∨
      other ≠ task ∧ StandsStill system.loop other otherFound := by
  obtain ⟨current, progress⟩ := result
  obtain ⟨cancelRequested, running⟩ := passage.running_task entry
  have still (different : other ≠ task)
      (currentEntry : current.loop.tasks[other]? = some otherFound) :
      StandsStill system.loop other otherFound := by
    rcases passage.advances.task_cases currentEntry with
      ⟨earlier, earlierEntry, sameStack, _⟩ | ⟨isNew, _⟩
    · exact Or.inl ⟨earlier,
        (Scheduler.clearTask_other system.loop different).symm.trans earlierEntry, sameStack⟩
    · exact Or.inr (spawned other otherFound isNew currentEntry)
  cases progress with
  | ended outcome =>
      have sameTasks : (System.settleTask task found.completion
          (current, .ended outcome)).loop.tasks = current.loop.tasks :=
        Scheduler.settle_tasks _ _ _
      rw [sameTasks] at otherEntry
      by_cases same : other = task
      · rw [same, running] at otherEntry
        exact Or.inl ⟨same, by rw [← Option.some.inj otherEntry]; rfl⟩
      · exact Or.inr ⟨same, still same otherEntry⟩
  | suspended frames promise =>
      have sameTasks : (System.settleTask task found.completion
          (current, .suspended frames promise)).loop.tasks =
            (current.loop.modifyTask task fun found =>
              { found with stack := frames, awaiting := some promise }).tasks :=
        Scheduler.whenSettled_tasks _ _ _
      rw [sameTasks] at otherEntry
      by_cases same : other = task
      · simp only [Scheduler.modifyTask, same, List.getElem?_modify_eq, running] at otherEntry
        exact Or.inl ⟨same, by rw [← Option.some.inj otherEntry]; rfl⟩
      · simp only [Scheduler.modifyTask, List.getElem?_modify, if_neg (Ne.symm same)] at otherEntry
        refine Or.inr ⟨same, still same ?_⟩
        simpa using otherEntry

theorem settleTask_cases
    {result : Step} {other : Nat} {otherFound : TaskState Frame}
    (entry : system.loop.tasks[task]? = some found)
    (passage : EditorPassage uri (some task) (system.cleared task) later result.1)
    (otherEntry :
      (System.settleTask task found.completion result).loop.tasks[other]? = some otherFound) :
    other = task ∧ otherFound.stack = result.2.frames ∨
      other ≠ task ∧ StandsStill system.loop other otherFound :=
  settleTask_stands entry passage.loop passage.spawned otherEntry

/-- A task that is left with frames is left waiting. -/
theorem EditorRun.left
    {result : Step}
    (run : EditorRun uri task (system.cleared task) opened holder view found.stack result later
      laterOpened laterHolder)
    (isLeft : result.2.frames ≠ []) :
    ∃ promise, LeftWaiting uri task view later laterOpened laterHolder found.stack result.1 promise
      result.2.frames := by
  obtain ⟨current, outcome | ⟨frames, promise⟩⟩ := result
  · exact (isLeft rfl).elim
  · exact ⟨promise, run.suspended frames promise rfl⟩

/-- A task that is starting after the turn was starting before. -/
theorem EditorRun.starting_cases
    {result : Step} {other : Nat} {otherFound : TaskState Frame}
    (run : EditorRun uri task (system.cleared task) opened holder view found.stack result later
      laterOpened laterHolder)
    (entry : system.loop.tasks[task]? = some found)
    (otherEntry :
      (System.settleTask task found.completion result).loop.tasks[other]? = some otherFound)
    (starting : IsStarting otherFound.stack) :
    (other = task ∧ laterOpened = false ∧ IsStarting found.stack) ∨
      (other ≠ task ∧ ∃ earlier : TaskState Frame, system.loop.tasks[other]? = some earlier ∧
        IsStarting earlier.stack) := by
  rcases settleTask_cases entry run.passage otherEntry with ⟨same, isLeft⟩ | ⟨different, still⟩
  · rw [isLeft] at starting
    have isSome : result.2.frames ≠ [] := by
      obtain ⟨_, member, _⟩ := starting
      exact List.ne_nil_of_mem member
    obtain ⟨_, left⟩ := run.left isSome
    exact Or.inl ⟨same, left.starts_of starting⟩
  · exact Or.inr ⟨different, still.orBegins.earlier_start starting⟩

/-- Another task does not wait for the lock with a promise of this task. -/
theorem EditorWorld.other_lock
    {other promise : Nat} {otherFound : TaskState Frame} {force : Bool} {outer : List Frame}
    (world : EditorWorld uri opened holder view system)
    (entry : system.loop.tasks[task]? = some found) (different : other ≠ task)
    (still : StandsStill system.loop other otherFound)
    (stack : otherFound.stack = .locking 0 promise force :: outer) :
    promise ∈ view.synchronizer.lock.waiters ∧
      ∀ earlier others, found.stack ≠ .locking 0 promise earlier :: others := by
  obtain ⟨earlier, earlierEntry, earlierStack⟩ := still.orBegins.earlier_cons stack fun _ => nofun
  refine ⟨world.places.locks other earlier promise force outer earlierEntry earlierStack, ?_⟩
  intro ownForce others own
  exact different (world.places.locksOnce other task earlier found promise force ownForce outer
    others earlierEntry entry earlierStack own)

section Places

variable {result : Step} {other promise : Nat} {otherFound : TaskState Frame} {force : Bool}
  {outer : List Frame} (world : EditorWorld uri opened holder view system)
  (entry : system.loop.tasks[task]? = some found)
  (run : EditorRun uri task (system.cleared task) opened holder view found.stack result later
    laterOpened laterHolder)

include world entry run

/-- The promise with which a task is left to wait for the lock is not that of another task. -/
theorem EditorRun.own_lock
    {otherForce : Bool} {otherOuter : List Frame} (different : other ≠ task)
    (still : StandsStill system.loop other otherFound)
    (stack : otherFound.stack = .locking 0 promise otherForce :: otherOuter)
    (isLeft : result.2.frames = .locking 0 promise force :: outer) :
    False := by
  obtain ⟨waits, notOwn⟩ := world.other_lock entry different still stack
  obtain ⟨_, left⟩ := run.left (isLeft ▸ List.cons_ne_nil _ _)
  obtain ⟨earlier, others, own⟩ := (left.locks_of isLeft).2.2 waits
  exact notOwn earlier others own

theorem EditorRun.places_locks
    (otherEntry :
      (System.settleTask task found.completion result).loop.tasks[other]? = some otherFound)
    (stack : otherFound.stack = .locking 0 promise force :: outer) :
    promise ∈ later.synchronizer.lock.waiters := by
  rcases settleTask_cases entry run.passage otherEntry with ⟨_, isLeft⟩ | ⟨different, still⟩
  · rw [isLeft] at stack
    obtain ⟨_, left⟩ := run.left (stack ▸ List.cons_ne_nil _ _)
    exact (left.locks_of stack).2.1
  · obtain ⟨waits, notOwn⟩ := world.other_lock entry different still stack
    refine (run.waiters promise waits).resolve_right ?_
    rintro ⟨earlier, others, own⟩
    exact notOwn earlier others own

theorem EditorRun.places_locksOnce
    {second : Nat} {secondFound : TaskState Frame} {otherForce : Bool} {otherOuter : List Frame}
    (otherEntry :
      (System.settleTask task found.completion result).loop.tasks[other]? = some otherFound)
    (secondEntry :
      (System.settleTask task found.completion result).loop.tasks[second]? = some secondFound)
    (stack : otherFound.stack = .locking 0 promise force :: outer)
    (secondStack : secondFound.stack = .locking 0 promise otherForce :: otherOuter) :
    other = second := by
  rcases settleTask_cases entry run.passage otherEntry with ⟨same, isLeft⟩ | ⟨different, still⟩
  · rcases settleTask_cases entry run.passage secondEntry with
      ⟨secondSame, _⟩ | ⟨secondDifferent, secondStill⟩
    · exact same.trans secondSame.symm
    · rw [isLeft] at stack
      exact (run.own_lock world entry secondDifferent secondStill secondStack stack).elim
  · rcases settleTask_cases entry run.passage secondEntry with
      ⟨_, secondLeft⟩ | ⟨_, secondStill⟩
    · rw [secondLeft] at secondStack
      exact (run.own_lock world entry different still stack secondStack).elim
    · obtain ⟨earlier, earlierEntry, earlierStack⟩ :=
        still.orBegins.earlier_cons stack fun _ => nofun
      obtain ⟨secondEarlier, secondEarlierEntry, secondEarlierStack⟩ :=
        secondStill.orBegins.earlier_cons secondStack fun _ => nofun
      exact world.places.locksOnce other second earlier secondEarlier promise force otherForce
        outer otherOuter earlierEntry secondEarlierEntry earlierStack secondEarlierStack

theorem EditorRun.places_changes
    {link : Nat} {change : Change}
    (otherEntry :
      (System.settleTask task found.completion result).loop.tasks[other]? = some otherFound)
    (stack : otherFound.stack = changeFrames uri link change ++ outer) :
    laterHolder = some (other, change) := by
  rcases settleTask_cases entry run.passage otherEntry with ⟨rfl, isLeft⟩ | ⟨different, still⟩
  · rw [isLeft] at stack
    obtain ⟨_, left⟩ := run.left (stack ▸ List.cons_ne_nil _ _)
    exact (left.changes_of stack).2.2
  · obtain ⟨earlier, earlierEntry, earlierStack⟩ := still.orBegins.earlier_cons stack fun _ => nofun
    exact run.holder other change
      (world.places.changes other earlier link change outer earlierEntry earlierStack) different

theorem EditorRun.places_starts
    (otherEntry :
      (System.settleTask task found.completion result).loop.tasks[other]? = some otherFound)
    (starting : IsStarting otherFound.stack) :
    laterOpened = false := by
  rcases run.starting_cases entry otherEntry starting with
    ⟨_, unopened, _⟩ | ⟨different, earlier, earlierEntry, earlierStarting⟩
  · exact unopened
  · rcases run.opens with same | ⟨ownStarting, _⟩
    · exact same.trans (world.places.starts other earlier earlierEntry earlierStarting)
    · exact (different (world.places.startsOnce other task earlier found earlierEntry entry
        earlierStarting ownStarting)).elim

theorem EditorRun.places_startsOnce
    {second : Nat} {secondFound : TaskState Frame}
    (otherEntry :
      (System.settleTask task found.completion result).loop.tasks[other]? = some otherFound)
    (secondEntry :
      (System.settleTask task found.completion result).loop.tasks[second]? = some secondFound)
    (starting : IsStarting otherFound.stack) (secondStarting : IsStarting secondFound.stack) :
    other = second := by
  -- Each of the two was starting before, as the task itself or as another one.
  have before : ∀ {place : Nat} {state : TaskState Frame},
      (System.settleTask task found.completion result).loop.tasks[place]? = some state →
        IsStarting state.stack → ∃ earlier : TaskState Frame,
          system.loop.tasks[place]? = some earlier ∧ IsStarting earlier.stack := by
    intro place state placeEntry placeStarting
    rcases run.starting_cases entry placeEntry placeStarting with
      ⟨rfl, _, own⟩ | ⟨_, earlier, earlierEntry, earlierStarting⟩
    · exact ⟨found, entry, own⟩
    · exact ⟨earlier, earlierEntry, earlierStarting⟩
  obtain ⟨earlier, earlierEntry, earlierStarting⟩ := before otherEntry starting
  obtain ⟨secondEarlier, secondEarlierEntry, secondEarlierStarting⟩ :=
    before secondEntry secondStarting
  exact world.places.startsOnce other second earlier secondEarlier earlierEntry secondEarlierEntry
    earlierStarting secondEarlierStarting

theorem EditorRun.places_requests
    (otherEntry :
      (System.settleTask task found.completion result).loop.tasks[other]? = some otherFound)
    (member : .requesting promise ∈ otherFound.stack) :
    result.1.loop.IsPlain promise := by
  rcases settleTask_cases entry run.passage otherEntry with ⟨_, isLeft⟩ | ⟨_, still⟩
  · rw [isLeft] at member
    obtain ⟨_, left⟩ := run.left (List.ne_nil_of_mem member)
    exact left.requests_of member
  · have plain := world.places.requests_of_still still.orBegins member
    exact run.passage.loop.advances.plain promise
      (plain.of_le (Scheduler.clearTask_completions task system.loop) (Nat.le_refl _))

end Places

theorem EditorPlaces.of_turn
    {result : Step} (world : EditorWorld uri opened holder view system)
    (entry : system.loop.tasks[task]? = some found)
    (run : EditorRun uri task (system.cleared task) opened holder view found.stack result later
      laterOpened laterHolder) :
    EditorPlaces uri laterOpened laterHolder later.synchronizer.lock.waiters
      (System.settleTask task found.completion result).loop where
  locks := fun _ _ _ _ _ otherEntry stack => run.places_locks world entry otherEntry stack
  locksOnce := fun _ _ _ _ _ _ _ _ _ firstEntry secondEntry firstStack secondStack =>
    run.places_locksOnce world entry firstEntry secondEntry firstStack secondStack
  changes := fun _ _ _ _ _ otherEntry stack => run.places_changes world entry otherEntry stack
  starts := fun _ _ otherEntry starting => run.places_starts world entry otherEntry starting
  startsOnce := fun _ _ _ _ firstEntry secondEntry firstStarting secondStarting =>
    run.places_startsOnce world entry firstEntry secondEntry firstStarting secondStarting
  requests := fun _ _ _ otherEntry member =>
    settleTask_plain (run.places_requests world entry otherEntry member)

theorem EditorWorld.settleTask
    {result : Step} (world : EditorWorld uri opened holder view system)
    (entry : system.loop.tasks[task]? = some found)
    (run : EditorRun uri task (system.cleared task) opened holder view found.stack result later
      laterOpened laterHolder) :
    EditorWorld uri laterOpened laterHolder later
      (System.settleTask task found.completion result) := by
  have places := EditorPlaces.of_turn world entry run
  have isCompletion : found.completion ∈ result.1.loop.completions :=
    run.passage.loop.advances.completion_mem (List.mem_map.mpr
      ⟨_, List.mem_of_getElem? (Scheduler.clearTask_self entry), rfl⟩)
  have parts := run.passage.parts
  have lock := @LockParts.settleTask _ _ result task found.completion parts.lock isCompletion
  obtain ⟨current, progress⟩ := result
  cases progress with
  | ended outcome =>
      obtain ⟨orderly, punctual, _, _⟩ := run.passage.loop.finish outcome entry
      have noted : EditorPassage uri (some task) (system.cleared task) later
          (current.note (.ended task outcome)) :=
        run.passage.note trivial
      exact {
        parts := { noted.parts with lock }
        account := run.account
        places
        orderly
        punctual }
  | suspended frames promise =>
      have left := run.suspended frames promise rfl
      obtain ⟨orderly, punctual, _, _⟩ :=
        run.passage.loop.suspend entry left.shape left.plain trivial
      exact {
        parts := { parts with lock }
        account := run.account
        places
        orderly
        punctual }

/-- What a turn of a task shows of the document: which query was handed on, and where all tasks are
afterwards. -/
structure EditorTurn
    (uri : String) (task : Nat) (stack : List Frame) (before : System) (view : View)
    (after : System) (later : View) :
    Prop where
  text : later.synchronizer.text = view.synchronizer.text
  asked : later.asked = view.asked ∨
    ∃ query caller sent, Sends uri view.synchronizer.text stack caller sent ∧
      Asks uri view.synchronizer.text caller query ∧ later.asked = view.asked ++ [query] ∧
      (after.isReady 0 = true → after.deliveredText? uri = some sent)
  tasks : ∀ other found, after.loop.tasks[other]? = some found →
    StandsStill before.loop other found ∨
      other = task ∧ Moves uri view.synchronizer.text stack found.stack

theorem EditorRun.turn
    {result : Step} (entry : system.loop.tasks[task]? = some found)
    (run : EditorRun uri task (system.cleared task) opened holder view found.stack result later
      laterOpened laterHolder) :
    EditorTurn uri task found.stack system view (System.settleTask task found.completion result)
      later where
  text := run.text
  asked := by
    rw [settleTask_isReady, settleTask_deliveredText?]
    exact run.asked
  tasks := fun other otherFound otherEntry => by
    rcases settleTask_cases entry run.passage otherEntry with ⟨same, isLeft⟩ | ⟨_, still⟩
    · refine Or.inr ⟨same, ?_⟩
      rw [isLeft]
      obtain ⟨current, outcome | ⟨frames, promise⟩⟩ := result
      · exact .nil uri _ _
      · exact (run.suspended frames promise rfl).moves
    · exact Or.inl still

theorem EditorWorld.resumeTask
    (world : EditorWorld uri opened holder view system)
    (notReady : task ∉ resumed system.loop.ready)
    (settled : ∀ found : TaskState Frame, system.loop.tasks[task]? = some found →
      ∀ promise, found.awaiting = some promise → system.loop.outcome? promise ≠ none) :
    system.resumeTask task = system ∨
      ∃ found laterOpened laterHolder later, system.loop.tasks[task]? = some found ∧
        EditorWorld uri laterOpened laterHolder later (system.resumeTask task) ∧
        EditorTurn uri task found.stack system view (system.resumeTask task) later ∧
        (laterOpened = opened ∨ later.synchronizer.file ≠ none) := by
  unfold System.resumeTask
  split
  · exact Or.inl rfl
  · rename_i found entry
    split
    · exact Or.inl rfl
    · obtain ⟨later, laterOpened, laterHolder, run⟩ :=
        world.runTask entry notReady (settled found entry)
      exact Or.inr ⟨found, laterOpened, laterHolder, later, entry, world.settleTask entry run,
        run.turn entry, run.opens.imp_right And.right⟩

end Ends

end LanguageClient.Client
