import LanguageClient.Proofs.Editor.Events
import LanguageClient.Proofs.Synchronizer.Steps

/-!
# The steps of an editor

Every input of a run with one editor keeps the invariant. An edit changes the text and nothing else
that is seen of the document, a turn of a task moves that task alone, and every other input leaves
the tasks where they stand.
-/

namespace LanguageClient.Client

open LanguageClient.Json LanguageClient.Loop LanguageClient.Number LanguageClient.Protocol

/-- What may happen to a client with one editor that has been started. The host edits the text, asks
queries, refreshes the diagnostics, closes the editor and cancels tasks. -/
def Input.OnEditor : Input → Prop
  | .call (.hover editor _) | .call (.complete editor _ _) | .call (.refresh editor)
  | .call (.closeEditor editor) | .editText editor _ => editor = 0
  | .call _ | .listen _ _ | .attach _ _ _ | .edit _ _ => False
  | .cancel _ | .receive _ _ | .drop _ | .behave _ | .release _ | .releaseClose _ | .tick _
  | .turn => True

/-- A call that the host may make of an editor that has been started. -/
theorem Call.of_onEditor {call : Call} (allowed : (Input.call call).OnEditor) :
    call.AtEditor ∧ ∀ editor, call ≠ .start editor := by
  cases call with
  | hover editor offset => exact ⟨allowed, nofun⟩
  | complete editor offset explicit => exact ⟨allowed, nofun⟩
  | refresh editor => exact ⟨allowed, nofun⟩
  | closeEditor editor => exact ⟨allowed, nofun⟩
  | _ => exact allowed.elim

/-- What one input shows of the document, and where all tasks are afterwards. -/
inductive EditorStep (uri : String) (before : System) (view : View) :
    Input → System → View → Prop where
  | stands (input : Input) (after : System) (later : View)
      (text : later.synchronizer.text = view.synchronizer.text) (asked : later.asked = view.asked)
      (tasks : ∀ task found, after.loop.tasks[task]? = some found →
        StandsStill before.loop task found) :
    EditorStep uri before view input after later
  | edits (text : String) (after : System) (later : View) (asked : later.asked = view.asked)
      (tasks : ∀ task found, after.loop.tasks[task]? = some found →
        StandsStill before.loop task found) :
    EditorStep uri before view (.editText 0 text) after later
  | calls (call : Call) (after : System) (later : View)
      (text : later.synchronizer.text = view.synchronizer.text) (asked : later.asked = view.asked)
      (tasks : ∀ task found, after.loop.tasks[task]? = some found →
        StandsStill before.loop task found ∨
          task = before.nextTask ∧ found.stack = [.begin call]) :
    EditorStep uri before view (.call call) after later
  | turns (task : Nat) (found : TaskState Frame) (after : System) (later : View)
      (coming : before.comingCallback? = some (.resume task))
      (entry : before.loop.tasks[task]? = some found)
      (turn : EditorTurn uri task found.stack before view after later) :
    EditorStep uri before view .turn after later

section Steps

variable {uri : String} {opened : Bool} {holder : Option (Nat × Change)} {view later : View}
  {system after : System}

/-! ## Tasks that stand still -/

theorem StandsStill.of_same
    {loop laterLoop : ClientLoop} (tasks : laterLoop.tasks = loop.tasks) (task : Nat)
    (found : TaskState Frame) (entry : laterLoop.tasks[task]? = some found) :
    StandsStill loop task found := by
  rw [tasks] at entry
  exact Or.inl ⟨found, entry, rfl⟩

theorem EditorPassage.standsStill
    (passage : EditorPassage uri none system later after) (task : Nat) (found : TaskState Frame)
    (entry : after.loop.tasks[task]? = some found) :
    StandsStill system.loop task found := by
  rcases passage.loop.advances.task_cases entry with ⟨earlier, earlierEntry, same, _⟩ | ⟨isNew, _⟩
  · exact Or.inl ⟨earlier, earlierEntry, same⟩
  · exact Or.inr (passage.spawned task found isNew entry)

theorem EditorWorld.start (world : EditorWorld uri opened holder view system) :
    EditorPassage uri none system view system where
  parts := world.parts
  loop := .refl world.orderly world.punctual nofun
  spawned := fun task found isNew entry => by
    rw [List.getElem?_eq_none isNew] at entry
    cases entry

theorem EditorPassage.world
    (passage : EditorPassage uri none system later after)
    (world : EditorWorld uri opened holder view system)
    (account : Account opened (holder.map (·.2)) later)
    (lock : later.synchronizer.lock = view.synchronizer.lock) :
    EditorWorld uri opened holder later after where
  parts := passage.parts
  account
  places := by
    rw [lock]
    exact world.places.of_still
      (fun task found entry => (passage.standsStill task found entry).orBegins)
      passage.loop.advances.plain
  orderly := passage.loop.orderly
  punctual := passage.loop.punctual

/-- The invariant holds after an input, and what it shows. If the document was opened with it, the
synchronizer has its file. -/
def StepsTo
    (uri : String) (opened : Bool) (before : System) (view : View) (input : Input)
    (after : System) :
    Prop :=
  ∃ laterOpened holder later, EditorWorld uri laterOpened holder later after ∧
    EditorStep uri before view input after later ∧
    (laterOpened = opened ∨ later.synchronizer.file ≠ none)

theorem EditorEvent.step
    {input : Input} (event : EditorEvent uri view system after)
    (world : EditorWorld uri opened holder view system) :
    StepsTo uri opened system view input after := by
  obtain ⟨later, keeps, passage⟩ := event
  exact ⟨opened, holder, later,
    passage.world world (world.account.of_keeps keeps) keeps.lock,
    .stands input after later keeps.text keeps.asked_of_none passage.standsStill, Or.inl rfl⟩

/-! ## Callbacks -/

/-- Taking a callback keeps the invariant, and the callback is one that may run. -/
theorem EditorWorld.taken
    {callback : Callback Action} {rest : ClientLoop}
    (world : EditorWorld uri opened holder view system)
    (taken : Scheduler.Taken system.loop callback rest) :
    EditorWorld uri opened holder view { system with loop := rest } ∧
      (editorScope uri).callback callback := by
  obtain ⟨orderly, allowed⟩ := world.orderly.taken taken fun _ isTimed _ => isTimed
  have plain : ∀ promise, system.loop.IsPlain promise → rest.IsPlain promise :=
    fun _ => taken.isPlain
  have ungrouped : ∀ promise, system.loop.IsUngrouped promise → rest.IsUngrouped promise :=
    fun _ => taken.isUngrouped
  have outcomes : ∀ promise, system.loop.IsPlain promise →
      rest.outcome? promise = system.loop.outcome? promise := fun promise _ => taken.outcome?_eq promise
  refine ⟨?_, allowed⟩
  exact {
    parts := { world.parts with lock := world.parts.lock.of_plain plain ungrouped outcomes }
    account := world.account
    places := world.places.of_still
      (fun task found entry => (StandsStill.of_same taken.tasks task found entry).orBegins) plain
    orderly
    punctual := (world.punctual.taken taken).1 }

theorem StandsStill.of_tasks
    {loop other : ClientLoop} {task : Nat} {found : TaskState Frame}
    (tasks : loop.tasks = other.tasks) (still : StandsStill loop task found) :
    StandsStill other task found := by
  unfold StandsStill at still ⊢
  rw [← tasks]
  exact still

theorem EditorWorld.callback
    {callback : Callback Action} {rest : ClientLoop}
    (world : EditorWorld uri opened holder view system)
    (next : system.loop.next? = some (callback, rest)) :
    StepsTo uri opened system view .turn
      (({ system with loop := rest } : System).runCallback callback) := by
  have taken := Scheduler.taken_of_next? next
  obtain ⟨restWorld, allowed⟩ := world.taken taken
  by_cases isResume : ∃ task, callback = .resume task
  · obtain ⟨task, rfl⟩ := isResume
    have coming : system.comingCallback? = some (.resume task) := by
      simp only [System.comingCallback?, next, Option.map_some]
    obtain ⟨notReady, settled⟩ := world.punctual.resumed_of_taken taken
    rcases restWorld.resumeTask notReady settled with same |
      ⟨found, laterOpened, laterHolder, later, entry, laterWorld, turn, opens⟩
    · have unchanged : ({ system with loop := rest } : System).runCallback (.resume task) =
          { system with loop := rest } := same
      rw [unchanged]
      exact ⟨opened, holder, view, restWorld,
        .stands .turn _ view rfl rfl (StandsStill.of_same taken.tasks), Or.inl rfl⟩
    · refine ⟨laterOpened, laterHolder, later, laterWorld,
        .turns task found _ later coming (taken.tasks ▸ entry) { turn with tasks := ?_ }, opens⟩
      exact fun other otherFound otherEntry =>
        (turn.tasks other otherFound otherEntry).imp (StandsStill.of_tasks taken.tasks) id
  · obtain ⟨later, keeps, passage⟩ := restWorld.start.runCallback allowed
      fun task same => isResume ⟨task, same⟩
    refine ⟨opened, holder, later,
      passage.world restWorld (restWorld.account.of_keeps keeps) keeps.lock,
      .stands .turn _ later keeps.text keeps.asked_of_none ?_, Or.inl rfl⟩
    exact fun task found entry => (passage.standsStill task found entry).of_tasks taken.tasks

/-! ## The other inputs -/

theorem Account.edit
    {change? : Option Change} (account : Account opened change? view) (text : String)
    (timer? : Option Nat) :
    Account opened change? { view with
      synchronizer := { view.synchronizer with text, dirty := true, timer := timer? } } := by
  cases account with
  | unopened nothing detached free => exact .unopened nothing detached free
  | opened ledger => exact .opened (ledger.edit rfl rfl rfl)

/-- An edit marks the text as unsent, and arms the timer anew if the document is open. -/
theorem EditorWorld.edit_passage
    (world : EditorWorld uri opened holder view system) (text : String) :
    ∃ timer?, EditorPassage uri none system { view with
      synchronizer := { view.synchronizer with text, dirty := true, timer := timer? } }
        (System.noteEscaped (system.editText 0 text)) := by
  obtain ⟨found, editors, synchronizer, _⟩ := world.parts.editor
  have edited := world.start.modifySynchronizer
    (fun found => { found with text, dirty := true }) rfl
  simp only [System.editText, editors, List.getElem?_cons_zero, synchronizer, System.edit]
  split
  · obtain ⟨timer?, scheduled⟩ := schedule_run edited
    exact ⟨timer?, scheduled.noteEscaped _⟩
  · exact ⟨view.synchronizer.timer, edited.noteEscaped none⟩

theorem EditorWorld.edit (world : EditorWorld uri opened holder view system) (text : String) :
    StepsTo uri opened system view (.editText 0 text)
      (System.noteEscaped (system.editText 0 text)) := by
  obtain ⟨timer?, passage⟩ := world.edit_passage text
  exact ⟨opened, holder, _, passage.world world (world.account.edit text timer?) rfl,
    .edits text _ _ rfl passage.standsStill, Or.inl rfl⟩

theorem EditorWorld.spawn_passage
    {call : Call} (world : EditorWorld uri opened holder view system) (allowed : call.AtEditor) :
    Scheduler.Passage (editorScope uri) none True (fun _ _ => False) system.loop
      (system.spawn call).loop :=
  .spawn (.refl world.orderly world.punctual nofun) (.begins call allowed) trivial

/-- A call becomes a task, and all others stand still. -/
theorem EditorWorld.spawn_cases
    {call : Call} {task : Nat} {found : TaskState Frame}
    (world : EditorWorld uri opened holder view system) (allowed : call.AtEditor)
    (entry : (system.spawn call).loop.tasks[task]? = some found) :
    (∃ earlier, system.loop.tasks[task]? = some earlier ∧ found.stack = earlier.stack) ∨
      task = system.nextTask ∧ found.stack = [.begin call] := by
  rcases (world.spawn_passage allowed).advances.task_cases entry with
    ⟨earlier, earlierEntry, same, _⟩ | ⟨isNew, _⟩
  · exact Or.inl ⟨earlier, earlierEntry, same⟩
  · have added : (system.loop.tasks ++ [_])[task]? = some found := entry
    rcases getElem?_append_singleton_cases added with earlier | ⟨isLast, rfl⟩
    · exact absurd (List.getElem?_eq_some_iff.mp earlier).1 (Nat.not_lt.mpr isNew)
    · exact Or.inr ⟨isLast, rfl⟩

/-- The host makes a call. -/
theorem EditorWorld.call
    {call : Call} (world : EditorWorld uri opened holder view system) (allowed : call.AtEditor)
    (noStart : ∀ editor, call ≠ .start editor) :
    StepsTo uri opened system view (.call call) (system.spawn call) := by
  have step := world.spawn_passage allowed
  refine ⟨opened, holder, view, ?_,
    .calls call _ view rfl rfl fun task found entry => (world.spawn_cases allowed entry).imp Or.inl id,
    Or.inl rfl⟩
  exact {
    parts := { world.parts with
      lock := world.parts.lock.of_advances step.advances (by simp) }
    account := world.account
    places := world.places.of_still
      (fun task found entry => (world.spawn_cases allowed entry).imp id fun ⟨_, begins⟩ =>
        ⟨call, begins, noStart⟩)
      step.advances.plain
    orderly := step.orderly
    punctual := step.punctual }

/-- The host starts the editor while nobody else does and the document is not open. -/
theorem EditorWorld.spawn_start
    (world : EditorWorld uri false holder view system)
    (idle : ∀ (task : Nat) (found : TaskState Frame), system.loop.tasks[task]? = some found →
      ¬ IsStarting found.stack) :
    EditorWorld uri false holder view (system.spawn (.start 0)) := by
  have allowed : (Call.start 0).AtEditor := rfl
  have step := world.spawn_passage allowed
  have isNew {task : Nat} {found : TaskState Frame}
      (entry : (system.spawn (.start 0)).loop.tasks[task]? = some found)
      (starting : IsStarting found.stack) : task = system.nextTask := by
    rcases world.spawn_cases allowed entry with ⟨earlier, earlierEntry, same⟩ | ⟨isLast, _⟩
    · exact (idle task earlier earlierEntry (same ▸ starting)).elim
    · exact isLast
  have stood {task : Nat} {found : TaskState Frame} {frame : Frame} {outer : List Frame}
      (entry : (system.spawn (.start 0)).loop.tasks[task]? = some found)
      (stack : found.stack = frame :: outer) (notBegin : frame ≠ .begin (.start 0)) :
      ∃ earlier, system.loop.tasks[task]? = some earlier ∧ earlier.stack = frame :: outer := by
    rcases world.spawn_cases allowed entry with ⟨earlier, earlierEntry, same⟩ | ⟨_, begins⟩
    · exact ⟨earlier, earlierEntry, same.symm.trans stack⟩
    · rw [begins] at stack
      exact (notBegin (List.cons.inj stack).1.symm).elim
  exact {
    parts := { world.parts with
      lock := world.parts.lock.of_advances step.advances (by simp) }
    account := world.account
    places := {
      locks := fun task found promise force caller entry stack => by
        obtain ⟨earlier, earlierEntry, earlierStack⟩ := stood entry stack nofun
        exact world.places.locks task earlier promise force caller earlierEntry earlierStack
      locksOnce := fun task other found otherFound promise force otherForce caller otherCaller entry
          otherEntry stack otherStack => by
        obtain ⟨earlier, earlierEntry, earlierStack⟩ := stood entry stack nofun
        obtain ⟨otherEarlier, otherEarlierEntry, otherEarlierStack⟩ :=
          stood otherEntry otherStack nofun
        exact world.places.locksOnce task other earlier otherEarlier promise force otherForce caller
          otherCaller earlierEntry otherEarlierEntry earlierStack otherEarlierStack
      changes := fun task found link change caller entry stack => by
        obtain ⟨earlier, earlierEntry, earlierStack⟩ := stood entry stack nofun
        exact world.places.changes task earlier link change caller earlierEntry earlierStack
      starts := fun _ _ _ _ => rfl
      startsOnce := fun task other found otherFound entry otherEntry starting otherStarting =>
        (isNew entry starting).trans (isNew otherEntry otherStarting).symm
      requests := fun task found promise entry member => by
        rcases world.spawn_cases allowed entry with ⟨earlier, earlierEntry, same⟩ | ⟨_, begins⟩
        · rw [same] at member
          exact step.advances.plain promise
            (world.places.requests task earlier promise earlierEntry member)
        · rw [begins] at member
          cases List.mem_singleton.mp member }
    orderly := step.orderly
    punctual := step.punctual }

theorem EditorWorld.tick
    (world : EditorWorld uri opened holder view system) (moment : Rat) :
    StepsTo uri opened system view (.tick moment) (system.onLoop (·.moveClock moment)) := by
  have plain : ∀ promise, system.loop.IsPlain promise →
      (system.loop.moveClock moment).IsPlain promise :=
    fun _ isPlain => isPlain.of_le rfl (Nat.le_refl _)
  refine ⟨opened, holder, view, ?_, .stands _ _ view rfl rfl (StandsStill.of_same rfl),
    Or.inl rfl⟩
  exact {
    parts := { world.parts with
      lock := world.parts.lock.of_plain plain (fun _ => id) fun _ _ => rfl }
    account := world.account
    places := world.places.of_still
      (fun task found entry => (StandsStill.of_same rfl task found entry).orBegins) plain
    orderly := world.orderly.moveClock moment
    punctual := world.punctual.moveClock moment }

/-- Every input keeps the invariant. -/
theorem EditorWorld.step
    {input : Input} (world : EditorWorld uri opened holder view system)
    (allowed : input.OnEditor) :
    StepsTo uri opened system view input (system.step input) := by
  have start := world.start
  cases input with
  | turn =>
      rcases system.step_turn_cases with ⟨_, same⟩ | ⟨callback, rest, next, runs⟩
      · rw [same]
        exact start.event.step world
      · rw [runs]
        exact world.callback next
  | call call =>
      obtain ⟨atEditor, noStart⟩ := Call.of_onEditor allowed
      exact world.call atEditor noStart
  | editText editor text =>
      obtain rfl : editor = 0 := allowed
      exact world.edit text
  | tick moment => exact world.tick moment
  | cancel task => exact (start.cancel task).event.step world
  | receive link text => exact (start.receive link text).event.step world
  | drop link => exact (start.drop link).event.step world
  | behave peer =>
      have behaved := start.withPeer { peer with
        held := system.peer.held
        heldCloses := system.peer.heldCloses } fun _ => id
      exact behaved.event.step world
  | release place => exact (start.releases (system.releaseFrame_releases place)).event.step world
  | releaseClose place => exact (start.releases (system.releaseClosing_releases place)).event.step world
  | _ => exact allowed.elim

end Steps

end LanguageClient.Client
