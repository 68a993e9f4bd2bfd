import LanguageClient.Proofs.Synchronizer.BurstTurns
import LanguageClient.Proofs.Synchronizer.Consistency

/-!
# The coalescing of bursts

While the host only edits and every send is accepted at once, the peer receives exactly the edits
that outlast their waits, each as soon as its wait is over, under consecutive versions. A wait is over
when the clock shows the moment nearest to its end, so where the clock cannot tell the end from the
beginning it is over at once.
-/

namespace LanguageClient.Client

open LanguageClient.Json LanguageClient.Loop LanguageClient.Number LanguageClient.Protocol

/-- What may happen during a burst of edits: all but calls and cancellations of the host. -/
def Input.IsEditing : Input → Prop
  | .edit synchronizer _ => synchronizer = 0
  | .call _ | .cancel _ | .listen _ _ | .attach _ _ _ | .editText _ _ => False
  | .receive _ _ | .drop _ | .behave _ | .release _ | .releaseClose _ | .tick _ | .turn => True

theorem Input.IsEditing.onSynchronizer {input : Input} (editing : input.IsEditing) :
    input.OnSynchronizer := by
  cases input with
  | call call => exact editing.elim
  | cancel task => exact editing.elim
  | _ => exact editing

/-- An input of a burst: the host edits only when nothing can run before the clock moves, and the peer
accepts every change at once. -/
structure System.TakesEdits (uri : String) (system : System) (input : Input) : Prop where
  editing : input.IsEditing
  atRest : ∀ synchronizer text, input = .edit synchronizer text → system.loop.isIdle = true
  atOnce : input = .turn → system.peer.holding = false
  succeed : input = .turn → system.SendsSucceed uri

/-- An open document has no unsent edit, nobody sends its text or closes it, and nobody is about to. -/
structure System.IsCaughtUp (uri : String) (synchronizer : Synchronizer) (system : System) :
    Prop where
  isOnly : system.synchronizers = [synchronizer]
  ready : system.isReady 0 = true
  clean : synchronizer.dirty = false
  free : synchronizer.lock = {}
  aside : ∀ found ∈ system.loop.tasks, IsAside uri found.stack

section Steps

variable {burst : Burst} {edits : List TimedEdit} {holder : Option (Nat × Change)}
  {synchronizer : Synchronizer} {system : System} {input : Input}
  (bursts : BurstWorld burst none edits synchronizer system)
  (world : SyncWorld False burst.uri holder synchronizer system)
  (only : system.loop.HasOnly synchronizer.timer)

include bursts world only

theorem BurstWorld.turn
    (atOnce : system.peer.holding = false) (succeed : system.SendsSucceed burst.uri) :
    ∃ later, BurstWorld burst none edits later (system.step .turn) := by
  rcases system.step_turn_cases with ⟨_, same⟩ | ⟨callback, rest, next, runs⟩
  · rw [same]
    exact ⟨synchronizer, bursts⟩
  · have taken := Scheduler.taken_of_next? next
    obtain ⟨restWorld, allowed⟩ := world.taken taken
    rcases only.taken next with ⟨untimed, restOnly⟩ | ⟨timer, fires, _, free⟩
    · have restBursts := bursts.taken taken untimed
      cases resumes : callback.resumed? with
      | none =>
          rw [resumes] at restBursts
          have noTask : ∀ task, callback ≠ .resume task := by
            rintro task rfl
            cases resumes
          have noTimer : ∀ timer action, callback ≠ .fire timer action := by
            rintro timer action rfl
            cases untimed
          obtain ⟨sends, event⟩ := callback_event restWorld allowed noTask noTimer
          rw [runs]
          exact ⟨_, restBursts.of_event restOnly.prompt event
            (restWorld.callback_keepsTimers allowed resumes untimed)
            (restWorld.parts.callback_addsAnswers allowed resumes untimed)⟩
      | some task =>
          obtain rfl := Callback.resumed?_eq_some_iff.mp resumes
          rcases System.resume_cases next with ⟨found, goesOn⟩ | ⟨ended, stays⟩
          · obtain ⟨notReady, settled⟩ := world.punctual.resumed_of_taken taken
            have start := restWorld.start_task goesOn.restEntry notReady
              (settled found goesOn.restEntry)
            rcases bursts.tasks task found goesOn.entry nofun with aside | soon
            · exact ⟨_, restBursts.aside_turn goesOn start restOnly.prompt aside⟩
            · exact restBursts.send_turn goesOn start soon atOnce succeed
          · rw [runs, stays]
            refine ⟨_, restBursts.of_aside fun found entry => ?_⟩
            rw [taken.tasks] at entry
            refine (bursts.tasks task found entry nofun).resolve_right fun soon => ?_
            have unended := soon.unended
            rw [ending?_of_entry entry] at unended
            simp only [Scheduler.hasEnded, entry, Scheduler.isSettled, unended] at ended
            cases ended
    · cases callback with
      | fire other action =>
          obtain rfl : action = .debounce 0 := allowed
          rw [runs]
          exact bursts.fire world taken free
      | _ => cases fires

/-- An input that is no edit and no turn leaves the burst as it is. -/
theorem BurstWorld.step_of_other
    (editing : input.IsEditing) (noTurn : input ≠ .turn)
    (noEdit : ∀ other text, input ≠ .edit other text) :
    ∃ later, BurstWorld burst none edits later (system.step input) := by
  by_cases ticks : ∃ moment, input = .tick moment
  · obtain ⟨moment, rfl⟩ := ticks
    exact ⟨synchronizer, bursts.tick moment⟩
  · have noCancel : ∀ task, input ≠ .cancel task := by
      rintro task rfl
      exact editing
    have event := input_event world editing.onSynchronizer noTurn noEdit noCancel
      fun moment same => ticks ⟨moment, same⟩
    suffices left : system.KeepsTimers (system.step input) ∧ system.AddsAnswers (system.step input)
      from ⟨_, bursts.of_event only.prompt event left.1 left.2⟩
    have released {after : System} (releases : system.Releases after) :
        system.KeepsTimers after ∧ system.AddsAnswers after := by
      refine ⟨.of_course (releases_course system releases), ?_⟩
      cases releases with
      | nothing => exact .of_same rfl
      | promise => exact .of_same (Scheduler.settle_tasks _ _ _)
    cases input with
    | receive link text =>
        exact ⟨.of_course (world.parts.receive_course link text),
          world.parts.receive_addsAnswers link text⟩
    | drop link =>
        obtain ⟨sameLoop, sameSynchronizers⟩ := world.parts.drop_same link
        exact ⟨.of_same sameLoop sameSynchronizers, .of_same (congrArg Scheduler.tasks sameLoop)⟩
    | behave peer => exact ⟨.of_same rfl rfl, .of_same rfl⟩
    | release place => exact released (system.releaseFrame_releases place)
    | releaseClose place => exact released (system.releaseClosing_releases place)
    | tick moment => exact (ticks ⟨moment, rfl⟩).elim
    | turn => exact (noTurn rfl).elim
    | edit other text => exact (noEdit other text rfl).elim
    | _ => exact editing.elim

/-- No input of a burst breaks the invariant. -/
theorem BurstWorld.step (takes : system.TakesEdits burst.uri input) :
    ∃ later, BurstWorld burst none (edits ++ system.editWith input) later (system.step input) := by
  by_cases edit : ∃ other text, input = .edit other text
  · obtain ⟨other, text, rfl⟩ := edit
    obtain rfl : other = 0 := takes.editing
    exact bursts.edit world only (takes.atRest 0 text rfl) text
  · have noEdit : ∀ other text, input ≠ .edit other text :=
      fun other text same => edit ⟨other, text, same⟩
    have nothing : system.editWith input = [] := by
      cases input with
      | edit other text => exact (noEdit other text rfl).elim
      | _ => rfl
    rw [nothing, List.append_nil]
    by_cases isTurn : input = .turn
    · subst isTurn
      exact bursts.turn world only (takes.atOnce rfl) (takes.succeed rfl)
    · exact bursts.step_of_other world only takes.editing isTurn noEdit

end Steps

/-! ## Runs -/

section Runs

variable {uri : String} {synchronizer : Synchronizer} {system : System}

/-- What the peer has of a document of a client. -/
def System.burst (uri : String) (synchronizer : Synchronizer) (system : System) : Burst where
  uri
  debounce := synchronizer.debounce
  resolution := system.loop.resolution
  version := synchronizer.version
  delivered := system.deliveries uri

theorem System.IsCaughtUp.burstWorld
    {holder : Option (Nat × Change)} (caughtUp : system.IsCaughtUp uri synchronizer)
    (world : SyncWorld False uri holder synchronizer system) :
    BurstWorld (system.burst uri synchronizer) none [] synchronizer system where
  isOnly := caughtUp.isOnly
  attached := ((isReady_iff world.start.passage).mp caughtUp.ready).1
  isOpen := ((isReady_iff world.start.passage).mp caughtUp.ready).2
  free := caughtUp.free
  debounce := rfl
  resolution := rfl
  tasks := fun _ found entry _ => Or.inl (caughtUp.aside found (List.mem_of_getElem? entry))
  duty := ⟨[], rfl, (List.append_nil _).symm, .nothing caughtUp.clean fun _ _ => rfl⟩

/-- The invariant holds during the whole burst, and there is never more than one timer. -/
theorem burst_of_run
    {holder : Option (Nat × Change)} {inputs : Nat → Input} {count : Nat}
    (caughtUp : system.IsCaughtUp uri synchronizer)
    (world : SyncWorld False uri holder synchronizer system)
    (only : system.loop.HasOnly synchronizer.timer)
    (takes : ∀ place < count, (system.after inputs place).TakesEdits uri (inputs place)) :
    ∃ laterHolder later, SyncWorld False uri laterHolder later (system.after inputs count) ∧
      (system.after inputs count).loop.HasOnly later.timer ∧
      BurstWorld (system.burst uri synchronizer) none (system.editsIn inputs count) later
        (system.after inputs count) := by
  induction count with
  | zero => exact ⟨holder, synchronizer, world, only, caughtUp.burstWorld world⟩
  | succ count inductionHypothesis =>
      obtain ⟨_, _, earlier, earlierOnly, bursts⟩ :=
        inductionHypothesis fun place inside => takes place (Nat.lt_succ_of_lt inside)
      have isTaken := takes count (Nat.lt_succ_self count)
      obtain ⟨laterHolder, later, laterWorld⟩ :=
        earlier.step isTaken.editing.onSynchronizer fun _ _ impossible => impossible.elim
      obtain ⟨found, isFound, hasOnly⟩ := earlier.hasOnlyTimer_step
        ⟨_, earlier.parts.synchronizers, earlierOnly⟩ isTaken.editing.onSynchronizer
      obtain ⟨stepped, laterBursts⟩ := bursts.step earlier earlierOnly isTaken
      obtain rfl := List.singleton_inj.mp (laterWorld.parts.synchronizers.symm.trans isFound)
      obtain rfl := List.singleton_inj.mp (isFound.symm.trans laterBursts.isOnly)
      rw [System.editsIn_succ]
      exact ⟨laterHolder, _, laterWorld, hasOnly, laterBursts⟩

end Runs

theorem Attachment.isCaughtUp
    (attachment : Attachment) (same : attachment.text = attachment.openedText)
    (only : attachment.start.synchronizers = [attachment.attached none]) :
    attachment.start.IsCaughtUp attachment.uri (attachment.attached none) := by
  obtain ⟨_, _, noTasks, ready, _⟩ := attachment.start_world True
  exact {
    isOnly := only
    ready
    clean := decide_eq_false (not_not_intro same)
    free := rfl
    aside := by
      rw [noTasks]
      nofun }

/-- Three edits: the second comes before the wait of the first is over. -/
def burstDocument : Nat → Input
  | 0 => .edit 0 "second"
  | 1 => .tick (1 / 2)
  | 2 => .edit 0 "third"
  | 3 => .tick 2
  | 7 => .edit 0 "fourth"
  | 8 => .tick 3
  | _ => .turn

theorem burstDocument_takesEdits (place : Nat) (inside : place < 12) :
    (openedDocument.start.after burstDocument place).TakesEdits openedDocument.uri
      (burstDocument place) where
  editing := by
    unfold burstDocument
    split <;> first | rfl | trivial
  atRest := fun synchronizer text edits => by
    match place, inside with
    | 0, _ | 2, _ | 7, _ => decide +kernel
    | 1, _ | 3, _ | 4, _ | 5, _ | 6, _ | 8, _ | 9, _ | 10, _ | 11, _ => cases edits
  atOnce := fun _ => by
    match place, inside with
    | 0, _ | 1, _ | 2, _ | 3, _ | 4, _ | 5, _ | 6, _ | 7, _ | 8, _ | 9, _ | 10, _ | 11, _ =>
      decide +kernel
  succeed := fun _ => by
    match place, inside with
    | 0, _ | 1, _ | 2, _ | 3, _ | 4, _ | 5, _ | 6, _ | 7, _ | 8, _ | 9, _ | 10, _ | 11, _ =>
      apply sendsSucceed_of_unrefused <;> decide +kernel

/-- A document whose edits wait for less than the clock can tell. -/
def hastyDocument : Attachment :=
  { openedDocument with debounce := .float (.ofRatio false 1 (2 ^ 60)) }

/-- Two edits while the clock shows one second. -/
def hastyEdits : Nat → Input
  | 0 => .tick 1
  | 1 => .edit 0 "second"
  | 5 => .edit 0 "third"
  | _ => .turn

theorem hastyEdits_takesEdits (place : Nat) (inside : place < 9) :
    (hastyDocument.start.after hastyEdits place).TakesEdits hastyDocument.uri
      (hastyEdits place) where
  editing := by
    unfold hastyEdits
    split <;> first | rfl | trivial
  atRest := fun synchronizer text edits => by
    match place, inside with
    | 1, _ | 5, _ => decide +kernel
    | 0, _ | 2, _ | 3, _ | 4, _ | 6, _ | 7, _ | 8, _ => cases edits
  atOnce := fun _ => by
    match place, inside with
    | 0, _ | 1, _ | 2, _ | 3, _ | 4, _ | 5, _ | 6, _ | 7, _ | 8, _ => decide +kernel
  succeed := fun _ => by
    match place, inside with
    | 0, _ | 1, _ | 2, _ | 3, _ | 4, _ | 5, _ | 6, _ | 7, _ | 8, _ =>
      apply sendsSucceed_of_unrefused <;> decide +kernel

end LanguageClient.Client
