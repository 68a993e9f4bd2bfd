import Mathlib.Algebra.Order.Ring.Unbundled.Rat
import LanguageClient.Proofs.Conduct.Endings
import LanguageClient.Proofs.Synchronizer.CalmTurns
import LanguageClient.Proofs.Synchronizer.Timers

/-!
# Bursts of edits

An edit begins a wait and ends the wait of the edit before, so an edit lasts if its wait is over
before the next one comes. While the host only edits, the synchronizer owes the peer at most the last
edit, and somebody is about to send it once its wait is over.
-/

namespace LanguageClient.Client

open LanguageClient.Json LanguageClient.Loop LanguageClient.Number LanguageClient.Protocol

/-! ## Edits that last -/

/-- An edit, and what the clock showed when the host made it. -/
structure TimedEdit where
  moment : Rat
  text : String
  deriving DecidableEq, Repr

/-- The edits of a burst that outlast their waits: one whose wait was over when the next edit came,
and the last one if its wait is over now. -/
def lasting (isOver : Rat → Rat → Bool) (now : Rat) : List TimedEdit → List TimedEdit
  | [] => []
  | [last] => if isOver last.moment now then [last] else []
  | edit :: next :: rest =>
    (if isOver edit.moment next.moment then [edit] else []) ++ lasting isOver now (next :: rest)

theorem lasting_concat
    (isOver : Rat → Rat → Bool) (now : Rat) (earlier : List TimedEdit) (last : TimedEdit) :
    lasting isOver now (earlier ++ [last]) =
      lasting isOver last.moment earlier ++ if isOver last.moment now then [last] else [] := by
  induction earlier with
  | nil => rfl
  | cons edit rest inductionHypothesis =>
      cases rest with
      | nil => rfl
      | cons next rest =>
          simp only [List.cons_append] at inductionHypothesis
          simp only [List.cons_append, lasting, inductionHypothesis, List.append_assoc]

/-- The changes that tell the peer of edits, under the versions after a given one. -/
def changesOf (version : Nat) (edits : List TimedEdit) : List Delivery :=
  edits.mapIdx fun place edit => .changed (version + place + 1 : Nat) edit.text

theorem changesOf_concat (version : Nat) (earlier : List TimedEdit) (last : TimedEdit) :
    changesOf version (earlier ++ [last]) =
      changesOf version earlier ++
        [.changed (version + earlier.length + 1 : Nat) last.text] :=
  List.mapIdx_concat

namespace System

/-- The edit that the host makes with an input. -/
def editWith (system : System) : Input → List TimedEdit
  | .edit _ text => [⟨system.loop.now, text⟩]
  | _ => []

/-- The edits that the host makes with the first inputs of a run, in order. -/
def editsIn (start : System) (inputs : Nat → Input) (count : Nat) : List TimedEdit :=
  (List.range count).flatMap fun place => (start.after inputs place).editWith (inputs place)

theorem editsIn_succ (start : System) (inputs : Nat → Input) (count : Nat) :
    start.editsIn inputs (count + 1) =
      start.editsIn inputs count ++ (start.after inputs count).editWith (inputs count) := by
  simp [editsIn, List.range_succ]

end System

/-! ## Waits -/

/-- What the clock shows at the end of a wait for further edits, if the wait ends. -/
def waitEnd? (debounce : Quantity) (begun : Rat) : Option Rat :=
  match debounce.delay? with
  | some (.seconds value) => clockMoment? (begun + value)
  | some .forever | none => none

/-- Whether a wait that began at a moment is over: its end has come, or is nearer than the clock can
tell. -/
def waitIsOver (debounce : Quantity) (resolution begun now : Rat) : Bool :=
  match waitEnd? debounce begun with
  | none => false
  | some moment => moment ≤ now || moment < now + resolution

theorem waitIsOver_mono
    {debounce : Quantity} {resolution begun now later : Rat}
    (lapsed : waitIsOver debounce resolution begun now = true) (passes : now ≤ later) :
    waitIsOver debounce resolution begun later = true := by
  unfold waitIsOver at lapsed ⊢
  cases ends : waitEnd? debounce begun with
  | none =>
      rw [ends] at lapsed
      cases lapsed
  | some moment =>
      simp only [ends, Bool.or_eq_true, decide_eq_true_eq] at lapsed ⊢
      exact lapsed.imp (le_trans · passes) (lt_of_lt_of_le · (Rat.add_le_add_right.mpr passes))

/-- Where the sum is a moment of the clock and the clock can tell all moments apart, a wait is over
exactly when its time has passed. -/
theorem waitIsOver_of_exact
    {debounce : Quantity} {begun value : Rat} (now : Rat)
    (counted : debounce.delay? = some (.seconds value))
    (exact : clockMoment? (begun + value) = some (begun + value)) :
    waitIsOver debounce 0 begun now = decide (begun + value ≤ now) := by
  have ends : waitEnd? debounce begun = some (begun + value) := by
    simp only [waitEnd?, counted, exact]
  rw [Bool.eq_iff_iff]
  simp only [waitIsOver, ends, Rat.add_zero, Bool.or_eq_true, decide_eq_true_eq]
  exact or_iff_left_of_imp le_of_lt

/-- A timer for the end of a wait is due exactly when the wait is over. -/
theorem isDue_of_waitEnd
    {loop : ClientLoop} {timer : Timer Action} {debounce : Quantity} {begun : Rat}
    (ends : timer.deadline = waitEnd? debounce begun) :
    loop.isDue timer = waitIsOver debounce loop.resolution begun loop.now := by
  unfold waitIsOver
  rw [← ends]
  rfl

theorem deadline_eq_waitEnd
    {debounce : Quantity} {delay : Delay} (counted : debounce.delay? = some delay)
    (loop : ClientLoop) : loop.deadline delay = waitEnd? debounce loop.now := by
  simp only [Scheduler.deadline, waitEnd?, counted]
  cases delay <;> rfl

/-! ## What the synchronizer owes -/

/-- What the peer had of a document when a burst of edits began, and how long the synchronizer
waits. -/
structure Burst where
  uri : String
  debounce : Quantity
  resolution : Rat
  version : Nat
  delivered : List Delivery

namespace Burst

variable (burst : Burst)

def isOver (begun now : Rat) : Bool := waitIsOver burst.debounce burst.resolution begun now

/-- The edits that are to be sent by some moment. -/
def due (edits : List TimedEdit) (now : Rat) : List TimedEdit := lasting burst.isOver now edits

theorem due_concat (earlier : List TimedEdit) (last : TimedEdit) (now : Rat) :
    burst.due (earlier ++ [last]) now =
      burst.due earlier last.moment ++ if burst.isOver last.moment now then [last] else [] :=
  lasting_concat burst.isOver now earlier last

end Burst

/-- The frames of a task that has nothing to do with the text: it has ended, or it answers a request
of the peer. -/
inductive IsAside (uri : String) : List Frame → Prop where
  | ended : IsAside uri []
  | begins (session : Nat) (id : Value) : IsAside uri [.begin (.answer session id)]
  | answers (link : Nat) (frame : Value) (subject : String) (nothing : delivery? uri frame = none) :
    IsAside uri [.sending link frame, .writing subject]

theorem IsAside.not_sendDebounced
    {uri : String} {stack : List Frame} (aside : IsAside uri stack) :
    stack ≠ [.begin (.sendDebounced 0)] := by
  cases aside <;> nofun

namespace System

/-- A task has been started by the timer and will send the text in its first turn. -/
structure SendsSoon (system : System) (task : Nat) (found : TaskState Frame) : Prop where
  begins : found.stack = [.begin (.sendDebounced 0)]
  idle : found.awaiting = none
  uncancelled : found.cancelRequested = false
  unended : system.ending? task = none
  isReady : .resume task ∈ system.loop.ready

/-- The wait of an edit has ended, and somebody is about to send the text. -/
def IsSending (system : System) : Prop :=
  system.loop.due ≠ [] ∨ ∃ found ∈ system.loop.tasks, found.stack = [.begin (.sendDebounced 0)]

/-- Tasks are started only to answer requests of the peer. -/
def AddsAnswers (before after : System) : Prop :=
  ∃ answers, after.loop.tasks = before.loop.tasks ++ answers ∧
    ∀ found ∈ answers, ∃ session id, found.stack = [.begin (.answer session id)]

end System

/-- What the synchronizer owes the peer after some edits, of which some have been sent: nothing, or
the last edit, which somebody sends when its wait is over. -/
inductive Duty
    (burst : Burst) (edits sent : List TimedEdit) (dirty : Bool) (text : String)
    (system : System) :
    Prop where
  | nothing (clean : dirty = false)
      (all : ∀ later, system.loop.now ≤ later → burst.due edits later = sent) :
    Duty burst edits sent dirty text system
  | last (earlier : List TimedEdit) (edit : TimedEdit) (isLast : edits = earlier ++ [edit])
      (sentEarlier : burst.due earlier edit.moment = sent) (unsent : dirty = true)
      (current : text = edit.text)
      (deadlines : ∀ timer ∈ system.loop.timers,
        timer.deadline = waitEnd? burst.debounce edit.moment)
      (lapsed : system.IsSending → burst.isOver edit.moment system.loop.now = true)
      (awaited : waitEnd? burst.debounce edit.moment ≠ none →
        system.loop.timers ≠ [] ∨ system.IsSending) :
    Duty burst edits sent dirty text system

/-- The invariant while the host only edits. Tasks other than the one that is running are aside, or
will send the text. -/
structure BurstWorld
    (burst : Burst) (running : Option Nat) (edits : List TimedEdit) (synchronizer : Synchronizer)
    (system : System) :
    Prop where
  isOnly : system.synchronizers = [synchronizer]
  attached : synchronizer.file = some 0
  isOpen : system.isOpen 0 = true
  free : synchronizer.lock = {}
  debounce : synchronizer.debounce = burst.debounce
  resolution : system.loop.resolution = burst.resolution
  tasks : ∀ (task : Nat) (found : TaskState Frame), system.loop.tasks[task]? = some found →
    running ≠ some task → IsAside burst.uri found.stack ∨ system.SendsSoon task found
  duty : ∃ sent,
    synchronizer.version = burst.version + sent.length ∧
      system.deliveries burst.uri = burst.delivered ++ changesOf burst.version sent ∧
      Duty burst edits sent synchronizer.dirty synchronizer.text system

section Duties

variable {burst : Burst} {edits sent : List TimedEdit} {dirty : Bool} {text : String}
  {system after : System}

theorem Duty.of_same
    (duty : Duty burst edits sent dirty text system) (now : after.loop.now = system.loop.now)
    (timers : after.loop.timers = system.loop.timers) (sending : after.IsSending ↔ system.IsSending) :
    Duty burst edits sent dirty text after := by
  cases duty with
  | nothing clean all => exact .nothing clean (now ▸ all)
  | last earlier edit isLast sentEarlier unsent current deadlines lapsed awaited =>
      refine .last earlier edit isLast sentEarlier unsent current ?_ ?_ ?_
      · rw [timers]
        exact deadlines
      · rw [now, sending]
        exact lapsed
      · rw [timers, sending]
        exact awaited

/-- What has been sent is the beginning of what is to be sent by now. -/
theorem Duty.isPrefix (duty : Duty burst edits sent dirty text system) :
    sent <+: burst.due edits system.loop.now := by
  cases duty with
  | nothing _ all =>
      rw [all _ le_rfl]
  | last earlier edit isLast sentEarlier =>
      rw [isLast, burst.due_concat, sentEarlier]
      exact List.prefix_append _ _

/-- When nothing can run before the clock moves, all that is to be sent by now has been sent. -/
theorem Duty.sent_of_idle
    (duty : Duty burst edits sent dirty text system)
    (resolution : system.loop.resolution = burst.resolution) (notSending : ¬ system.IsSending)
    (idle : system.loop.isIdle = true) : burst.due edits system.loop.now = sent := by
  cases duty with
  | nothing _ all => exact all _ le_rfl
  | last earlier edit isLast sentEarlier _ _ deadlines _ awaited =>
      have waiting : burst.isOver edit.moment system.loop.now = false := by
        cases ends : waitEnd? burst.debounce edit.moment with
        | none => simp only [Burst.isOver, waitIsOver, ends]
        | some moment =>
            have isAwaited : waitEnd? burst.debounce edit.moment ≠ none := by
              rw [ends]
              exact Option.some_ne_none moment
            have armed := (awaited isAwaited).resolve_right notSending
            obtain ⟨timer, waits⟩ := List.exists_mem_of_ne_nil _ armed
            have notDue : system.loop.isDue timer = false := by
              simp only [Scheduler.isIdle, Bool.and_eq_true, Bool.not_eq_true',
                List.any_eq_false] at idle
              exact eq_false_of_ne_true (idle.2 timer waits)
            rw [isDue_of_waitEnd (deadlines timer waits), resolution] at notDue
            exact notDue
      rw [isLast, burst.due_concat, waiting, sentEarlier]
      exact List.append_nil sent

end Duties

/-! ## What leaves the burst alone -/

section Events

variable {burst : Burst} {running : Option Nat} {edits : List TimedEdit}
  {synchronizer : Synchronizer} {system after : System}

theorem System.AddsAnswers.of_same (tasks : after.loop.tasks = system.loop.tasks) :
    system.AddsAnswers after :=
  ⟨[], by rw [tasks, List.append_nil], nofun⟩

theorem System.AddsAnswers.isSending_iff
    (answers : system.AddsAnswers after) (due : after.loop.due = system.loop.due) :
    after.IsSending ↔ system.IsSending := by
  obtain ⟨added, tasks, begin⟩ := answers
  unfold System.IsSending
  rw [due, tasks]
  refine or_congr_right ⟨?_, ?_⟩
  · rintro ⟨found, member, begins⟩
    refine ⟨found, (List.mem_append.mp member).resolve_right fun isNew => ?_, begins⟩
    obtain ⟨session, id, answer⟩ := begin found isNew
    rw [answer] at begins
    cases begins
  · rintro ⟨found, member, begins⟩
    exact ⟨found, List.mem_append_left _ member, begins⟩

theorem BurstWorld.of_event
    {sends : List Nat} (bursts : BurstWorld burst running edits synchronizer system)
    (prompt : system.loop.IsPrompt)
    (event : SyncEvent False burst.uri system { synchronizer with sends } after)
    (timers : system.KeepsTimers after) (answers : system.AddsAnswers after) :
    BurstWorld burst running edits { synchronizer with sends } after where
  isOnly := event.passage.parts.synchronizers
  attached := bursts.attached
  isOpen := (event.keeps.isOpen 0).trans bursts.isOpen
  free := bursts.free
  debounce := bursts.debounce
  resolution := timers.loop.resolution.trans bursts.resolution
  tasks := fun task found entry waits => by
    obtain ⟨added, tasks, begin⟩ := answers
    rw [tasks] at entry
    by_cases known : task < system.nextTask
    · rw [List.getElem?_append_left known] at entry
      refine (bursts.tasks task found entry waits).imp_right fun soon => ?_
      have keeps := keepsTask_of_advances event.passage.loop.advances known
      exact { soon with
        unended := keeps.ending.trans soon.unended
        isReady := event.keeps.ready _ soon.isReady }
    · rw [List.getElem?_append_right (Nat.le_of_not_lt known)] at entry
      obtain ⟨session, id, answer⟩ := begin found (List.mem_of_getElem? entry)
      rw [answer]
      exact Or.inl (.begins session id)
  duty := by
    obtain ⟨sent, version, deliveries, duty⟩ := bursts.duty
    exact ⟨sent, version, event.keeps.deliveries.trans deliveries,
      duty.of_same timers.loop.now timers.loop.timers
        (answers.isSending_iff (timers.loop.due prompt))⟩

/-- The task that is running may have nothing left to do. -/
theorem BurstWorld.of_aside
    {task : Nat} (bursts : BurstWorld burst (some task) edits synchronizer system)
    (aside : ∀ found, system.loop.tasks[task]? = some found → IsAside burst.uri found.stack) :
    BurstWorld burst none edits synchronizer system :=
  { bursts with
    tasks := fun other found entry _ => by
      by_cases same : other = task
      · subst same
        exact Or.inl (aside found entry)
      · exact bursts.tasks other found entry fun running =>
          same (Option.some.inj running).symm }

theorem BurstWorld.tick
    (bursts : BurstWorld burst running edits synchronizer system) (moment : Rat) :
    BurstWorld burst running edits synchronizer (system.onLoop (·.moveClock moment)) := by
  have passes : system.loop.now ≤ (system.loop.moveClock moment).now := by
    unfold Scheduler.moveClock
    split
    · assumption
    · exact le_rfl
  obtain ⟨sent, version, deliveries, duty⟩ := bursts.duty
  refine { bursts with tasks := ?_, duty := ⟨sent, version, deliveries, ?_⟩ }
  · intro task found entry waits
    exact (bursts.tasks task found entry waits).imp_right fun soon => { soon with }
  · cases duty with
    | nothing clean all => exact .nothing clean fun later since => all later (passes.trans since)
    | last earlier edit isLast sentEarlier unsent current deadlines lapsed awaited =>
        exact .last earlier edit isLast sentEarlier unsent current deadlines
          (fun sending => waitIsOver_mono (lapsed sending) passes) awaited

/-- When nothing can run, nobody is about to send the text. -/
theorem BurstWorld.not_isSending
    (bursts : BurstWorld burst none edits synchronizer system)
    (idle : system.loop.isIdle = true) : ¬ system.IsSending := by
  simp only [Scheduler.isIdle, Bool.and_eq_true, List.isEmpty_iff] at idle
  rintro (due | ⟨found, member, begins⟩)
  · exact due (by rw [Scheduler.due, idle.1]; rfl)
  · obtain ⟨task, entry⟩ := List.mem_iff_getElem?.mp member
    rcases bursts.tasks task found entry (Option.some_ne_none task).symm with aside | soon
    · exact aside.not_sendDebounced begins
    · have isReady := soon.isReady
      rw [idle.1] at isReady
      cases isReady

/-- Every edit ends the wait of the edit before and begins its own. -/
theorem BurstWorld.edit
    {holder : Option (Nat × Change)} (bursts : BurstWorld burst none edits synchronizer system)
    (world : SyncWorld False burst.uri holder synchronizer system)
    (only : system.loop.HasOnly synchronizer.timer) (idle : system.loop.isIdle = true)
    (text : String) :
    ∃ later, BurstWorld burst none (edits ++ [⟨system.loop.now, text⟩]) later
      (System.noteEscaped (system.edit 0 text)) := by
  obtain ⟨sent, version, deliveries, duty⟩ := bursts.duty
  obtain ⟨timer?, passage, same, _⟩ := edit_passage world.start.passage text
  have clock := passage.loop.advances.now
  have edited := world.start.passage.modifySynchronizer
    (fun found => { found with text, dirty := true }) rfl world.parts.attached
  have editedReady : (system.modifySynchronizer 0 fun found =>
      { found with text, dirty := true }).isReady 0 = true :=
    (isReady_iff edited).mpr ⟨bursts.attached, bursts.isOpen⟩
  obtain ⟨_, _, _, notDue, deadlines⟩ := schedule_hasOnly edited.parts.synchronizers only
  have loop : (System.noteEscaped (system.edit 0 text)).loop =
      ((system.modifySynchronizer 0 fun found =>
        { found with text, dirty := true }).schedule 0).1.loop := by
    simp only [System.edit, editedReady, if_true]
    rcases (system.modifySynchronizer 0 fun found =>
      { found with text, dirty := true }).schedule 0 with ⟨later, failure | failure⟩ <;> rfl
  have notSending : ¬ (System.noteEscaped (system.edit 0 text)).IsSending := by
    rintro (due | ⟨found, member, begins⟩)
    · exact due (loop ▸ notDue)
    · rw [same.tasks] at member
      exact bursts.not_isSending idle (Or.inr ⟨found, member, begins⟩)
  rw [← loop] at deadlines
  refine ⟨_, {
    isOnly := passage.parts.synchronizers
    attached := bursts.attached
    isOpen := (same.isOpen 0).trans bursts.isOpen
    free := bursts.free
    debounce := bursts.debounce
    resolution := passage.loop.advances.resolution.trans bursts.resolution
    tasks := fun task found entry waits => ?_
    duty := ⟨sent, version, same.deliveries.trans deliveries, ?_⟩ }⟩
  · rw [same.tasks] at entry
    refine (bursts.tasks task found entry waits).imp_right fun soon => ?_
    exact (bursts.not_isSending idle
      (Or.inr ⟨found, List.mem_of_getElem? entry, soon.begins⟩)).elim
  · refine .last edits ⟨system.loop.now, text⟩ rfl ?_ rfl rfl ?_
      (fun sending => (notSending sending).elim) fun counted => Or.inl ?_
    · exact duty.sent_of_idle bursts.resolution (bursts.not_isSending idle) idle
    · intro timer waits
      have isDeadline := List.mem_map_of_mem (f := Timer.deadline) waits
      rw [deadlines, Option.mem_toList, Option.map_eq_some_iff] at isDeadline
      obtain ⟨delay, isDelay, isEnd⟩ := isDeadline
      rw [← isEnd, ← bursts.debounce]
      exact deadline_eq_waitEnd isDelay _
    · intro nothing
      rw [nothing, bursts.debounce] at deadlines
      cases delay : burst.debounce.delay? with
      | none => simp only [waitEnd?, delay, ne_eq, not_true_eq_false] at counted
      | some wait =>
          rw [delay] at deadlines
          cases deadlines

end Events

end LanguageClient.Client
