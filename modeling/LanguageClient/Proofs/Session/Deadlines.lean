import LanguageClient.Proofs.Session.Pending

/-!
# Deadlines

When its time is over, a request is settled as soon as the callbacks have run. The call that made it
ends then as well, unless its frame is still held back by the connection: the call awaits the
connection first, and nothing but the connection or a cancellation lets it go on.
-/

namespace LanguageClient.Client

open LanguageClient.Json LanguageClient.Loop LanguageClient.Number

theorem isDue_timer_iff (registration : Registration) (loop : ClientLoop) :
    loop.isDue registration.timer = true ↔ registration.IsDue loop.now loop.resolution := by
  simp only [Scheduler.isDue, Registration.timer, Registration.IsDue]
  cases registration.deadline with
  | none => simp
  | some deadline => simp

/-- A request was registered for a call, with the deadline that the call gives it then. -/
structure Registration.IsFor
    (registration : Registration) (system : System) (task : Nat) (method : String)
    (timeout : Option Quantity) : Prop where
  isTask : registration.task = task
  isMethod : registration.entry.method = method
  isTimeout : ∃ session, system.sessions[0]? = some session ∧
    registration.entry.timeout = timeout.getD session.defaultTimeout
  deadline : ∃ delay, registration.entry.timeout.delay? = some delay ∧
    registration.deadline = system.loop.deadline delay

/-- A call waits for the connection, which holds its frame back. -/
def IsHeldBack (system : System) (task promise : Nat) : Prop :=
  ∃ (found : TaskState Frame) (link : Nat) (frame : Value) (subject : String) (held : Nat),
    system.loop.tasks[task]? = some found ∧
      found.stack = [.sending link frame, .writing subject, .requesting promise] ∧
      found.awaiting = some held ∧ system.loop.outcome? held = none

section Runs

variable {start : System} {inputs : Nat → Input} (world : SessionWorld [] start)
  (table : HasTable [] [] start) (wakeful : start.loop.Wakeful none)
  (onSession : ∀ place, (inputs place).OnSession)

include world table wakeful onSession

/-- When nothing can run, the requests whose time is over are settled. -/
theorem session_settled_of_due
    {count : Nat} {registration : Registration} (idle : (start.after inputs count).loop.isIdle = true)
    (registered : registration ∈ start.registrations inputs count)
    (due : registration.IsDue (start.after inputs count).loop.now
      (start.after inputs count).loop.resolution) :
    (start.after inputs count).loop.outcome? registration.entry.promise ≠ none := by
  intro unsettled
  simp only [Scheduler.isIdle, Bool.and_eq_true, Bool.not_eq_true', List.isEmpty_iff] at idle
  obtain ⟨rests, noneDue⟩ := idle
  obtain ⟨found, _, tracked, timed, _⟩ :=
    (session_table world table wakeful onSession count).1.at_rest rests
  have isArmed := (Timed.armed_iff tracked timed registered).mpr unsettled
  have notDue := List.any_eq_false.mp noneDue registration.timer isArmed
  exact notDue ((isDue_timer_iff registration _).mpr due)

/-- The registration that a task makes belongs to the call for which it was started. -/
theorem session_isFor
    {started made : Nat} {method : String} {params : Option Value} {timeout : Option Quantity}
    {registration : Registration}
    (starts : inputs started = .call (.request 0 method params timeout))
    (registers : (start.after inputs made).registration? (inputs made) = some registration)
    (isTask : registration.task = (start.after inputs started).nextTask) :
    started < made ∧
      registration.IsFor (start.after inputs made) registration.task method timeout := by
  have turns := (of_registration? registers).1
  simp only [turns, System.registration?, Option.bind_eq_some_iff] at registers
  obtain ⟨⟨callback, rest⟩, next, registers⟩ := registers
  have taken := Scheduler.taken_of_next? next
  cases callback with
  | resume task =>
      simp only [System.registrationIn?, Option.bind_eq_some_iff] at registers
      obtain ⟨call, begins, registers⟩ := registers
      have sameTask := task_of_registrationBy? registers
      simp only [System.begunCall?, Option.bind_eq_some_iff] at begins
      obtain ⟨found, entry, begins⟩ := begins
      split at begins
      · cases begins
      · rename_i goesOn
        have stackEq : found.stack = [.begin call] := by
          split at begins
          · rename_i begun isBegun
            rw [isBegun, Option.some.inj begins]
          · cases begins
        simp only [taken.tasks] at entry
        have inside : task < (start.after inputs made).nextTask :=
          (List.getElem?_eq_some_iff.mp entry).1
        have later : started < made := by
          rcases Nat.lt_or_ge started made with later | earlier
          · exact later
          · have fewer := session_nextTask world table wakeful onSession earlier
            rw [← isTask, sameTask] at fewer
            omega
        obtain ⟨same, sameEntry, state⟩ := session_place world onSession starts later
        rw [← isTask, sameTask, entry] at sameEntry
        obtain rfl := Option.some.inj sameEntry
        have isCall : call = .request 0 method params timeout := by
          rcases state with ⟨outcome, ended, _⟩ | ⟨_, waits⟩
          · have endedLater : rest.outcome? found.completion = some outcome :=
              (taken.outcome?_eq found.completion).trans ended
            simp [Scheduler.hasEnded, Scheduler.isSettled, taken.tasks, entry, endedLater]
              at goesOn
          · rcases waits with ⟨unbegun, _⟩ | ⟨_, _, _, ⟨_, _, _, sends⟩ | ⟨awaits, _⟩⟩
            · rw [stackEq] at unbegun
              simpa using unbegun
            · rw [stackEq] at sends
              simp at sends
            · rw [stackEq] at awaits
              simp at awaits
        subst isCall
        refine ⟨later, ?_⟩
        simp only [System.registrationBy?, Option.bind_eq_some_iff] at registers
        obtain ⟨session, sessionFound, registers⟩ := registers
        split at registers
        · cases registers
        · obtain ⟨delay, counted, rfl⟩ := Option.map_eq_some_iff.mp registers
          refine ⟨rfl, rfl, ⟨session, sessionFound, rfl⟩, delay, counted, ?_⟩
          cases delay with
          | seconds value => simp only [Scheduler.deadline, taken.now]
          | forever => rfl
  | _ => cases registers

end Runs

/-- When nothing can run, the requests whose time is over are settled, and a call for a request has
ended, or its time is not over, or the connection still holds its frame back. -/
theorem calls_end_or_wait
    (resolution : Rat) (defaultTimeout : Quantity) (inputs : Nat → Input)
    (onSession : ∀ place, (inputs place).OnSession) :
    let start := System.ofSession resolution defaultTimeout
    let run := start.after inputs
    ∀ count, (run count).loop.isIdle = true →
      (∀ registration ∈ start.registrations inputs count,
        registration.IsDue (run count).loop.now (run count).loop.resolution →
          (run count).loop.outcome? registration.entry.promise ≠ none) ∧
      ∀ started method params timeout, started < count →
        inputs started = .call (.request 0 method params timeout) →
          (∃ outcome, (run count).ending? (run started).nextTask = some outcome) ∨
          ∃ registration made, started < made ∧ made < count ∧
            (run made).registration? (inputs made) = some registration ∧
            registration.IsFor (run made) (run started).nextTask method timeout ∧
            (¬ registration.IsDue (run count).loop.now (run count).loop.resolution ∨
              IsHeldBack (run count) (run started).nextTask registration.entry.promise) := by
  intro start run count idle
  have world : SessionWorld [] start := ofSession_world resolution defaultTimeout
  have table : HasTable [] [] start := ofSession_table resolution defaultTimeout
  have wakeful : start.loop.Wakeful none := .of_empty rfl
  have settles : ∀ registration ∈ start.registrations inputs count,
      registration.IsDue (run count).loop.now (run count).loop.resolution →
        (run count).loop.outcome? registration.entry.promise ≠ none :=
    fun registration registered => session_settled_of_due world table wakeful onSession idle registered
  refine ⟨settles, ?_⟩
  intro started method params timeout passes starts
  have rests : (run count).loop.ready = [] := by
    simp only [Scheduler.isIdle, Bool.and_eq_true, List.isEmpty_iff] at idle
    exact idle.1
  have wakefulNow := (session_table world table wakeful onSession count).2
  obtain ⟨found, entry, state⟩ := session_place world onSession starts passes
  rcases state with ⟨outcome, ended, _⟩ | ⟨unended, waits⟩
  · left
    exact ⟨outcome, by simp only [System.ending?, run, entry, Option.bind_some, ended]⟩
  · obtain ⟨promise, awaits, unsettled⟩ := wakefulNow.awaits rests entry unended
    rcases waits with ⟨_, idleTask⟩ | ⟨registration, registered, isTask, rest⟩
    · rw [idleTask] at awaits
      cases awaits
    · right
      obtain ⟨made, inside, registers⟩ := System.mem_registrations.mp registered
      obtain ⟨later, isFor⟩ :=
        session_isFor world table wakeful onSession starts registers isTask
      rw [isTask] at isFor
      refine ⟨registration, made, later, inside, registers, isFor, ?_⟩
      rcases rest with ⟨link, frame, subject, stackEq⟩ | ⟨_, awaitsAnswer⟩
      · exact Or.inr ⟨found, link, frame, subject, promise, entry, stackEq, awaits, unsettled⟩
      · left
        intro due
        rw [awaitsAnswer] at awaits
        rw [← Option.some.inj awaits] at unsettled
        exact settles registration registered due unsettled

/-- A request whose frame is held back until its time is over. -/
def heldRequest : Nat → Input
  | 0 => .behave { holding := true }
  | 1 => .call (.request 0 "first" none (some (.int 1)))
  | 3 => .tick 5
  | _ => .turn

theorem calls_end_or_wait_heldRequest :
    (∀ place, (heldRequest place).OnSession) ∧
    ((System.ofSession 0 (.int 30)).after heldRequest 7).loop.isIdle = true ∧
    ((System.ofSession 0 (.int 30)).after heldRequest 7).ending? 0 = none ∧
    ∃ registration made, 1 < made ∧ made < 7 ∧
      ((System.ofSession 0 (.int 30)).after heldRequest made).registration? (heldRequest made) =
        some registration ∧
      registration.IsFor ((System.ofSession 0 (.int 30)).after heldRequest made) 0 "first"
        (some (.int 1)) ∧
      (¬ registration.IsDue ((System.ofSession 0 (.int 30)).after heldRequest 7).loop.now
          ((System.ofSession 0 (.int 30)).after heldRequest 7).loop.resolution ∨
        IsHeldBack ((System.ofSession 0 (.int 30)).after heldRequest 7) 0
          registration.entry.promise) := by
  have onSession : ∀ place, (heldRequest place).OnSession := by
    intro place
    unfold heldRequest
    split
    · trivial
    · exact rfl
    · trivial
    · trivial
  have idle : ((System.ofSession 0 (.int 30)).after heldRequest 7).loop.isIdle = true := by
    decide +kernel
  have unended : ((System.ofSession 0 (.int 30)).after heldRequest 7).ending? 0 = none := by
    decide +kernel
  have ends := (calls_end_or_wait 0 (.int 30) heldRequest onSession 7 idle).2 1 "first" none
    (some (.int 1)) (by omega) rfl
  rcases ends with ⟨outcome, ended⟩ | waits
  · have isTask : ((System.ofSession 0 (.int 30)).after heldRequest 1).nextTask = 0 := rfl
    rw [isTask, unended] at ended
    cases ended
  · exact ⟨onSession, idle, unended, waits⟩

end LanguageClient.Client
