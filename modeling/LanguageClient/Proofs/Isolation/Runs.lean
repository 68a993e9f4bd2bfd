import LanguageClient.Proofs.Isolation.Shows
import LanguageClient.Proofs.Session.Pending

/-!
# Requests do not interfere

Two runs of a session may differ in all that concerns one request: whether and when it is answered, how
much time it has, whether it is cancelled and whether its frame is refused. If they agree on all other
events, then everything else comes out the same. The argument is an induction over the inputs of both runs,
in which `Alike` holds all the time: an input that is no event is not noticed by others, and the same event
on both sides leaves the clients alike.
-/

namespace LanguageClient.Client

open LanguageClient.Json LanguageClient.Loop LanguageClient.Number LanguageClient.Protocol

section Runs

variable {target : Target} {start : System} {inputs left right : Nat → Input} {count : Nat}

theorem registrations_within
    {earlier later : Nat} (passes : earlier ≤ later) {registration : Registration}
    (member : registration ∈ start.registrations inputs earlier) :
    registration ∈ start.registrations inputs later := by
  obtain ⟨place, inside, registers⟩ := System.mem_registrations.mp member
  exact System.mem_registrations.mpr ⟨place, Nat.lt_of_lt_of_le inside passes, registers⟩

theorem Target.IsMade.of_le
    {later : Nat} (made : target.IsMade start inputs later) (passes : count ≤ later) :
    target.IsMade start inputs count where
  called := made.called
  numbered := fun registration member =>
    made.numbered registration (registrations_within passes member)

/-- Clients of one session are alike before anything has happened. -/
theorem alike_ofSession (target : Target) (resolution : Rat) (defaultTimeout : Quantity) :
    Alike target (fun _ _ => False) (.ofSession resolution defaultTimeout)
      (.ofSession resolution defaultTimeout) := by
  have secluded (foreign : Nat → Prop) (nobody : ∀ promise, ¬ foreign promise) :
      Secluded target foreign (.ofSession resolution defaultTimeout) := {
    owned := by
      rintro promise (⟨found, entry, _⟩ | ⟨session, inside, entry, listed, _⟩)
      · cases entry
      · rw [List.mem_singleton.mp inside] at listed
        cases listed
    known := fun promise isForeign => (nobody promise isForeign).elim
    stack := fun _ entry => by cases entry
    ungrouped := fun _ => rfl
    awaited := fun promise isForeign => (nobody promise isForeign).elim
    detained := fun _ member => by cases member
    session := ⟨_, rfl⟩ }
  exact {
    secludedLeft := secluded _ fun _ ⟨_, pair⟩ => pair
    secludedRight := secluded _ fun _ ⟨_, pair⟩ => pair
    unique := fun _ _ _ _ pair => pair.elim
    outcomes := fun _ _ pair => pair.elim
    nextTask := rfl
    tasks := fun _ _ => .none
    outline := rfl
    opens := by
      rintro entry _ ⟨⟨session, inside, listed⟩, _⟩
      rw [List.mem_singleton.mp inside] at listed
      cases listed
    opened := by
      rintro entry _ ⟨⟨session, inside, listed⟩, _⟩
      rw [List.mem_singleton.mp inside] at listed
      cases listed
    handed := rfl
    accepted := rfl }

/-- What holds before each input of a run in which the request is made. -/
theorem Target.IsMade.proceeds
    (made : target.IsMade start inputs (count + 1)) (world : SessionWorld [] start)
    (table : HasTable [] [] start) (wakeful : start.loop.Wakeful none)
    (onSession : ∀ place, (inputs place).OnSession) :
    target.Proceeds (start.registrations inputs count) (start.after inputs count) (inputs count) where
  world := session_world world onSession count
  table := (session_table world table wakeful onSession count).1
  onSession := onSession count
  called := fun isOwn grows => by
    have grown {first second : Nat} (passes : first ≤ second) :=
      session_nextTask world table wakeful onSession passes
    obtain ⟨place, method, params, timeout, isPlace, calls⟩ := made.called
    have spawned : (start.after inputs (place + 1)).nextTask = target.task + 1 := by
      simp [System.after, calls, System.step, System.spawn, System.onLoop, System.nextTask,
        Scheduler.spawn, Scheduler.enqueue, Scheduler.nextTask, ← isPlace]
    -- The number of tasks passes that of the request once, and that is where it is called.
    have isCall : place = count := by
      rcases Nat.lt_trichotomy place count with earlier | same | later
      · have passed := grown (Nat.succ_le_of_lt earlier)
        rw [spawned, isOwn] at passed
        exact (Nat.not_succ_le_self _ passed).elim
      · exact same
      · have passed := grown (Nat.succ_le_of_lt later)
        have more := grown (Nat.le_succ count)
        rw [isPlace, ← isOwn] at passed
        exact (grows (Nat.le_antisymm passed more)).elim
    exact ⟨method, params, timeout, isCall ▸ calls⟩
  numbered := fun registration registers =>
    made.numbered registration
      (System.mem_registrations.mpr ⟨count, Nat.lt_succ_self count, registers⟩)

section Events

variable (world : SessionWorld [] start) (table : HasTable [] [] start)
  (wakeful : start.loop.Wakeful none) (onSession : ∀ place, (left place).OnSession)
  (onSessionThere : ∀ place, (right place).OnSession)
  (alike : Alike target (fun _ _ => False) start start)

include world table wakeful onSession onSessionThere alike

omit onSessionThere alike in
/-- An input that is no event keeps clients alike, whatever the other client has been through. -/
theorem alike_of_silence
    {paired : Nat → Nat → Prop} {there : System} (made : target.IsMade start left (count + 1))
    (same : Alike target paired (start.after left count) there)
    (nothing : (start.after left count).event? target (left count) = none) :
    Alike target paired (start.after left (count + 1)) there :=
  same.hide_left
    (same.secludedLeft.step_hides (made.proceeds world table wakeful onSession) nothing)

/-- After the same events apart from the request, the clients of two runs are alike. -/
theorem alike_of_events
    {leftCount rightCount : Nat} (made : target.IsMade start left leftCount)
    (madeThere : target.IsMade start right rightCount)
    (same : start.events target left leftCount = start.events target right rightCount) :
    ∃ paired, Alike target paired (start.after left leftCount) (start.after right rightCount) := by
  induction leftCount generalizing rightCount with
  | zero =>
      induction rightCount with
      | zero => exact ⟨_, alike⟩
      | succ rightCount inductionHypothesis =>
          obtain ⟨earlier, nothing⟩ := List.append_eq_nil_iff.mp same.symm
          obtain ⟨paired, alike⟩ :=
            inductionHypothesis (madeThere.of_le (Nat.le_succ _)) earlier.symm
          exact ⟨paired, (alike_of_silence world table wakeful onSessionThere madeThere alike.symm
            (Option.toList_eq_nil_iff.mp nothing)).symm⟩
  | succ leftCount inductionHypothesis =>
      cases isEvent : (start.after left leftCount).event? target (left leftCount) with
      | none =>
          simp only [System.events, isEvent, Option.toList_none, List.append_nil] at same
          obtain ⟨paired, alike⟩ :=
            inductionHypothesis (made.of_le (Nat.le_succ _)) madeThere same
          exact ⟨paired, alike_of_silence world table wakeful onSession made alike isEvent⟩
      | some event =>
          clear alike
          induction rightCount with
          | zero => simp [System.events, isEvent] at same
          | succ rightCount innerHypothesis =>
              cases isEventThere :
                (start.after right rightCount).event? target (right rightCount) with
              | none =>
                  simp only [System.events, isEventThere, Option.toList_none, List.append_nil] at same
                  obtain ⟨paired, alike⟩ :=
                    innerHypothesis (madeThere.of_le (Nat.le_succ _)) same
                  exact ⟨paired, (alike_of_silence world table wakeful onSessionThere madeThere
                    alike.symm isEventThere).symm⟩
              | some eventThere =>
                  simp only [System.events, isEvent, isEventThere, Option.toList_some] at same
                  obtain ⟨earlier, sameEvent⟩ := List.append_inj' same rfl
                  obtain rfl := List.singleton_inj.mp sameEvent
                  obtain ⟨paired, alike⟩ := inductionHypothesis (made.of_le (Nat.le_succ _))
                    (madeThere.of_le (Nat.le_succ _)) earlier
                  have proceeds := made.proceeds world table wakeful onSession
                  have proceedsThere := madeThere.proceeds world table wakeful onSessionThere
                  obtain ⟨wider, _, later⟩ := alike.shows proceeds proceedsThere
                    (event?_shows proceeds isEvent) (event?_shows proceedsThere isEventThere)
                  exact ⟨wider, later⟩

end Events

end Runs

/-- A task of somebody else has ended alike on both sides, or on neither. -/
theorem Alike.ending?_eq
    {target : Target} {paired : Nat → Nat → Prop} {left right : System}
    (alike : Alike target paired left right) {task : Nat} (isOther : task ≠ target.task) :
    left.ending? task = right.ending? task := by
  rcases alike.task_cases isOther with
    ⟨unknown, unknownThere⟩ | ⟨found, foundThere, entry, entryThere, same⟩
  · simp only [System.ending?, unknown, unknownThere, Option.bind_none]
  · simp only [System.ending?, entry, entryThere, Option.bind_some,
      alike.outcomes _ _ same.completion]

/-- Requests do not interfere. If two runs of a session agree on all events but those that concern one
request, then every other call has ended in the same way in both, or in neither, and the frames that were
handed over and accepted for others are the same, in the same order. -/
theorem requests_do_not_interfere
    (resolution : Rat) (defaultTimeout : Quantity) (target : Target) (left right : Nat → Input)
    (leftCount rightCount : Nat) (onSession : ∀ place, (left place).OnSession)
    (onSessionThere : ∀ place, (right place).OnSession) :
    let start := System.ofSession resolution defaultTimeout
    target.IsMade start left leftCount → target.IsMade start right rightCount →
    start.events target left leftCount = start.events target right rightCount →
      (∀ task, task ≠ target.task →
        (start.after left leftCount).ending? task = (start.after right rightCount).ending? task) ∧
      target.others (start.after left leftCount).handedFrames =
        target.others (start.after right rightCount).handedFrames ∧
      target.others (start.after left leftCount).acceptedFrames =
        target.others (start.after right rightCount).acceptedFrames := by
  intro start made madeThere same
  obtain ⟨paired, alike⟩ := alike_of_events (ofSession_world resolution defaultTimeout)
    (ofSession_table resolution defaultTimeout) (.of_empty rfl) onSession onSessionThere
    (alike_ofSession target resolution defaultTimeout) made madeThere same
  exact ⟨fun _ isOther => alike.ending?_eq isOther, alike.handed, alike.accepted⟩

/-- Two requests, and both are answered. -/
def answeredFirst : Nat → Input
  | 0 => .call (.request 0 "first" none none)
  | 1 => .call (.request 0 "second" none none)
  | 4 => .receive 0 "\x7b\"id\": \"1\", \"result\": 7\x7d"
  | 7 => .receive 0 "\x7b\"id\": \"2\", \"result\": 8\x7d"
  | _ => .turn

/-- Two requests, of which the frame of the first is refused, and the second is answered. -/
def refusedFirst : Nat → Input
  | 0 => .call (.request 0 "first" none (some (.int 5)))
  | 1 => .call (.request 0 "second" none none)
  | 2 => .behave { refusal := some { mode := .reset, methods := none } }
  | 4 => .behave {}
  | 7 => .receive 0 "\x7b\"id\": \"2\", \"result\": 8\x7d"
  | _ => .turn

theorem requests_do_not_interfere_refusedFirst :
    let start := System.ofSession 0 (.float (.infinite false))
    let target : Target := { task := 0, id := "1" }
    (∀ place, (answeredFirst place).OnSession) ∧ (∀ place, (refusedFirst place).OnSession) ∧
    target.IsMade start answeredFirst 11 ∧ target.IsMade start refusedFirst 11 ∧
    start.events target answeredFirst 11 = start.events target refusedFirst 11 ∧
    (start.after answeredFirst 11).ending? 0 = some (.returned (.result (.int 7))) ∧
    (start.after refusedFirst 11).ending? 0 = some (.failed (.unsent "first" "socket is gone")) ∧
    (start.after answeredFirst 11).ending? 1 = some (.returned (.result (.int 8))) ∧
    (start.after refusedFirst 11).ending? 1 = some (.returned (.result (.int 8))) ∧
    target.others (start.after refusedFirst 11).acceptedFrames =
      [requestMessage "2" "second" none] := by
  intro start target
  have onSession (place : Nat) : (answeredFirst place).OnSession := by
    unfold answeredFirst
    split <;> first | rfl | trivial
  have onSessionThere (place : Nat) : (refusedFirst place).OnSession := by
    unfold refusedFirst
    split <;> first | rfl | trivial
  have made : target.IsMade start answeredFirst 11 :=
    ⟨⟨0, "first", none, none, rfl, rfl⟩, by decide +kernel⟩
  have madeThere : target.IsMade start refusedFirst 11 :=
    ⟨⟨0, "first", none, some (.int 5), rfl, rfl⟩, by decide +kernel⟩
  have same : start.events target answeredFirst 11 = start.events target refusedFirst 11 := by
    decide +kernel
  have answered : (start.after answeredFirst 11).ending? 1 = some (.returned (.result (.int 8))) := by
    decide +kernel
  have accepted : target.others (start.after answeredFirst 11).acceptedFrames =
      [requestMessage "2" "second" none] := by
    decide +kernel
  obtain ⟨endings, _, frames⟩ := requests_do_not_interfere 0 (.float (.infinite false)) target
    answeredFirst refusedFirst 11 11 onSession onSessionThere made madeThere same
  exact ⟨onSession, onSessionThere, made, madeThere, same, by decide +kernel, by decide +kernel,
    answered, (endings 1 (by decide)).symm.trans answered, frames.symm.trans accepted⟩

end LanguageClient.Client
