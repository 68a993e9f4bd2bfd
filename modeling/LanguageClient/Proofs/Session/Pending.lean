import Mathlib.Data.List.Perm.Basic
import LanguageClient.Proofs.Session.Correlation
import LanguageClient.Proofs.Session.TableSteps

/-!
# The table at rest

Between two rounds of callbacks the table of a session holds exactly the requests that are not
settled, each with one armed timer, and no other timer is armed. A closed session has an empty table
and refuses every call without a trace.
-/

namespace LanguageClient.Client

open LanguageClient.Json LanguageClient.Loop LanguageClient.Number

/-- The requests that were registered by some of the inputs of a run and are not settled. -/
def System.openRegistrations
    (system : System) (inputs : Nat → Input) (count : Nat) : List Registration :=
  (system.registrations inputs count).filter fun registration =>
    !(system.after inputs count).loop.isSettled registration.entry.promise

section Runs

theorem ofSession_table (resolution : Rat) (defaultTimeout : Quantity) :
    HasTable [] [] (System.ofSession resolution defaultTimeout) := by
  refine ⟨_, rfl, ?_, ?_, fun _ => rfl⟩
  · exact {
      entries := List.Sublist.refl _
      listed := by simp
      waiting := by simp
      leaving := by simp
      removals := by simp [System.ofSession, System.addLink, System.addSession]
      waits := by
        rintro promise session id ⟨entry, found, _⟩
        simp [System.ofSession, System.addLink, System.addSession] at found }
  · exact {
      timers := List.Sublist.refl _
      armed := by simp
      listed := by simp
      known := by simp
      distinct := List.nodup_nil }

variable {start : System} {inputs : Nat → Input} (world : SessionWorld [] start)
  (table : HasTable [] [] start) (wakeful : start.loop.Wakeful none)
  (onSession : ∀ place, (inputs place).OnSession)

include world table wakeful onSession

theorem session_table (count : Nat) :
    HasTable (start.registrations inputs count) [] (start.after inputs count) ∧
      (start.after inputs count).loop.Wakeful none := by
  induction count with
  | zero =>
      exact ⟨table, wakeful⟩
  | succ count inductionHypothesis =>
      have step := input_table (session_world world onSession count) (onSession count)
        inductionHypothesis.1 inductionHypothesis.2
      exact ⟨step.table, step.wakeful⟩

theorem session_tableStep (count : Nat) :
    TableStep (start.registrations inputs (count + 1)) (start.after inputs count)
      (start.after inputs (count + 1)) := by
  obtain ⟨tableNow, wakefulNow⟩ := session_table world table wakeful onSession count
  exact input_table (session_world world onSession count) (onSession count) tableNow wakefulNow

theorem session_shut
    {first second : Nat} (passes : first ≤ second) (shut : IsShut (start.after inputs first)) :
    IsShut (start.after inputs second) := by
  obtain ⟨more, rfl⟩ := Nat.exists_eq_add_of_le passes
  induction more with
  | zero =>
      exact shut
  | succ more inductionHypothesis =>
      exact (session_tableStep world table wakeful onSession (first + more)).shut
        (inductionHypothesis (Nat.le_add_right first more))

theorem session_nextTask {first second : Nat} (passes : first ≤ second) :
    (start.after inputs first).nextTask ≤ (start.after inputs second).nextTask := by
  obtain ⟨more, rfl⟩ := Nat.exists_eq_add_of_le passes
  induction more with
  | zero =>
      exact Nat.le_refl _
  | succ more inductionHypothesis =>
      exact Nat.le_trans (inductionHypothesis (Nat.le_add_right first more))
        (session_tableStep world table wakeful onSession (first + more)).grown

end Runs

/-! ## One state -/

section States

variable {registered : List Registration} {system : System} {found : Session}
  {pending : List PendingRequest}

/-- What is kept for exactly the open requests, in order, is what the open requests give. -/
theorem eq_map_of_open
    {Item : Type} {items : List Item} (give : Registration → Item)
    (distinct : (registered.map give).Nodup) (sublist : items.Sublist (registered.map give))
    (tracks : ∀ registration ∈ registered,
      give registration ∈ items ↔ system.loop.outcome? registration.entry.promise = none) :
    items = (registered.filter fun registration =>
      !system.loop.isSettled registration.entry.promise).map give := by
  have within : ((registered.filter fun registration =>
      !system.loop.isSettled registration.entry.promise).map give).Sublist
        (registered.map give) :=
    List.filter_sublist.map give
  refine (distinct.perm_iff_eq_of_sublist sublist within).mp ?_
  refine (List.perm_ext_iff_of_nodup (sublist.nodup distinct) (within.nodup distinct)).mpr ?_
  intro item
  simp only [List.mem_map, List.mem_filter]
  constructor
  · intro member
    obtain ⟨registration, isRegistered, rfl⟩ := List.mem_map.mp (sublist.subset member)
    have unsettled := (tracks registration isRegistered).mp member
    exact ⟨registration, ⟨isRegistered, by simp [Scheduler.isSettled, unsettled]⟩, rfl⟩
  · rintro ⟨registration, ⟨isRegistered, isOpen⟩, rfl⟩
    refine (tracks registration isRegistered).mpr ?_
    simpa [Scheduler.isSettled] using isOpen

/-- When nothing is ready, an entry is in the table exactly while its request is not settled. -/
theorem Tracked.listed_iff
    {registration : Registration} (tracked : Tracked registered [] system.loop pending)
    (member : registration ∈ registered) :
    registration.entry ∈ pending ↔
      system.loop.outcome? registration.entry.promise = none := by
  constructor
  · intro listed
    by_cases unsettled : system.loop.outcome? registration.entry.promise = none
    · exact unsettled
    · have isComing := tracked.leaving registration member unsettled listed
      cases isComing
  · exact tracked.listed registration member

/-- When nothing is ready, a timer is armed exactly while its request is not settled. -/
theorem Timed.armed_iff
    {registration : Registration} (tracked : Tracked registered [] system.loop pending)
    (timed : Timed registered [] system.loop pending) (member : registration ∈ registered) :
    registration.timer ∈ system.loop.timers ↔
      system.loop.outcome? registration.entry.promise = none := by
  constructor
  · intro isArmed
    exact (tracked.listed_iff member).mp (timed.listed registration member isArmed)
  · intro unsettled
    rcases timed.armed registration member unsettled with isArmed | isComing
    · exact isArmed
    · cases isComing

theorem HasTable.at_rest
    (table : HasTable registered [] system) (rests : system.loop.ready = []) :
    ∃ found, system.sessions = [found] ∧ Tracked registered [] system.loop found.pending ∧
      Timed registered [] system.loop found.pending ∧
      (found.closed = true → found.pending = []) := by
  obtain ⟨found, only, tracked, timed, closes⟩ := table
  rw [rests] at tracked timed
  exact ⟨found, only, tracked, timed, closes⟩

/-- A closed session refuses a call, whatever else the client does. -/
theorem IsShut.refuses
    (shut : IsShut system) (loop : ClientLoop) (method : String) (params : Option Value)
    (timeout : Option Quantity) :
    let client : System := { system with loop }
    client.call (.request 0 method params timeout) = .failed client (.sessionClosed method) ∧
      client.call (.notify 0 method params) = .failed client (.sessionClosed method) := by
  obtain ⟨found, only, closed⟩ := shut
  intro client
  have sessionFound : client.sessions[0]? = some found := by
    simp only [client, only]
    rfl
  constructor
  · simp only [System.call, System.request, sessionFound, closed, if_true]
  · simp only [System.call, System.notify, sessionFound, closed, if_true]

end States

/-- When no callback is ready, the table of a session holds the open requests in order, each with
one timer that is armed, and no other timer is armed. If the session is closed, then no request is
open, and it refuses requests and notifications from then on without any effect. -/
theorem pending_at_rest
    (resolution : Rat) (defaultTimeout : Quantity) (inputs : Nat → Input)
    (onSession : ∀ place, (inputs place).OnSession) :
    let start := System.ofSession resolution defaultTimeout
    let run := start.after inputs
    ∀ count, (run count).loop.ready = [] →
      ∃ session, (run count).sessions = [session] ∧
        session.pending = (start.openRegistrations inputs count).map (·.entry) ∧
        (session.pending.map (·.id)).Nodup ∧
        (run count).loop.timers = (start.openRegistrations inputs count).map Registration.timer ∧
        ((run count).loop.timers.map (·.id)).Nodup ∧
        (session.closed = true →
          start.openRegistrations inputs count = [] ∧
          ∀ later, count ≤ later → ∀ loop method params timeout,
            let client : System := { run later with loop }
            client.call (.request 0 method params timeout) =
                .failed client (.sessionClosed method) ∧
              client.call (.notify 0 method params) =
                .failed client (.sessionClosed method)) := by
  intro start run count rests
  have world : SessionWorld [] start := ofSession_world resolution defaultTimeout
  have table : HasTable [] [] start := ofSession_table resolution defaultTimeout
  have wakeful : start.loop.Wakeful none := .of_empty rfl
  have parts := (session_world world onSession count).parts
  obtain ⟨session, only, tracked, timed, closes⟩ :=
    (session_table world table wakeful onSession count).1.at_rest rests
  have idsOf : (start.registrations inputs count).map (·.entry.id) =
      ((start.registrations inputs count).map (·.entry)).map (·.id) := by
    rw [List.map_map]
    rfl
  have ids := parts.idsDistinct
  rw [idsOf] at ids
  have entriesDistinct := List.Nodup.of_map _ ids
  have numbersOf : (start.registrations inputs count).map (·.entry.timer) =
      ((start.registrations inputs count).map Registration.timer).map Timer.id := by
    rw [List.map_map]
    rfl
  have numbers := timed.distinct
  rw [numbersOf] at numbers
  have pendingEq : session.pending = (start.openRegistrations inputs count).map (·.entry) :=
    eq_map_of_open (·.entry) entriesDistinct tracked.entries fun _ => tracked.listed_iff
  have timersEq : (run count).loop.timers =
      (start.openRegistrations inputs count).map Registration.timer :=
    eq_map_of_open Registration.timer (List.Nodup.of_map _ numbers) timed.timers
      fun _ => Timed.armed_iff tracked timed
  refine ⟨session, only, pendingEq, (tracked.entries.map _).nodup ids, timersEq,
    (timed.timers.map _).nodup numbers, fun closed => ⟨?_, ?_⟩⟩
  · have nothing := closes closed
    rw [pendingEq] at nothing
    exact List.map_eq_nil_iff.mp nothing
  · intro later passes loop method params timeout
    have shut : IsShut (run later) :=
      session_shut world table wakeful onSession passes ⟨session, only, closed⟩
    exact shut.refuses loop method params timeout

/-- Two requests, of which the first is answered, and the end of the session. -/
def closedSession : Nat → Input
  | 0 => .call (.request 0 "first" none none)
  | 1 => .call (.request 0 "second" none none)
  | 4 => .receive 0 "\x7b\"id\": \"1\", \"result\": 7\x7d"
  | 8 => .call (.closeSession 0)
  | _ => .turn

theorem closedSession_onSession (place : Nat) : (closedSession place).OnSession := by
  unfold closedSession
  split
  · exact rfl
  · exact rfl
  · trivial
  · exact rfl
  · trivial

theorem pending_at_rest_closedSession :
    (∀ place, (closedSession place).OnSession) ∧
    ((System.ofSession 0 (.float (.infinite false))).after closedSession 8).loop.ready = [] ∧
    (∃ session,
      ((System.ofSession 0 (.float (.infinite false))).after closedSession 8).sessions =
        [session] ∧
      session.pending.map (·.id) = ["2"] ∧
      session.pending = ((System.ofSession 0 (.float (.infinite false))).openRegistrations
        closedSession 8).map (·.entry)) ∧
    ((System.ofSession 0 (.float (.infinite false))).after closedSession 12).loop.ready = [] ∧
    ∃ session,
      ((System.ofSession 0 (.float (.infinite false))).after closedSession 12).sessions =
        [session] ∧
      session.closed = true ∧
      (System.ofSession 0 (.float (.infinite false))).openRegistrations closedSession 12 = [] := by
  have rests :
      ((System.ofSession 0 (.float (.infinite false))).after closedSession 8).loop.ready = [] := by
    decide +kernel
  have restsLater :
      ((System.ofSession 0 (.float (.infinite false))).after closedSession 12).loop.ready = [] := by
    decide +kernel
  have ids : ((System.ofSession 0 (.float (.infinite false))).after closedSession 8).sessions.map
      (fun found => found.pending.map (·.id)) = [["2"]] := by
    decide +kernel
  have isClosed :
      ((System.ofSession 0 (.float (.infinite false))).after closedSession 12).sessions.map
        (·.closed) = [true] := by
    decide +kernel
  have atRest := pending_at_rest 0 (.float (.infinite false)) closedSession closedSession_onSession
  obtain ⟨session, only, pending, _⟩ := atRest 8 rests
  obtain ⟨later, laterOnly, _, _, _, _, closes⟩ := atRest 12 restsLater
  have sessionIds : session.pending.map (·.id) = ["2"] := by
    rw [only] at ids
    exact List.singleton_inj.mp ids
  have laterClosed : later.closed = true := by
    rw [laterOnly] at isClosed
    exact List.singleton_inj.mp isClosed
  exact ⟨closedSession_onSession, rests, ⟨session, only, sessionIds, pending⟩, restsLater, later,
    laterOnly, laterClosed, (closes laterClosed).1⟩

end LanguageClient.Client
