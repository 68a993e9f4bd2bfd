import LanguageClient.Proofs.Session.Course
import LanguageClient.Proofs.Session.Steps

/-!
# The table of a session

An invariant of the table: a request stays in it, with its timer armed, until its promise is settled,
and from then on only until the callback runs that removes it. The invariant holds in the middle of
a turn as well, when the callback that is running still counts as coming.
-/

namespace LanguageClient.Client

open LanguageClient.Json LanguageClient.Loop LanguageClient.Number

/-- The timer of a request. -/
def Registration.timer (registration : Registration) : Timer Action where
  id := registration.entry.timer
  deadline := registration.deadline
  action := .expire 0 registration.entry.id

/-- The callback that ends a request because its time is over. -/
def Registration.expiry (registration : Registration) : Callback Action :=
  .fire registration.entry.timer (.expire 0 registration.entry.id)

/-- The callback that removes a request from the table. -/
def Registration.removal (registration : Registration) : Callback Action :=
  .act (.discard 0 registration.entry.id)

/-- The entries of the table follow the promises of the requests. -/
structure Tracked
    (registered : List Registration) (coming : List (Callback Action)) (loop : ClientLoop)
    (pending : List PendingRequest) : Prop where
  entries : pending.Sublist (registered.map (·.entry))
  listed : ∀ registration ∈ registered, loop.outcome? registration.entry.promise = none →
    registration.entry ∈ pending
  waiting : ∀ registration ∈ registered, loop.outcome? registration.entry.promise = none →
    loop.WaitsFor registration.entry.promise registration.removal
  leaving : ∀ registration ∈ registered, loop.outcome? registration.entry.promise ≠ none →
    registration.entry ∈ pending → registration.removal ∈ coming
  removals : ∀ session id, .act (.discard session id) ∈ coming →
    ∃ registration ∈ registered, session = 0 ∧ registration.entry.id = id ∧
      loop.outcome? registration.entry.promise ≠ none
  waits : ∀ promise session id, loop.WaitsFor promise (.act (.discard session id)) →
    ∃ registration ∈ registered, session = 0 ∧ registration.entry.id = id ∧
      registration.entry.promise = promise

/-- The timers follow the entries of the table. -/
structure Timed
    (registered : List Registration) (coming : List (Callback Action)) (loop : ClientLoop)
    (pending : List PendingRequest) : Prop where
  timers : loop.timers.Sublist (registered.map Registration.timer)
  armed : ∀ registration ∈ registered, loop.outcome? registration.entry.promise = none →
    registration.timer ∈ loop.timers ∨ registration.expiry ∈ coming
  listed : ∀ registration ∈ registered, registration.timer ∈ loop.timers →
    registration.entry ∈ pending
  known : ∀ registration ∈ registered, registration.entry.timer < loop.timersArmed
  distinct : (registered.map (·.entry.timer)).Nodup

/-- A client has one session, whose table and timers are in order. Some callbacks count as coming
besides those that are ready. -/
def HasTable
    (registered : List Registration) (running : List (Callback Action)) (system : System) : Prop :=
  ∃ found, system.sessions = [found] ∧
    Tracked registered (running ++ system.loop.ready) system.loop found.pending ∧
    Timed registered (running ++ system.loop.ready) system.loop found.pending ∧
    (found.closed = true → found.pending = [])

/-- The session of a client is closed. -/
def IsShut (system : System) : Prop :=
  ∃ found, system.sessions = [found] ∧ found.closed = true

section Tables

variable {registered : List Registration} {running coming : List (Callback Action)}
  {before after loop : ClientLoop} {pending : List PendingRequest} {system : System}

theorem unsettled_of_later
    {added : Callback Action → Prop} (carries : Scheduler.Carries added before after)
    {promise : Nat} (unsettled : after.outcome? promise = none) :
    before.outcome? promise = none := by
  by_cases earlier : before.outcome? promise = none
  · exact earlier
  · exact (carries.settled earlier unsettled).elim

namespace Tracked

theorem carries
    {added : Callback Action → Prop}
    (tracked : Tracked registered (running ++ before.ready) before pending)
    (carries : Scheduler.Carries added before after)
    (ordinary : ∀ session id, ¬ added (.act (.discard session id))) :
    Tracked registered (running ++ after.ready) after pending where
  entries := tracked.entries
  listed := fun registration member unsettled =>
    tracked.listed registration member (unsettled_of_later carries unsettled)
  waiting := fun registration member unsettled => by
    have waits := tracked.waiting registration member (unsettled_of_later carries unsettled)
    rcases carries.waiting _ _ waits rfl with still | ⟨isSettled, _⟩
    · exact still
    · exact (isSettled unsettled).elim
  leaving := fun registration member isSettled isPending => by
    by_cases earlier : before.outcome? registration.entry.promise = none
    · have waits := tracked.waiting registration member earlier
      rcases carries.waiting _ _ waits rfl with still | ⟨_, isReady⟩
      · exact (isSettled still.unsettled).elim
      · exact List.mem_append_right _ isReady
    · have removal := tracked.leaving registration member earlier isPending
      rcases List.mem_append.mp removal with isRunning | isReady
      · exact List.mem_append_left _ isRunning
      · exact List.mem_append_right _ (carries.ready _ isReady rfl)
  removals := fun session id isComing => by
    have ofEarlier : .act (.discard session id) ∈ running ++ before.ready →
        ∃ registration ∈ registered, session = 0 ∧ registration.entry.id = id ∧
          after.outcome? registration.entry.promise ≠ none := by
      intro earlier
      obtain ⟨registration, member, first, sameId, isSettled⟩ :=
        tracked.removals session id earlier
      exact ⟨registration, member, first, sameId, carries.settled isSettled⟩
    rcases List.mem_append.mp isComing with isRunning | isReady
    · exact ofEarlier (List.mem_append_left _ isRunning)
    · rcases carries.readySource _ isReady with earlier | isAdded | ⟨promise, waits, isSettled⟩
      · exact ofEarlier (List.mem_append_right _ earlier)
      · exact (ordinary session id isAdded).elim
      · obtain ⟨registration, member, first, sameId, rfl⟩ := tracked.waits _ _ _ waits
        exact ⟨registration, member, first, sameId, isSettled⟩
  waits := fun promise session id waits => by
    rcases carries.waitingSource _ _ waits with earlier | isAdded
    · exact tracked.waits promise session id earlier
    · exact (ordinary session id isAdded).elim

theorem of_coming
    (tracked : Tracked registered coming loop pending) {others : List (Callback Action)}
    (same : ∀ session id, .act (.discard session id) ∈ others ↔
      .act (.discard session id) ∈ coming) :
    Tracked registered others loop pending :=
  { tracked with
    leaving := fun registration member isSettled isPending =>
      (same _ _).mpr (tracked.leaving registration member isSettled isPending)
    removals := fun session id isComing => tracked.removals session id ((same _ _).mp isComing) }

/-- When all requests are settled, the table may be cleared. -/
theorem clear
    (tracked : Tracked registered coming loop pending)
    (settled : ∀ registration ∈ registered, loop.outcome? registration.entry.promise ≠ none) :
    Tracked registered coming loop [] :=
  { tracked with
    entries := List.nil_sublist _
    listed := fun registration member unsettled =>
      (settled registration member unsettled).elim
    leaving := fun _ _ _ isPending => by cases isPending }

/-- A new request is entered while its removal begins to wait for its promise. -/
theorem enter
    {new : Registration} (tracked : Tracked registered (running ++ loop.ready) loop pending)
    (known : new.entry.promise < loop.nextPromise)
    (unsettled : loop.outcome? new.entry.promise = none) :
    Tracked (registered ++ [new])
      (running ++ (loop.whenSettled new.entry.promise new.removal).ready)
      (loop.whenSettled new.entry.promise new.removal) (pending ++ [new.entry]) where
  entries := by
    rw [List.map_append]
    exact tracked.entries.append (List.Sublist.refl _)
  listed := fun registration member stillOpen => by
    rw [Scheduler.whenSettled_outcome?] at stillOpen
    rcases List.mem_append.mp member with earlier | isNew
    · exact List.mem_append_left _ (tracked.listed registration earlier stillOpen)
    · rw [List.mem_singleton.mp isNew]
      exact List.mem_append_right _ (List.mem_singleton.mpr rfl)
  waiting := fun registration member stillOpen => by
    rw [Scheduler.whenSettled_outcome?] at stillOpen
    rcases List.mem_append.mp member with earlier | isNew
    · exact loop.whenSettled_waitsFor_of _ (tracked.waiting registration earlier stillOpen)
    · rw [List.mem_singleton.mp isNew]
      rcases loop.whenSettled_self known new.removal with waits | ⟨isSettled, _⟩
      · exact waits
      · exact (isSettled unsettled).elim
  leaving := fun registration member isSettled isPending => by
    rw [Scheduler.whenSettled_outcome?] at isSettled
    rw [loop.whenSettled_ready _ unsettled]
    have notNew : registration.entry ≠ new.entry := by
      intro same
      rw [same] at isSettled
      exact isSettled unsettled
    rcases List.mem_append.mp member with earlier | isNew
    · rcases List.mem_append.mp isPending with listed | isNewEntry
      · exact tracked.leaving registration earlier isSettled listed
      · exact (notNew (List.mem_singleton.mp isNewEntry)).elim
    · rw [List.mem_singleton.mp isNew] at notNew
      exact (notNew rfl).elim
  removals := fun session id isComing => by
    rw [loop.whenSettled_ready _ unsettled] at isComing
    obtain ⟨registration, member, first, sameId, isSettled⟩ :=
      tracked.removals session id isComing
    refine ⟨registration, List.mem_append_left _ member, first, sameId, ?_⟩
    rw [Scheduler.whenSettled_outcome?]
    exact isSettled
  waits := fun promise session id waits => by
    rcases loop.whenSettled_waitsFor waits with earlier | ⟨rfl, isRemoval⟩
    · obtain ⟨registration, member, rest⟩ := tracked.waits promise session id earlier
      exact ⟨registration, List.mem_append_left _ member, rest⟩
    · refine ⟨new, List.mem_append_right _ (List.mem_singleton.mpr rfl), ?_⟩
      simp only [Registration.removal, Callback.act.injEq, Action.discard.injEq] at isRemoval
      exact ⟨isRemoval.1, isRemoval.2.symm, rfl⟩

/-- A request that is settled leaves the table. -/
theorem remove
    {left : Registration} (tracked : Tracked registered (left.removal :: loop.ready) loop pending)
    (ids : (registered.map (·.entry.id)).Nodup) (member : left ∈ registered)
    (settled : loop.outcome? left.entry.promise ≠ none) :
    Tracked registered loop.ready loop
      (pending.filter fun other => other.id ≠ left.entry.id) where
  entries := List.filter_sublist.trans tracked.entries
  listed := fun registration inside unsettled => by
    refine List.mem_filter.mpr ⟨tracked.listed registration inside unsettled, ?_⟩
    rw [decide_eq_true_eq]
    intro sameId
    rw [List.inj_on_of_nodup_map ids inside member sameId] at unsettled
    exact settled unsettled
  waiting := tracked.waiting
  leaving := fun registration inside isSettled isPending => by
    obtain ⟨listed, differs⟩ := List.mem_filter.mp isPending
    rw [decide_eq_true_eq] at differs
    rcases List.mem_cons.mp (tracked.leaving registration inside isSettled listed) with
      same | isReady
    · simp only [Registration.removal, Callback.act.injEq, Action.discard.injEq, true_and] at same
      exact (differs same).elim
    · exact isReady
  removals := fun session id isReady =>
    tracked.removals session id (List.mem_cons_of_mem _ isReady)
  waits := tracked.waits

end Tracked

namespace Timed

/-- Timers of different requests have different numbers. -/
theorem eq_of_number
    {left right : Registration} (timed : Timed registered coming loop pending)
    (leftMember : left ∈ registered) (rightMember : right ∈ registered)
    (same : left.entry.timer = right.entry.timer) :
    left = right :=
  List.inj_on_of_nodup_map timed.distinct leftMember rightMember same

theorem untimed
    {added : Callback Action → Prop}
    (timed : Timed registered (running ++ before.ready) before pending)
    (carries : Scheduler.Carries added before after) (untimed : Scheduler.Untimed before after) :
    Timed registered (running ++ after.ready) after pending where
  timers := by
    rw [untimed.timers]
    exact timed.timers
  armed := fun registration member unsettled => by
    rw [untimed.timers]
    have still := timed.armed registration member (unsettled_of_later carries unsettled)
    refine still.imp id fun isComing => ?_
    rcases List.mem_append.mp isComing with isRunning | isReady
    · exact List.mem_append_left _ isRunning
    · exact List.mem_append_right _ (untimed.ready _ isReady)
  listed := by
    rw [untimed.timers]
    exact timed.listed
  known := by
    rw [untimed.timersArmed]
    exact timed.known
  distinct := timed.distinct

/-- The callbacks of timers that fire for a request that is settled do not matter. -/
theorem of_coming
    (timed : Timed registered coming loop pending) {others : List (Callback Action)}
    (kept : ∀ registration ∈ registered, loop.outcome? registration.entry.promise = none →
      registration.expiry ∈ coming → registration.expiry ∈ others) :
    Timed registered others loop pending :=
  { timed with
    armed := fun registration member unsettled =>
      (timed.armed registration member unsettled).imp id (kept registration member unsettled) }

theorem enter
    {new : Registration} {delay : Delay}
    (timed : Timed registered (running ++ loop.ready) loop pending)
    (number : new.entry.timer = loop.timersArmed) (deadline : new.deadline = loop.deadline delay) :
    Timed (registered ++ [new]) (running ++ loop.ready)
      (loop.arm delay (.expire 0 new.entry.id)) (pending ++ [new.entry]) := by
  have armedTimers : (loop.arm delay (.expire 0 new.entry.id)).timers =
      loop.timers ++ [new.timer] := by
    simp only [Scheduler.arm, Registration.timer, number, deadline]
  have newNumber : ∀ registration ∈ registered,
      registration.entry.timer ≠ new.entry.timer := by
    intro registration member same
    have known := timed.known registration member
    rw [same, number] at known
    exact Nat.lt_irrefl _ known
  exact {
    timers := by
      rw [armedTimers, List.map_append]
      exact timed.timers.append (List.Sublist.refl _)
    armed := fun registration member unsettled => by
      rw [armedTimers]
      rcases List.mem_append.mp member with earlier | isNew
      · exact (timed.armed registration earlier unsettled).imp (List.mem_append_left _) id
      · rw [List.mem_singleton.mp isNew]
        exact Or.inl (List.mem_append_right _ (List.mem_singleton.mpr rfl))
    listed := fun registration member isArmed => by
      rw [armedTimers] at isArmed
      rcases List.mem_append.mp member with earlier | isNew
      · rcases List.mem_append.mp isArmed with before | isNewTimer
        · exact List.mem_append_left _ (timed.listed registration earlier before)
        · have same : registration.timer = new.timer := List.mem_singleton.mp isNewTimer
          exact (newNumber registration earlier (congrArg Timer.id same)).elim
      · rw [List.mem_singleton.mp isNew]
        exact List.mem_append_right _ (List.mem_singleton.mpr rfl)
    known := fun registration member => by
      have armedMore : (loop.arm delay (.expire 0 new.entry.id)).timersArmed =
          loop.timersArmed + 1 := rfl
      rw [armedMore]
      rcases List.mem_append.mp member with earlier | isNew
      · exact Nat.lt_succ_of_lt (timed.known registration earlier)
      · rw [List.mem_singleton.mp isNew, number]
        exact Nat.lt_succ_self _
    distinct := by
      rw [List.map_append]
      refine nodup_append_singleton timed.distinct fun known => ?_
      obtain ⟨registration, member, same⟩ := List.mem_map.mp known
      exact newNumber registration member same }

/-- A request that is settled loses its timer when it leaves the table. -/
theorem remove
    {left : Registration} (timed : Timed registered coming loop pending)
    (ids : (registered.map (·.entry.id)).Nodup) (member : left ∈ registered)
    (settled : loop.outcome? left.entry.promise ≠ none)
    {others : List (Callback Action)}
    (kept : ∀ registration ∈ registered, registration.entry.timer ≠ left.entry.timer →
      registration.expiry ∈ coming → registration.expiry ∈ others) :
    Timed registered others (loop.disarm left.entry.timer)
      (pending.filter fun other => other.id ≠ left.entry.id) where
  timers := List.filter_sublist.trans timed.timers
  armed := fun registration inside unsettled => by
    have differs : registration.entry.timer ≠ left.entry.timer := by
      intro same
      rw [timed.eq_of_number inside member same] at unsettled
      exact settled unsettled
    refine (timed.armed registration inside unsettled).imp ?_ (kept registration inside differs)
    intro isArmed
    exact List.mem_filter.mpr ⟨isArmed, decide_eq_true differs⟩
  listed := fun registration inside isArmed => by
    obtain ⟨stillArmed, differs⟩ := List.mem_filter.mp isArmed
    rw [decide_eq_true_eq] at differs
    refine List.mem_filter.mpr ⟨timed.listed registration inside stillArmed, ?_⟩
    rw [decide_eq_true_eq]
    intro sameId
    apply differs
    rw [List.inj_on_of_nodup_map ids inside member sameId]
    rfl
  known := timed.known
  distinct := timed.distinct

end Timed

end Tables

end LanguageClient.Client
