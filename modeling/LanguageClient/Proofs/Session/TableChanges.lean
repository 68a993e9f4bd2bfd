import LanguageClient.Proofs.Session.Table

/-!
# Changes of the table

What the code of a session does to its table keeps the table in order. A request enters it when it is
registered, its removal takes it out, and the end of the session clears it.
-/

namespace LanguageClient.Client

open LanguageClient.Json LanguageClient.Loop LanguageClient.Number

section Tables

variable {registered : List Registration} {running coming : List (Callback Action)}
  {loop : ClientLoop} {pending : List PendingRequest} {before after system : System}

/-! ## One table -/

theorem Tracked.of_promises
    {later : ClientLoop} (tracked : Tracked registered coming loop pending)
    (same : later.promises = loop.promises) :
    Tracked registered coming later pending where
  entries := tracked.entries
  listed := by
    simp only [Scheduler.outcome?, same]
    exact tracked.listed
  waiting := by
    simp only [Scheduler.outcome?, Scheduler.WaitsFor, same]
    exact tracked.waiting
  leaving := by
    simp only [Scheduler.outcome?, same]
    exact tracked.leaving
  removals := by
    simp only [Scheduler.outcome?, same]
    exact tracked.removals
  waits := by
    simp only [Scheduler.WaitsFor, same]
    exact tracked.waits

/-- An entry of the table is known by its id. -/
theorem Tracked.entry_eq
    {registration : Registration} {entry : PendingRequest}
    (tracked : Tracked registered coming loop pending)
    (ids : (registered.map (·.entry.id)).Nodup) (member : registration ∈ registered)
    (listed : entry ∈ pending) (sameId : entry.id = registration.entry.id) :
    entry = registration.entry := by
  obtain ⟨other, otherMember, rfl⟩ := List.mem_map.mp (tracked.entries.subset listed)
  rw [List.inj_on_of_nodup_map ids otherMember member sameId]

theorem Tracked.find?_eq
    {registration : Registration} (tracked : Tracked registered coming loop pending)
    (ids : (registered.map (·.entry.id)).Nodup) (member : registration ∈ registered)
    (listed : registration.entry ∈ pending) :
    (pending.find? fun entry => entry.id = registration.entry.id) = some registration.entry := by
  cases found : pending.find? fun entry => entry.id = registration.entry.id with
  | none =>
      have differs := List.find?_eq_none.mp found registration.entry listed
      simp at differs
  | some entry =>
      have sameId : entry.id = registration.entry.id := by
        simpa using List.find?_some found
      rw [tracked.entry_eq ids member (List.mem_of_find?_eq_some found) sameId]

theorem HasTable.of_same
    (table : HasTable registered running before)
    (tables : after.sessions.map Session.table = before.sessions.map Session.table)
    (carries : Scheduler.Carries IsOrdinary before.loop after.loop)
    (untimed : Scheduler.Untimed before.loop after.loop) :
    HasTable registered running after := by
  obtain ⟨found, only, tracked, timed, closes⟩ := table
  rw [only, List.map_singleton] at tables
  obtain ⟨later, laterOnly, same⟩ := List.map_eq_singleton_iff.mp tables
  have samePending : later.pending = found.pending := congrArg Prod.fst same
  have sameClosed : later.closed = found.closed := congrArg Prod.snd same
  refine ⟨later, laterOnly, ?_, ?_, ?_⟩
  · rw [samePending]
    exact tracked.carries carries fun _ _ => id
  · rw [samePending]
    exact timed.untimed carries untimed
  · rw [samePending, sameClosed]
    exact closes

theorem HasTable.course
    (table : HasTable registered running before) (course : Course before after) :
    HasTable registered running after :=
  table.of_same course.tables course.continues.toCarries course.untimed

theorem IsShut.of_tables
    (shut : IsShut before)
    (tables : after.sessions.map Session.table = before.sessions.map Session.table) :
    IsShut after := by
  obtain ⟨found, only, closed⟩ := shut
  rw [only, List.map_singleton] at tables
  obtain ⟨later, laterOnly, same⟩ := List.map_eq_singleton_iff.mp tables
  have sameClosed : later.closed = found.closed := congrArg Prod.snd same
  exact ⟨later, laterOnly, sameClosed.trans closed⟩

/-! ## Taking a callback -/

/-- A callback that was taken counts as coming until it has run. -/
theorem HasTable.taken
    {callback : Callback Action} {rest : ClientLoop} (table : HasTable registered [] system)
    (next : system.loop.next? = some (callback, rest)) :
    HasTable registered [callback] { system with loop := rest } := by
  obtain ⟨found, only, tracked, timed, closes⟩ := table
  have taken := Scheduler.taken_of_next? next
  obtain ⟨timers, timersArmed⟩ := Scheduler.timers_of_next? next
  have isComing : ∀ other ∈ system.loop.ready, other ∈ callback :: rest.ready :=
    fun other member => List.mem_cons.mpr (taken.readyKept other member)
  refine ⟨found, only, ?_, ?_, closes⟩
  · refine (tracked.of_coming ?_).of_promises taken.promises
    intro session id
    constructor
    · intro member
      rcases taken.ready _ (List.mem_cons.mp member) with earlier | ⟨_, _, _, isFire⟩
      · exact earlier
      · cases isFire
    · exact isComing _
  · exact {
      timers := timers.trans timed.timers
      armed := fun registration member unsettled => by
        rw [taken.outcome?_eq] at unsettled
        rcases timed.armed registration member unsettled with isArmed | isReady
        · rcases taken.timersKept _ isArmed with still | isCallback | fires
          · exact Or.inl still
          · exact Or.inr (List.mem_cons.mpr (Or.inl isCallback))
          · exact Or.inr (List.mem_cons_of_mem _ fires)
        · exact Or.inr (isComing _ isReady)
      listed := fun registration member isArmed =>
        timed.listed registration member (taken.timers _ isArmed)
      known := by
        rw [timersArmed]
        exact timed.known
      distinct := timed.distinct }

theorem HasTable.ran_ordinary
    {callback : Callback Action} (table : HasTable registered [callback] system)
    (ordinary : IsOrdinary callback) :
    HasTable registered [] system := by
  obtain ⟨found, only, tracked, timed, closes⟩ := table
  refine ⟨found, only, tracked.of_coming ?_, timed.of_coming ?_, closes⟩
  · intro session id
    constructor
    · exact List.mem_cons_of_mem callback
    · intro member
      rcases List.mem_cons.mp member with rfl | isReady
      · exact ordinary.elim
      · exact isReady
  · intro registration _ _ member
    rcases List.mem_cons.mp member with rfl | isReady
    · exact ordinary.elim
    · exact isReady

/-- A timer that fires settles its request, if that is not settled yet. -/
theorem HasTable.expire
    {registration : Registration} (table : HasTable registered [registration.expiry] system)
    (ids : (registered.map (·.entry.id)).Nodup) (member : registration ∈ registered)
    (known : registration.entry.promise < system.nextPromise) :
    HasTable registered [] (system.expire 0 registration.entry.id) := by
  have isSettled : (system.expire 0 registration.entry.id).loop.outcome?
      registration.entry.promise ≠ none := by
    by_cases unsettled : system.loop.outcome? registration.entry.promise = none
    · obtain ⟨found, only, tracked, _⟩ := table
      have listed := tracked.listed registration member unsettled
      have isOpen : system.openRequest? 0 registration.entry.id = some registration.entry := by
        simp [System.openRequest?, Session.find?, only, tracked.find?_eq ids member listed,
          Scheduler.isSettled, unsettled]
      unfold System.expire
      rw [isOpen]
      have settled := Scheduler.settle_outcome?_self
        (.failed (.timedOut registration.entry.method registration.entry.id
          registration.entry.timeout)) known unsettled
      exact Option.ne_none_iff_exists'.mpr ⟨_, settled⟩
    · exact (expire_course system 0 registration.entry.id).continues.settled unsettled
  obtain ⟨found, only, tracked, timed, closes⟩ :=
    table.course (expire_course system 0 registration.entry.id)
  refine ⟨found, only, tracked.of_coming ?_, timed.of_coming ?_, closes⟩
  · intro session id
    simp [Registration.expiry]
  · intro other otherMember unsettled isComing
    rcases List.mem_cons.mp isComing with same | isReady
    · simp only [Registration.expiry, Callback.fire.injEq] at same
      rw [timed.eq_of_number otherMember member same.1] at unsettled
      exact (isSettled unsettled).elim
    · exact isReady

/-- The removal of a request leaves the table without it and disarms its timer. -/
theorem HasTable.discard
    {session : Nat} {id : String} (table : HasTable registered [.act (.discard session id)] system)
    (ids : (registered.map (·.entry.id)).Nodup) :
    HasTable registered [] (system.discard session id) := by
  obtain ⟨found, only, tracked, timed, closes⟩ := table
  obtain ⟨left, member, rfl, rfl, settled⟩ := tracked.removals session id List.mem_cons_self
  have removed := tracked.remove ids member settled
  have sessionFound : system.sessions[0]? = some found := by rw [only]; rfl
  have notExpiry : ∀ registration : Registration, registration.expiry ∈
      .act (.discard 0 left.entry.id) :: system.loop.ready →
        registration.expiry ∈ system.loop.ready := by
    intro registration isComing
    rcases List.mem_cons.mp isComing with same | isReady
    · cases same
    · exact isReady
  unfold System.discard
  simp only [sessionFound, Option.bind_some, Session.find?]
  cases entryFound : found.pending.find? fun entry => entry.id = left.entry.id with
  | none =>
      have unlisted : (found.pending.filter fun other => other.id ≠ left.entry.id) =
          found.pending := by
        refine List.filter_eq_self.mpr fun entry listed => ?_
        simpa using List.find?_eq_none.mp entryFound entry listed
      rw [unlisted] at removed
      exact ⟨found, only, removed, timed.of_coming fun registration _ _ => notExpiry registration,
        closes⟩
  | some entry =>
      have sameId : entry.id = left.entry.id := by
        simpa using List.find?_some entryFound
      have isEntry : entry = left.entry :=
        tracked.entry_eq ids member (List.mem_of_find?_eq_some entryFound) sameId
      subst isEntry
      refine ⟨{ found with
        pending := found.pending.filter fun other => other.id ≠ left.entry.id }, ?_, ?_, ?_, ?_⟩
      · simp [System.disarm, System.onLoop, System.modifySession, only]
      · have carries : Scheduler.Carries IsOrdinary system.loop
            (system.loop.disarm left.entry.timer) :=
          (system.loop.disarm_continues left.entry.timer trivial).toCarries
        have later : Tracked registered ([] ++ system.loop.ready) system.loop _ := removed
        exact later.carries carries fun _ _ => id
      · refine timed.remove ids member settled ?_
        intro registration _ differs isComing
        refine List.mem_map.mpr ⟨registration.expiry, notExpiry registration isComing, ?_⟩
        simp [Registration.expiry, Scheduler.withoutTimer, differs]
      · intro closed
        simp [closes closed]

/-! ## The end of a session -/

/-- Requests were settled and lost their timers, and nothing else has happened. -/
structure Abandons (entries : List PendingRequest) (before after : System) : Prop where
  continues : Scheduler.Continues IsOrdinary before.loop after.loop
  sessions : after.sessions = before.sessions
  timers : after.loop.timers.Sublist before.loop.timers
  timersArmed : after.loop.timersArmed = before.loop.timersArmed
  nextPromise : after.nextPromise = before.nextPromise
  disarmed : ∀ entry ∈ entries, ∀ timer ∈ after.loop.timers, timer.id ≠ entry.timer
  settled : ∀ entry ∈ entries, entry.promise < before.nextPromise →
    after.loop.outcome? entry.promise ≠ none

theorem abandonRequest_abandons (reason : SessionEnd) (entry : PendingRequest) (system : System) :
    Abandons [entry] system (system.abandonRequest reason entry) := by
  have disarms : Scheduler.Continues IsOrdinary system.loop (system.loop.disarm entry.timer) :=
    system.loop.disarm_continues entry.timer trivial
  generalize isFailure : Outcome.failed (Failure.abandoned entry.method entry.id reason) = failure
  have abandoned : (system.abandonRequest reason entry).loop =
      (system.loop.disarm entry.timer).settle entry.promise failure := by
    rw [← isFailure]
    rfl
  exact {
    continues := by
      rw [abandoned]
      exact disarms.trans (Scheduler.settle_continues _ _ _)
    sessions := rfl
    timers := by
      rw [abandoned, Scheduler.settle_timers]
      exact List.filter_sublist
    timersArmed := by
      rw [abandoned]
      exact (Scheduler.settle_untimed _ _ _).timersArmed
    nextPromise := by
      simp only [System.nextPromise, abandoned, Scheduler.settle_nextPromise]
      rfl
    disarmed := fun other isEntry timer isArmed => by
      rw [List.mem_singleton.mp isEntry]
      rw [abandoned, Scheduler.settle_timers] at isArmed
      exact of_decide_eq_true (List.mem_filter.mp isArmed).2
    settled := fun other isEntry known => by
      rw [List.mem_singleton.mp isEntry] at known ⊢
      rw [abandoned]
      by_cases unsettled : (system.loop.disarm entry.timer).outcome? entry.promise = none
      · have stillKnown : entry.promise < (system.loop.disarm entry.timer).nextPromise := known
        rw [Scheduler.settle_outcome?_self failure stillKnown unsettled]
        exact Option.some_ne_none failure
      · have kept : Scheduler.Continues IsOrdinary (system.loop.disarm entry.timer) _ :=
          Scheduler.settle_continues _ entry.promise failure
        exact kept.settled unsettled }

theorem foldl_abandons (reason : SessionEnd) (entries : List PendingRequest) (system : System) :
    Abandons entries system (entries.foldl (System.abandonRequest reason) system) := by
  induction entries generalizing system with
  | nil =>
      exact ⟨system.loop.continues_refl, rfl, List.Sublist.refl _, rfl, rfl, by simp, by simp⟩
  | cons head others inductionHypothesis =>
      have first := abandonRequest_abandons reason head system
      have rest := inductionHypothesis (system.abandonRequest reason head)
      exact {
        continues := first.continues.trans rest.continues
        sessions := rest.sessions.trans first.sessions
        timers := rest.timers.trans first.timers
        timersArmed := rest.timersArmed.trans first.timersArmed
        nextPromise := rest.nextPromise.trans first.nextPromise
        disarmed := fun entry isEntry timer isArmed => by
          rcases List.mem_cons.mp isEntry with rfl | later
          · exact first.disarmed entry (List.mem_singleton.mpr rfl) timer
              (rest.timers.subset isArmed)
          · exact rest.disarmed entry later timer isArmed
        settled := fun entry isEntry known => by
          rcases List.mem_cons.mp isEntry with rfl | later
          · exact rest.continues.settled
              (first.settled entry (List.mem_singleton.mpr rfl) known)
          · refine rest.settled entry later ?_
            rw [first.nextPromise]
            exact known }

/-- Closes the session of a client and ends its requests. -/
def System.shut (system : System) (reason : SessionEnd) : System :=
  (system.modifySession 0 fun found => { found with closed := true }).abandonRequests 0 reason

theorem shut_sessions
    {found : Session} (only : system.sessions = [found]) (reason : SessionEnd) :
    (system.shut reason).sessions = [{ found with pending := [], closed := true }] := by
  generalize closedEq :
    (system.modifySession 0 fun found => { found with closed := true }) = closed
  have closedSessions : closed.sessions = [{ found with closed := true }] := by
    rw [← closedEq]
    simp [System.modifySession, only]
  have abandons := foldl_abandons reason found.pending closed
  simp only [System.shut, closedEq, System.abandonRequests, closedSessions,
    List.getElem?_cons_zero]
  simp [System.modifySession, abandons.sessions, closedSessions]

/-- When a session ends, all its requests are settled and leave the table. -/
theorem HasTable.shut
    (table : HasTable registered running system)
    (known : ∀ registration ∈ registered, registration.entry.promise < system.nextPromise)
    (reason : SessionEnd) :
    HasTable registered running (system.shut reason) ∧ IsShut (system.shut reason) ∧
      Scheduler.Continues IsOrdinary system.loop (system.shut reason).loop := by
  obtain ⟨found, only, tracked, timed, _⟩ := table
  generalize closedEq :
    (system.modifySession 0 fun found => { found with closed := true }) = closed
  have closedLoop : closed.loop = system.loop := by
    rw [← closedEq]
    rfl
  have closedSessions : closed.sessions = [{ found with closed := true }] := by
    rw [← closedEq]
    simp [System.modifySession, only]
  have abandons := foldl_abandons reason found.pending closed
  generalize laterEq : found.pending.foldl (System.abandonRequest reason) closed = later at abandons
  have isShut : system.shut reason = later.modifySession 0 fun found =>
      { found with pending := [] } := by
    have sessionFound : closed.sessions[0]? = some { found with closed := true } := by
      rw [closedSessions]
      rfl
    simp only [System.shut, closedEq, System.abandonRequests, sessionFound, laterEq]
  have shutLoop : (system.shut reason).loop = later.loop := by
    rw [isShut]
    rfl
  have shutSessions := shut_sessions only reason
  have continues : Scheduler.Continues IsOrdinary system.loop (system.shut reason).loop := by
    rw [shutLoop, ← closedLoop]
    exact abandons.continues
  -- A request that was open was in the table, so the end of the session settles it.
  have settled : ∀ registration ∈ registered,
      (system.shut reason).loop.outcome? registration.entry.promise ≠ none := by
    intro registration member
    by_cases unsettled : system.loop.outcome? registration.entry.promise = none
    · rw [shutLoop]
      refine abandons.settled _ (tracked.listed registration member unsettled) ?_
      simp only [System.nextPromise, closedLoop]
      exact known registration member
    · exact continues.settled unsettled
  refine ⟨⟨_, shutSessions, ?_, ?_, fun _ => rfl⟩, ⟨_, shutSessions, rfl⟩, continues⟩
  · exact (tracked.carries continues.toCarries fun _ _ => id).clear settled
  · exact {
      timers := by
        rw [shutLoop]
        refine abandons.timers.trans ?_
        rw [closedLoop]
        exact timed.timers
      armed := fun registration member unsettled =>
        (settled registration member unsettled).elim
      listed := fun registration member isArmed => by
        rw [shutLoop] at isArmed
        have armedBefore := abandons.timers.subset isArmed
        rw [closedLoop] at armedBefore
        have listed := timed.listed registration member armedBefore
        exact (abandons.disarmed _ listed _ isArmed rfl).elim
      known := by
        rw [shutLoop, abandons.timersArmed, closedLoop]
        exact timed.known
      distinct := timed.distinct }

/-! ## A new request -/

/-- A request that is registered enters the table. -/
theorem HasTable.register
    {found : Session} {new : Registration} {delay : Delay}
    (table : HasTable registered running system) (next : new.IsNext system found delay)
    (only : system.sessions = [found]) (isOpen : found.closed = false) :
    HasTable (registered ++ [new]) running (system.register new delay) ∧
      Scheduler.Continues (fun _ => True) system.loop (system.register new delay).loop := by
  obtain ⟨same, sameOnly, tracked, timed, _⟩ := table
  rw [only] at sameOnly
  obtain rfl : same = found := (List.singleton_inj.mp sameOnly).symm
  generalize addedEq : system.loop.addPromise {} = added
  have adds : Scheduler.Continues IsOrdinary system.loop added := by
    rw [← addedEq]
    exact (system.loop.addPromise_carries rfl).continues rfl
  have addsUntimed : Scheduler.Untimed system.loop added := by
    rw [← addedEq]
    exact ⟨rfl, rfl, fun _ => id⟩
  generalize armedEq : added.arm delay (.expire 0 new.entry.id) = armed
  have arms : Scheduler.Continues IsOrdinary added armed := by
    rw [← armedEq]
    exact added.arm_continues _ _
  have waits : Scheduler.Continues (fun _ => True) armed
      (armed.whenSettled new.entry.promise new.removal) :=
    armed.whenSettled_continues _ trivial
  have laterLoop : (system.register new delay).loop =
      armed.whenSettled new.entry.promise new.removal := by
    rw [next.promise, ← armedEq, ← addedEq]
    rfl
  have known : new.entry.promise < armed.nextPromise := by
    rw [next.promise, ← armedEq, ← addedEq]
    simp [Scheduler.arm, Scheduler.nextPromise, Scheduler.addPromise, System.nextPromise]
  have unsettled : armed.outcome? new.entry.promise = none := by
    rw [next.promise, ← armedEq, ← addedEq]
    exact Scheduler.addPromise_outcome?_new {} system.loop
  constructor
  · refine ⟨_, register_sessions next only, ?_, ?_, ?_⟩
    · rw [laterLoop]
      have trackedAdded := tracked.carries adds.toCarries fun _ _ => id
      exact (trackedAdded.carries arms.toCarries fun _ _ => id).enter known unsettled
    · rw [laterLoop]
      have timedAdded := timed.untimed adds.toCarries addsUntimed
      have timedArmed : Timed (registered ++ [new]) (running ++ armed.ready) armed
          (same.pending ++ [new.entry]) := by
        rw [← armedEq]
        refine timedAdded.enter ?_ ?_
        · rw [next.timer, ← addedEq]
          rfl
        · rw [next.deadline, ← addedEq]
          rfl
      exact timedArmed.untimed waits.toCarries (armed.whenSettled_untimed _ _)
    · intro closed
      rw [isOpen] at closed
      cases closed
  · rw [laterLoop]
    exact ((adds.trans arms).mono fun _ _ => trivial).trans waits

end Tables

end LanguageClient.Client
