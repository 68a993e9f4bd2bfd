import LanguageClient.Proofs.Loop.Stands
import LanguageClient.Proofs.Sending

/-!
# What a callback may do to others

A task that goes on holds some promises: the one it awaits and those its frames name. While it runs,
the client settles these and new ones as it likes. Of the promises that other tasks hold it cancels
only those of tasks that it has started by itself, wakes those who wait for the connection or for a
lock, and settles requests as the peer and the clock say.
-/

namespace LanguageClient.Client

open LanguageClient.Json LanguageClient.Loop LanguageClient.Number

/-- How a request is settled unless it is cancelled. -/
def IsVerdict : Outcome Reply → Prop
  | .returned (.result _) => True
  | .failed failure => failure.isQueryFailure = true
  | _ => False

/-- A stack with which the client starts a task by itself. -/
def IsOwnBeginning (stack : List Frame) : Prop :=
  (∃ session id, stack = [.begin (.answer session id)]) ∨
    ∃ synchronizer, stack = [.begin (.sendDebounced synchronizer)]

/-- The promises that a frame names. -/
def Frame.promises : Frame → List Nat
  | .requesting promise | .locking _ promise _ => [promise]
  | _ => []

/-- The promises that a task holds. -/
def heldPromises (stack : List Frame) (awaiting : Option Nat) : List Nat :=
  awaiting.toList ++ stack.flatMap Frame.promises

namespace System

/-- The tasks that the client has started by itself and that have not been noted as ended. -/
def ownTasks (system : System) : List Nat :=
  system.sessions.flatMap (·.answers) ++ system.synchronizers.flatMap (·.sends)

/-- The promises that are settled when the connection goes on or a lock is handed on. -/
def signals (system : System) : List Nat :=
  system.peer.detained ++ system.synchronizers.flatMap (·.lock.waiters)

/-- Whether the client knows of a task as one that it has started by itself. -/
def Minds (system : System) (task : Nat) : Prop :=
  task ∈ system.ownTasks ∨
    ∃ promise group, system.loop.groupOf? promise = some group ∧ task ∈ group.members

/-- Whether the client may cancel a task without being asked to, when a number of tasks has been
started. -/
def MayCancel (system : System) (started : Nat) (task : Nat) : Prop :=
  system.Minds task ∨ system.nextTask ≤ task ∧ task < started

/-- Whether a promise is new or one of those that are held by who is running. -/
def Owns (system : System) (held : List Nat) (promise : Nat) : Prop :=
  promise ∈ held ∨ system.nextPromise ≤ promise

/-- How a promise may be settled from some state on. -/
def MaySettle (system : System) (held : List Nat) (promise : Nat) (outcome : Outcome Reply) :
    Prop :=
  system.Owns held promise ∨
    (∃ (task : Nat) (found : TaskState Frame), system.loop.tasks[task]? = some found ∧
      system.Minds task ∧ found.awaiting = some promise) ∨
      promise ∈ system.signals ∧ outcome = .returned .nothing ∨ IsVerdict outcome

/-- A client comes from another one while somebody runs who holds some promises. -/
structure Respects (held : List Nat) (before after : System) : Prop where
  loop : before.loop.Stands (before.MayCancel after.nextTask) (before.MaySettle held)
    IsOwnBeginning after.loop
  ownTasks : ∀ task ∈ after.ownTasks,
    task ∈ before.ownTasks ∨ before.nextTask ≤ task ∧ task < after.nextTask
  signals : ∀ promise ∈ after.signals,
    promise ∈ before.signals ∨ before.nextPromise ≤ promise ∧ promise < after.nextPromise

theorem MayCancel.mono
    {started more task : Nat} {system : System} (may : system.MayCancel started task)
    (grown : started ≤ more) : system.MayCancel more task :=
  may.imp_right fun ⟨isNew, bound⟩ => ⟨isNew, Nat.lt_of_lt_of_le bound grown⟩

/-- A task that is watched from its start on is known. -/
theorem nextTask_lt_watched (system : System) (call : Call) (task : Nat) (action : Action) :
    system.nextTask < ((system.spawn call).whenEnded task action).nextTask := by
  have started : (system.spawn call).nextTask = system.nextTask + 1 := by
    simp [nextTask, Scheduler.nextTask, spawn, onLoop, Scheduler.spawn, Scheduler.enqueue]
  have watched : ((system.spawn call).whenEnded task action).nextTask =
      (system.spawn call).nextTask := by
    unfold whenEnded
    split
    · rfl
    · simp [nextTask, Scheduler.nextTask, onLoop]
  rw [watched, started]
  exact Nat.lt_succ_self _

namespace Respects

variable {held : List Nat} {before system after : System}

theorem refl (held : List Nat) (system : System) : Respects held system system :=
  ⟨.refl system.loop, fun _ => Or.inl, fun _ => Or.inl⟩

theorem extend
    (respects : Respects held before system)
    (loop : system.loop.Stands (before.MayCancel system.nextTask) (before.MaySettle held)
      IsOwnBeginning after.loop)
    (ownTasks : ∀ task ∈ after.ownTasks,
      task ∈ system.ownTasks ∨ before.nextTask ≤ task ∧ task < after.nextTask)
    (signals : ∀ promise ∈ after.signals,
      promise ∈ system.signals ∨ before.nextPromise ≤ promise ∧ promise < after.nextPromise) :
    Respects held before after where
  loop := (respects.loop.trans loop).mono (fun _ may => may.mono loop.nextTask) fun _ _ => id
  ownTasks := fun task member => by
    rcases ownTasks task member with earlier | isNew
    · exact (respects.ownTasks task earlier).imp_right fun ⟨isNew, bound⟩ =>
        ⟨isNew, Nat.lt_of_lt_of_le bound loop.nextTask⟩
    · exact Or.inr isNew
  signals := fun promise member => by
    rcases signals promise member with earlier | isNew
    · exact (respects.signals promise earlier).imp_right fun ⟨isNew, bound⟩ =>
        ⟨isNew, Nat.lt_of_lt_of_le bound loop.grown⟩
    · exact Or.inr isNew

/-- Nothing happens to the scheduler. -/
theorem of_sameLoop
    (respects : Respects held before system) (loop : after.loop = system.loop)
    (ownTasks : ∀ task ∈ after.ownTasks, task ∈ system.ownTasks)
    (signals : ∀ promise ∈ after.signals, promise ∈ system.signals) :
    Respects held before after := by
  refine respects.extend ?_ (fun task member => Or.inl (ownTasks task member))
    fun promise member => Or.inl (signals promise member)
  rw [loop]
  exact .refl system.loop

/-- Something happens to the scheduler only. -/
theorem onLoop
    {change : ClientLoop → ClientLoop} (respects : Respects held before system)
    (loop : system.loop.Stands (before.MayCancel system.nextTask) (before.MaySettle held)
      IsOwnBeginning (change system.loop)) :
    Respects held before (system.onLoop change) :=
  respects.extend loop (fun _ => Or.inl) fun _ => Or.inl

/-! ## What may be done next -/

section Next

variable (respects : Respects held before system)

include respects

theorem owns_next : before.Owns held system.nextPromise := Or.inr respects.loop.grown

theorem mayCancel_ownTask {task : Nat} (member : task ∈ system.ownTasks) :
    before.MayCancel system.nextTask task :=
  (respects.ownTasks task member).imp_left Or.inl

theorem gathers : system.loop.Gathers (before.MayCancel system.nextTask) := by
  have atFirst : before.loop.Gathers (before.MayCancel system.nextTask) :=
    fun promise group isGroup member inside => Or.inl (Or.inr ⟨promise, group, isGroup, inside⟩)
  exact atFirst.of_stands respects.loop

theorem mayCancel :
    system.loop.MayCancel (before.MayCancel system.nextTask) (before.MaySettle held) := by
  have atFirst :
      before.loop.MayCancel (before.MayCancel system.nextTask) (before.MaySettle held) := by
    rintro task found promise entry (minded | ⟨unknown, _⟩) awaits
    · exact Or.inr (Or.inl ⟨task, found, entry, minded, awaits⟩)
    · exact absurd (List.getElem?_eq_some_iff.mp entry).1 (Nat.not_lt.mpr unknown)
  exact atFirst.of_stands respects.loop

theorem maySettle_signal {promise : Nat} (member : promise ∈ system.signals) :
    before.MaySettle held promise (.returned .nothing) := by
  rcases respects.signals promise member with earlier | isNew
  · exact Or.inr (Or.inr (Or.inl ⟨earlier, rfl⟩))
  · exact Or.inl (Or.inr isNew.1)

/-! ## One operation -/

theorem note (occurrence : Occurrence) : Respects held before (system.note occurrence) :=
  respects.of_sameLoop rfl (fun _ => id) fun _ => id

theorem addPromise : Respects held before system.addPromise :=
  respects.onLoop (system.loop.addPromise_stands {} nofun nofun)

theorem settle {promise : Nat} {outcome : Outcome Reply}
    (allowed : before.MaySettle held promise outcome) :
    Respects held before (system.settle promise outcome) :=
  respects.onLoop (system.loop.settle_stands allowed)

theorem whenSettled (promise : Nat) (callback : Callback Action) :
    Respects held before (system.onLoop (·.whenSettled promise callback)) :=
  respects.onLoop (system.loop.whenSettled_stands promise callback)

theorem whenEnded (task : Nat) (action : Action) :
    Respects held before (system.whenEnded task action) := by
  unfold System.whenEnded
  split
  · exact respects
  · exact respects.whenSettled _ _

theorem spawn {call : Call} (own : IsOwnBeginning [.begin call]) :
    Respects held before (system.spawn call) :=
  respects.onLoop (system.loop.spawn_stands own)

theorem disarm (timer : Nat) : Respects held before (system.disarm timer) :=
  respects.onLoop (system.loop.disarm_stands timer)

theorem arm (delay : Delay) (action : Action) :
    Respects held before (system.onLoop (·.arm delay action)) :=
  respects.onLoop (system.loop.arm_stands delay action)

theorem cancel {task : Nat} (aimed : before.MayCancel system.nextTask task) :
    Respects held before (system.onLoop (·.cancel task)) :=
  respects.onLoop (Scheduler.cancel_stands aimed respects.gathers respects.mayCancel)

theorem gather {members : List Nat} (own : ∀ member ∈ members, before.MayCancel system.nextTask member) :
    Respects held before (system.onLoop (·.gather members .nothing)) :=
  respects.onLoop (Scheduler.gather_stands own (Or.inl respects.owns_next))

theorem deliver (link : Nat) (frames : List Value) :
    Respects held before (system.deliver link frames) :=
  respects.onLoop (system.loop.enqueue_stands _)

theorem modifySession
    (session : Nat) {change : Session → Session}
    (answers : ∀ found : Session, ∀ task ∈ (change found).answers,
      task ∈ found.answers ∨ before.nextTask ≤ task ∧ task < system.nextTask) :
    Respects held before (system.modifySession session change) := by
  refine respects.extend (.refl system.loop) (fun task member => ?_) fun _ => Or.inl
  simp only [System.ownTasks, List.mem_append, List.mem_flatMap] at member ⊢
  rcases member with ⟨later, inside, isAnswer⟩ | isSend
  · obtain ⟨place, entry⟩ := List.mem_iff_getElem?.mp inside
    simp only [System.modifySession, List.getElem?_modify] at entry
    obtain ⟨found, foundEntry, same⟩ := Option.map_eq_some_iff.mp entry
    have inFound : task ∈ found.answers ∨ before.nextTask ≤ task ∧ task < system.nextTask := by
      by_cases here : session = place
      · simp only [here, if_true] at same
        exact answers found task (same ▸ isAnswer)
      · simp only [here, if_false] at same
        exact Or.inl (same ▸ isAnswer)
    exact inFound.imp (fun earlier => Or.inl ⟨found, List.mem_of_getElem? foundEntry, earlier⟩) id
  · exact Or.inl (Or.inr isSend)

theorem modifySynchronizer
    (synchronizer : Nat) {change : Synchronizer → Synchronizer}
    (sends : ∀ found : Synchronizer, ∀ task ∈ (change found).sends,
      task ∈ found.sends ∨ before.nextTask ≤ task ∧ task < system.nextTask)
    (waiters : ∀ found : Synchronizer, ∀ promise ∈ (change found).lock.waiters,
      promise ∈ found.lock.waiters ∨
        before.nextPromise ≤ promise ∧ promise < system.nextPromise) :
    Respects held before (system.modifySynchronizer synchronizer change) := by
  have source : ∀ later ∈ (system.modifySynchronizer synchronizer change).synchronizers,
      ∃ found ∈ system.synchronizers,
        (∀ task ∈ later.sends,
          task ∈ found.sends ∨ before.nextTask ≤ task ∧ task < system.nextTask) ∧
          ∀ promise ∈ later.lock.waiters, promise ∈ found.lock.waiters ∨
            before.nextPromise ≤ promise ∧ promise < system.nextPromise := by
    intro later inside
    obtain ⟨place, entry⟩ := List.mem_iff_getElem?.mp inside
    simp only [System.modifySynchronizer, List.getElem?_modify] at entry
    obtain ⟨found, foundEntry, same⟩ := Option.map_eq_some_iff.mp entry
    refine ⟨found, List.mem_of_getElem? foundEntry, ?_⟩
    by_cases here : synchronizer = place
    · simp only [here, if_true] at same
      exact same ▸ ⟨sends found, waiters found⟩
    · simp only [here, if_false] at same
      exact same ▸ ⟨fun _ => Or.inl, fun _ => Or.inl⟩
  refine respects.extend (.refl system.loop) (fun task member => ?_) fun promise member => ?_
  · simp only [System.ownTasks, List.mem_append, List.mem_flatMap] at member ⊢
    rcases member with isAnswer | ⟨later, inside, isSend⟩
    · exact Or.inl (Or.inl isAnswer)
    · obtain ⟨found, foundInside, laterSends, _⟩ := source later inside
      exact (laterSends task isSend).imp (fun earlier => Or.inr ⟨found, foundInside, earlier⟩) id
  · simp only [System.signals, List.mem_append, List.mem_flatMap] at member ⊢
    rcases member with isDetained | ⟨later, inside, waits⟩
    · exact Or.inl (Or.inl isDetained)
    · obtain ⟨found, foundInside, _, laterWaiters⟩ := source later inside
      exact (laterWaiters promise waits).imp
        (fun earlier => Or.inr ⟨found, foundInside, earlier⟩) id

/-- Nothing happens to the scheduler, the sessions, the synchronizers and the peer. -/
theorem of_same
    (loop : after.loop = system.loop) (sessions : after.sessions = system.sessions)
    (synchronizers : after.synchronizers = system.synchronizers) (peer : after.peer = system.peer) :
    Respects held before after := by
  refine respects.of_sameLoop loop (fun task member => ?_) fun promise member => ?_
  · rwa [System.ownTasks, sessions, synchronizers] at member
  · rwa [System.signals, synchronizers, peer] at member

theorem holdBack : Respects held before system.holdBack := by
  refine respects.extend (system.loop.addPromise_stands {} nofun nofun) (fun _ => Or.inl)
    fun promise member => ?_
  simp only [System.holdBack, System.signals, Peer.detained, System.addPromise, System.onLoop,
    List.mem_append, List.mem_singleton] at member ⊢
  rcases member with ((isHeld | isNew) | isClosing) | waits
  · exact Or.inl (Or.inl (Or.inl isHeld))
  · subst isNew
    exact Or.inr ⟨respects.loop.grown, by simp [System.nextPromise]⟩
  · exact Or.inl (Or.inl (Or.inr isClosing))
  · exact Or.inl (Or.inr waits)

/-- The closing of a connection is held back. -/
theorem holdClosing :
    Respects held before { system.addPromise with
      peer := { system.peer with heldCloses := system.peer.heldCloses ++ [system.nextPromise] } } := by
  refine respects.extend (system.loop.addPromise_stands {} nofun nofun) (fun _ => Or.inl)
    fun promise member => ?_
  simp only [System.signals, Peer.detained, System.addPromise, System.onLoop, List.mem_append,
    List.mem_singleton] at member ⊢
  rcases member with (isHeld | isClosing | isNew) | waits
  · exact Or.inl (Or.inl (Or.inl isHeld))
  · exact Or.inl (Or.inl (Or.inr isClosing))
  · subst isNew
    exact Or.inr ⟨respects.loop.grown, by simp [System.nextPromise]⟩
  · exact Or.inl (Or.inr waits)

theorem accept (link : Nat) (frame : Value) : Respects held before (system.accept link frame) := by
  have taken : Respects held before { system with peer := (system.peer.accept frame).2 } := by
    refine respects.of_sameLoop rfl (fun _ => id) fun promise member => ?_
    simp only [System.signals, detained_accept] at member
    exact member
  exact (taken.note (.accepted link frame)).deliver link _

end Next

end Respects

end System

end LanguageClient.Client
