import LanguageClient.Proofs.Loop.Steady
import LanguageClient.Proofs.Sending
import LanguageClient.Proofs.Synchronizer.World

/-!
# The lock of a synchronizer

What taking the lock, waiting for it, giving up and giving it back do to the invariant. Whoever
gives the lock back grants it to the first of those who wait, who may have given up already.
-/

/-!
## Steady steps of the client

Parts of a send: tasks, timers, files and workspaces stay as they are, and so does whether a document
is open.
-/

namespace LanguageClient.Client.System

open LanguageClient.Json LanguageClient.Loop

/-- A client comes from another one while tasks, timers and open documents stay as they are. -/
structure Steady (before after : System) : Prop where
  loop : before.loop.Steady after.loop
  files : after.files = before.files
  workspaces : after.workspaces = before.workspaces

namespace Steady

variable {before middle after : System}

theorem refl (system : System) : system.Steady system := ⟨.refl _, rfl, rfl⟩

theorem trans (first : before.Steady middle) (second : middle.Steady after) :
    before.Steady after :=
  ⟨first.loop.trans second.loop, second.files.trans first.files,
    second.workspaces.trans first.workspaces⟩

theorem isOpen (steady : before.Steady after) (file : Nat) :
    after.isOpen file = before.isOpen file := by
  unfold System.isOpen System.openFile?
  rw [steady.files, steady.workspaces]

end Steady

variable (system : System)

theorem note_steady (occurrence : Occurrence) : system.Steady (system.note occurrence) :=
  ⟨.refl _, rfl, rfl⟩

theorem settle_steady (promise : Nat) (outcome : Outcome Reply) :
    system.Steady (system.settle promise outcome) :=
  ⟨system.loop.settle_steady promise outcome, rfl, rfl⟩

theorem addPromise_steady : system.Steady system.addPromise :=
  ⟨system.loop.addPromise_steady {}, rfl, rfl⟩

theorem holdBack_steady : system.Steady system.holdBack :=
  ⟨system.loop.addPromise_steady {}, rfl, rfl⟩

theorem accept_steady (link : Nat) (frame : Value) : system.Steady (system.accept link frame) :=
  ⟨system.loop.enqueue_steady _, rfl, rfl⟩

theorem modifySynchronizer_steady (synchronizer : Nat) (change : Synchronizer → Synchronizer) :
    system.Steady (system.modifySynchronizer synchronizer change) :=
  ⟨.refl _, rfl, rfl⟩

theorem wakeFirst_steady (synchronizer : Nat) : system.Steady (system.wakeFirst synchronizer) := by
  unfold wakeFirst
  split
  · exact .refl system
  · exact system.settle_steady _ _

theorem release_steady (synchronizer : Nat) : system.Steady (system.release synchronizer) :=
  (system.modifySynchronizer_steady synchronizer _).trans (wakeFirst_steady _ synchronizer)

end LanguageClient.Client.System

/-! ## Who waits -/

namespace LanguageClient.Client

open LanguageClient.Json LanguageClient.Loop LanguageClient.Protocol

/-- No promise of those who wait for a lock is granted. -/
def NoneGranted (waiters : List Nat) (loop : ClientLoop) : Prop :=
  ∀ promise ∈ waiters, ∀ reply, loop.outcome? promise ≠ some (.returned reply)

/-- The lock may be taken past those who have all given up. -/
theorem noneGranted_of_cancelled
    {waiters : List Nat} {system : System}
    (cancelled : ∀ promise ∈ waiters, system.isCancelled promise = true) :
    NoneGranted waiters system.loop := by
  intro promise member reply granted
  have isCancelled := cancelled promise member
  simp [System.isCancelled, granted] at isCancelled

/-- Whoever was not granted the lock leaves, and wakes the next one if the lock is free. -/
theorem resumeLocking_not_returned
    {ending : Outcome Reply} (promise : Nat) (force : Bool) (system : System)
    (unreturned : ∀ reply, ending ≠ .returned reply) :
    System.resumeLocking 0 promise force system ending =
      (let leaving := system.modifyLock 0 fun lock =>
        { lock with waiters := lock.waiters.filter fun other => other ≠ promise }
      if (leaving.lockOf 0).held then leaving else leaving.wakeFirst 0, .ended ending) := by
  cases ending with
  | returned reply => exact (unreturned reply rfl).elim
  | failed _ => rfl
  | cancelled => rfl

namespace LockParts

variable {lock : Lock} {detained : List Nat} {loop : ClientLoop}

theorem noneGranted_of_granted
    {promise : Nat} {reply : Reply} (parts : LockParts lock detained loop)
    (member : promise ∈ lock.waiters)
    (granted : loop.outcome? promise = some (.returned reply)) :
    NoneGranted (lock.waiters.filter fun other => other ≠ promise) loop := by
  intro other otherMember otherReply otherGranted
  obtain ⟨otherWaits, different⟩ := List.mem_filter.mp otherMember
  obtain ⟨_, isHead⟩ := parts.granted promise member reply granted
  obtain ⟨_, otherHead⟩ := parts.granted other otherWaits otherReply otherGranted
  rw [isHead] at otherHead
  rw [Option.some.inj otherHead] at different
  simp at different

theorem take
    (parts : LockParts lock detained loop) (noneGranted : NoneGranted lock.waiters loop) :
    LockParts { lock with held := true } detained loop :=
  { parts with
    granted := fun promise member reply granted =>
      (noneGranted promise member reply granted).elim }

theorem giveBack (parts : LockParts lock detained loop) :
    LockParts { lock with held := false } detained loop :=
  { parts with
    granted := fun promise member reply granted =>
      ⟨rfl, (parts.granted promise member reply granted).2⟩ }

theorem leave (parts : LockParts lock detained loop) (promise : Nat) :
    LockParts { lock with waiters := lock.waiters.filter fun other => other ≠ promise }
      detained loop where
  waiters := fun other member => parts.waiters other (List.mem_filter.mp member).1
  detained := fun other member => by
    obtain ⟨plain, apart⟩ := parts.detained other member
    exact ⟨plain, fun waits => apart (List.mem_filter.mp waits).1⟩
  granted := fun other member reply granted => by
    obtain ⟨waits, different⟩ := List.mem_filter.mp member
    obtain ⟨free, isHead⟩ := parts.granted other waits reply granted
    refine ⟨free, ?_⟩
    obtain ⟨rest, waitersEq⟩ := List.head?_eq_some_iff.mp isHead
    have kept : lock.waiters.filter (fun next => next ≠ promise) =
        other :: rest.filter fun next => next ≠ promise := by
      rw [waitersEq]
      exact List.filter_cons_of_pos different
    simp only [kept, List.head?_cons]

theorem join
    {promise : Nat} (parts : LockParts lock detained loop) (plain : loop.IsPlain promise)
    (ungrouped : loop.IsUngrouped promise) (apart : promise ∉ detained)
    (unsettled : loop.outcome? promise = none) :
    LockParts { lock with waiters := lock.waiters ++ [promise] } detained loop where
  waiters := fun other member => by
    rcases List.mem_append.mp member with earlier | added
    · exact parts.waiters other earlier
    · rw [List.mem_singleton.mp added]
      exact ⟨plain, ungrouped⟩
  detained := fun other member => by
    obtain ⟨isPlain, apartEarlier⟩ := parts.detained other member
    refine ⟨isPlain, fun waits => ?_⟩
    rcases List.mem_append.mp waits with earlier | added
    · exact apartEarlier earlier
    · rw [List.mem_singleton.mp added] at member
      exact apart member
  granted := fun other member reply granted => by
    rcases List.mem_append.mp member with earlier | added
    · obtain ⟨free, isHead⟩ := parts.granted other earlier reply granted
      refine ⟨free, ?_⟩
      obtain ⟨rest, waitersEq⟩ := List.head?_eq_some_iff.mp isHead
      rw [waitersEq]
      rfl
    · rw [List.mem_singleton.mp added, unsettled] at granted
      cases granted

/-- The first of those who wait may be granted a free lock. -/
theorem grantFirst
    {promise : Nat} {others : List Nat} (parts : LockParts lock detained loop)
    (free : lock.held = false) (isFirst : lock.waiters = promise :: others)
    (outcome : Outcome Reply) :
    LockParts lock detained (loop.settle promise outcome) where
  waiters := fun other member => by
    obtain ⟨plain, ungrouped⟩ := parts.waiters other member
    exact ⟨plain.of_le (by simp) (by simp),
      (Scheduler.settle_groups promise other outcome loop).trans ungrouped⟩
  detained := fun other member => by
    obtain ⟨plain, apart⟩ := parts.detained other member
    exact ⟨plain.of_le (by simp) (by simp), apart⟩
  granted := fun other member reply granted => by
    rcases Scheduler.settle_outcome?_cases granted with earlier | ⟨_, rfl, _⟩
    · exact parts.granted other member reply earlier
    · exact ⟨free, by rw [isFirst]; rfl⟩

end LockParts

theorem modifyLock_steady (system : System) (change : Lock → Lock) :
    system.Steady (system.modifyLock 0 change) :=
  system.modifySynchronizer_steady 0 _

namespace SyncPassage

variable {calm : Prop} {uri : String} {running : Option Nat} {before system : System}
  {synchronizer : Synchronizer}

theorem wakeFirst
    (passage : SyncPassage calm uri running before synchronizer system)
    (free : synchronizer.lock.held = false) :
    SyncPassage calm uri running before synchronizer (system.wakeFirst 0) := by
  unfold System.wakeFirst
  rw [passage.lockOf]
  split
  · exact passage
  · rename_i promise others waitersEq
    have member : promise ∈ synchronizer.lock.waiters := by
      rw [waitersEq]
      exact List.mem_cons_self
    have plain := (passage.parts.lock.waiters promise member).1
    have spares : Spares calm promise (.returned .nothing) := fun _ => ⟨.nothing, rfl⟩
    have step := (passage.here (Spares calm)).settle plain.noCompletion spares
    exact {
      parts := { passage.parts with lock := passage.parts.lock.grantFirst free waitersEq _ }
      loop := {
        orderly := step.orderly
        punctual := step.punctual
        advances := passage.loop.advances.trans step.advances
        runs := passage.loop.runs } }

theorem release (passage : SyncPassage calm uri running before synchronizer system) :
    SyncPassage calm uri running before
      { synchronizer with lock := { synchronizer.lock with held := false } }
      (system.release 0) :=
  (passage.modifyLock (fun lock => { lock with held := false })
    passage.parts.lock.giveBack).wakeFirst rfl

theorem join (passage : SyncPassage calm uri running before synchronizer system) :
    SyncPassage calm uri running before
      { synchronizer with
        lock := { synchronizer.lock with
          waiters := synchronizer.lock.waiters ++ [system.nextPromise] } }
      (system.addPromise.modifyLock 0 fun lock =>
        { lock with waiters := lock.waiters ++ [system.nextPromise] }) := by
  have added : SyncPassage calm uri running before synchronizer system.addPromise :=
    passage.onLoop (passage.here fun _ _ => False).addPromise (by simp) (by simp)
  refine added.modifyLock
    (fun lock => { lock with waiters := lock.waiters ++ [system.nextPromise] })
    (added.parts.lock.join ?_ ?_ ?_ ?_)
  · exact passage.loop.orderly.addPromise_isPlain {}
  · exact Scheduler.addPromise_isUngrouped_new rfl
  · intro detained
    exact Nat.lt_irrefl _ (passage.parts.lock.detained _ detained).1.known
  · exact Scheduler.addPromise_outcome?_new {} system.loop

end SyncPassage

end LanguageClient.Client
