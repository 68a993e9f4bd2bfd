import LanguageClient.Proofs.Conduct.Undisturbed
import LanguageClient.Proofs.Synchronizer.Changes
import LanguageClient.Proofs.Workspace.Register

/-!
# How a flush ends

A flush that nobody disturbs returns or fails for a reason that a query recovers from. The one other
way in which it can end is that the versions of the document are used up.
-/

namespace LanguageClient.Client

open LanguageClient.Json LanguageClient.Loop LanguageClient.Number LanguageClient.Protocol

/-- An outcome after which a query can go on or recover. -/
def IsKind : Outcome Reply → Prop
  | .returned _ => True
  | .failed failure => failure.isQueryFailure = true
  | .cancelled => False

theorem IsVerdict.isKind {outcome : Outcome Reply} (verdict : IsVerdict outcome) :
    IsKind outcome := by
  cases outcome with
  | returned reply => trivial
  | failed failure => exact verdict
  | cancelled => exact verdict

theorem IsKind.not_cancelled {outcome : Outcome Reply} (kind : IsKind outcome) :
    outcome ≠ .cancelled := by
  rintro rfl
  exact kind

theorem isQueryFailure_of_isTransport
    {failure : Failure} (isTransport : failure.isTransport = true) :
    failure.isQueryFailure = true := by
  cases failure <;> first | rfl | cases isTransport

/-- What a flush leaves as it is. -/
structure Retains (before after : System) : Prop where
  editors : after.editors = before.editors
  workspaces : after.workspaces = before.workspaces
  sessions : after.sessions = before.sessions

namespace Retains

variable {before middle after : System}

theorem refl (system : System) : Retains system system := ⟨rfl, rfl, rfl⟩

theorem trans (first : Retains before middle) (second : Retains middle after) :
    Retains before after :=
  ⟨second.editors.trans first.editors, second.workspaces.trans first.workspaces,
    second.sessions.trans first.sessions⟩

end Retains

namespace System

variable {system middle : System} {promise : Nat}

/-! ## What stays -/

theorem wakeFirst_retains (system : System) (synchronizer : Nat) :
    Retains system (system.wakeFirst synchronizer) := by
  unfold wakeFirst
  split
  · exact .refl system
  · exact ⟨rfl, rfl, rfl⟩

theorem release_retains (system : System) (synchronizer : Nat) :
    Retains system (system.release synchronizer) := by
  have freed : Retains system
      (system.modifyLock synchronizer fun lock => { lock with held := false }) := ⟨rfl, rfl, rfl⟩
  exact freed.trans (wakeFirst_retains _ synchronizer)

theorem cancelTimer_retains (system : System) (synchronizer : Nat) :
    Retains system (system.cancelTimer synchronizer) := by
  unfold cancelTimer
  split
  · exact .refl system
  · exact ⟨rfl, rfl, rfl⟩

/-! ## Promises that are fresh -/

/-- A promise that is not settled and stands for no group. -/
structure IsFresh (system : System) (promise : Nat) : Prop where
  unsettled : system.loop.outcome? promise = none
  ungrouped : system.loop.groupOf? promise = none

theorem addPromise_isFresh (system : System) : system.addPromise.IsFresh system.nextPromise where
  unsettled := Scheduler.addPromise_outcome?_new {} system.loop
  ungrouped := by
    simp [Scheduler.groupOf?, addPromise, onLoop, Scheduler.addPromise, nextPromise,
      Scheduler.nextPromise]

theorem IsFresh.of_promises
    (fresh : system.IsFresh promise) (later : System)
    (promises : later.loop.promises = system.loop.promises) : later.IsFresh promise where
  unsettled := by
    rw [← fresh.unsettled, Scheduler.outcome?, promises, Scheduler.outcome?]
  ungrouped := by
    rw [← fresh.ungrouped, Scheduler.groupOf?, promises, Scheduler.groupOf?]

theorem IsFresh.addPromise (fresh : system.IsFresh promise) (known : promise < system.nextPromise) :
    system.addPromise.IsFresh promise where
  unsettled := (Scheduler.addPromise_outcome?_of_lt {} known).trans fresh.unsettled
  ungrouped := by
    cases isGroup : system.addPromise.loop.groupOf? promise with
    | none => rfl
    | some group =>
        rcases system.loop.addPromise_groupOf? isGroup with earlier | ⟨_, added⟩
        · rw [fresh.ungrouped] at earlier
          cases earlier
        · cases added

/-! ## Sessions of documents -/

/-- The session of every workspace that has a document registered is known. -/
def Voiced (system : System) : Prop :=
  ∀ workspace uri file, system.openFile? workspace uri = some file →
    ∃ session, system.sessionOf? workspace = some session

theorem Voiced.of_retains (voiced : system.Voiced) (retains : Retains system middle) :
    middle.Voiced := by
  intro workspace uri file registered
  unfold openFile? at registered
  rw [retains.workspaces] at registered
  unfold sessionOf?
  rw [retains.workspaces, retains.sessions]
  exact voiced workspace uri file registered

theorem Voiced.of_aside (voiced : system.Voiced) (aside : Aside system middle) :
    middle.Voiced := by
  intro workspace uri file registered
  rw [aside.openFile?] at registered
  obtain ⟨session, known⟩ := voiced workspace uri file registered
  obtain ⟨later, laterKnown, _⟩ := aside.sessionOf? known
  exact ⟨later, laterKnown⟩

/-- A document is registered only in a workspace that can write. -/
theorem Voiced.of_performs
    {deed : Deed} (voiced : system.Voiced) (performs : Performs system deed middle) :
    middle.Voiced := by
  intro workspace uri file registered
  have spoken : ∃ session, system.sessionOf? workspace = some session := by
    rcases performs.openFile?_cases registered with earlier | ⟨isNew, inside⟩
    · exact voiced workspace uri file earlier
    · cases performs with
      | announce new link text free writable =>
          by_cases same : (workspace, uri) = (new.workspace, new.uri)
          · obtain ⟨rfl, rfl⟩ := Prod.mk.inj same
            rw [openLink?_eq_bind] at writable
            obtain ⟨session, known, _⟩ := Option.bind_eq_some_iff.mp writable
            exact ⟨session, known⟩
          · have kept : (system.addFile new).openFile? workspace uri = some file := registered
            rw [openFile?_addFile_of_ne system same] at kept
            exact voiced workspace uri file kept
      | _ => exact absurd inside (Nat.not_lt.mpr isNew)
  obtain ⟨session, known⟩ := spoken
  obtain ⟨later, laterKnown, _⟩ := performs.sessionOf? known
  exact ⟨later, laterKnown⟩

theorem Voiced.of_does {deeds : List Deed} (voiced : system.Voiced) (does : Does system deeds middle) :
    middle.Voiced :=
  does.induction (fun _ _ aside voiced => voiced.of_aside aside)
    (fun _ _ _ performs _ voiced => voiced.of_performs performs) (fun _ _ => trivial) voiced

/-- No further version of the document can be sent. -/
def Exhausted (system : System) : Prop :=
  ∃ found, system.synchronizers[0]? = some found ∧ isVersion (found.version + 1 : Nat) = false

theorem exhausted_of_modify
    {change : Synchronizer → Synchronizer}
    (exhausted : (system.modifySynchronizer 0 change).Exhausted)
    (version : ∀ found, (change found).version = found.version) : system.Exhausted := by
  obtain ⟨found, known, used⟩ := exhausted
  simp only [modifySynchronizer, List.getElem?_modify] at known
  obtain ⟨earlier, earlierKnown, rfl⟩ := Option.map_eq_some_iff.mp known
  simp only [if_true, version] at used
  exact ⟨earlier, earlierKnown, used⟩

theorem exhausted_of_cancelTimer (exhausted : (system.cancelTimer 0).Exhausted) :
    system.Exhausted := by
  unfold cancelTimer at exhausted
  split at exhausted
  · exact exhausted
  · rename_i timer _
    have disarmed : (system.disarm timer).Exhausted := exhausted_of_modify exhausted fun _ => rfl
    exact disarmed

end System

/-! ## What comes of a change -/

/-- What comes of a frame that is written: whoever writes it can go on or recover, or waits until the
connection takes it. -/
inductive Step.Writes (system : System) : Step → Prop where
  | ends (later : System) (outcome : Outcome Reply) (retains : Retains system later)
      (kind : IsKind outcome) : Writes system (later, .ended outcome)
  | waits (later : System) (link : Nat) (frame : Value) (subject : String) (promise : Nat)
      (fresh : later.IsFresh promise) :
    Writes system (later, .suspended [.sending link frame, .writing subject] promise)

/-- How a flush may end. -/
def System.FlushEnd (system : System) (outcome : Outcome Reply) : Prop :=
  IsKind outcome ∨ outcome = .failed .outOfRange ∧ system.Exhausted

/-- What comes of a flush: it ends, or it waits for the lock or until a change is sent. -/
inductive Step.Flushes (system : System) : Step → Prop where
  | ends (later : System) (outcome : Outcome Reply) (retains : Retains system later)
      (ending : system.FlushEnd outcome) : Flushes system (later, .ended outcome)
  | locks (later : System) (promise : Nat) (force : Bool) (fresh : later.IsFresh promise) :
    Flushes system (later, .suspended [.locking 0 promise force] promise)
  | sends (later : System) (link : Nat) (frame : Value) (subject : String) (version : Nat)
      (wasDirty : Bool) (promise : Nat) (fresh : later.IsFresh promise) :
    Flushes system (later, .suspended
      [.sending link frame, .writing subject, .changing 0 version wasDirty] promise)

theorem Step.Flushes.of_retains
    {before system : System} {step : Step} (flushes : step.Flushes system)
    (retains : Retains before system) (exhausted : system.Exhausted → before.Exhausted) :
    step.Flushes before := by
  cases flushes with
  | ends later outcome laterRetains ending =>
      exact .ends later outcome (retains.trans laterRetains) (ending.imp_right (.imp_right exhausted))
  | locks later promise force fresh => exact .locks later promise force fresh
  | sends later link frame subject version wasDirty promise fresh =>
      exact .sends later link frame subject version wasDirty promise fresh

namespace System

variable {system : System} {file session link promise : Nat} {frame : Value}

theorem write_writes
    {found : Session} (subject : String) (frame : Value)
    (known : system.sessions[session]? = some found) :
    (system.write session subject frame).Writes system := by
  rcases write_cases subject frame known with ⟨failure, _, result⟩ | result | result
  · rw [result]
    exact .ends _ _ ⟨rfl, rfl, rfl⟩
      (isQueryFailure_of_isTransport (writeFailure_isTransport subject failure))
  · rw [result]
    exact .waits _ _ _ _ _ ((addPromise_isFresh system).of_promises _ rfl)
  · rw [result]
    exact .ends _ _ ⟨rfl, rfl, rfl⟩ trivial

/-- A change of an open document is written, unless its version is out of range. -/
theorem changeFile_writes
    (voiced : system.Voiced) (isOpen : system.isOpen file = true) (version : Int) (text : String) :
    (system.changeFile file version text).Writes system ∨
      isVersion version = false ∧
        system.changeFile file version text = (system, .ended (.failed .outOfRange)) := by
  obtain ⟨found, known, registered⟩ := isOpen_iff.mp isOpen
  obtain ⟨session, spoken⟩ := voiced found.workspace found.uri file registered
  obtain ⟨workspace, workspaceKnown, sessionKnown⟩ := Option.bind_eq_some_iff.mp spoken
  simp only [changeFile, known, isOpen, Bool.not_true, Bool.false_eq_true, if_false]
  cases inRange : isVersion version with
  | false => exact Or.inr ⟨rfl, rfl⟩
  | true =>
      left
      simp only [Bool.not_true, Bool.false_eq_true, if_false, notifyIn, workspaceKnown, notify,
        sessionKnown]
      split
      · exact .ends system _ (.refl system) rfl
      · rw [if_pos (by exact isWritable_didChangeParams found.uri version text)]
        exact write_writes _ _ sessionKnown

theorem resumeChanging_ends
    {outcome : Outcome Reply} (version : Nat) (wasDirty : Bool)
    (notCancelled : outcome ≠ .cancelled) :
    ∃ later ending, resumeChanging 0 version wasDirty system outcome = (later, .ended ending) ∧
      Retains system later ∧ ∀ flushed : System, flushed.FlushEnd outcome → flushed.FlushEnd ending := by
  cases outcome with
  | returned reply =>
      have changed : Retains system
          (system.modifySynchronizer 0 fun found => { found with version }) := ⟨rfl, rfl, rfl⟩
      exact ⟨_, _, rfl, changed.trans (release_retains _ 0), fun _ _ => Or.inl trivial⟩
  | failed failure =>
      have changed : Retains system (system.modifySynchronizer 0 fun found =>
          { found with dirty := found.dirty || wasDirty }) := ⟨rfl, rfl, rfl⟩
      exact ⟨_, _, rfl, changed.trans (release_retains _ 0), fun _ => id⟩
  | cancelled => exact (notCancelled rfl).elim

theorem FlushEnd.not_cancelled {outcome : Outcome Reply} (ending : system.FlushEnd outcome) :
    outcome ≠ .cancelled := by
  rintro rfl
  rcases ending with kind | ⟨impossible, _⟩
  · exact kind
  · cases impossible

theorem changeLocked_flushes
    {found : Synchronizer} (voiced : system.Voiced) (known : system.synchronizers[0]? = some found)
    (force : Bool) : (system.changeLocked 0 force).Flushes system := by
  have released : (Step.returned (system.release 0) .nothing).Flushes system :=
    .ends _ _ (release_retains system 0) (Or.inl trivial)
  simp only [changeLocked, known]
  split
  · exact released
  · rename_i file _
    split
    · exact released
    · rename_i sends
      have isOpen : system.isOpen file = true := by
        cases isOpen : system.isOpen file with
        | true => rfl
        | false => simp [isOpen] at sends
      have taken : Retains system
          (system.modifySynchronizer 0 fun found => { found with dirty := false }) :=
        ⟨rfl, rfl, rfl⟩
      -- The change ends with the outcome of its send, after the lock is given back.
      have ends (later : System) (outcome : Outcome Reply) (retains : Retains system later)
          (ending : system.FlushEnd outcome) :
          (resumeChanging 0 (found.version + 1) found.dirty later outcome).Flushes system := by
        obtain ⟨last, lastOutcome, result, lastRetains, keeps⟩ :=
          resumeChanging_ends (found.version + 1) found.dirty ending.not_cancelled
        rw [result]
        exact .ends last lastOutcome (retains.trans lastRetains) (keeps system ending)
      have stillOpen : (system.modifySynchronizer 0 fun found =>
          { found with dirty := false }).isOpen file = true := isOpen
      rcases changeFile_writes (voiced.of_retains taken) stillOpen (found.version + 1 : Nat)
        found.text with writes | ⟨used, result⟩
      · revert writes
        generalize (system.modifySynchronizer 0 fun found =>
          { found with dirty := false }).changeFile file (found.version + 1 : Nat) found.text = step
        intro writes
        cases writes with
        | ends later outcome retains kind =>
            exact ends later outcome (taken.trans retains) (Or.inl kind)
        | waits later link frame subject promise fresh =>
            exact .sends later link frame subject _ _ promise fresh
      · rw [result]
        exact ends _ _ taken (Or.inr ⟨rfl, found, known, used⟩)

theorem known_modify
    {found : Synchronizer} (change : Synchronizer → Synchronizer)
    (known : system.synchronizers[0]? = some found) :
    (system.modifySynchronizer 0 change).synchronizers[0]? = some (change found) := by
  simp [modifySynchronizer, known]

theorem takeLock_flushes
    {found : Synchronizer} (voiced : system.Voiced) (known : system.synchronizers[0]? = some found)
    (force : Bool) :
    ((system.modifyLock 0 fun lock => { lock with held := true }).changeLocked 0 force).Flushes
      system := by
  have taken : Retains system (system.modifyLock 0 fun lock => { lock with held := true }) :=
    ⟨rfl, rfl, rfl⟩
  exact (changeLocked_flushes (voiced.of_retains taken) (known_modify _ known) force).of_retains taken
    fun exhausted => exhausted_of_modify exhausted fun _ => rfl

theorem sendChange_flushes
    {found : Synchronizer} (voiced : system.Voiced) (known : system.synchronizers[0]? = some found)
    (force : Bool) : (system.sendChange 0 force).Flushes system := by
  unfold sendChange
  simp only
  split
  · exact takeLock_flushes voiced known force
  · have fresh := addPromise_isFresh system
    have waits : (system.addPromise.modifyLock 0 fun lock =>
        { lock with waiters := lock.waiters ++ [system.nextPromise] }).loop.outcome?
          system.nextPromise = none := fresh.unsettled
    rw [await_of_unsettled waits]
    exact .locks _ _ force (fresh.of_promises _ rfl)

theorem flush_flushes
    {found : Synchronizer} (voiced : system.Voiced) (known : system.synchronizers[0]? = some found)
    (force : Bool) : (system.flush 0 force).Flushes system := by
  have stopped := cancelTimer_retains system 0
  obtain ⟨later, laterKnown⟩ : ∃ later, (system.cancelTimer 0).synchronizers[0]? = some later := by
    unfold cancelTimer
    split
    · exact ⟨found, known⟩
    · exact ⟨_, known_modify _ known⟩
  unfold flush
  simp only
  split
  · exact (sendChange_flushes (voiced.of_retains stopped) laterKnown force).of_retains stopped
      exhausted_of_cancelTimer
  · exact .ends _ _ stopped (Or.inl trivial)

/-! ## How a flush goes on -/

theorem resumeLocking_flushes
    {found : Synchronizer} {outcome : Outcome Reply} (voiced : system.Voiced)
    (known : system.synchronizers[0]? = some found) (promise : Nat) (force : Bool)
    (kind : IsKind outcome) : (resumeLocking 0 promise force system outcome).Flushes system := by
  have left : Retains system (system.modifyLock 0 fun lock =>
      { lock with waiters := lock.waiters.filter fun other => other ≠ promise }) := ⟨rfl, rfl, rfl⟩
  cases outcome with
  | returned reply =>
      exact (takeLock_flushes (voiced.of_retains left) (known_modify _ known) force).of_retains left
        fun exhausted => exhausted_of_modify exhausted fun _ => rfl
  | failed failure =>
      unfold resumeLocking
      simp only
      split
      · exact .ends _ _ left (Or.inl kind)
      · exact .ends _ _ (left.trans (wakeFirst_retains _ 0)) (Or.inl kind)
  | cancelled => exact kind.elim

/-- Whoever sends a frame can go on or recover when the connection has taken it or not. -/
theorem resumeStack_sending_kind
    {outcome : Outcome Reply} (system : System) (link : Nat) (frame : Value) (subject : String)
    (outer : List Frame) (kind : IsKind outcome) :
    ∃ later ending, IsKind ending ∧ (later = system ∨ later = system.accept link frame) ∧
      system.resumeStack outcome (.sending link frame :: .writing subject :: outer) =
        later.resumeStack ending outer := by
  have fails (failure : Failure) : IsKind (.failed (writeFailure subject failure)) :=
    isQueryFailure_of_isTransport (writeFailure_isTransport subject failure)
  cases outcome with
  | returned reply =>
      cases refused : system.peer.refusalOf? frame with
      | none =>
          have accepts : resumeFrame (.sending link frame) system (.returned reply) = _ :=
            takeFrame_of_acceptance link refused
          exact ⟨_, .returned .nothing, trivial, Or.inr rfl,
            by rw [resumeStack_of_ended _ accepts, resumeStack_of_ended _ rfl]⟩
      | some failure =>
          have refuses : resumeFrame (.sending link frame) system (.returned reply) = _ :=
            takeFrame_of_refusal link refused
          refine ⟨_, _, fails failure, Or.inl rfl, ?_⟩
          rw [resumeStack_of_ended _ refuses, resumeStack_of_ended _ rfl]
          rfl
  | failed failure =>
      refine ⟨_, _, fails failure, Or.inl rfl, ?_⟩
      rw [resumeStack_of_ended _ rfl, resumeStack_of_ended _ rfl]
      rfl
  | cancelled => exact kind.elim

theorem resumeStack_changing_flushes
    {outcome : Outcome Reply} (system : System) (link : Nat) (frame : Value) (subject : String)
    (version : Nat) (wasDirty : Bool) (kind : IsKind outcome) :
    (system.resumeStack outcome
      [.sending link frame, .writing subject, .changing 0 version wasDirty]).Flushes system := by
  obtain ⟨later, ending, isKind, isLater, result⟩ :=
    resumeStack_sending_kind system link frame subject [.changing 0 version wasDirty] kind
  have retains : Retains system later := by
    rcases isLater with rfl | rfl
    · exact .refl _
    · exact ⟨rfl, rfl, rfl⟩
  have ends : system.FlushEnd ending := Or.inl isKind
  obtain ⟨last, lastOutcome, changed, lastRetains, keeps⟩ :=
    @resumeChanging_ends later ending version wasDirty ends.not_cancelled
  rw [result, resumeStack_singleton]
  have isLast : resumeFrame (.changing 0 version wasDirty) later ending =
      (last, .ended lastOutcome) := changed
  rw [isLast]
  exact .ends last lastOutcome (retains.trans lastRetains) (keeps system ends)

end System

end LanguageClient.Client
