import LanguageClient.Proofs.Conduct.Leave
import LanguageClient.Proofs.Loop.Collecting
import LanguageClient.Proofs.Editor.World

/-!
# What a call leaves alone

An editor has a session and a workspace, and gives them up when it is closed. Most of what a client does
leaves alone which sessions and workspaces there are, which of them are closed and who has them, and it
settles no group of tasks that somebody awaits.
-/

namespace LanguageClient.Client

open LanguageClient.Json LanguageClient.Loop LanguageClient.Number LanguageClient.Protocol

/-- The connection that was told to close. -/
def Occurrence.closing? : Occurrence → Option Nat
  | .closedLink link => some link
  | _ => none

/-- What the editors of a client have, and what they have given up. -/
structure Holdings where
  /-- The sessions: their connections, and whether they are closed. -/
  sessions : List (Nat × Bool)
  /-- The sessions of the workspaces. -/
  workspaces : List Nat
  /-- The workspaces of the editors. -/
  owned : List (Option Nat)
  /-- How many documents were opened. -/
  handles : Nat
  /-- The connections that were told to close, in order. -/
  closings : List Nat
  deriving DecidableEq, Repr

namespace System

/-- The connections that were told to close, in order. -/
def closings (system : System) : List Nat := system.journal.filterMap Occurrence.closing?

def holdings (system : System) : Holdings where
  sessions := system.sessions.map fun session => (session.link, session.closed)
  workspaces := system.workspaces.map (·.session)
  owned := system.editors.map (·.workspace)
  handles := system.files.length
  closings := system.closings

/-- The documents of the synchronizers are known. -/
def Anchored (system : System) : Prop :=
  ∀ synchronizer ∈ system.synchronizers, ∀ file, synchronizer.file = some file →
    file < system.files.length

/-- The promises that the peer, the sessions and the locks settle. -/
def dues (system : System) : List Nat :=
  system.promised ++ system.synchronizers.flatMap (·.lock.waiters)

/-- A task that the client does not mind awaits a group that nobody breaks off. -/
structure Collects (task promise : Nat) (system : System) : Prop where
  loop : system.loop.Collects task promise Reply.nothing
  foreign : task ∉ system.ownTasks
  notDue : promise ∉ system.dues

/-- Documents stay known, and a task that awaits a group goes on to do so. -/
structure Heeds (task promise : Nat) (before after : System) : Prop where
  anchored : before.Anchored → after.Anchored
  collects : before.Collects task promise → after.Collects task promise

/-- A client also leaves alone what the editors have. -/
structure Abstains (task promise : Nat) (before after : System) : Prop
    extends Heeds task promise before after where
  holdings : after.holdings = before.holdings

variable {task promise : Nat} {before middle after system : System}

theorem mem_promised_of_pending
    {session : Nat} {found : Session} {entry : PendingRequest}
    (known : system.sessions[session]? = some found) (member : entry ∈ found.pending) :
    entry.promise ∈ system.promised := by
  refine List.mem_append_right _ (List.mem_flatMap.mpr ⟨found, List.mem_of_getElem? known, ?_⟩)
  exact List.mem_map.mpr ⟨entry, member, rfl⟩

theorem Collects.ne_of_promised
    {other : Nat} (collects : system.Collects task promise) (due : other ∈ system.promised) :
    other ≠ promise := by
  rintro rfl
  exact collects.notDue (List.mem_append_left _ due)

theorem Collects.ne_nextPromise (collects : system.Collects task promise) :
    system.nextPromise ≠ promise :=
  fun same => Nat.lt_irrefl _ (same ▸ collects.loop.promise_known)

theorem holdings_modifySession
    (session : Nat) {change : Session → Session}
    (same : ∀ found, ((change found).link, (change found).closed) = (found.link, found.closed)) :
    (system.modifySession session change).holdings = system.holdings := by
  have sessions : (system.modifySession session change).sessions.map
      (fun found => (found.link, found.closed)) =
        system.sessions.map fun found => (found.link, found.closed) :=
    map_modify_of_keeps same system.sessions session
  simp only [holdings, sessions]
  rfl

theorem Anchored.modifySynchronizer
    {synchronizer : Nat} {change : Synchronizer → Synchronizer} (anchored : system.Anchored)
    (files : ∀ found file, (change found).file = some file →
      found.file = some file ∨ file < system.files.length) :
    (system.modifySynchronizer synchronizer change).Anchored := by
  intro later inside file attached
  rcases Scheduler.mem_modify inside with earlier | ⟨found, entry, rfl⟩
  · exact anchored later earlier file attached
  · rcases files found file attached with same | known
    · exact anchored found (List.mem_of_getElem? entry) file same
    · exact known

/-! ## Single changes -/

namespace Heeds

theorem refl (system : System) : Heeds task promise system system := ⟨id, id⟩

theorem trans (first : Heeds task promise before middle) (second : Heeds task promise middle after) :
    Heeds task promise before after :=
  ⟨second.anchored ∘ first.anchored, second.collects ∘ first.collects⟩

/-- Nothing happens to the tasks, the peer, the sessions and the synchronizers, and no document is
forgotten. -/
theorem of_same
    (loop : after.loop = before.loop) (peer : after.peer = before.peer)
    (sessions : after.sessions = before.sessions)
    (synchronizers : after.synchronizers = before.synchronizers)
    (files : before.files.length ≤ after.files.length) : Heeds task promise before after where
  anchored := fun anchored synchronizer member file attached =>
    Nat.lt_of_lt_of_le (anchored synchronizer (synchronizers ▸ member) file attached) files
  collects := fun collects => {
    loop := loop ▸ collects.loop
    foreign := by
      rw [ownTasks, sessions, synchronizers]
      exact collects.foreign
    notDue := by
      rw [dues, promised, peer, sessions, synchronizers]
      exact collects.notDue }

theorem onLoop
    {change : ClientLoop → ClientLoop}
    (keeps : system.Collects task promise → (change system.loop).Collects task promise .nothing) :
    Heeds task promise system (system.onLoop change) where
  anchored := id
  collects := fun collects => ⟨keeps collects, collects.foreign, collects.notDue⟩

theorem modifySession
    (session : Nat) {change : Session → Session}
    (answers : ∀ found, system.sessions[session]? = some found → system.Collects task promise →
      task ∉ found.answers → task ∉ (change found).answers)
    (pending : ∀ found, system.sessions[session]? = some found → system.Collects task promise →
      promise ∉ found.pending.map (·.promise) → promise ∉ (change found).pending.map (·.promise)) :
    Heeds task promise system (system.modifySession session change) where
  anchored := id
  collects := fun collects => by
    have source {later : Session}
        (inside : later ∈ (system.modifySession session change).sessions) :
        task ∉ later.answers ∧ promise ∉ later.pending.map (·.promise) := by
      have apart {found : Session} (member : found ∈ system.sessions) :
          task ∉ found.answers ∧ promise ∉ found.pending.map (·.promise) := by
        refine ⟨fun isAnswer => collects.foreign ?_, fun isPending => collects.notDue ?_⟩
        · exact List.mem_append_left _ (List.mem_flatMap.mpr ⟨found, member, isAnswer⟩)
        · exact List.mem_append_left _ (List.mem_append_right _
            (List.mem_flatMap.mpr ⟨found, member, isPending⟩))
      rcases Scheduler.mem_modify inside with earlier | ⟨found, entry, rfl⟩
      · exact apart earlier
      · obtain ⟨noAnswer, notPending⟩ := apart (List.mem_of_getElem? entry)
        exact ⟨answers found entry collects noAnswer, pending found entry collects notPending⟩
    refine ⟨collects.loop, fun own => ?_, fun due => ?_⟩
    · rcases List.mem_append.mp own with isAnswer | isSend
      · obtain ⟨later, inside, member⟩ := List.mem_flatMap.mp isAnswer
        exact (source inside).1 member
      · exact collects.foreign (List.mem_append_right _ isSend)
    · rcases List.mem_append.mp due with promised | waits
      · rcases List.mem_append.mp promised with detained | isPending
        · exact collects.notDue (List.mem_append_left _ (List.mem_append_left _ detained))
        · obtain ⟨later, inside, member⟩ := List.mem_flatMap.mp isPending
          exact (source inside).2 member
      · exact collects.notDue (List.mem_append_right _ waits)

theorem modifySynchronizer
    (synchronizer : Nat) {change : Synchronizer → Synchronizer}
    (files : ∀ found file, (change found).file = some file →
      found.file = some file ∨ file < system.files.length)
    (sends : ∀ found, system.Collects task promise → task ∉ found.sends →
      task ∉ (change found).sends)
    (waiters : ∀ found, system.Collects task promise → promise ∉ found.lock.waiters →
      promise ∉ (change found).lock.waiters) :
    Heeds task promise system (system.modifySynchronizer synchronizer change) where
  anchored := fun anchored => anchored.modifySynchronizer files
  collects := fun collects => by
    have source {later : Synchronizer}
        (inside : later ∈ (system.modifySynchronizer synchronizer change).synchronizers) :
        task ∉ later.sends ∧ promise ∉ later.lock.waiters := by
      have apart {found : Synchronizer} (member : found ∈ system.synchronizers) :
          task ∉ found.sends ∧ promise ∉ found.lock.waiters := by
        refine ⟨fun isSend => collects.foreign ?_, fun waits => collects.notDue ?_⟩
        · exact List.mem_append_right _ (List.mem_flatMap.mpr ⟨found, member, isSend⟩)
        · exact List.mem_append_right _ (List.mem_flatMap.mpr ⟨found, member, waits⟩)
      rcases Scheduler.mem_modify inside with earlier | ⟨found, entry, rfl⟩
      · exact apart earlier
      · obtain ⟨noSend, noWaiter⟩ := apart (List.mem_of_getElem? entry)
        exact ⟨sends found collects noSend, waiters found collects noWaiter⟩
    refine ⟨collects.loop, fun own => ?_, fun due => ?_⟩
    · rcases List.mem_append.mp own with isAnswer | isSend
      · exact collects.foreign (List.mem_append_left _ isAnswer)
      · obtain ⟨later, inside, member⟩ := List.mem_flatMap.mp isSend
        exact (source inside).1 member
    · rcases List.mem_append.mp due with promised | waits
      · exact collects.notDue (List.mem_append_left _ promised)
      · obtain ⟨later, inside, member⟩ := List.mem_flatMap.mp waits
        exact (source inside).2 member

/-- The peer holds back nothing that it did not hold back. -/
theorem withDetained
    {peer : Peer} (detained : ∀ other ∈ peer.detained, other ∈ system.peer.detained) :
    Heeds task promise system { system with peer } where
  anchored := id
  collects := fun collects => {
    loop := collects.loop
    foreign := collects.foreign
    notDue := fun due => by
      rcases List.mem_append.mp due with promised | waits
      · rcases List.mem_append.mp promised with isDetained | isPending
        · exact collects.notDue
            (List.mem_append_left _ (List.mem_append_left _ (detained promise isDetained)))
        · exact collects.notDue (List.mem_append_left _ (List.mem_append_right _ isPending))
      · exact collects.notDue (List.mem_append_right _ waits) }

end Heeds

namespace Abstains

theorem refl (system : System) : Abstains task promise system system := ⟨.refl system, rfl⟩

theorem trans
    (first : Abstains task promise before middle) (second : Abstains task promise middle after) :
    Abstains task promise before after :=
  ⟨first.toHeeds.trans second.toHeeds, second.holdings.trans first.holdings⟩

/-- That a step goes on to leave a group alone may rest on what was so before. -/
theorem trans_from
    (first : Abstains task promise before middle)
    (second : before.Collects task promise → Heeds task promise middle after)
    (anchored : middle.Anchored → after.Anchored) (holdings : after.holdings = middle.holdings) :
    Abstains task promise before after where
  anchored := anchored ∘ first.anchored
  collects := fun collects => (second collects).collects (first.collects collects)
  holdings := holdings.trans first.holdings

theorem note
    {occurrence : Occurrence} (system : System) (silent : occurrence.closing? = none) :
    Abstains task promise system (system.note occurrence) where
  toHeeds := .of_same rfl rfl rfl rfl (Nat.le_refl _)
  holdings := by
    have same : (system.note occurrence).closings = system.closings := by
      simp [closings, System.note, silent]
    simp only [System.holdings, same]
    rfl

theorem log (system : System) (level : LogLevel) (source : LogSource) (text : String) :
    Abstains task promise system (system.log level source text) :=
  note system rfl

theorem onLoop
    {change : ClientLoop → ClientLoop}
    (keeps : system.Collects task promise → (change system.loop).Collects task promise .nothing) :
    Abstains task promise system (system.onLoop change) :=
  ⟨.onLoop keeps, rfl⟩

theorem addPromise (system : System) : Abstains task promise system system.addPromise :=
  onLoop fun collects => collects.loop.addPromise {} nofun

theorem settle
    {other : Nat} (different : system.Collects task promise → other ≠ promise)
    (outcome : Outcome Reply) : Abstains task promise system (system.settle other outcome) :=
  onLoop fun collects => collects.loop.settle (different collects) outcome

theorem disarm (system : System) (timer : Nat) : Abstains task promise system (system.disarm timer) :=
  onLoop fun collects => collects.loop.of_same rfl rfl

theorem arm (system : System) (delay : Delay) (action : Action) :
    Abstains task promise system (system.onLoop (·.arm delay action)) :=
  onLoop fun collects => collects.loop.of_same rfl rfl

theorem deliver (system : System) (link : Nat) (frames : List Value) :
    Abstains task promise system (system.deliver link frames) :=
  onLoop fun collects => collects.loop.of_same rfl rfl

theorem spawn (system : System) (call : Call) :
    Abstains task promise system (system.spawn call) :=
  onLoop fun collects => collects.loop.spawn _

theorem whenEnded (system : System) (other : Nat) (action : Action) :
    Abstains task promise system (system.whenEnded other action) := by
  unfold System.whenEnded
  split
  · exact .refl system
  · exact onLoop fun collects => collects.loop.whenSettled _ _

theorem modifySession
    (session : Nat) {change : Session → Session}
    (same : ∀ found, ((change found).link, (change found).closed) = (found.link, found.closed))
    (answers : ∀ found, system.sessions[session]? = some found → system.Collects task promise →
      task ∉ found.answers → task ∉ (change found).answers)
    (pending : ∀ found, system.sessions[session]? = some found → system.Collects task promise →
      promise ∉ found.pending.map (·.promise) → promise ∉ (change found).pending.map (·.promise)) :
    Abstains task promise system (system.modifySession session change) where
  toHeeds := .modifySession session answers pending
  holdings := holdings_modifySession session same

theorem modifySynchronizer
    (synchronizer : Nat) {change : Synchronizer → Synchronizer}
    (files : ∀ found file, (change found).file = some file →
      found.file = some file ∨ file < system.files.length)
    (sends : ∀ found, system.Collects task promise → task ∉ found.sends →
      task ∉ (change found).sends)
    (waiters : ∀ found, system.Collects task promise → promise ∉ found.lock.waiters →
      promise ∉ (change found).lock.waiters) :
    Abstains task promise system (system.modifySynchronizer synchronizer change) :=
  ⟨.modifySynchronizer synchronizer files sends waiters, rfl⟩

/-- A change of a synchronizer that concerns neither its document, nor its sends, nor its lock. -/
theorem adjust
    (system : System) (synchronizer : Nat) {change : Synchronizer → Synchronizer}
    (file : ∀ found, (change found).file = found.file)
    (sends : ∀ found, (change found).sends = found.sends)
    (lock : ∀ found, (change found).lock = found.lock) :
    Abstains task promise system (system.modifySynchronizer synchronizer change) :=
  modifySynchronizer synchronizer (fun found _ attached => Or.inl (file found ▸ attached))
    (fun found _ => sends found ▸ id) fun found _ => lock found ▸ id

theorem modifyLock
    (synchronizer : Nat) {change : Lock → Lock}
    (waiters : ∀ found, system.Collects task promise → promise ∉ found.waiters →
      promise ∉ (change found).waiters) :
    Abstains task promise system (system.modifyLock synchronizer change) :=
  modifySynchronizer synchronizer (fun _ _ => Or.inl) (fun _ _ => id)
    fun found => waiters found.lock

theorem modifyEditor
    {change : Editor → Editor} (system : System) (editor : Nat)
    (same : ∀ found, (change found).workspace = found.workspace) :
    Abstains task promise system (system.modifyEditor editor change) where
  toHeeds := .of_same rfl rfl rfl rfl (Nat.le_refl _)
  holdings := by
    have owned : (system.modifyEditor editor change).editors.map (·.workspace) =
        system.editors.map (·.workspace) :=
      map_modify_of_keeps same system.editors editor
    simp only [System.holdings, owned]
    rfl

theorem modifyWorkspace
    {change : Workspace → Workspace} (system : System) (workspace : Nat)
    (same : ∀ found, (change found).session = found.session) :
    Abstains task promise system (system.modifyWorkspace workspace change) where
  toHeeds := .of_same rfl rfl rfl rfl (Nat.le_refl _)
  holdings := by
    have sessions : (system.modifyWorkspace workspace change).workspaces.map (·.session) =
        system.workspaces.map (·.session) :=
      map_modify_of_keeps same system.workspaces workspace
    simp only [System.holdings, sessions]
    rfl

theorem withDetained
    {peer : Peer} (detained : ∀ other ∈ peer.detained, other ∈ system.peer.detained) :
    Abstains task promise system { system with peer } :=
  ⟨.withDetained detained, rfl⟩

/-- Something is held back; its promise is new. -/
theorem withNewPromise
    {peer : Peer}
    (detained : ∀ other ∈ peer.detained, other ∈ system.peer.detained ∨ other = system.nextPromise) :
    Abstains task promise system { system.addPromise with peer } where
  anchored := id
  collects := fun collects => {
    loop := collects.loop.addPromise {} nofun
    foreign := collects.foreign
    notDue := fun due => by
      rcases List.mem_append.mp due with promised | waits
      · rcases List.mem_append.mp promised with isDetained | isPending
        · rcases detained promise isDetained with earlier | isNew
          · exact collects.notDue (List.mem_append_left _ (List.mem_append_left _ earlier))
          · exact collects.ne_nextPromise isNew.symm
        · exact collects.notDue (List.mem_append_left _ (List.mem_append_right _ isPending))
      · exact collects.notDue (List.mem_append_right _ waits) }
  holdings := rfl

theorem withLinks (system : System) (links : List Link) :
    Abstains task promise system { system with links } :=
  ⟨.of_same rfl rfl rfl rfl (Nat.le_refl _), rfl⟩

end Abstains

end System

end LanguageClient.Client
