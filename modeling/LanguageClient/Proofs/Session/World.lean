import LanguageClient.Proofs.Loop.Passage
import LanguageClient.Proofs.Sending
import LanguageClient.Proofs.Session.Registration

/-!
# The world of a session

An invariant of a client that is used through one session only, which may be in its handshake. It
relates the table of the session, the promises of its requests, the timers and the callbacks that are
ready: every entry, timer and callback belongs to a request that was registered, and no two requests
share an id or a promise.
-/

namespace LanguageClient.Client

open LanguageClient.Json LanguageClient.Loop LanguageClient.Number

/-- A frame of a call of the session that has begun. -/
def IsSessionFrame (registered : List Registration) : Frame → Prop
  | .sending _ _ | .writing _ | .closingLink | .handshaking _ _ | .confirming _ _ _
  | .abandoningHandshake _ => True
  | .requesting promise => ∃ registration ∈ registered, registration.entry.promise = promise
  | _ => False

/-- Whether the time of a request is over. -/
def Registration.IsDue (registration : Registration) (now resolution : Rat) : Prop :=
  ∃ deadline, registration.deadline = some deadline ∧
    (deadline ≤ now ∨ deadline < now + resolution)

/-- What the tasks, callbacks and timers of the session may be. Only the timer of a request may end
it, and only when its time is over. -/
def sessionScope (registered : List Registration) (now resolution : Rat) :
    Scope Frame Action where
  task := fun stack awaiting =>
    (∃ call : Call, call.OnSession ∧ stack = [.begin call] ∧ awaiting = none) ∨
      ∀ frame ∈ stack, IsSessionFrame registered frame
  callback
    | .resume _ | .skipped => True
    | .fire timer action => ∃ registration ∈ registered,
        registration.IsDue now resolution ∧ timer = registration.entry.timer ∧
          action = .expire 0 registration.entry.id
    | .act (.discard _ _) | .act (.answerEnded _ _) | .act (.deliver _ _) => True
    | .memberEnded _ | .act _ => False
  timer := fun timer => ∃ registration ∈ registered,
    timer = {
      id := registration.entry.timer
      deadline := registration.deadline
      action := .expire 0 registration.entry.id }
  group := fun _ => False

theorem sessionScope_within
    {registered wider : List Registration} (more : ∀ found ∈ registered, found ∈ wider)
    (now resolution : Rat) :
    (sessionScope registered now resolution).Within (sessionScope wider now resolution) where
  task := fun stack awaiting allowed => by
    rcases allowed with unbegun | begun
    · exact Or.inl unbegun
    · right
      intro frame member
      have isFrame := begun frame member
      cases frame with
      | requesting promise =>
          obtain ⟨registration, found, same⟩ := isFrame
          exact ⟨registration, more registration found, same⟩
      | _ => exact isFrame
  callback := fun callback allowed => by
    cases callback with
    | fire timer action =>
        obtain ⟨registration, found, rest⟩ := allowed
        exact ⟨registration, more registration found, rest⟩
    | act action => cases action <;> exact allowed
    | resume _ => trivial
    | skipped => trivial
    | memberEnded _ => exact allowed.elim
  timer := fun timer allowed => by
    obtain ⟨registration, found, same⟩ := allowed
    exact ⟨registration, more registration found, same⟩
  group := fun _ allowed => allowed

/-- A session whose table holds registered requests only. -/
structure IsSession (registered : List Registration) (session : Session) : Prop where
  pending : ∀ entry ∈ session.pending, ∃ registration ∈ registered, registration.entry = entry
  ids : ∀ registration ∈ registered,
    ∃ number < session.requests, registration.entry.id = requestId (number + 1)

/-! ## Workspaces without documents -/

theorem System.openFile?_of_unopened
    {system : System} (unopened : ∀ found ∈ system.workspaces, found.openFiles = [])
    (workspace : Nat) (uri : String) : system.openFile? workspace uri = none := by
  unfold System.openFile?
  cases known : system.workspaces[workspace]? with
  | none => rfl
  | some found => simp [unopened found (List.mem_of_getElem? known)]

theorem System.documentListener?_of_unopened
    {system : System} (unopened : ∀ found ∈ system.workspaces, found.openFiles = [])
    (workspace : Nat) (method : String) (params : Value) (listener : DocumentListener) :
    system.documentListener? workspace method params ≠ .ok (some listener) := by
  intro listens
  unfold System.documentListener? at listens
  split at listens
  · cases listens
  · split at listens
    · cases listens
    · simp [System.openFile?_of_unopened unopened] at listens
    · cases listens

/-- Without documents a notification is logged at most. -/
theorem System.takeNotification_of_unopened
    {system : System} (unopened : ∀ found ∈ system.workspaces, found.openFiles = [])
    (tell : System → Nat → Protocol.PublishedDiagnostics → System × Option Failure)
    (workspace : Nat) (method params : Value) :
    (System.takeNotification tell system workspace method params).1 = system ∨
      ∃ level text, (System.takeNotification tell system workspace method params).1 =
        system.log level .workspace text := by
  unfold System.takeNotification
  split
  · exact Or.inl rfl
  · split
    · split
      · exact Or.inl rfl
      · exact Or.inl rfl
      · rename_i listens
        exact (System.documentListener?_of_unopened unopened workspace _ params _ listens).elim
    · split
      · unfold System.showMessage
        split
        · exact Or.inr ⟨_, _, rfl⟩
        · exact Or.inl rfl
      · exact Or.inl rfl

/-! ## The invariant -/

/-- The parts of the invariant that do not concern the queue. -/
structure SessionParts (registered : List Registration) (system : System) : Prop where
  session : ∃ found, system.sessions = [found] ∧ IsSession registered found
  links : ∀ link session,
    (system.links[link]?).bind (·.session) = some session → link = 0 ∧ session = 0
  unopened : ∀ found ∈ system.workspaces, found.openFiles = []
  plain : ∀ registration ∈ registered, system.loop.IsPlain registration.entry.promise
  detained : ∀ promise ∈ system.peer.detained,
    system.loop.IsPlain promise ∧
      ∀ registration ∈ registered, registration.entry.promise ≠ promise
  promisesDistinct : (registered.map (·.entry.promise)).Nodup
  idsDistinct : (registered.map (·.entry.id)).Nodup

theorem SessionParts.of_plain
    {registered : List Registration} {system after : System}
    (parts : SessionParts registered system) (sessions : after.sessions = system.sessions)
    (links : after.links = system.links) (workspaces : after.workspaces = system.workspaces)
    (peer : after.peer = system.peer)
    (plain : ∀ promise, system.loop.IsPlain promise → after.loop.IsPlain promise) :
    SessionParts registered after where
  session := sessions ▸ parts.session
  links := links ▸ parts.links
  unopened := workspaces ▸ parts.unopened
  plain := fun registration member => plain _ (parts.plain registration member)
  detained := fun promise member => by
    rw [peer] at member
    obtain ⟨isPlain, different⟩ := parts.detained promise member
    exact ⟨plain promise isPlain, different⟩
  promisesDistinct := parts.promisesDistinct
  idsDistinct := parts.idsDistinct

/-- The invariant between two turns. -/
structure SessionWorld (registered : List Registration) (system : System) : Prop where
  parts : SessionParts registered system
  orderly : system.loop.Orderly
    (sessionScope registered system.loop.now system.loop.resolution)
  punctual : system.loop.Punctual none

/-- An outcome that a request is given without an answer and without its time being over. -/
def IsAbandonment (outcome : Outcome Reply) : Prop :=
  outcome = .cancelled ∨
    ∃ method id reason, outcome = .failed (.abandoned method id reason)

/-- How the promises of requests may be settled: the request is abandoned, or there is a source for
its outcome. -/
def MayEnd
    (registered : List Registration) (source : Registration → Outcome Reply → Prop)
    (promise : Nat) (outcome : Outcome Reply) : Prop :=
  ∀ registration ∈ registered, registration.entry.promise = promise →
    IsAbandonment outcome ∨ source registration outcome

/-- What has happened in the world of a session since a callback was started. -/
structure SessionPassage
    (registered : List Registration) (running : Option Nat)
    (source : Registration → Outcome Reply → Prop) (before after : System) :
    Prop where
  parts : SessionParts registered after
  loop : Scheduler.Passage (sessionScope registered after.loop.now after.loop.resolution) running True
    (MayEnd registered source) before.loop after.loop

namespace SessionPassage

variable {registered : List Registration} {running : Option Nat}
  {source : Registration → Outcome Reply → Prop} {before system : System}

theorem here (passage : SessionPassage registered running source before system) :
    Scheduler.Passage (sessionScope registered system.loop.now system.loop.resolution) running True
      (MayEnd registered source) system.loop system.loop :=
  .refl passage.loop.orderly passage.loop.punctual fun _ => passage.loop.runs_later

theorem onLoop
    (passage : SessionPassage registered running source before system)
    {change : ClientLoop → ClientLoop}
    (step : Scheduler.Passage
      (sessionScope registered system.loop.now system.loop.resolution) running True
      (MayEnd registered source) system.loop (change system.loop)) :
    SessionPassage registered running source before (system.onLoop change) where
  parts := passage.parts.of_plain rfl rfl rfl rfl step.advances.plain
  loop := {
    orderly := by
      have sameNow : (system.onLoop change).loop.now = system.loop.now := step.advances.now
      have sameResolution : (system.onLoop change).loop.resolution = system.loop.resolution :=
        step.advances.resolution
      rw [sameNow, sameResolution]
      exact step.orderly
    punctual := step.punctual
    advances := passage.loop.advances.trans step.advances
    runs := passage.loop.runs }

theorem of_sameLoop
    {after : System} (passage : SessionPassage registered running source before system)
    (sameLoop : after.loop = system.loop)
    (session : ∃ found, after.sessions = [found] ∧ IsSession registered found)
    (links : ∀ link session,
      (after.links[link]?).bind (·.session) = some session → link = 0 ∧ session = 0)
    (unopened : ∀ found ∈ after.workspaces, found.openFiles = [])
    (detained : ∀ promise ∈ after.peer.detained, promise ∈ system.peer.detained) :
    SessionPassage registered running source before after where
  parts := {
    session
    links
    unopened
    plain := sameLoop ▸ passage.parts.plain
    detained := fun promise member => by
      rw [sameLoop]
      exact passage.parts.detained promise (detained promise member)
    promisesDistinct := passage.parts.promisesDistinct
    idsDistinct := passage.parts.idsDistinct }
  loop := by
    rw [sameLoop]
    exact passage.loop

/-! ## The journal, the peer and the session -/

theorem note
    (passage : SessionPassage registered running source before system) (occurrence : Occurrence) :
    SessionPassage registered running source before (system.note occurrence) :=
  passage.of_sameLoop rfl passage.parts.session passage.parts.links passage.parts.unopened
    fun _ member => member

theorem log
    (passage : SessionPassage registered running source before system)
    (level : LogLevel) (origin : LogSource) (text : String) :
    SessionPassage registered running source before (system.log level origin text) :=
  passage.note _

theorem withPeer
    (passage : SessionPassage registered running source before system) (peer : Peer)
    (detained : ∀ promise ∈ peer.detained, promise ∈ system.peer.detained) :
    SessionPassage registered running source before { system with peer } :=
  passage.of_sameLoop rfl passage.parts.session passage.parts.links passage.parts.unopened detained

theorem modifySession
    (passage : SessionPassage registered running source before system) (session : Nat)
    {change : Session → Session}
    (keeps : ∀ found, IsSession registered found → IsSession registered (change found)) :
    SessionPassage registered running source before (system.modifySession session change) := by
  refine passage.of_sameLoop rfl ?_ passage.parts.links passage.parts.unopened
    fun _ member => member
  obtain ⟨found, only, isSession⟩ := passage.parts.session
  simp only [System.modifySession, only]
  cases session with
  | zero =>
      exact ⟨change found, rfl, keeps found isSession⟩
  | succ other =>
      exact ⟨found, by simp, isSession⟩

/-- A frame or a closing is held back from now on: somebody waits for a new promise. -/
theorem detain
    (passage : SessionPassage registered running source before system) (peer : Peer)
    (detained : ∀ promise ∈ peer.detained,
      promise ∈ system.peer.detained ∨ promise = system.nextPromise) :
    SessionPassage registered running source before { system.addPromise with peer } ∧
      ({ system.addPromise with peer } : System).loop.IsPlain system.nextPromise := by
  have added := passage.onLoop passage.here.addPromise
  have plain : (system.loop.addPromise {}).IsPlain system.nextPromise :=
    passage.loop.orderly.addPromise_isPlain {}
  refine ⟨?_, plain⟩
  exact {
    parts := {
      session := added.parts.session
      links := added.parts.links
      unopened := added.parts.unopened
      plain := added.parts.plain
      detained := fun promise member => by
        rcases detained promise member with earlier | rfl
        · exact added.parts.detained promise earlier
        · refine ⟨plain, fun registration member same => ?_⟩
          have known := (passage.parts.plain registration member).known
          rw [same] at known
          exact Nat.lt_irrefl _ known
      promisesDistinct := added.parts.promisesDistinct
      idsDistinct := added.parts.idsDistinct }
    loop := added.loop }

/-! ## The scheduler -/

/-- A promise that is no completion may be settled if its request is abandoned. -/
theorem settle
    {promise : Nat} {outcome : Outcome Reply}
    (passage : SessionPassage registered running source before system)
    (plain : system.loop.IsPlain promise) (allowed : MayEnd registered source promise outcome) :
    SessionPassage registered running source before (system.settle promise outcome) :=
  passage.onLoop (passage.here.settle plain.noCompletion allowed)

theorem disarm
    (passage : SessionPassage registered running source before system) (timer : Nat) :
    SessionPassage registered running source before (system.disarm timer) :=
  passage.onLoop (passage.here.disarm timer trivial)

theorem deliver
    (passage : SessionPassage registered running source before system) (link : Nat)
    (frames : List Value) :
    SessionPassage registered running source before (system.deliver link frames) := by
  refine passage.onLoop (passage.here.enqueue ?_)
  intro callback member
  obtain ⟨frame, _, rfl⟩ := List.mem_map.mp member
  exact ⟨trivial, rfl⟩

theorem spawn
    {call : Call} (passage : SessionPassage registered running source before system)
    (onSession : call.OnSession) :
    SessionPassage registered running source before (system.spawn call) :=
  passage.onLoop (passage.here.spawn (Or.inl ⟨call, onSession, rfl, rfl⟩) trivial)

theorem whenEnded
    (passage : SessionPassage registered running source before system) (task : Nat)
    (session answer : Nat) :
    SessionPassage registered running source before
      (system.whenEnded task (.answerEnded session answer)) := by
  unfold System.whenEnded
  split
  · exact passage
  · exact passage.onLoop (passage.here.whenSettled _ _ trivial rfl)

theorem cancel
    (passage : SessionPassage registered running source before system) (task : Nat) :
    SessionPassage registered running source before (system.onLoop (·.cancel task)) :=
  passage.onLoop
    (passage.here.cancel trivial task (fun _ _ _ _ => Or.inl (Or.inl rfl)) fun _ isGroup => isGroup.elim)

end SessionPassage

end LanguageClient.Client
