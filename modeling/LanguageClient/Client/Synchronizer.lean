import LanguageClient.Client.Workspace

/-!
# Synchronizers

A synchronizer sends the text of one document as a whole, under versions that count up by one. An
edit is sent when no further edit has come for some time, or when somebody needs the peer to have
it. One lock keeps the sends in order; a send that does not succeed leaves its version free and the
edit unsent.
-/

namespace LanguageClient.Client

open LanguageClient.Json LanguageClient.Loop LanguageClient.Number

namespace System

/-- Adds a synchronizer for a text; its number is the number of synchronizers before. -/
def addSynchronizer (system : System) (uri : String) (languageId : Value) (text : String)
    (debounce : Quantity) : System :=
  { system with synchronizers := system.synchronizers ++ [{ uri, languageId, text, debounce }] }

/-- Whether the document of a synchronizer is open. -/
def isReady (system : System) (synchronizer : Nat) : Bool :=
  match (system.synchronizers[synchronizer]?).bind (·.file) with
  | none => false
  | some file => system.isOpen file

/-! ## The timer -/

def cancelTimer (system : System) (synchronizer : Nat) : System :=
  match (system.synchronizers[synchronizer]?).bind (·.timer) with
  | none => system
  | some timer =>
    (system.disarm timer).modifySynchronizer synchronizer fun found => { found with timer := none }

/-- Starts the wait for further edits anew. A wait that no clock could count is a failure. -/
def schedule (system : System) (synchronizer : Nat) : System × Option Failure :=
  let system := system.cancelTimer synchronizer
  match system.synchronizers[synchronizer]? with
  | none => (system, none)
  | some found =>
    match found.debounce.delay? with
    | none => (system, some .tooLarge)
    | some delay =>
      let timer := system.loop.timersArmed
      ((system.onLoop (·.arm delay (.debounce synchronizer))).modifySynchronizer synchronizer
        fun found => { found with timer := some timer }, none)

/-- Starts a send when no further edit has come in time. -/
def debounce (system : System) (synchronizer : Nat) : System :=
  let task := system.nextTask
  ((system.spawn (.sendDebounced synchronizer)).whenEnded task
    (.sendEnded synchronizer task)).modifySynchronizer synchronizer fun found =>
      { found with timer := none, sends := found.sends ++ [task] }

/-- Notes the end of a send that the timer started. -/
def endSend (system : System) (synchronizer task : Nat) : System :=
  system.modifySynchronizer synchronizer fun found =>
    { found with sends := found.sends.filter fun other => other ≠ task }

/-! ## Edits -/

def attach (system : System) (synchronizer file : Nat) (openedText : String) :
    System × Option Failure :=
  let system := system.modifySynchronizer synchronizer fun found =>
    { found with file := some file, version := 0, dirty := found.text ≠ openedText }
  if ((system.synchronizers[synchronizer]?).map (·.dirty)).getD false then
    system.schedule synchronizer
  else (system, none)

/-- Takes a new text; it is sent later. -/
def edit (system : System) (synchronizer : Nat) (text : String) : System × Option Failure :=
  let system := system.modifySynchronizer synchronizer fun found =>
    { found with text, dirty := true }
  if system.isReady synchronizer then system.schedule synchronizer else (system, none)

/-! ## The lock -/

def modifyLock (system : System) (synchronizer : Nat) (change : Lock → Lock) : System :=
  system.modifySynchronizer synchronizer fun found => { found with lock := change found.lock }

def lockOf (system : System) (synchronizer : Nat) : Lock :=
  ((system.synchronizers[synchronizer]?).map (·.lock)).getD {}

/-- Wakes the first of those who wait for the lock. -/
def wakeFirst (system : System) (synchronizer : Nat) : System :=
  match (system.lockOf synchronizer).waiters with
  | [] => system
  | promise :: _ => system.settle promise (.returned .nothing)

/-- Gives the lock back. -/
def release (system : System) (synchronizer : Nat) : System :=
  (system.modifyLock synchronizer fun lock => { lock with held := false }).wakeFirst synchronizer

def isCancelled (system : System) (promise : Nat) : Bool :=
  system.loop.outcome? promise = some .cancelled

/-! ## Sends -/

/-- Goes on after a change was sent. A change that did not reach the peer leaves the edit unsent. -/
def resumeChanging (synchronizer version : Nat) (wasDirty : Bool) (system : System)
    (outcome : Outcome Reply) : Step :=
  let system := system.modifySynchronizer synchronizer fun found =>
    match outcome with
    | .returned _ => { found with version }
    | .failed _ | .cancelled => { found with dirty := found.dirty || wasDirty }
  match outcome with
  | .returned _ => .returned (system.release synchronizer) .nothing
  | .failed _ | .cancelled => .ended (system.release synchronizer) outcome

/-- Sends the text under the lock, if there is an edit to send or the send is forced. -/
def changeLocked (system : System) (synchronizer : Nat) (force : Bool) : Step :=
  match system.synchronizers[synchronizer]? with
  | none => .failed system .missing
  | some found =>
    match found.file with
    | none => .returned (system.release synchronizer) .nothing
    | some file =>
      if !system.isOpen file || !(found.dirty || force) then
        .returned (system.release synchronizer) .nothing
      else
        let version := found.version + 1
        let system := system.modifySynchronizer synchronizer fun found =>
          { found with dirty := false }
        Step.andThen (system.changeFile file version found.text)
          (.changing synchronizer version found.dirty)
          (resumeChanging synchronizer version found.dirty)

/-- Goes on after the wait for the lock. Whoever gives up hands a free lock on. -/
def resumeLocking (synchronizer promise : Nat) (force : Bool) (system : System)
    (outcome : Outcome Reply) : Step :=
  let system := system.modifyLock synchronizer fun lock =>
    { lock with waiters := lock.waiters.filter fun other => other ≠ promise }
  match outcome with
  | .returned _ =>
    (system.modifyLock synchronizer fun lock => { lock with held := true }).changeLocked
      synchronizer force
  | .failed _ | .cancelled =>
    let system :=
      if (system.lockOf synchronizer).held then system else system.wakeFirst synchronizer
    .ended system outcome

/-- Takes the lock and sends the text. The lock is taken at once only if it is free and nobody waits
for it but those who gave up. -/
def sendChange (system : System) (synchronizer : Nat) (force : Bool) : Step :=
  let lock := system.lockOf synchronizer
  if !lock.held && lock.waiters.all (system.isCancelled ·) then
    (system.modifyLock synchronizer fun lock => { lock with held := true }).changeLocked
      synchronizer force
  else
    let promise := system.nextPromise
    let system := system.addPromise.modifyLock synchronizer fun lock =>
      { lock with waiters := lock.waiters ++ [promise] }
    Step.andThen (system.await promise) (.locking synchronizer promise force)
      (resumeLocking synchronizer promise force)

/-- Sends an edit that is not sent yet, or the text in any case if forced, and waits until the peer
has it. -/
def flush (system : System) (synchronizer : Nat) (force : Bool) : Step :=
  let system := system.cancelTimer synchronizer
  if system.isReady synchronizer then system.sendChange synchronizer force
  else .returned system .nothing

/-- Goes on after a send that the timer started; a failure is only logged. -/
def resumeSendingDebounced (synchronizer : Nat) (system : System) (outcome : Outcome Reply) :
    Step :=
  match outcome with
  | .failed failure =>
    let uri := ((system.synchronizers[synchronizer]?).map (·.uri)).getD ""
    .returned (system.log .error .document
      ("failed to send didChange for " ++ uri ++ ": " ++ failure.message)) .nothing
  | .returned _ | .cancelled => .ended system outcome

/-- Sends an edit because the timer fired. -/
def sendDebounced (system : System) (synchronizer : Nat) : Step :=
  Step.andThen (system.sendChange synchronizer false) (.sendingDebounced synchronizer)
    (resumeSendingDebounced synchronizer)

/-! ## Closing -/

/-- Goes on after the document of a synchronizer was closed. -/
def resumeDetaching (synchronizer : Nat) (system : System) (outcome : Outcome Reply) : Step :=
  match outcome with
  | .returned _ =>
    .returned (system.modifySynchronizer synchronizer fun found => { found with file := none })
      .nothing
  | .failed _ | .cancelled => .ended system outcome

def closeAttached (system : System) (synchronizer : Nat) : Step :=
  match (system.synchronizers[synchronizer]?).bind (·.file) with
  | none => .returned system .nothing
  | some file =>
    Step.andThen (system.closeFile file) (.detaching synchronizer) (resumeDetaching synchronizer)

/-- Goes on after the sends of a synchronizer that closes have ended. -/
def resumeSettlingSends (synchronizer : Nat) (system : System) (outcome : Outcome Reply) : Step :=
  match outcome with
  | .returned _ => system.closeAttached synchronizer
  | .failed _ | .cancelled => .ended system outcome

/-- Stops to synchronize: waits for the sends that the timer started, then closes the document. -/
def closeSynchronizer (system : System) (synchronizer : Nat) : Step :=
  let system := system.cancelTimer synchronizer
  match ((system.synchronizers[synchronizer]?).map (·.sends)).getD [] with
  | [] => system.closeAttached synchronizer
  | sends =>
    let promise := system.nextPromise
    let system := system.onLoop (·.gather sends .nothing)
    Step.andThen (system.await promise) (.settlingSends synchronizer)
      (resumeSettlingSends synchronizer)

end System

end LanguageClient.Client
