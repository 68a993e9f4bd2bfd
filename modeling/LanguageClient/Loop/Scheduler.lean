import LanguageClient.Number.Quantity
import LanguageClient.Failure

/-!
# The scheduler

One thread of control runs many tasks. A task runs until it awaits a promise that is not settled
yet; the frames of its unfinished calls are then kept on its stack. Settling a promise puts its
callbacks at the end of the queue of ready callbacks, and one turn runs the first of them.

Callbacks come in rounds: a round holds what was ready when it began, and timers that are due join
at the end of the next round. The scheduler does not know what the frames and the actions mean.
-/

namespace LanguageClient.Loop

open LanguageClient.Number

/-- How a call ends. -/
inductive Outcome (Result : Type) where
  | returned (result : Result)
  | failed (failure : Failure)
  | cancelled
  deriving DecidableEq, Repr

/-- Something that is ready to run. -/
inductive Callback (Action : Type) where
  /-- Goes on with a task. -/
  | resume (task : Nat)
  /-- Notes that a member of a group of tasks has ended. -/
  | memberEnded (group : Nat)
  /-- Runs the action of a timer that was due. -/
  | fire (timer : Nat) (action : Action)
  /-- Runs an action. -/
  | act (action : Action)
  /-- The place of a timer that was disarmed after it was due. -/
  | skipped
  deriving DecidableEq, Repr

/-- A promise that is settled when all tasks of a group have ended. -/
structure Group where
  members : List Nat
  remaining : Nat
  cancelRequested : Bool
  deriving DecidableEq, Repr

/-- A result that is still to come or has come. -/
structure Promise (Action Result : Type) where
  outcome : Option (Outcome Result) := none
  callbacks : List (Callback Action) := []
  group : Option Group := none
  deriving DecidableEq, Repr

/-- A task: the frames of its unfinished calls, innermost first, and the promise it awaits. -/
structure TaskState (Frame : Type) where
  stack : List Frame
  awaiting : Option Nat
  /-- Whether the task is to be cancelled when it goes on. -/
  cancelRequested : Bool
  /-- The promise that is settled when the task ends. -/
  completion : Nat
  deriving DecidableEq, Repr

/-- A timer that has not fired. Without a deadline it never will. -/
structure Timer (Action : Type) where
  id : Nat
  deadline : Option Rat
  action : Action
  deriving DecidableEq, Repr

/-- The state of the scheduler. -/
structure Scheduler (Frame Action Result : Type) where
  now : Rat := 0
  /-- A timer is due already when less than this time is left to its deadline. -/
  resolution : Rat := 0
  promises : List (Promise Action Result) := []
  tasks : List (TaskState Frame) := []
  timers : List (Timer Action) := []
  timersArmed : Nat := 0
  ready : List (Callback Action) := []
  /-- How many callbacks of the current round are left. -/
  round : Nat := 0
  deriving DecidableEq, Repr

namespace Scheduler

variable {Frame Action Result : Type}

/-- Puts callbacks at the end of the queue. -/
def enqueue (callbacks : List (Callback Action)) (loop : Scheduler Frame Action Result) :
    Scheduler Frame Action Result :=
  { loop with ready := loop.ready ++ callbacks }

/-! ## Promises -/

/-- Adds a promise; its number is the number of promises before. -/
def addPromise (promise : Promise Action Result) (loop : Scheduler Frame Action Result) :
    Scheduler Frame Action Result :=
  { loop with promises := loop.promises ++ [promise] }

def nextPromise (loop : Scheduler Frame Action Result) : Nat := loop.promises.length

/-- The outcome of a promise, if it is settled. -/
def outcome? (promise : Nat) (loop : Scheduler Frame Action Result) : Option (Outcome Result) :=
  (loop.promises[promise]?).bind (·.outcome)

def isSettled (promise : Nat) (loop : Scheduler Frame Action Result) : Bool :=
  (loop.outcome? promise).isSome

/-- Settles a promise, unless it is settled already, and makes its callbacks ready. -/
def settle (promise : Nat) (outcome : Outcome Result) (loop : Scheduler Frame Action Result) :
    Scheduler Frame Action Result :=
  match loop.promises[promise]? with
  | none => loop
  | some found =>
    match found.outcome with
    | some _ => loop
    | none =>
      enqueue found.callbacks { loop with
        promises := loop.promises.set promise
          { found with outcome := some outcome, callbacks := [] } }

/-- Runs a callback when a promise is settled; at once if it is already. -/
def whenSettled (promise : Nat) (callback : Callback Action)
    (loop : Scheduler Frame Action Result) : Scheduler Frame Action Result :=
  match loop.promises[promise]? with
  | none => loop
  | some found =>
    match found.outcome with
    | some _ => loop.enqueue [callback]
    | none => { loop with
        promises := loop.promises.set promise
          { found with callbacks := found.callbacks ++ [callback] } }

/-! ## Tasks -/

def nextTask (loop : Scheduler Frame Action Result) : Nat := loop.tasks.length

/-- Starts a task, which first runs in a later turn. -/
def spawn (stack : List Frame) (loop : Scheduler Frame Action Result) :
    Scheduler Frame Action Result :=
  let task := loop.nextTask
  let completion := loop.nextPromise
  enqueue [.resume task] { loop.addPromise {} with
    tasks := loop.tasks ++ [{ stack, awaiting := none, cancelRequested := false, completion }] }

def modifyTask (task : Nat) (change : TaskState Frame → TaskState Frame)
    (loop : Scheduler Frame Action Result) : Scheduler Frame Action Result :=
  { loop with tasks := loop.tasks.modify task change }

def suspend (task : Nat) (stack : List Frame) (promise : Nat)
    (loop : Scheduler Frame Action Result) : Scheduler Frame Action Result :=
  (loop.modifyTask task fun found => { found with stack, awaiting := some promise }).whenSettled
    promise (.resume task)

/-- Whether a task has ended. A task that does not exist counts as ended. -/
def hasEnded (task : Nat) (loop : Scheduler Frame Action Result) : Bool :=
  match loop.tasks[task]? with
  | none => true
  | some found => loop.isSettled found.completion

/-- Notes that a task is to be cancelled when it goes on. -/
def requestCancel (task : Nat) (loop : Scheduler Frame Action Result) :
    Scheduler Frame Action Result :=
  loop.modifyTask task fun found => { found with cancelRequested := true }

/-- Cancels a task that does not await a group: the promise it awaits is cancelled, or, if that is
settled or there is none, the task is cancelled when it goes on. -/
def cancelMember (loop : Scheduler Frame Action Result) (task : Nat) :
    Scheduler Frame Action Result :=
  if loop.hasEnded task then loop
  else
    match (loop.tasks[task]?).bind (·.awaiting) with
    | none => loop.requestCancel task
    | some promise =>
      if loop.isSettled promise then loop.requestCancel task
      else loop.settle promise .cancelled

/-- The group that a promise stands for, while the promise is not settled. -/
def openGroup? (promise : Nat) (loop : Scheduler Frame Action Result) : Option Group :=
  match loop.promises[promise]? with
  | none => none
  | some found =>
    match found.outcome with
    | some _ => none
    | none => found.group

def modifyGroup (promise : Nat) (change : Group → Group) (loop : Scheduler Frame Action Result) :
    Scheduler Frame Action Result :=
  { loop with
    promises := loop.promises.modify promise fun found =>
      { found with group := found.group.map change } }

def awaitedGroup? (task : Nat) (loop : Scheduler Frame Action Result) : Option (Nat × Group) := do
  let found ← loop.tasks[task]?
  let promise ← found.awaiting
  let group ← loop.openGroup? promise
  return (promise, group)

/-- Cancels a task. If it awaits a group whose members have not all ended, the members are cancelled
and the group ends as cancelled after them. The members of a group await no group themselves. -/
def cancel (task : Nat) (loop : Scheduler Frame Action Result) : Scheduler Frame Action Result :=
  match loop.awaitedGroup? task with
  | none => loop.cancelMember task
  | some (promise, group) =>
    if group.members.all (loop.hasEnded ·) then loop.requestCancel task
    else
      (group.members.foldl cancelMember loop).modifyGroup promise fun found =>
        { found with cancelRequested := true }

/-- Adds a promise that is settled when the given tasks have ended, whatever their outcomes. -/
def gather (members : List Nat) (result : Result) (loop : Scheduler Frame Action Result) :
    Scheduler Frame Action Result :=
  let group := loop.nextPromise
  let unfinished := members.filter fun task => !loop.hasEnded task
  let added := loop.addPromise {
    outcome := if unfinished.isEmpty then some (.returned result) else none
    group := some { members, remaining := unfinished.length, cancelRequested := false } }
  unfinished.foldl (fun loop task =>
    match loop.tasks[task]? with
    | none => loop
    | some found => loop.whenSettled found.completion (.memberEnded group)) added

/-- Notes that a member of a group has ended; after the last one the group is settled. -/
def endMember (promise : Nat) (result : Result) (loop : Scheduler Frame Action Result) :
    Scheduler Frame Action Result :=
  match loop.openGroup? promise with
  | none => loop
  | some group =>
    if group.remaining ≤ 1 then
      loop.settle promise (if group.cancelRequested then .cancelled else .returned result)
    else
      loop.modifyGroup promise fun found => { found with remaining := found.remaining - 1 }

/-! ## Timers -/

/-- The moment of the clock that lies a delay ahead. -/
def deadline (delay : Delay) (loop : Scheduler Frame Action Result) : Option Rat :=
  match delay with
  | .seconds value => clockMoment? (loop.now + value)
  | .forever => none

/-- Arms a timer; its number is the number of timers armed before. -/
def arm (delay : Delay) (action : Action) (loop : Scheduler Frame Action Result) :
    Scheduler Frame Action Result :=
  { loop with
    timers := loop.timers ++ [{ id := loop.timersArmed, deadline := loop.deadline delay, action }]
    timersArmed := loop.timersArmed + 1 }

/-- The callback that is left of a callback when a timer is disarmed. -/
def withoutTimer (timer : Nat) (callback : Callback Action) : Callback Action :=
  match callback with
  | .fire other _ => if other = timer then .skipped else callback
  | .resume _ | .memberEnded _ | .act _ | .skipped => callback

/-- Disarms a timer, also one that was due and has not run yet. -/
def disarm (timer : Nat) (loop : Scheduler Frame Action Result) : Scheduler Frame Action Result :=
  { loop with
    timers := loop.timers.filter fun armed => armed.id ≠ timer
    ready := loop.ready.map (withoutTimer timer) }

/-- Whether a timer is due: its deadline is over, or less time than the resolution is left. -/
def isDue (loop : Scheduler Frame Action Result) (timer : Timer Action) : Bool :=
  match timer.deadline with
  | none => false
  | some deadline => deadline ≤ loop.now || deadline < loop.now + loop.resolution

/-- Whether a timer comes before another one: by deadline, and armed first among equals. -/
def comesBefore (left right : Timer Action) : Bool :=
  match left.deadline, right.deadline with
  | some left, some right => left ≤ right
  | some _, none => true
  | none, some _ => false
  | none, none => true

def earliest : List (Timer Action) → Option (Timer Action)
  | [] => none
  | timer :: rest =>
    match earliest rest with
    | none => some timer
    | some other => if comesBefore timer other then some timer else some other

/-- Puts a timer into a list that is ordered by deadline, behind its equals. -/
def insertByDeadline (timer : Timer Action) : List (Timer Action) → List (Timer Action)
  | [] => [timer]
  | head :: rest =>
    if comesBefore head timer then head :: insertByDeadline timer rest else timer :: head :: rest

/-- Begins a round: timers that are due become ready, behind what is ready already. -/
def beginRound (loop : Scheduler Frame Action Result) : Scheduler Frame Action Result :=
  let due := loop.timers.filter loop.isDue
  let ready := loop.ready ++
    (due.foldl (fun ordered timer => insertByDeadline timer ordered) []).map
      fun timer => .fire timer.id timer.action
  { loop with
    timers := loop.timers.filter fun timer => !loop.isDue timer
    ready
    round := ready.length }

/-- Takes the first callback of the round; a new round begins when the last one is over. -/
def next? (loop : Scheduler Frame Action Result) :
    Option (Callback Action × Scheduler Frame Action Result) :=
  let loop := if loop.round = 0 then loop.beginRound else loop
  match loop.ready with
  | [] => none
  | callback :: rest => some (callback, { loop with ready := rest, round := loop.round - 1 })

/-- Whether nothing can run before the clock moves. -/
def isIdle (loop : Scheduler Frame Action Result) : Bool :=
  loop.ready.isEmpty && !loop.timers.any loop.isDue

def nextDeadline? (loop : Scheduler Frame Action Result) : Option Rat :=
  (earliest loop.timers).bind (·.deadline)

/-- Moves the clock forward to a moment; it never goes back. -/
def moveClock (moment : Rat) (loop : Scheduler Frame Action Result) :
    Scheduler Frame Action Result :=
  { loop with now := if loop.now ≤ moment then moment else loop.now }

end Scheduler

end LanguageClient.Loop
