import LanguageClient.Client.Command

/-!
# Turns

One turn runs the first ready callback: a task goes on with its innermost frame, an end of a task is
noted, a deadline ends a request, or a text of the peer is handled. Within a turn nothing else
happens, so what a turn does is one step of the client.
-/

namespace LanguageClient.Client

open LanguageClient.Loop LanguageClient.Number

namespace System

def call (system : System) : Call → Step
  | .request session method params timeout => system.request session method params timeout
  | .notify session method params => system.notify session method params
  | .closeSession session => system.closeSession session
  | .answer session id => system.answer session id
  | .createWorkspace request => system.createWorkspace request
  | .openFile workspace uri languageId text listeners =>
    system.openFile workspace uri languageId text listeners
  | .changeFile file version text => system.changeFile file version text
  | .closeFile file => system.closeFile file
  | .closeWorkspace workspace => system.closeWorkspace workspace
  | .flush synchronizer force => system.flush synchronizer force
  | .sendDebounced synchronizer => system.sendDebounced synchronizer
  | .closeSynchronizer synchronizer => system.closeSynchronizer synchronizer
  | .start editor => system.start editor
  | .hover editor offset => system.hover editor offset
  | .complete editor offset explicit => system.complete editor offset explicit
  | .refresh editor => system.refresh editor
  | .closeEditor editor => system.closeEditor editor
  | .runCommand command => system.runCommand command

/-- Begins a call, unless it was cancelled before. -/
def resumeBegin (call : Call) (system : System) (outcome : Outcome Reply) : Step :=
  match outcome with
  | .returned _ => system.call call
  | .failed _ | .cancelled => .ended system outcome

/-- Goes on with a frame after what it awaited has ended. -/
def resumeFrame : Frame → System → Outcome Reply → Step
  | .begin call => resumeBegin call
  | .sending link frame => resumeSending link frame
  | .writing subject => resumeWriting subject
  | .requesting promise => resumeRequesting promise
  | .closingLink => resumeClosingLink
  | .handshaking session serverUri => resumeHandshaking session serverUri
  | .confirming session serverUri result => resumeConfirming session serverUri result
  | .abandoningHandshake ending => resumeAbandoningHandshake ending
  | .opening workspace uri file => resumeOpening workspace uri file
  | .closingFile uri => resumeClosingFile uri
  | .locking synchronizer promise force => resumeLocking synchronizer promise force
  | .changing synchronizer version wasDirty => resumeChanging synchronizer version wasDirty
  | .sendingDebounced synchronizer => resumeSendingDebounced synchronizer
  | .settlingSends synchronizer => resumeSettlingSends synchronizer
  | .detaching synchronizer => resumeDetaching synchronizer
  | .creatingWorkspace editor => resumeCreatingWorkspace editor
  | .openingDocument editor text => resumeOpeningDocument editor text
  | .abandoningStart editor ending => resumeAbandoningStart editor ending
  | .flushingForHover editor offset => resumeFlushingForHover editor offset
  | .hovering editor position => resumeHovering editor position
  | .flushingForCompletion editor query => resumeFlushingForCompletion editor query
  | .completing query => resumeCompleting query
  | .refreshing => resumeRefreshing
  | .closingSynchronizer editor => resumeClosingSynchronizer editor
  | .closingWorkspace editor ending => resumeClosingWorkspace editor ending
  | .startingCommand command => resumeStartingCommand command
  | .hoveringCommand command => resumeHoveringCommand command
  | .completingCommand command => resumeCompletingCommand command
  | .waitingCommand command => resumeWaitingCommand command
  | .closingCommand ending => resumeClosingCommand ending

/-- Goes on with a stack of frames, innermost first, until one is suspended or all have ended. -/
def resumeStack (system : System) (outcome : Outcome Reply) : List Frame → Step
  | [] => .ended system outcome
  | frame :: outer =>
    match resumeFrame frame system outcome with
    | (system, .ended outcome) => resumeStack system outcome outer
    | (system, .suspended frames promise) => (system, .suspended (frames ++ outer) promise)

/-- What a task learns when it goes on: that it is to be cancelled, how the promise it awaits was
settled, or nothing if it has not begun. -/
def signalOf (system : System) (task : TaskState Frame) : Outcome Reply :=
  if task.cancelRequested then .cancelled
  else
    match task.awaiting.bind (system.loop.outcome? ·) with
    | some outcome => outcome
    | none => .returned .nothing

/-- Leaves a task as its stack has been left: it waits for a promise, or it has ended. -/
def settleTask (task : Nat) (completion : Nat) : Step → System
  | (system, .ended outcome) => (system.note (.ended task outcome)).settle completion outcome
  | (system, .suspended frames promise) => system.onLoop (·.suspend task frames promise)

def resumeTask (system : System) (task : Nat) : System :=
  match system.loop.tasks[task]? with
  | none => system
  | some found =>
    if system.loop.hasEnded task then system
    else
      let signal := system.signalOf found
      let system := system.onLoop (·.modifyTask task fun found =>
        { found with stack := [], awaiting := none, cancelRequested := false })
      settleTask task found.completion (system.resumeStack signal found.stack)

/-- Handles a text of the peer that came over a connection. -/
def receive (system : System) (link : Nat) (text : String) : System :=
  match (system.links[link]?).bind (·.session) with
  | none => system
  | some session =>
    match system.takeMessage session text (takeNotification showDiagnostics) with
    | (system, none) => system
    | (system, some failure) => system.note (.escaped failure)

/-- Handles the loss of a connection. -/
def drop (system : System) (link : Nat) : System :=
  match (system.links[link]?).bind (·.session) with
  | none => system
  | some session => system.loseConnection session

def act (system : System) : Action → System
  | .discard session id => system.discard session id
  | .expire session id => system.expire session id
  | .answerEnded session task => system.endAnswer session task
  | .debounce synchronizer => system.debounce synchronizer
  | .sendEnded synchronizer task => system.endSend synchronizer task
  | .deliver link text => system.receive link text
  | .wake promise => system.settle promise (.returned .nothing)

def runCallback (system : System) : Callback Action → System
  | .resume task => system.resumeTask task
  | .memberEnded group => system.onLoop (·.endMember group .nothing)
  | .fire _ action => system.act action
  | .act action => system.act action
  | .skipped => system

/-- Runs the first ready callback; without one the client is idle. -/
def turn? (system : System) : Option System :=
  (system.loop.next?).map fun (callback, loop) => { system with loop }.runCallback callback

/-- Runs callbacks until the client is idle or the fuel is used up. -/
def settleDown : Nat → System → System
  | 0, system => system
  | fuel + 1, system =>
    match system.turn? with
    | none => system
    | some system => settleDown fuel system

/-- How many callbacks may run before the clock has to move. -/
def patience : Nat := 1000000

/-- Runs everything that can run before the clock moves. -/
def untilIdle (system : System) : System := settleDown patience system

/-- Moves the clock to each deadline up to a moment in turn, and then to the moment. The fuel bounds
the number of deadlines. -/
def advanceTo (moment : Rat) : Nat → System → System
  | 0, system => system
  | fuel + 1, system =>
    match system.loop.nextDeadline? with
    | none => system.onLoop (·.moveClock moment)
    | some deadline =>
      if deadline ≤ moment then
        advanceTo moment fuel (system.onLoop (·.moveClock deadline)).untilIdle
      else system.onLoop (·.moveClock moment)

/-- Lets some time pass, as far as the clock goes. -/
def advance (system : System) (seconds : Rat) : System :=
  let system := system.untilIdle
  match clockMoment? (system.loop.now + seconds) with
  | none => system
  | some moment => advanceTo moment patience system

/-- Moves the clock from deadline to deadline until a task has ended. The fuel bounds the number of
deadlines. -/
def advanceUntilEnded (task : Nat) : Nat → System → System
  | 0, system => system
  | fuel + 1, system =>
    if system.loop.hasEnded task then system
    else
      match system.loop.nextDeadline? with
      | none => system
      | some deadline =>
        advanceUntilEnded task fuel (system.onLoop (·.moveClock deadline)).untilIdle

end System

end LanguageClient.Client
