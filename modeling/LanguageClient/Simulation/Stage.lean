import LanguageClient.Client.Turn

/-!
# Simulated runs

A client is tried out against a simulated peer and a clock that only moves on demand. Each step of
a script starts a call as a task of its own or changes something at once, and then everything runs
that can run before the clock moves. The report of a step tells what happened in it.
-/

namespace LanguageClient.Simulation

open LanguageClient.Json LanguageClient.Client LanguageClient.Loop LanguageClient.Number

/-- What the script can do in every simulation. -/
inductive PeerStep where
  | receive (frame : Value)
  | raw (text : String)
  | advance (seconds : Quantity)
  | drop
  | fail (refusal : Option Refusal)
  | hold
  | release (count : Option Nat)
  | replies (script : List (String × ScriptEntry))
  | cancel (step : Nat)
  deriving DecidableEq, Repr

/-- A step of a script. -/
inductive Step where
  | peer (step : PeerStep)
  /-- Starts a call. -/
  | call (call : Call)
  /-- Gives a session a listener. -/
  | listen (session : Nat) (listener : SessionListener)
  /-- Creates the workspace of the simulation. -/
  | createWorkspace (request : WorkspaceRequest)
  /-- Opens a file; the handle gets a name. -/
  | openFile (name uri : String) (languageId : Value) (text : String)
      (listeners : List (String × DocumentListener))
  | changeFile (name : String) (version : Int) (text : String)
  | closeFile (name : String)
  | lookUp (uri : String)
  | closeWorkspace
  | addSynchronizer (name uri : String) (languageId : Value) (text : String)
      (debounce : Quantity)
  | attach (name file openedText : String)
  | edit (name text : String)
  | flush (name : String) (force : Bool)
  | closeSynchronizer (name : String)
  | editText (editor : Nat) (text : String)
  | measure (editor : Nat)
  deriving DecidableEq, Repr

/-- What a step of a script shows besides the calls of the host. -/
inductive Shown where
  | told (event : HostEvent)
  | openFile (names : List String) (file : Option (String × Value))
  | measured (length lineCount : Nat)
  deriving DecidableEq, Repr

/-- The state of a simulation. -/
structure Stage where
  system : System := {}
  /-- How many steps were played. -/
  played : Nat := 0
  /-- The tasks that steps have started. -/
  started : List (Nat × Nat) := []
  workspace : Option Nat := none
  files : List (String × Nat) := []
  synchronizers : List (String × Nat) := []
  /-- The names that handles get when the tasks that open them return. -/
  openings : List (Nat × String) := []
  deriving DecidableEq, Repr

/-- What happened in a step. -/
structure Report where
  sent : List Value
  /-- The steps whose calls have ended, in order. -/
  ended : List (Nat × Outcome Reply)
  logs : List LogRecord
  shown : List Shown
  escaped : Option Failure
  deriving DecidableEq, Repr

/-! ## The peer -/

/-- Lets the peer take frames that it holds back: the first few, or all from now on. -/
def releaseHeld (system : System) (count : Option Nat) : System :=
  let peer := system.peer
  let number := count.getD peer.held.length
  let system := { system with
    peer := { peer with held := peer.held.drop number, holding := peer.holding && count.isSome } }
  (peer.held.take number).foldl
    (fun system promise => system.settle promise (.returned .nothing)) system

/-- The script after some replies were given anew. -/
def mergedScript (script additions : List (String × ScriptEntry)) : List (String × ScriptEntry) :=
  additions.foldl (fun script entry =>
    script.filter (fun other => other.1 ≠ entry.1) ++ [entry]) script

/-- The connection that was made last. -/
def currentLink? (system : System) : Option Nat :=
  if system.links.isEmpty then none else some (system.links.length - 1)

def playPeer (stage : Stage) (step : PeerStep) : System :=
  let system := stage.system
  match step with
  | .receive frame =>
    match currentLink? system with
    | none => system
    | some link => system.receive link frame.render
  | .raw text =>
    match currentLink? system with
    | none => system
    | some link => system.receive link text
  | .advance seconds =>
    match seconds.delay? with
    | none | some .forever => system
    | some (.seconds value) => system.advance value
  | .drop =>
    match currentLink? system with
    | none => system
    | some link => system.drop link
  | .fail refusal => { system with peer := { system.peer with refusal } }
  | .hold => { system with peer := { system.peer with holding := true } }
  | .release count => releaseHeld system count
  | .replies script =>
    { system with peer := { system.peer with script := mergedScript system.peer.script script } }
  | .cancel step =>
    match stage.started.lookup step with
    | none => system
    | some task => system.onLoop (·.cancel task)

/-! ## The other steps -/

def Stage.onSystem (stage : Stage) (change : System → System) : Stage :=
  { stage with system := change stage.system }

/-- Changes the system of a stage by a call that returns at once, or fails. -/
def Stage.callNow (stage : Stage) (call : System → System × Option Failure) : Stage :=
  stage.onSystem fun system =>
    match call system with
    | (system, none) => system
    | (system, some failure) => system.note (.escaped failure)

/-- Starts a call as the task of the current step. -/
def Stage.start (stage : Stage) (call : Call) : Stage :=
  { stage with
    started := stage.started ++ [(stage.played, stage.system.nextTask)]
    system := stage.system.spawn call }

/-- Starts a call with the number that a name stands for. -/
def Stage.startNamed (stage : Stage) (names : List (String × Nat)) (name : String)
    (call : Nat → Call) : Stage :=
  match names.lookup name with
  | none => stage
  | some number => stage.start (call number)

/-- What looking up a uri shows: the names of the file that is open, its uri and its language. -/
def Stage.lookUp (stage : Stage) (uri : String) : Shown :=
  match stage.workspace.bind fun workspace => stage.system.openFile? workspace uri with
  | none => .openFile [] none
  | some file =>
    .openFile ((stage.files.filter fun entry => entry.2 = file).map (·.1))
      ((stage.system.files[file]?).map fun found => (found.uri, found.languageId))

def Stage.measure (stage : Stage) (editor : Nat) : List Shown :=
  match stage.system.editors[editor]? with
  | none => []
  | some found =>
    let snapshot := stage.system.snapshotOf found
    [.measured snapshot.length snapshot.lineCount]

/-- Plays a step, without what follows from it. -/
def Stage.begin (stage : Stage) : Step → Stage × List Shown
  | .peer step => ({ stage with system := playPeer stage step }, [])
  | .call call => (stage.start call, [])
  | .listen session listener =>
    (stage.onSystem (·.modifySession session fun found => { found with listener }), [])
  | .createWorkspace request => (stage.start (.createWorkspace request), [])
  | .openFile name uri languageId text listeners =>
    match stage.workspace with
    | none => (stage, [])
    | some workspace =>
      ({ stage.start (.openFile workspace uri languageId text listeners) with
        openings := stage.openings ++ [(stage.system.nextTask, name)] }, [])
  | .changeFile name version text =>
    (stage.startNamed stage.files name fun file => .changeFile file version text, [])
  | .closeFile name => (stage.startNamed stage.files name .closeFile, [])
  | .lookUp uri => (stage, [stage.lookUp uri])
  | .closeWorkspace =>
    match stage.workspace with
    | none => (stage, [])
    | some workspace => (stage.start (.closeWorkspace workspace), [])
  | .addSynchronizer name uri languageId text debounce =>
    ({ stage.onSystem (·.addSynchronizer uri languageId text debounce) with
      synchronizers := (stage.synchronizers.filter fun entry => entry.1 ≠ name) ++
        [(name, stage.system.synchronizers.length)] }, [])
  | .attach name file openedText =>
    match stage.synchronizers.lookup name, stage.files.lookup file with
    | some synchronizer, some file =>
      (stage.callNow (·.attach synchronizer file openedText), [])
    | _, _ => (stage, [])
  | .edit name text =>
    match stage.synchronizers.lookup name with
    | none => (stage, [])
    | some synchronizer => (stage.callNow (·.edit synchronizer text), [])
  | .flush name force =>
    (stage.startNamed stage.synchronizers name fun synchronizer => .flush synchronizer force, [])
  | .closeSynchronizer name =>
    (stage.startNamed stage.synchronizers name .closeSynchronizer, [])
  | .editText editor text => (stage.callNow (·.editText editor text), [])
  | .measure editor => (stage, stage.measure editor)

/-! ## Reports -/

/-- The workspace and the handles that returned calls have brought. -/
def Stage.collect (stage : Stage) : Occurrence → Stage
  | .ended task (.returned reply) =>
    match reply with
    | .workspace workspace =>
      if stage.started.any (fun entry => entry.2 = task) then
        { stage with workspace := some workspace }
      else stage
    | .file file =>
      match stage.openings.lookup task with
      | none => stage
      | some name => { stage with
          files := stage.files.filter (fun entry => entry.1 ≠ name) ++ [(name, file)] }
    | .nothing | .result _ | .hover _ | .completion _ | .exitCode _ => stage
  | _ => stage

def Stage.stepOf? (stage : Stage) (task : Nat) : Option Nat :=
  (stage.started.find? fun entry => entry.2 = task).map (·.1)

/-- Puts an ended step at its place among others. -/
def insertEnded (entry : Nat × Outcome Reply) :
    List (Nat × Outcome Reply) → List (Nat × Outcome Reply)
  | [] => [entry]
  | head :: rest =>
    if entry.1 < head.1 then entry :: head :: rest else head :: insertEnded entry rest

/-- The steps whose calls have ended in a part of the journal. -/
def Stage.endedSteps (stage : Stage) (journal : List Occurrence) : List (Nat × Outcome Reply) :=
  (journal.filterMap fun occurrence =>
    match occurrence with
    | .ended task outcome => (stage.stepOf? task).map fun step => (step, outcome)
    | _ => none).foldr insertEnded []

/-- Whether a log record is shown: warnings, errors, and what the peer asked to show. -/
def isShown (record : LogRecord) : Bool :=
  LogLevel.warning.number ≤ record.level.number ||
    "[server] ".toList.isPrefixOf record.text.toList

/-- The frames that the peer accepted in a part of the journal. -/
def acceptedFrames (journal : List Occurrence) : List Value :=
  journal.filterMap fun occurrence =>
    match occurrence with
    | .accepted _ frame => some frame
    | _ => none

def shownRecords (journal : List Occurrence) : List LogRecord :=
  (journal.filterMap fun occurrence =>
    match occurrence with
    | .logged record => some record
    | _ => none).filter isShown

/-- What a part of the journal tells. -/
def Stage.report (stage : Stage) (shown : List Shown) (journal : List Occurrence) : Report where
  sent := acceptedFrames journal
  ended := stage.endedSteps journal
  logs := shownRecords journal
  shown := shown ++ journal.filterMap fun occurrence =>
    match occurrence with
    | .told event => some (.told event)
    | _ => none
  escaped := journal.findSome? fun occurrence =>
    match occurrence with
    | .escaped failure => some failure
    | _ => none

/-- Plays a step and runs everything that follows from it before the clock moves. -/
def Stage.play (stage : Stage) (step : Step) : Stage × Report :=
  let before := stage.system.journal.length
  let (begun, shown) := stage.begin step
  let settled := begun.onSystem System.untilIdle
  let journal := settled.system.journal.drop before
  let collected := journal.foldl Stage.collect settled
  ({ collected with played := stage.played + 1 }, collected.report shown journal)

/-- The uri that a connection was asked for last. -/
def dialledUri? (system : System) : Option String :=
  system.journal.foldl (fun found occurrence =>
    match occurrence with
    | .dialled uri => some uri
    | _ => found) none

/-- Whether the connection that was made last is closed. -/
def isConnectionClosed (system : System) : Bool :=
  match system.links.getLast? with
  | none => false
  | some link => link.closed

/-! ## Beginnings -/

/-- A peer with one connection and a script of replies. -/
def scriptedPeer (script : List (String × ScriptEntry)) (closeFails : Bool) : Peer :=
  { sharesConnection := true, script, closeFails }

/-- A timer is due in a simulation when less than this time is left to its deadline: a tenth of a
thousandth of a second. -/
def clockResolution : Rat := 1 / 10000

/-- A client at the beginning of a simulation with a peer. -/
def simulatedSystem (peer : Peer) : System where
  loop := { resolution := clockResolution }
  peer

def sessionStage (peer : Peer) (defaultTimeout : Quantity) : Stage where
  system := ((simulatedSystem peer).addLink).addSession 0 defaultTimeout

def workspaceStage (peer : Peer) : Stage where
  system := simulatedSystem peer

def editorStage (peer : Peer) (options : Options) (text : String) (listener : DiagnosticsListener)
    (unreachable : Option Failure) : Stage where
  system := (simulatedSystem peer).addEditor options text listener unreachable

end LanguageClient.Simulation
