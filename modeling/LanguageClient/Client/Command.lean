import LanguageClient.Client.Editor

/-!
# Commands

A command opens one file, prints the hover and the completions that were asked for, waits for
diagnostics and prints them, and closes the editor in the end. A failure of the client ends it with
an exit code, any other failure as it is.
-/

namespace LanguageClient.Client

open LanguageClient.Loop LanguageClient.Number

namespace System

def print (system : System) (line : String) : System := system.note (.printed line)

/-- Goes on after the editor of a command was closed. -/
def resumeClosingCommand (ending : Outcome Reply) (system : System) (outcome : Outcome Reply) :
    Step :=
  match outcome with
  | .returned _ => .ended system ending
  | .failed _ | .cancelled => .ended system outcome

/-- Closes the editor of a command; the command then ends as given. -/
def finishCommand (system : System) (command : Command) (ending : Outcome Reply) : Step :=
  Step.andThen (system.closeEditor command.editor) (.closingCommand ending)
    (resumeClosingCommand ending)

def failCommand (system : System) (command : Command) (failure : Failure) : Step :=
  if failure.isClient then
    (system.log .error .commandLine failure.message).finishCommand command (.returned (.exitCode 1))
  else system.finishCommand command (.failed failure)

/-- Prints diagnostics up to one that does not resolve. -/
def printDiagnostics (snapshot : Document.Snapshot) (system : System) :
    List Document.PlacedDiagnostic → System × Option PositionFault
  | [] => (system, none)
  | diagnostic :: rest =>
    match diagnostic.report snapshot with
    | .ok line => printDiagnostics snapshot (system.print line) rest
    | .error fault => (system, some fault)

def reportDiagnostics (system : System) (command : Command) : Step :=
  let diagnostics := ((system.editors[command.editor]?).map (·.diagnostics)).getD []
  match printDiagnostics command.snapshot system diagnostics with
  | (system, none) => system.finishCommand command (.returned (.exitCode 0))
  | (system, some fault) => system.failCommand command (.position fault)

/-- Goes on with a command, if it exists, after a part of it that returned. -/
def continueCommand (command : Nat) (system : System) (outcome : Outcome Reply)
    (rest : Command → Reply → Step) : Step :=
  match system.commands[command]? with
  | none => .failed system .missing
  | some found =>
    match outcome with
    | .returned reply => rest found reply
    | .failed failure => system.failCommand found failure
    | .cancelled => system.finishCommand found .cancelled

/-- Goes on after a command has waited for diagnostics. -/
def resumeWaitingCommand (command : Nat) (system : System) (outcome : Outcome Reply) : Step :=
  continueCommand command system outcome fun found _ => system.reportDiagnostics found

/-- Waits for diagnostics, if a positive time is asked for, and prints them. -/
def waitForDiagnostics (system : System) (command : Nat) (found : Command) : Step :=
  if found.wait.isPositive then
    let promise := system.nextPromise
    let system := system.onLoop fun loop =>
      (loop.addPromise {}).arm found.wait.delay (.wake promise)
    Step.andThen (system.await promise) (.waitingCommand command) (resumeWaitingCommand command)
  else system.reportDiagnostics found

/-- The line for a candidate: its label, and its kind in brackets. -/
def candidateLine (candidate : Completion.Candidate) : String :=
  match candidate.kind with
  | none => candidate.label
  | some kind => candidate.label ++ " [" ++ kind ++ "]"

def printCompletion (system : System) : Option Completion.Ranked → System
  | none => system.print "(no completions)"
  | some ranked =>
    ranked.candidates.foldl (fun system candidate => system.print (candidateLine candidate)) system

/-- Goes on after the completions of a command have come. -/
def resumeCompletingCommand (command : Nat) (system : System) (outcome : Outcome Reply) : Step :=
  continueCommand command system outcome fun found reply =>
    let ranked :=
      match reply with
      | .completion ranked => ranked
      | _ => none
    (system.printCompletion ranked).waitForDiagnostics command found

/-- Asks for completions, if a position is given. -/
def queryCompletion (system : System) (command : Nat) (found : Command) : Step :=
  match found.complete with
  | none => system.waitForDiagnostics command found
  | some position =>
    match found.snapshot.toOffset position with
    | .error fault => system.failCommand found (.position fault)
    | .ok offset =>
      Step.andThen (system.complete found.editor offset true) (.completingCommand command)
        (resumeCompletingCommand command)

def printHover (system : System) : Option Document.PlacedHover → System
  | none => system.print "(no hover)"
  | some hover => system.print hover.text

/-- Goes on after the hover of a command has come. -/
def resumeHoveringCommand (command : Nat) (system : System) (outcome : Outcome Reply) : Step :=
  continueCommand command system outcome fun found reply =>
    let hover :=
      match reply with
      | .hover hover => hover
      | _ => none
    (system.printHover hover).queryCompletion command found

/-- Asks for a hover, if a position is given. -/
def queryHover (system : System) (command : Nat) (found : Command) : Step :=
  match found.hover with
  | none => system.queryCompletion command found
  | some position =>
    match found.snapshot.toOffset position with
    | .error fault => system.failCommand found (.position fault)
    | .ok offset =>
      Step.andThen (system.hover found.editor offset) (.hoveringCommand command)
        (resumeHoveringCommand command)

/-- Goes on after the editor of a command has started or not. -/
def resumeStartingCommand (command : Nat) (system : System) (outcome : Outcome Reply) : Step :=
  match outcome, system.commands[command]? with
  | .returned _, some found => system.queryHover command found
  | .returned _, none => .failed system .missing
  | .failed failure, _ =>
    .returned (system.log .error .commandLine ("cannot start session: " ++ failure.message))
      (.exitCode 1)
  | .cancelled, _ => .ended system .cancelled

def runCommand (system : System) (command : Nat) : Step :=
  match system.commands[command]? with
  | none => .failed system .missing
  | some found =>
    Step.andThen (system.start found.editor) (.startingCommand command)
      (resumeStartingCommand command)

end System

end LanguageClient.Client
