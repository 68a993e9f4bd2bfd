import LanguageClient.Client.Run
import LanguageClient.Simulation.Stage

/-!
# Simulated runs of the command line

A run takes place in a working directory with some files, against a simulated peer. The clock jumps
from deadline to deadline until the run has ended.
-/

namespace LanguageClient.Simulation

open LanguageClient.Client LanguageClient.CommandLine LanguageClient.Json

/-- What a run finds around it. -/
structure Surroundings where
  workingDirectory : String
  /-- The files by name, seen from the working directory. -/
  files : List (String × ByteArray)
  peer : Peer
  unreachable : Option Failure

/-- What a run has done. -/
structure RunReport where
  /-- How it ended; without an end it waits forever. -/
  exit : Option Exit
  lines : List String
  sent : List Value
  logs : List LogRecord
  /-- The least severity of messages that are shown, where the arguments have set it. -/
  logLevel : Option LogLevel
  /-- How far the clock has moved. Without arguments to run with there is no clock. -/
  elapsed : Option Rat

/-- What stands at a path. -/
inductive Entry where
  | directory
  | file (bytes : ByteArray)

/-- What stands at a path in the surroundings, whose directories are those above their files and the
working directory. -/
def entryAt? (surroundings : Surroundings) (path : AbsolutePath) : Option Entry :=
  let directory := resolvePath surroundings.workingDirectory ""
  let files := surroundings.files.map fun file =>
    (resolvePath surroundings.workingDirectory file.1, file.2)
  match files.find? fun file => file.1 = path with
  | some (_, bytes) => some (.file bytes)
  | none =>
    if (directory :: files.map (·.1)).any fun known => path.isSuffixOf known then some .directory
    else none

def maximalNameBytes : Nat := 255

def maximalPathBytes : Nat := 4095

/-- Follows names from a path that was reached. Every name is looked up in a directory. -/
def walk (surroundings : Surroundings) (reached : AbsolutePath) :
    List String → Except FileFault Entry
  | [] =>
    match entryAt? surroundings reached with
    | none => .error .missing
    | some entry => .ok entry
  | name :: rest =>
    match entryAt? surroundings reached with
    | none => .error .missing
    | some (.file _) => .error .belowFile
    | some .directory =>
      if maximalNameBytes < name.utf8ByteSize then .error .nameTooLong
      else walk surroundings (name :: reached) rest

def readFile (surroundings : Surroundings) (path : AbsolutePath) : Except FileFault String := do
  if maximalPathBytes < path.text.utf8ByteSize then throw .nameTooLong
  match ← walk surroundings [] path.reverse with
  | .directory => throw .isDirectory
  | .file bytes =>
    match fileText? bytes with
    | some text => return text
    | none => throw .notText

/-- The text of the file of a run. -/
def readArgument (surroundings : Surroundings) (arguments : Arguments) :
    Except FileFault String :=
  if hasUsablePaths arguments then
    readFile surroundings (filePath surroundings.workingDirectory arguments)
  else .error .unusablePath

/-- The report of a run that has ended or waits forever. -/
def runReport (arguments : Arguments) (exit : Option Exit) (system : System) : RunReport where
  exit
  lines := system.printedLines
  sent := acceptedFrames system.journal
  logs := shownRecords system.journal
  logLevel := some arguments.logLevel
  elapsed := some system.loop.now

def runArguments (surroundings : Surroundings) (arguments : Arguments) : RunReport :=
  let workingDirectory := surroundings.workingDirectory
  let system := simulatedSystem surroundings.peer
  match readArgument surroundings arguments with
  | .error fault => runReport arguments (some (.unreadable fault)) system
  | .ok text =>
    match system.launch workingDirectory arguments text surroundings.unreachable with
    | .error fault => runReport arguments (some Exit.rejected) (system.rejectOptions fault)
    | .ok launched =>
      let task := system.nextTask
      let system := System.advanceUntilEnded task System.patience launched.untilIdle
      runReport arguments (system.exit? task) system

def runCommandLine (surroundings : Surroundings) (arguments : List String) : RunReport :=
  match Arguments.ofList arguments with
  | .ok arguments => runArguments surroundings arguments
  | .error stop => {
      exit := some (.code stop.exitCode)
      lines := stop.lines
      sent := []
      logs := []
      logLevel := none
      elapsed := none }

end LanguageClient.Simulation
