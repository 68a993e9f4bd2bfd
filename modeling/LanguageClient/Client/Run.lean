import LanguageClient.Client.Turn
import LanguageClient.CommandLine.Launch

/-!
# Runs of the command line

A run reads its arguments and its file, checks the options, and then runs one command as the first
task of a client. The run ends with an exit code or because of a failure that nobody took care of.
-/

namespace LanguageClient.Client

open LanguageClient.CommandLine LanguageClient.Loop LanguageClient.Number

/-- Why the file of a run has no text. -/
inductive FileFault where
  | missing
  | isDirectory
  | belowFile
  | nameTooLong
  /-- A path of the run holds a zero character, which no path can. -/
  | unusablePath
  | notText
  deriving DecidableEq, Repr

/-- How a run ends. -/
inductive Exit where
  | code (code : Nat)
  | unreadable (fault : FileFault)
  | failed (failure : Failure)
  | cancelled
  deriving DecidableEq, Repr

/-- The exit of a run whose options were not accepted. -/
def Exit.rejected : Exit := .code 2

def Exit.ofOutcome : Outcome Reply → Exit
  | .returned (.exitCode number) => .code number
  | .returned _ => .code 0
  | .failed failure => .failed failure
  | .cancelled => .cancelled

namespace System

/-- Starts the command of a run as a task, or tells what is wrong with the options. -/
def launch (system : System) (workingDirectory : String) (arguments : Arguments) (text : String)
    (unreachable : Option Failure) : Except OptionsFault System := do
  let options ← optionsOf workingDirectory arguments
  let editor := system.editors.length
  let command := system.commands.length
  let prepared := system.addEditor options text .nobody unreachable
  let commanded : System := { prepared with
    commands := prepared.commands ++ [{
      editor
      snapshot := Document.Snapshot.ofText text
      hover := arguments.hover
      complete := arguments.complete
      wait := arguments.wait }] }
  return commanded.spawn (.runCommand command)

/-- The exit of a run whose command is a given task, once that has ended. -/
def exit? (system : System) (task : Nat) : Option Exit :=
  system.journal.findSome? fun occurrence =>
    match occurrence with
    | .ended ended outcome => if ended = task then some (Exit.ofOutcome outcome) else none
    | _ => none

/-- Writes the log record about options that were not accepted. -/
def rejectOptions (system : System) (fault : OptionsFault) : System :=
  system.log .error .commandLine ("invalid options: " ++ fault.message?.getD "")

def printedLines (system : System) : List String :=
  system.journal.filterMap fun occurrence =>
    match occurrence with
    | .printed line => some line
    | _ => none

end System

end LanguageClient.Client
