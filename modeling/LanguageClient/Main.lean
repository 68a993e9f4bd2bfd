import LanguageClient.Client.Run

/-!
# The program

Runs the command line in real time. The frames for the server and from it go line by line through
two named pipes, `sent` and `received`, in the directory that `LANGUAGE_CLIENT_BRIDGE` names; a
bridge behind them speaks to the WebSocket. Results go to standard output and log records to
standard error.
-/

namespace LanguageClient.Program

open LanguageClient.Client LanguageClient.CommandLine LanguageClient.Json

/-- What is shown when the arguments cannot be used or help is asked for. -/
def usage : String :=
  "usage: file --server ADDRESS [--root DIRECTORY] [--language-id LANGUAGE] [--hover LINE:COL] " ++
    "[--complete LINE:COL] [--wait SECONDS] [--timeout SECONDS] [--debounce SECONDS] " ++
    "[--log-level LEVEL] [--version]"

/-- The streams to the server and from it. -/
structure Bridge where
  sent : IO.FS.Handle
  received : IO.FS.Handle

/-- Opens the bridge, if there is one. -/
def openBridge : IO (Option Bridge) := do
  match ← IO.getEnv "LANGUAGE_CLIENT_BRIDGE" with
  | none => return none
  | some directory =>
    let received ← IO.FS.Handle.mk (directory ++ "/received") .read
    let sent ← IO.FS.Handle.mk (directory ++ "/sent") .write
    return some { sent, received }

/-- The next line from the server, as a task of its own. Without a bridge nothing comes. -/
def nextLine (bridge : Option Bridge) : IO (Option (Task (Except IO.Error String))) := do
  match bridge with
  | none => return none
  | some bridge => return some (← IO.asTask bridge.received.getLine)

/-- Shows something that has happened. -/
def present (bridge : Option Bridge) (level : LogLevel) (occurrence : Occurrence) : IO Unit := do
  match occurrence with
  | .accepted _ frame =>
    match bridge with
    | none => return
    | some bridge =>
      bridge.sent.putStrLn frame.render
      bridge.sent.flush
  | .printed line => IO.println line
  | .logged record =>
    if level.number ≤ record.level.number then
      IO.eprintln (record.source.name ++ " - " ++ record.level.name ++ " - " ++ record.text)
  | _ => return

/-- The seconds since a moment of the machine's clock. -/
def secondsSince (start : Nat) : IO Rat := do
  return (((← IO.monoMsNow) - start : Nat) : Rat) / 1000

/-- Lets the client run until its command has ended. The lines of the server are handed on as they
come, and the clock follows that of the machine. -/
partial def serve (bridge : Option Bridge) (level : LogLevel) (task start shown : Nat)
    (line : Option (Task (Except IO.Error String))) (system : System) : IO Exit := do
  let system := system.untilIdle
  (system.journal.drop shown).forM (present bridge level)
  let shown := system.journal.length
  match system.exit? task with
  | some exit => return exit
  | none =>
    let system := system.onLoop (·.moveClock (← secondsSince start))
    match line with
    | some found =>
      if ← IO.hasFinished found then
        match found.get with
        | .ok "" | .error _ => serve bridge level task start shown none (system.drop 0)
        | .ok text =>
          let text := String.ofList (text.toList.filter (· != '\n'))
          serve bridge level task start shown (← nextLine bridge) (system.receive 0 text)
      else
        IO.sleep 5
        serve bridge level task start shown line system
    | none =>
      IO.sleep 5
      serve bridge level task start shown none system

/-- Ends the program. -/
def finish (exit : Exit) : IO UInt32 := do
  match exit with
  | .code code => return UInt32.ofNat code
  | .unreadable _ =>
    IO.eprintln "the file cannot be read"
    return 1
  | .failed failure =>
    IO.eprintln failure.message
    return 1
  | .cancelled => return 1

/-- The text of a file, if it can be read. -/
def readText (path : AbsolutePath) : IO (Option String) := do
  try
    return fileText? (← IO.FS.readBinFile path.text)
  catch _ =>
    return none

def runWith (arguments : Arguments) : IO UInt32 := do
  let workingDirectory := (← IO.currentDir).toString
  match ← readText (filePath workingDirectory arguments) with
  | none => finish (.unreadable .missing)
  | some text =>
    let bridge ← openBridge
    let unreachable : Option Failure :=
      if bridge.isSome then none else some (.unreachable arguments.server "there is no bridge")
    let system : System := {}
    match system.launch workingDirectory arguments text unreachable with
    | .error fault =>
      (system.rejectOptions fault).journal.forM (present none arguments.logLevel)
      finish Exit.rejected
    | .ok launched =>
      let line ← nextLine bridge
      finish (← serve bridge arguments.logLevel system.nextTask (← IO.monoMsNow) 0 line launched)

end LanguageClient.Program

/-- Runs the program. -/
def main (arguments : List String) : IO UInt32 := do
  match LanguageClient.CommandLine.Arguments.ofList arguments with
  | .ok found => LanguageClient.Program.runWith found
  | .error stop =>
    stop.lines.forM IO.println
    match stop with
    | .showVersion => return 0
    | .showHelp =>
      IO.println LanguageClient.Program.usage
      return 0
    | .usageError =>
      IO.eprintln LanguageClient.Program.usage
      return UInt32.ofNat stop.exitCode
