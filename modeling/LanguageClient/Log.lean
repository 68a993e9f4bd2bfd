/-!
# Log records

A record has a level, the part of the client that wrote it, and a text.
-/

namespace LanguageClient

/-- The severity of a log record. -/
inductive LogLevel where
  | debug
  | info
  | warning
  | error
  deriving DecidableEq, Repr

namespace LogLevel

def name : LogLevel → String
  | .debug => "DEBUG"
  | .info => "INFO"
  | .warning => "WARNING"
  | .error => "ERROR"

def number : LogLevel → Nat
  | .debug => 10
  | .info => 20
  | .warning => 30
  | .error => 40

def ofName? (name : String) : Option LogLevel :=
  [LogLevel.debug, .info, .warning, .error].find? fun level => level.name = name

end LogLevel

/-- The part of the client that wrote a record. -/
inductive LogSource where
  | session
  | workspace
  | document
  | connection
  | commandLine
  deriving DecidableEq, Repr

/-- The name under which a part of the client writes its records. -/
def LogSource.name : LogSource → String
  | .session => "session"
  | .workspace => "workspace"
  | .document => "document"
  | .connection => "connection"
  | .commandLine => "cli"

/-- A log record. -/
structure LogRecord where
  level : LogLevel
  source : LogSource
  text : String
  deriving DecidableEq, Repr

end LanguageClient
