import LanguageClient.CommandLine.Path
import LanguageClient.Document.Snapshot
import LanguageClient.Log
import LanguageClient.Number.Literal
import LanguageClient.Options

/-!
# Arguments of the command line

Options start with two hyphens, may be shortened as long as they stay unambiguous, and take their
value from the next argument or after an equals sign. Everything after a lone `--` is a value.
-/

namespace LanguageClient.CommandLine

open LanguageClient.Number

/-- The arguments of one run. -/
structure Arguments where
  file : String
  server : String
  root : Option String
  languageId : Option String
  hover : Option Position
  complete : Option Position
  wait : Binary64
  timeout : Binary64
  debounce : Binary64
  /-- The least severity of the messages that are shown. -/
  logLevel : LogLevel
  deriving DecidableEq, Repr

/-- Why there are no arguments to run with. -/
inductive Stop where
  | showVersion
  | showHelp
  | usageError
  deriving DecidableEq, Repr

def Stop.exitCode : Stop → Nat
  | .showVersion | .showHelp => 0
  | .usageError => 2

/-- The name and the version of the program. -/
def versionLine : String := "editor-lsp 0.1.0"

def Stop.lines : Stop → List String
  | .showVersion => [versionLine]
  | .showHelp | .usageError => []

/-- The options of the program. -/
inductive OptionName where
  | help
  | server
  | root
  | languageId
  | hover
  | complete
  | wait
  | timeout
  | debounce
  | logLevel
  | version
  deriving DecidableEq, Repr

def optionSpellings : List (String × OptionName) := [
  ("-h", .help), ("--help", .help), ("--server", .server), ("--root", .root),
  ("--language-id", .languageId), ("--hover", .hover), ("--complete", .complete),
  ("--wait", .wait), ("--timeout", .timeout), ("--debounce", .debounce),
  ("--log-level", .logLevel), ("--version", .version)]

/-- What an argument is, seen on its own. -/
inductive Piece where
  | value (text : String)
  | option (name : OptionName) (attached : Option String)
  | unknown
  | ambiguous
  | separator
  deriving DecidableEq, Repr

/-- The parts of a text before and after its first equals sign. -/
def splitAtEquals (text : String) : String × Option String :=
  match text.toList.span (· != '=') with
  | (before, []) => (String.ofList before, none)
  | (before, _ :: after) => (String.ofList before, some (String.ofList after))

def withoutLineEnd (characters : List Char) : List Char :=
  if characters.getLast? = some '\n' then characters.dropLast else characters

/-- Whether a text is a negative number and therefore no option. A line may end after it. -/
def isNegativeNumber (text : String) : Bool :=
  match withoutLineEnd text.toList with
  | '-' :: rest =>
    let isDigit (character : Char) := (Text.digitValue? character).isSome
    let (whole, fraction) := rest.span isDigit
    match fraction with
    | [] => !whole.isEmpty
    | '.' :: digits => !digits.isEmpty && digits.all isDigit
    | _ => false
  | _ => false

/-- What is attached to the help option behind its one letter. The letter may be repeated; anything
else is attached. -/
def attachedToHelp (text : List Char) : Option String :=
  if text.all (· = 'h') then none else some (String.ofList text)

/-- The options that a shortened spelling may stand for. -/
def shortened (text : String) : List (OptionName × Option String) :=
  if "--".toList.isPrefixOf text.toList then
    let (spelling, attached) := splitAtEquals text
    (optionSpellings.filter fun entry => spelling.toList.isPrefixOf entry.1.toList).map
      fun entry => (entry.2, attached)
  else if "-h".toList.isPrefixOf text.toList then
    [(.help, attachedToHelp (text.toList.drop 2))]
  else []

/-- An option in full spelling with a value attached. Letters of help options are no value. -/
def optionWithValue? (spelling value : String) : Option (OptionName × Option String) :=
  if spelling = "-h" && value != "" then some (.help, attachedToHelp value.toList)
  else (optionSpellings.lookup spelling).map fun name => (name, some value)

/-- The option that an argument spells in full, perhaps with a value attached. -/
def spelledOption? (text : String) : Option (OptionName × Option String) :=
  match optionSpellings.lookup text with
  | some name => some (name, none)
  | none =>
    match splitAtEquals text with
    | (_, none) => none
    | (spelling, some attached) => optionWithValue? spelling attached

/-- What an argument is, as long as no lone `--` came before it. -/
def Piece.ofArgument (text : String) : Piece :=
  if !"-".toList.isPrefixOf text.toList || text.length = 1 then .value text
  else
    match spelledOption? text with
    | some (name, attached) => .option name attached
    | none =>
      match shortened text with
      | [(name, attached)] => .option name attached
      | _ :: _ :: _ => .ambiguous
      | [] => if isNegativeNumber text || text.toList.contains ' ' then .value text else .unknown

def piecesOf : List String → List Piece
  | [] => []
  | text :: rest =>
    if text = "--" then .separator :: rest.map .value else Piece.ofArgument text :: piecesOf rest

/-- What has been read so far. -/
structure Progress where
  file : Option String := none
  server : Option String := none
  root : Option String := none
  languageId : Option String := none
  hover : Option Position := none
  complete : Option Position := none
  wait : Option Binary64 := none
  timeout : Option Binary64 := none
  debounce : Option Binary64 := none
  logLevel : LogLevel := .warning
  /-- Whether there was an argument that belongs to nothing. -/
  extra : Bool := false

/-- The text before and after the first colon. -/
def splitAtColon? (text : String) : Option (String × String) :=
  match text.toList.span (· != ':') with
  | (_, []) => none
  | (before, _ :: after) => some (String.ofList before, String.ofList after)

/-- Reads a position that is written as line, colon and character. -/
def readPosition? (text : String) : Option Position := do
  let (line, character) ← splitAtColon? text
  Position.of? (← readInt? line) (← readInt? character)

/-- The wording for a position that cannot be read. -/
def positionComplaint (text : String) : String :=
  "expected LINE:COL, got " ++ Json.quote text

def Progress.take (progress : Progress) (name : OptionName) (value : String) :
    Except Stop Progress :=
  let asNumber (store : Binary64 → Progress) : Except Stop Progress :=
    match readFloat? value with
    | some number => .ok (store number)
    | none => .error .usageError
  let asPosition (store : Position → Progress) : Except Stop Progress :=
    match readPosition? value with
    | some position => .ok (store position)
    | none => .error .usageError
  match name with
  | .help | .version => .error .usageError
  | .server => .ok { progress with server := some value }
  | .root => .ok { progress with root := some (normalizedPath value) }
  | .languageId => .ok { progress with languageId := some value }
  | .hover => asPosition fun position => { progress with hover := some position }
  | .complete => asPosition fun position => { progress with complete := some position }
  | .wait => asNumber fun number => { progress with wait := some number }
  | .timeout => asNumber fun number => { progress with timeout := some number }
  | .debounce => asNumber fun number => { progress with debounce := some number }
  | .logLevel =>
    match LogLevel.ofName? value with
    | some level => .ok { progress with logLevel := level }
    | none => .error .usageError

/-- Takes a value that belongs to no option: the first one is the file. -/
def Progress.takeFile (progress : Progress) (value : String) : Progress :=
  match progress.file with
  | none => { progress with file := some (normalizedPath value) }
  | some _ => { progress with extra := true }

/-- Whether the file is still to come. -/
def Progress.wantsFile (progress : Progress) : Bool := progress.file.isNone

def readPieces (progress : Progress) : List Piece → Except Stop Progress
  | [] => .ok progress
  | .value text :: .separator :: rest =>
    if progress.wantsFile then readPieces (progress.takeFile text) rest
    else readPieces { progress with extra := true } rest
  | .value text :: rest => readPieces (progress.takeFile text) rest
  | .separator :: rest =>
    readPieces { progress with extra := progress.extra || !progress.wantsFile } rest
  | .unknown :: rest => readPieces { progress with extra := true } rest
  | .ambiguous :: rest => readPieces { progress with extra := true } rest
  | .option .version none :: _ => .error .showVersion
  | .option .help none :: _ => .error .showHelp
  | .option name (some value) :: rest => do
    let progress ← progress.take name value
    readPieces progress rest
  | .option name none :: .value value :: rest => do
    let progress ← progress.take name value
    readPieces progress rest
  | .option _ none :: _ => .error .usageError

/-- The arguments that were read, if nothing is missing and nothing is left over. -/
def Progress.finish (progress : Progress) : Except Stop Arguments :=
  match progress.file, progress.server with
  | some file, some server =>
    if progress.extra then .error .usageError
    else .ok {
      file
      server
      root := progress.root
      languageId := progress.languageId
      hover := progress.hover
      complete := progress.complete
      wait := progress.wait.getD (Binary64.ofDecimal false 1 0)
      timeout := progress.timeout.getD (Binary64.ofDecimal false 10 0)
      debounce := progress.debounce.getD (Binary64.ofDecimal false 5 (-1))
      logLevel := progress.logLevel }
  | _, _ => .error .usageError

/-- Reads the arguments of a run. An ambiguous spelling spoils them all. -/
def Arguments.ofList (arguments : List String) : Except Stop Arguments := do
  let pieces := piecesOf arguments
  if pieces.contains .ambiguous then throw .usageError
  let progress ← readPieces {} pieces
  progress.finish

end LanguageClient.CommandLine
