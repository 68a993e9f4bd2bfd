import LanguageClient.CommandLine.Arguments

/-!
# Launching a command

What a run of the command line needs before it talks to a server: the text of the file, its
language, and the options of the client.
-/

namespace LanguageClient.CommandLine

open LanguageClient.Number

/-- The languages of file name endings. -/
def languageIds : List (String × String) := [
  (".py", "python"), (".js", "javascript"), (".ts", "typescript"), (".rs", "rust"), (".go", "go"),
  (".c", "c"), (".cpp", "cpp"), (".java", "java"), (".sh", "shellscript")]

def guessedLanguage (name : String) : String :=
  (languageIds.lookup (nameSuffix name)).getD "plaintext"

/-- The language of a run: the one that is asked for, or else the one of the file name. -/
def languageOf (arguments : Arguments) (name : String) : String :=
  match arguments.languageId with
  | none => guessedLanguage name
  | some language => if language = "" then guessedLanguage name else language

/-- A text in which every line break is a line feed. -/
def unifiedBreaks : List Char → List Char
  | [] => []
  | '\r' :: '\n' :: rest => '\n' :: unifiedBreaks rest
  | '\r' :: rest => '\n' :: unifiedBreaks rest
  | character :: rest => character :: unifiedBreaks rest

/-- The text of a file: its bytes as UTF-8 with unified line breaks. -/
def fileText? (bytes : ByteArray) : Option String :=
  (String.fromUTF8? bytes).map fun text => String.ofList (unifiedBreaks text.toList)

def filePath (workingDirectory : String) (arguments : Arguments) : AbsolutePath :=
  resolvePath workingDirectory arguments.file

/-- The root directory of a run: the one that is asked for, or else that of the file. -/
def rootPath (workingDirectory : String) (arguments : Arguments) : AbsolutePath :=
  match arguments.root with
  | some root => resolvePath workingDirectory root
  | none => (filePath workingDirectory arguments).tail

/-- Whether the paths of a run can name something: none holds a zero character. -/
def hasUsablePaths (arguments : Arguments) : Bool :=
  (arguments.file :: arguments.root.toList).all fun path => !path.toList.contains '\x00'

def optionsOf (workingDirectory : String) (arguments : Arguments) : Except OptionsFault Options :=
  let file := filePath workingDirectory arguments
  let root := rootPath workingDirectory arguments
  Options.check {
    serverUri := arguments.server
    documentUri := .string file.uri
    languageId := .string (languageOf arguments file.name)
    rootUri := .string root.uri
    workspaceFolders := some [{ uri := root.uri, name := root.name }]
    timeout := .float arguments.timeout
    debounce := .float arguments.debounce }

end LanguageClient.CommandLine
