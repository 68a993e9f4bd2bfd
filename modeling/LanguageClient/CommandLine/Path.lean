import LanguageClient.Text.CodePoint

/-!
# Paths

Paths with slashes. A path is normalized by leaving out empty parts and single dots; it is made
absolute against a directory by also following double dots.

A path inside a uri keeps letters, digits, `_`, `.`, `-`, `~` and the slash; every other byte of its
UTF-8 form is written as a percent sign and two capital hexadecimal digits.
-/

/-! ## Percent-encoding -/

namespace LanguageClient.Text

/-- Whether a byte stands for itself in the path of a uri. -/
def isUnreservedByte (byte : UInt8) : Bool :=
  let character := Char.ofNat byte.toNat
  byte < 128 && (character.isAlphanum || "_.-~/".toList.contains character)

/-- One byte in the path of a uri. -/
def percentEncodedByte (byte : UInt8) : List Char :=
  if isUnreservedByte byte then [Char.ofNat byte.toNat]
  else '%' :: (hexDigits 2 byte.toNat).map Char.toUpper

/-- A path in the form that stands in a uri. -/
def percentEncoded (path : String) : String :=
  String.ofList (path.toUTF8.toList.flatMap percentEncodedByte)

end LanguageClient.Text

/-! ## Parts of a path -/

namespace LanguageClient.CommandLine

/-- The parts of a path between its slashes, without empty parts and single dots. -/
def pathParts (path : String) : List String :=
  ((path.toList.splitOn '/').map String.ofList).filter fun part => part != "" && part != "."

/-- The slashes that a path starts with: two stay two, and any other number counts as one. -/
def pathRoot (path : String) : String :=
  match path.toList.takeWhile (· = '/') with
  | [] => ""
  | [_, _] => "//"
  | _ => "/"

/-- The shortest way to write a path; the empty path is a single dot. -/
def normalizedPath (path : String) : String :=
  let written := pathRoot path ++ "/".intercalate (pathParts path)
  if written = "" then "." else written

/-- Follows the parts of a path from a list of directories, given innermost first. -/
def followParts (directories : List String) : List String → List String
  | [] => directories
  | ".." :: rest => followParts directories.tail rest
  | part :: rest => followParts (part :: directories) rest

/-- The directories and the name of an absolute path, innermost first. -/
abbrev AbsolutePath := List String

def resolvePath (workingDirectory path : String) : AbsolutePath :=
  let start := if pathRoot path = "" then followParts [] (pathParts workingDirectory) else []
  followParts start (pathParts path)

def AbsolutePath.text (path : AbsolutePath) : String := "/" ++ "/".intercalate path.reverse

def AbsolutePath.name (path : AbsolutePath) : String := path.head?.getD ""

/-- The ending of a file name from its last dot on. A dot at the start or at the end does not begin
an ending. -/
def nameSuffix (name : String) : String :=
  let characters := name.toList
  let ending := characters.reverse.takeWhile (· != '.')
  let before := characters.length - ending.length
  if ending.isEmpty || before ≤ 1 then "" else String.ofList ('.' :: ending.reverse)

/-- A path in a uri. A drive letter at its start is written in lower case and keeps its colon. -/
def encodedPath (path : String) : String :=
  match path.toList with
  | '/' :: letter :: ':' :: rest =>
    if letter.isAlpha then
      String.ofList ['/', letter.toLower, ':'] ++ Text.percentEncoded (String.ofList rest)
    else Text.percentEncoded path
  | _ => Text.percentEncoded path

def AbsolutePath.uri (path : AbsolutePath) : String := "file://" ++ encodedPath path.text

end LanguageClient.CommandLine
