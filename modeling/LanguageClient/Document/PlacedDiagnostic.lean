import LanguageClient.Document.Snapshot
import LanguageClient.Protocol.Diagnostic

/-!
# Diagnostics in a document

The diagnostics of the server are resolved to offsets of one snapshot, those that do not resolve
are left out, and the rest is put in the order of their starts. Diagnostics that start at the same
offset keep the order of the server.
-/

namespace LanguageClient.Document

open LanguageClient.Protocol

/-- How a diagnostic is shown. -/
inductive Severity where
  | error
  | warning
  | info
  deriving DecidableEq, Repr

def Severity.name : Severity → String
  | .error => "error"
  | .warning => "warning"
  | .info => "info"

/-- Errors and warnings are shown as such, all else as information. -/
def Severity.ofServer : Option DiagnosticSeverity → Severity
  | some .error => .error
  | some .warning => .warning
  | some .information | some .hint | none => .info

/-- A diagnostic resolved to offsets. -/
structure PlacedDiagnostic where
  start : Nat
  stop : Nat
  severity : Severity
  message : String
  source : Option String
  code : Json.Value
  deriving DecidableEq, Repr

def placeDiagnostic (snapshot : Snapshot) (diagnostic : Diagnostic) :
    Except PositionFault PlacedDiagnostic := do
  let start ← snapshot.toOffset diagnostic.range.first
  let stop ← snapshot.toOffset diagnostic.range.last
  return {
    start
    stop
    severity := Severity.ofServer diagnostic.severity
    message := diagnostic.message
    source := diagnostic.source
    code := diagnostic.code }

/-- The diagnostics that resolve against a snapshot, by their starts. -/
def placeDiagnostics (snapshot : Snapshot) (diagnostics : List Diagnostic) :
    List PlacedDiagnostic :=
  (diagnostics.filterMap fun diagnostic => (placeDiagnostic snapshot diagnostic).toOption).mergeSort
    fun left right => left.start ≤ right.start

/-- The line of text for a diagnostic at an offset: line, character, severity and message. -/
def diagnosticLine (snapshot : Snapshot) (start : Int) (severity : Severity) (message : String) :
    Except PositionFault String := do
  let position ← snapshot.toPosition start
  return Json.intText position.line ++ ":" ++ Json.intText position.character ++ ": " ++
    severity.name ++ ": " ++ message

/-- The line of text for one diagnostic. -/
def PlacedDiagnostic.report (snapshot : Snapshot) (diagnostic : PlacedDiagnostic) :
    Except PositionFault String :=
  diagnosticLine snapshot diagnostic.start diagnostic.severity diagnostic.message

end LanguageClient.Document
