import LanguageClient.Protocol.Hover

/-!
# Diagnostics of the server
-/

namespace LanguageClient.Protocol

open LanguageClient.Json

/-- The severity of a diagnostic on the wire, from `1` to `4`. -/
inductive DiagnosticSeverity where
  | error
  | warning
  | information
  | hint
  deriving DecidableEq, Repr

def DiagnosticSeverity.ofInt? (number : Int) : Option DiagnosticSeverity :=
  if number = 1 then some .error
  else if number = 2 then some .warning
  else if number = 3 then some .information
  else if number = 4 then some .hint
  else none

def severity : Reader DiagnosticSeverity := fun value =>
  value.integral?.bind DiagnosticSeverity.ofInt?

/-- A remark of the server on a part of a document. -/
structure Diagnostic where
  range : Range
  message : String
  severity : Option DiagnosticSeverity
  source : Option String
  code : Value
  deriving DecidableEq, Repr

/-- A place in some document. -/
def location : Reader (String × Range) := fun value => do
  let uri ← required "uri" text value
  let range ← required "range" range value
  return (uri, range)

def relatedInformation : Reader String := fun value => do
  let _ ← required "location" location value
  required "message" text value

/-- A diagnostic in a payload. The description of the code, the tags and the related places have to
have their shape, but are not kept. -/
def diagnostic : Reader Diagnostic := fun value => do
  let range ← required "range" range value
  let message ← required "message" text value
  let severity ← optional "severity" severity value
  let code ← optional "code" anything value
  let source ← optional "source" text value
  let _ ← optional "codeDescription" (required "href" text) value
  let _ ← optional "tags" (sequence (choice 1 2)) value
  let _ ← optional "relatedInformation" (sequence relatedInformation) value
  return { range, message, severity, source, code := code.getD .null }

/-- The diagnostics that the server publishes for one document. -/
structure PublishedDiagnostics where
  uri : String
  version : Option Int
  diagnostics : List Diagnostic
  deriving DecidableEq, Repr

def publishedDiagnostics : Reader PublishedDiagnostics := fun value => do
  let uri ← required "uri" text value
  let diagnostics ← required "diagnostics" (sequence diagnostic) value
  let version ← optional "version" signedInteger value
  return { uri, version, diagnostics }

end LanguageClient.Protocol
