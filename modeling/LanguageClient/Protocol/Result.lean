import LanguageClient.Protocol.Capabilities
import LanguageClient.Protocol.CompletionItem
import LanguageClient.Protocol.Diagnostic

/-!
# Results of requests

The result of a request is read according to the request's method. A result that is refused is a
failure that names the method.
-/

namespace LanguageClient.Protocol

open LanguageClient.Json

/-! ## The methods that the client sends and understands -/

namespace Method

def handshake : String := "initialize"
def handshakeDone : String := "initialized"
def didOpen : String := "textDocument/didOpen"
def didChange : String := "textDocument/didChange"
def didClose : String := "textDocument/didClose"
def hover : String := "textDocument/hover"
def completion : String := "textDocument/completion"
def publishDiagnostics : String := "textDocument/publishDiagnostics"
def logMessage : String := "window/logMessage"
def showMessage : String := "window/showMessage"

end Method

def resultOf {α : Type} (method : String) (read : Reader α) (result : Value) : Except Failure α :=
  match read result with
  | some found => .ok found
  | none => .error (.malformed (method ++ " result"))

/-- Reads the parameters of a notification, which have a named type. -/
def paramsOf {α : Type} (typeName : String) (read : Reader α) (params : Value) :
    Except Failure α :=
  match read params with
  | some found => .ok found
  | none => .error (.malformed typeName)

def initializeResultOf : Value → Except Failure InitializeResult :=
  resultOf Method.handshake initializeResult

def hoverResultOf : Value → Except Failure (Option Hover) := resultOf Method.hover hoverResult

def completionResultOf : Value → Except Failure (Option (List CompletionItem)) :=
  resultOf Method.completion completionResult

def publishedDiagnosticsOf : Value → Except Failure PublishedDiagnostics :=
  paramsOf "PublishDiagnosticsParams" publishedDiagnostics

def notebookFilterOf : Value → Except Failure NotebookFilter :=
  paramsOf "NotebookDocumentFilterWithCells" notebookFilter

/-- Checks the result of any request. The result of a method that has no type of its own is passed
through. -/
def checkedResult (method : String) (result : Value) : Except Failure Value :=
  if method = Method.handshake then (initializeResultOf result).map fun _ => result
  else if method = Method.hover then (hoverResultOf result).map fun _ => result
  else if method = Method.completion then (completionResultOf result).map fun _ => result
  else .ok result

end LanguageClient.Protocol
