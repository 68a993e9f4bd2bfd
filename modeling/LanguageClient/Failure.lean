import LanguageClient.Number.Quantity

/-!
# Failures

Why a call of the client did not return a result. Each cause is a constructor, and its wording is in
one place.
-/

namespace LanguageClient

open LanguageClient.Number

/-- The family of an error response, known by its code. -/
inductive ResponseErrorKind where
  | parseError
  | invalidRequest
  | methodNotFound
  | invalidParams
  | internalError
  | requestCancelled
  | serverError
  | other
  deriving DecidableEq, Repr

namespace ResponseErrorKind

def ofCode (code : Int) : ResponseErrorKind :=
  if code = -32700 then .parseError
  else if code = -32600 then .invalidRequest
  else if code = -32601 then .methodNotFound
  else if code = -32602 then .invalidParams
  else if code = -32603 then .internalError
  else if code = -32800 then .requestCancelled
  else if -32099 ≤ code && code ≤ -32000 then .serverError
  else .other

/-- The code that stands in for zero. -/
def defaultCode : ResponseErrorKind → Int
  | .parseError => -32700
  | .invalidRequest => -32600
  | .methodNotFound => -32601
  | .invalidParams => -32602
  | .internalError => -32603
  | .requestCancelled => -32800
  | .serverError => -32000
  | .other => -32603

/-- The text that stands in for an empty one. -/
def defaultMessage : ResponseErrorKind → String
  | .parseError => "Parse Error"
  | .invalidRequest => "Invalid Request"
  | .methodNotFound => "Method Not Found"
  | .invalidParams => "Invalid Params"
  | .internalError => "Internal Error"
  | .requestCancelled => "Request Cancelled"
  | .serverError => ""
  | .other => ""

end ResponseErrorKind

/-- An error with which the server answered a request. The code is an integer, or `true` where the
server gave that in place of one. -/
structure ResponseError where
  kind : ResponseErrorKind
  code : Json.Value
  message : String
  data : Json.Value
  deriving DecidableEq, Repr

/-- The error of a code, a text and attached data. A code of zero gives way to the code of its
family and an empty text to the family's text. -/
def ResponseError.of (code : Int) (shown : Json.Value) (message : String) (data : Json.Value) :
    ResponseError :=
  let kind := ResponseErrorKind.ofCode code
  { kind
    code := if code = 0 then .int kind.defaultCode else shown
    message := if message = "" then kind.defaultMessage else message
    data }

/-- Why a position or an offset does not resolve against a text. -/
inductive PositionFault where
  | lineOutside (line : Int) (lineCount : Nat)
  | offsetOutside (offset : Int) (length : Nat)
  | positionLineOutside
  | offsetPastEnd
  deriving DecidableEq, Repr

def PositionFault.message : PositionFault → String
  | .lineOutside line lineCount =>
    "line " ++ Json.intText line ++ " is outside of document (" ++ Json.intText lineCount ++
      " lines)"
  | .offsetOutside offset length =>
    "offset " ++ Json.intText offset ++ " is outside of document (length " ++
      Json.intText length ++ ")"
  | .positionLineOutside => "position line is outside of document"
  | .offsetPastEnd => "offset is greater than document length"

/-- How a session came to its end. -/
inductive SessionEnd where
  | closed
  | lost
  deriving DecidableEq, Repr

def SessionEnd.message : SessionEnd → String
  | .closed => "session closed"
  | .lost => "connection lost"

/-- Why a call failed. -/
inductive Failure where
  /-- The document of the handle is no longer open. -/
  | documentClosed (uri : String)
  /-- A document with this uri is open already. -/
  | documentAlreadyOpen (uri : String)
  /-- The connection refused a frame for a reason of the transport. -/
  | transport (reason : String)
  /-- A frame could not be written for another reason. -/
  | unsent (subject : String) (reason : String)
  /-- The peer could not be reached. -/
  | unreachable (uri : String) (reason : String)
  /-- The connection was closed when a frame was to be written. -/
  | connectionClosed (reason : String)
  /-- The session was closed before the call. -/
  | sessionClosed (method : String)
  /-- The session ended while the request was outstanding. -/
  | abandoned (method : String) (id : String) (reason : SessionEnd)
  /-- The payload of the server does not have the expected shape. -/
  | malformed (subject : String)
  /-- No response arrived in time. -/
  | timedOut (method : String) (id : String) (timeout : Quantity)
  /-- A position does not resolve. -/
  | position (fault : PositionFault)
  /-- The server answered with an error. -/
  | response (error : ResponseError)
  /-- An operation was applied to something that is absent or has no text. -/
  | missing
  /-- A number is outside of the range of its field. -/
  | outOfRange
  /-- A value of the wrong type was given. -/
  | wrongType
  /-- An integer is beyond all floating-point numbers. -/
  | tooLarge
  /-- A value is nested too deeply. -/
  | nestedTooDeep
  /-- A list or an object was used as a key. -/
  | unusableKey (typeName : String)
  /-- The host or the connection raised an error of its own. -/
  | foreign (kind : String) (message : String)
  deriving DecidableEq, Repr

namespace Failure

def message : Failure → String
  | .documentClosed uri => "document is closed: " ++ uri
  | .documentAlreadyOpen uri => "document already open: " ++ uri
  | .transport reason => reason
  | .unsent subject reason => "failed to send " ++ subject ++ ": " ++ reason
  | .unreachable uri reason => "cannot connect to " ++ uri ++ ": " ++ reason
  | .connectionClosed reason => reason
  | .sessionClosed method => "cannot send " ++ method ++ ": session closed"
  | .abandoned method id reason => method ++ " (id=" ++ id ++ "): " ++ reason.message
  | .malformed subject => "invalid " ++ subject
  | .timedOut method id timeout =>
    method ++ " (id=" ++ id ++ ") timed out after " ++ timeout.text ++ "s"
  | .position fault => fault.message
  | .response error => error.message
  | .missing => ""
  | .outOfRange => ""
  | .wrongType => ""
  | .tooLarge => "int too large to convert to float"
  | .nestedTooDeep => "maximum recursion depth exceeded"
  | .unusableKey typeName => "unhashable type: '" ++ typeName ++ "'"
  | .foreign _ message => message

/-- Whether a failure concerns the transport; such failures pass through the writer unchanged. -/
def isTransport : Failure → Bool
  | .transport _ | .unsent _ _ | .unreachable _ _ | .connectionClosed _ | .sessionClosed _
  | .abandoned _ _ _ => true
  | .documentClosed _ | .documentAlreadyOpen _ | .malformed _ | .timedOut _ _ _ | .position _
  | .response _ | .missing | .outOfRange | .wrongType | .tooLarge | .nestedTooDeep
  | .unusableKey _ | .foreign _ _ => false

def isClient : Failure → Bool
  | .transport _ | .unsent _ _ | .unreachable _ _ | .connectionClosed _ | .sessionClosed _
  | .abandoned _ _ _ | .documentClosed _ | .documentAlreadyOpen _ | .malformed _
  | .timedOut _ _ _ | .position _ => true
  | .response _ | .missing | .outOfRange | .wrongType | .tooLarge | .nestedTooDeep
  | .unusableKey _ | .foreign _ _ => false

/-- Whether a query recovers from a failure by returning no result. -/
def isQueryFailure : Failure → Bool
  | .response _ => true
  | failure => failure.isClient

end Failure

end LanguageClient
