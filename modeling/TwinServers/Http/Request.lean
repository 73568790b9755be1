import TwinServers.Bytes

/-!
# Requests

The head of a request as a connection delivers it, and the ways in which a connection ends other
than as agreed. A request body is no part of a request: it is left unread by the servers, and
`Http.Intake` says what becomes of its bytes.
-/

namespace TwinServers.Http

/-- The protocol versions a server answers. -/
inductive Version
  | http10
  | http11
  deriving DecidableEq, Repr

/-- The version as it stands on the wire. -/
def Version.text : Version → String
  | .http10 => "HTTP/1.0"
  | .http11 => "HTTP/1.1"

/-- A header line: its name as it was sent, and its value without the blanks around it. -/
structure Header where
  name : Bytes
  value : Bytes
  deriving DecidableEq, Repr

/-- Whether the line has this name, given in lower case. -/
def Header.named (h : Header) (name : String) : Bool := h.name.lower == Bytes.latin name

/-- The head of a request. -/
structure Request where
  method : Bytes
  target : Bytes
  version : Version
  headers : List Header
  deriving DecidableEq, Repr

/-- Whether the request has this method. Methods are told apart by case. -/
def Request.isMethod (r : Request) (method : String) : Bool := r.method == Bytes.latin method

/-! ## Faults -/

/-- Why a connection ended before its time. -/
inductive Fault
  /-- The method is empty or holds a byte that no method has. -/
  | method
  /-- The target is no target. -/
  | target
  /-- The target is too long. -/
  | targetTooLong
  /-- The version is neither 1.0 nor 1.1. -/
  | version
  /-- The client spoke the second version of the protocol. -/
  | preface
  /-- A header line, or the end of a line, is malformed. -/
  | header
  /-- The head is too long or has too many header lines, or the announced body is too long to
  count. -/
  | tooLarge
  /-- A 1.0 request carries a transfer coding. -/
  | unexpectedCoding
  /-- The last transfer coding does not delimit the body. -/
  | unknownCoding
  /-- The length of the body is not a number, or there are two of them. -/
  | length
  /-- The client left in the middle of a head, or before its request was answered. -/
  | incomplete
  /-- The response declares a length where it may not. -/
  | declaredLength
  deriving DecidableEq, Repr

namespace Fault

/-- The text of a fault. -/
def message : Fault → String
  | method => "invalid HTTP method parsed"
  | target => "invalid URI"
  | targetTooLong => "URI too long"
  | version => "invalid HTTP version parsed"
  | preface => "invalid HTTP version parsed (found HTTP2 preface)"
  | header => "invalid HTTP header parsed"
  | tooLarge => "message head is too large"
  | unexpectedCoding => "unexpected transfer-encoding parsed"
  | unknownCoding => "invalid transfer-encoding parsed"
  | length => "invalid content-length parsed"
  | incomplete => "connection closed before message completed"
  | declaredLength => "user sent unexpected header"

/-- The status line of the answer to a fault, if the client gets one. -/
def statusLine? : Fault → Option String
  | preface | incomplete | declaredLength => none
  | targetTooLong => some "HTTP/1.1 414 URI Too Long"
  | tooLarge => some "HTTP/1.1 431 Request Header Fields Too Large"
  | _ => some "HTTP/1.1 400 Bad Request"

end Fault

end TwinServers.Http
