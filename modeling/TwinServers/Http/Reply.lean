import TwinServers.Http.Intake

/-!
# How replies go out

A body whose length is known or declared is sent as it is, after a `content-length`; one of unknown
length is sent in chunks, or to a 1.0 client as it is up to the end of the connection. The length
that a response declares comes before the line about the connection, and one that is found out comes
after it; with a body that is known to be empty the declared one is not looked at. The reply to
`HEAD` has no body, and the reply to `CONNECT` neither a body nor anything that announces one.
-/

namespace TwinServers.Http

/-- A line with its end. -/
def textLine (s : Bytes) : Bytes := s ++ crlf

/-- A header line. -/
def headerText (name : String) (value : Bytes) : Bytes :=
  textLine (Bytes.latin name ++ Bytes.latin ": " ++ value)

/-- A number in decimal digits. -/
def decimalText (n : Nat) : Bytes := Bytes.latin (toString n)

/-- A number in upper-case hexadecimal digits. -/
def hexText (n : Nat) : Bytes := (Nat.toDigits 16 n).map fun c => c.toUpper.toNat.toUInt8

/-- A frame as a chunk: its length, and its content. -/
def chunk (frame : Bytes) : Bytes := textLine (hexText frame.length) ++ textLine frame

/-- Frames as a chunked body. -/
def chunkedText (frames : List Bytes) : Bytes := frames.flatMap chunk ++ lastChunk

namespace Framing

/-- The framing of the reply to a request. -/
def of (request : Request) (declared : Option Nat) (hint : Hint) : Framing :=
  match declared with
  | some n =>
    if hint.atEnd && !request.isMethod "HEAD" && !request.isMethod "CONNECT" then .measured 0
    else .declared n
  | none =>
    if request.isMethod "CONNECT" then .absent
    else
      match hint.upper with
      | some n => if request.isMethod "HEAD" && n == 0 then .absent else .measured n
      | none =>
        if request.isMethod "HEAD" then .absent
        else if request.version = .http11 then .chunks
        else .untilClose

/-- The header line that comes before all others. -/
def firstLine : Framing → Bytes
  | declared n => headerText "content-length" (decimalText n)
  | _ => []

/-- The header line about the body that comes after that about the connection. -/
def laterLine : Framing → Bytes
  | measured n => headerText "content-length" (decimalText n)
  | chunks => headerText "transfer-encoding" (Bytes.latin "chunked")
  | _ => []

/-- The frames of a body as they are sent. -/
def encode (frames : List Bytes) : Framing → Bytes
  | declared _ | measured _ | untilClose => frames.flatten
  | chunks => chunkedText frames
  | absent => []

end Framing

/-- The header line about the connection, where the version leaves it in doubt. -/
def connectionLine (version : Version) (keepAlive : Bool) : Bytes :=
  match version, keepAlive with
  | .http11, false => headerText "connection" (Bytes.latin "close")
  | .http10, true => headerText "connection" (Bytes.latin "keep-alive")
  | _, _ => []

/-- The head of a reply. -/
def replyHead (date : Bytes) (request : Request) (keepAlive : Bool) (framing : Framing) : Bytes :=
  textLine (Bytes.latin (request.version.text ++ " 200 OK")) ++ framing.firstLine ++
    connectionLine request.version keepAlive ++ framing.laterLine ++ headerText "date" date ++ crlf

/-- What a client is told of a fault: a status, if there is one for it, and nothing else. -/
def refusalText (date : Bytes) (fault : Fault) : Bytes :=
  match fault.statusLine? with
  | some status =>
    textLine (Bytes.latin status) ++ headerText "connection" (Bytes.latin "close") ++
      headerText "content-length" (decimalText 0) ++ headerText "date" date ++ crlf
  | none => []

/-- Replies with one header line about the body. A length cannot be declared to `CONNECT`. -/
def Output.standard : Output where
  framing := Framing.of
  fault? request framing :=
    match framing with
    | .declared _ => if request.isMethod "CONNECT" then some .declaredLength else none
    | _ => none
  head := replyHead
  body request framing frames :=
    if request.isMethod "CONNECT" || request.isMethod "HEAD" then [] else framing.encode frames
  reusable request framing := !request.isMethod "CONNECT" && framing != .untilClose
  refusal := refusalText

/-- The rules of the program. -/
abbrev Rules.standard : Rules where
  intake := .standard
  output := .standard

end TwinServers.Http
