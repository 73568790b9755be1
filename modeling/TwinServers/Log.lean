import TwinServers.Error
import TwinServers.Response

/-!
# The log

What the servers record, as events with the spans they happen in. `Event.level`, `Event.message` and
`Event.fields` say how an event is written; `Entry.line` is the one-line form of the program's
output. How an address is written is up to an `AddressStyle`, since a reader of the log may want
names for ports. The port of a client is of no consequence and is not kept.
-/

namespace TwinServers

/-- How much an event matters. -/
inductive Level
  | debug
  | info
  | warn
  deriving DecidableEq, Repr

/-- The name of a level. -/
def Level.text : Level → String
  | .debug => "DEBUG"
  | .info => "INFO"
  | .warn => "WARN"

/-- The value of a field. -/
inductive Value
  | number (n : Nat)
  | text (s : String)
  deriving DecidableEq, Repr

/-- The value as it stands in a line. -/
def Value.chars : Value → String
  | .number n => toString n
  | .text s => s

/-- How the addresses in a log are written. -/
structure AddressStyle where
  /-- A server's own address. -/
  server : SocketAddress → String := SocketAddress.text
  /-- The address of a client. -/
  client : IpAddress → String

/-- What can happen to a server. -/
inductive Event
  /-- The payload is ready: the length of a unit, the number of units and the length of a body. -/
  | builtPayload (unit writes body : Nat)
  /-- Both servers are bound. -/
  | boundListeners (chunked bulk : SocketAddress)
  /-- A server begins to accept. -/
  | acceptingRequests
  /-- There is no IPv6 socket to listen with, for this reason. -/
  | ipv4Only (error : IoError)
  /-- Accepting failed, so many times in a row; the next attempt comes after the pause. -/
  | acceptFailed (error : ServerError) (failures : UInt32) (pause : Nat)
  /-- A client has connected. -/
  | acceptedConnection (client : IpAddress)
  /-- A connection ended before its time. -/
  | connectionFailed (fault : Http.Fault)
  deriving DecidableEq

namespace Event

/-- The level of an event. Of a streak of accept failures only the first is a warning. -/
def level : Event → Level
  | .builtPayload .. | .boundListeners .. | .acceptingRequests => .info
  | .acceptFailed _ failures _ => if failures = 1 then .warn else .debug
  | .ipv4Only _ | .acceptedConnection _ | .connectionFailed _ => .debug

/-- The message of an event. -/
def message : Event → String
  | .builtPayload .. => "Built payloads."
  | .boundListeners .. => "Bound listeners."
  | .acceptingRequests => "Accepting requests."
  | .ipv4Only _ => "No IPv6 socket, listening on IPv4 only"
  | .acceptFailed .. => "Accept failed"
  | .acceptedConnection _ => "Accepted connection"
  | .connectionFailed _ => "Connection closed with error"

/-- The fields of an event besides its message, in order. -/
def fields (style : AddressStyle) : Event → List (String × Value)
  | .builtPayload unit writes body =>
    [("chunk", .number unit), ("writes", .number writes), ("body", .number body)]
  | .boundListeners chunked bulk =>
    [("chunked", .text (style.server chunked)), ("bulk", .text (style.server bulk))]
  | .acceptingRequests => []
  | .ipv4Only e => [("error", .text e.text)]
  | .acceptFailed e failures pause =>
    ("error", .text (e.messageWith style.server)) ::
      (if failures = 1 then [] else [("failures", .number failures.toNat)]) ++
      [("backoff", .text (Backoff.text pause))]
  | .acceptedConnection client => [("peer", .text (style.client client))]
  | .connectionFailed fault => [("error", .text fault.message)]

/-- The part of the program that records the event. -/
def source : Event → String
  | .ipv4Only _ => "payload_servers::listener"
  | _ => "payload_servers::server"

end Event

/-- A stretch of work that events happen in. -/
inductive Span
  | server (delivery : Delivery) (address : SocketAddress)
  | connection (client : IpAddress)
  deriving DecidableEq

namespace Span

/-- The name of a span. -/
def name : Span → String
  | .server .. => "server"
  | .connection _ => "connection"

/-- The fields of a span, in order. -/
def fields (style : AddressStyle) : Span → List (String × String)
  | .server delivery address => [("strategy", delivery.text), ("addr", style.server address)]
  | .connection client => [("peer", style.client client)]

end Span

/-- An event with the spans around it, from the outside in. -/
structure Entry where
  event : Event
  spans : List Span := []
  deriving DecidableEq

/-- A log, oldest entry first. -/
abbrev Log := List Entry

namespace Entry

/-- `name=value`. -/
def assignment (name value : String) : String := name ++ "=" ++ value

/-- A span with its fields in braces. -/
def spanText (style : AddressStyle) (s : Span) : String :=
  s.name ++ "\x7b" ++ " ".intercalate ((s.fields style).map fun (n, v) => assignment n v) ++ "\x7d"

/-- The line of an entry: level, spans, source, message and fields. -/
def line (style : AddressStyle) (e : Entry) : String :=
  let spans := e.spans.map (spanText style)
  let context := if spans.isEmpty then "" else ":".intercalate spans ++ ": "
  let fields := (e.event.fields style).map fun (n, v) => assignment n v.chars
  e.event.level.text ++ " " ++ context ++ e.event.source ++ ": " ++
    " ".intercalate (e.event.message :: fields)

end Entry

end TwinServers
