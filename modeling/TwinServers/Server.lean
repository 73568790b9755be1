import TwinServers.Http.Connection
import TwinServers.Listener

/-!
# The two servers

A server is a listener with a handler; where the two of them listen and what they send is up to the
`Settings`. `ServerPair.bind` prepares one payload for both and binds the chunked server, then the
bulk server; if the second cannot be bound, the first is given up. `ServerPair.start` is the start
of the whole program, up to the point where both accept. From then on `Server.serve` serves the
connection of a client as far as what has arrived allows.
-/

namespace TwinServers

open Kernel

/-- The settings of the two servers. Nothing sets them but the program itself; the standard settings
listen on every interface of both families. -/
structure Settings where
  /-- The address both servers listen on. -/
  host : IpAddress := .any
  chunkedPort : UInt16 := 9000
  bulkPort : UInt16 := 9001
  /-- Template copies in a unit. -/
  copies : UInt64 := 300
  /-- Units in a body. -/
  units : UInt64 := 10
  /-- Whether every response declares its length. -/
  declares : Bool := false
  deriving DecidableEq

namespace Settings

/-- Where the chunked server listens. -/
def chunkedAddress (s : Settings) : SocketAddress := .ofIp s.host s.chunkedPort

/-- Where the bulk server listens. -/
def bulkAddress (s : Settings) : SocketAddress := .ofIp s.host s.bulkPort

/-- The payload of the standard template and closing line, in the sizes of the settings. -/
def payload (s : Settings) : Except SizeError Payload :=
  Payload.build Payload.standardTemplate Payload.standardClosing s.copies s.units

end Settings

/-! ## One server -/

/-- A bound listener with the handler that answers on it. -/
structure Server where
  address : SocketAddress
  handler : Handler
  deriving DecidableEq

namespace Server

/-- Binds a listener and asks for the address it got. -/
def acquire (net : Network) (a : SocketAddress) : Action ServerError SocketAddress :=
  explaining (.bind a) do
    let bound ← Listener.openAt net a
    holding bound (call .getsockname)
    return bound

/-- Binds a server. -/
def bind (net : Network) (a : SocketAddress) (handler : Handler) : Action ServerError Server := do
  let address ← acquire net a
  return { address, handler }

/-- The span of what happens to a server. -/
def span (s : Server) : Span := .server s.handler.delivery s.address

/-- The entry for an event of a server. -/
def entry (s : Server) (e : Event) : Entry := { event := e, spans := [s.span] }

/-- Serves a connection: what comes of it, and what is logged if it ended before its time. -/
def serve {rules : Http.Rules} (s : Server) (date : Bytes) (client : IpAddress)
    (c : Http.Connection rules.intake) : Http.Served rules.intake × Log :=
  let served := c.serve date s.handler
  (served, served.fault.toList.map fun f =>
    { event := .connectionFailed f, spans := [s.span, .connection client] })

end Server

/-! ## Both servers -/

/-- Why the servers cannot start. -/
inductive StartError
  | size (e : SizeError)
  | server (e : ServerError)
  deriving DecidableEq

/-- The chunked and the bulk server. -/
structure ServerPair where
  chunked : Server
  bulk : Server
  deriving DecidableEq

namespace ServerPair

/-- The server of a delivery. -/
def server (p : ServerPair) : Delivery → Server
  | .chunked => p.chunked
  | .bulk => p.bulk

/-- Binds a handler of each delivery for a payload, the chunked one first. -/
def bindHandlers (net : Network) (payload : Payload) (declares : Bool)
    (chunkedAddress bulkAddress : SocketAddress) : Action ServerError ServerPair := do
  let chunked ← Server.bind net chunkedAddress { delivery := .chunked, payload, declares }
  let bulk ← holding chunked.address
    (Server.bind net bulkAddress { delivery := .bulk, payload, declares })
  return { chunked, bulk }

/-- The event that tells the sizes of a payload. -/
def sizes (p : Payload) : Event := .builtPayload p.unit.length p.units.toNat p.bodyLength

/-- Builds the payload of the settings and binds both servers to it. -/
def bind (net : Network) (s : Settings) : Action StartError ServerPair := do
  match s.payload with
  | .error e => throw (.size e)
  | .ok payload =>
    record (sizes payload)
    explaining .server (bindHandlers net payload s.declares s.chunkedAddress s.bulkAddress)

/-- Both servers begin to accept, the chunked one first. -/
def accepting (p : ServerPair) : Log :=
  [p.chunked.entry .acceptingRequests, p.bulk.entry .acceptingRequests]

/-- Starts the program: binds both servers, tells their addresses and begins to accept. -/
def start (net : Network) (s : Settings) : Action StartError ServerPair := do
  let pair ← bind net s
  record (.boundListeners pair.chunked.address pair.bulk.address)
  modify fun k => { k with log := k.log ++ pair.accepting }
  return pair

end ServerPair

end TwinServers
