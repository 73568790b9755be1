import TwinServers.Server

/-!
# Accepting connections

A server accepts one connection after another. A failure is logged and followed by a pause that
grows with the streak of failures; a connection ends the streak. `AcceptLoop.run` tells what is
logged, and when, on a clock on which only the pauses take time.
-/

namespace TwinServers

/-- What an attempt to accept comes to. -/
inductive Accept
  | client (address : IpAddress)
  | failure (e : IoError)
  deriving DecidableEq

/-- Where a server stands in accepting connections. -/
structure AcceptLoop where
  /-- Failures since the last connection. -/
  failures : UInt32 := 0
  /-- Milliseconds since the start. -/
  clock : Nat := 0
  deriving DecidableEq, Repr

/-- A log entry with the time it was made at, in milliseconds. -/
structure TimedEntry where
  time : Nat
  entry : Entry
  deriving DecidableEq

namespace AcceptLoop

/-- What an attempt to accept at an address is logged as, and where the server stands when it makes
the next one. -/
def step (address : SocketAddress) (s : AcceptLoop) : Accept → Event × AcceptLoop
  | .client a => (.acceptedConnection a, { s with failures := 0 })
  | .failure e =>
    let failures := Backoff.countFailure s.failures
    let pause := Backoff.pause failures
    (.acceptFailed (.accept address e) failures pause,
      { failures, clock := s.clock + pause })

/-- The events of a script of attempts, each with its time. -/
def events (address : SocketAddress) (s : AcceptLoop) : List Accept → List (Nat × Event)
  | [] => []
  | a :: script => (s.clock, (s.step address a).1) :: events address (s.step address a).2 script

/-- The log of a server that accepts as a script says. -/
def run (delivery : Delivery) (address : SocketAddress) (script : List Accept) : List TimedEntry :=
  ((0, .acceptingRequests) :: events address {} script).map fun (time, event) =>
    { time, entry := { event, spans := [.server delivery address] } }

/-- Why a trial cannot be made. -/
inductive TrialError
  | server (e : ServerError)
  /-- The client of the trial cannot connect. -/
  | client (e : IoError)
  deriving DecidableEq

/-- A trial of a server on the IPv4 loopback address: a client connects, and from then on the server
accepts as the script says. -/
def trial (net : Network) (delivery : Delivery) (script : List (Option Errno)) :
    Except TrialError (List TimedEntry) :=
  match (Server.acquire net (.v4 .localhost 0)).run {} with
  | .error e _ => .error (.server e)
  | .ok address k =>
    match k.ports.connect net (.v4 .localhost) address.port with
    | .error e => .error (.client (.ofErrno e))
    | .ok (_, client) =>
      .ok (run delivery address
        (script.map fun e => e.elim (.client client) fun e => .failure (.ofErrno e)))

end AcceptLoop

end TwinServers
