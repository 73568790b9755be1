import TwinServers.AcceptLoop
import TwinServers.Http.Reply

/-!
# The program

The program starts both servers with the standard settings and lets them run. If it cannot start,
it prints a report and ends with exit code 1; otherwise it answers its visitors, one after the
other, until it is killed. The attempts to accept a visitor fail as planned, and the server waits
and tries again.
-/

namespace TwinServers

/-- Someone who connects to a port at an address and sends something. -/
structure Visit where
  port : UInt16
  via : IpAddress
  send : Bytes
  deriving DecidableEq

/-- What can be seen of the program from outside. -/
structure Program where
  log : Log
  /-- The error that it ended with, if it could not start. -/
  ended : Option StartError
  /-- What the visitors received. -/
  responses : List Bytes

namespace Program

/-- The exit code of a program that could not start. -/
def failureCode : Nat := 1

/-- The error text of a program that could not start. -/
def report : StartError → String
  | .size e => e.message
  | .server e => e.report

/-- The exit code, once the program has ended by itself. -/
def exitCode? (p : Program) : Option Nat := p.ended.map fun _ => failureCode

/-- The servers, with where each stands in accepting connections. -/
structure Running where
  net : Network
  ports : Ports
  pair : ServerPair
  faults : FaultPlan
  date : Bytes
  loops : Delivery → AcceptLoop := fun _ => {}

/-- The failures that a plan puts before the next attempt that runs, and the plan after that
attempt. -/
def failuresBefore : List (Option Errno) → List Accept × List (Option Errno)
  | [] => ([], [])
  | none :: plan => ([], plan)
  | some e :: plan =>
    let (rest, plan) := failuresBefore plan
    (.failure (.ofErrno e) :: rest, plan)

/-- The attempts that a client brings about, and the plan after them: those up to the one that
accepts it, and at once more of them, up to the one that finds no one else waiting. -/
def attempts (client : IpAddress) (plan : List (Option Errno)) :
    List Accept × List (Option Errno) :=
  let (before, plan) := failuresBefore plan
  let (after, plan) := failuresBefore plan
  (before ++ .client client :: after, plan)

/-- Goes through attempts to accept: what is logged, and where the server stands after them. -/
def acceptAll (server : Server) (s : AcceptLoop) : List Accept → Log × AcceptLoop
  | [] => ([], s)
  | a :: rest =>
    let (event, s) := s.step server.address a
    let (log, s) := acceptAll server s rest
    (server.entry event :: log, s)

/-- The server that listens at an address. -/
def serverAt (p : ServerPair) (a : SocketAddress) : Delivery :=
  if a = p.chunked.address then .chunked else .bulk

/-- One visit: what the visitor receives, what is logged, and the servers after it. -/
def visit (r : Running) (v : Visit) : Except IoError (Bytes × Log × Running) :=
  match r.ports.connect r.net v.via v.port with
  | .error e => .error (.ofErrno e)
  | .ok (a, client) =>
    let d := serverAt r.pair a
    let server := r.pair.server d
    let (tries, plan) := attempts client (r.faults.coming .accept)
    let (accepted, loop) := acceptAll server (r.loops d) tries
    let connection : Http.Connection Http.Rules.standard.intake := {}
    let (served, ended) := server.serve r.date client (connection.receive v.send false)
    let faults := { coming := fun k => if k = .accept then plan else r.faults.coming k }
    .ok (served.wire, accepted ++ ended,
      { r with faults, loops := fun d' => if d' = d then loop else r.loops d' })

/-- All the visits in turn, up to the first visitor who cannot connect. -/
def visits (r : Running) : List Visit → Except IoError (List Bytes × Log)
  | [] => .ok ([], [])
  | v :: rest => do
    let (response, log, r) ← visit r v
    let (responses, later) ← visits r rest
    return (response :: responses, log ++ later)

/-- Runs the program on a host where some ports are in use, under a plan of failures. -/
def run (net : Network) (inUse : Ports) (faults : FaultPlan) (date : Bytes)
    (visitors : List Visit) : Except IoError Program :=
  match (ServerPair.start net {}).run { ports := inUse, faults } with
  | .error e k => .ok { log := k.log, ended := some e, responses := [] }
  | .ok pair k => do
    let (responses, log) ←
      visits { net, ports := k.ports, pair, faults := k.faults, date } visitors
    return { log := k.log ++ log, ended := none, responses }

/-- The lines that the program prints: what it logs, short of the least level. -/
def lines (p : Program) : List String :=
  (p.log.filter fun e => e.event.level != .debug).map (Entry.line { client := IpAddress.text })

end Program

end TwinServers
