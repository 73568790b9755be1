import TwinServers.Registry
import TwinServers.Server

/-!
# Named listeners

A bench of listeners under names: listeners, servers and pairs of servers are bound, dropped and
connected to, one step at a time, each step with a plan of failures of its own. A step can ask for
the port that a name was last bound to, whether it still is or not. Binding under a name in use
drops what was there, but only once the new one is bound. Every step answers with its result, the
system calls it made and what it logged. Whether the fresh ports that a failed step got and gave
back are the next ones to be handed out is up to the host.
-/

namespace TwinServers

/-- What a name stands for on a bench. -/
inductive Holding
  | listener (address : SocketAddress)
  | server (address : SocketAddress)
  | pair (pair : ServerPair)
  deriving DecidableEq

/-- The addresses that are bound. -/
def Holding.addresses : Holding → List SocketAddress
  | listener a | server a => [a]
  | pair p => [p.chunked.address, p.bulk.address]

/-- The ports in use on a host, what is held under names, and the ports that names were last bound
to. -/
structure Bench where
  ports : Ports := {}
  held : Registry Holding := {}
  lastPorts : Registry UInt16 := {}

namespace Bench

/-- One step on a bench. -/
inductive Op
  | listener (name : String) (address : SocketAddress) (portOf : Option String)
  | server (name : String) (address : SocketAddress) (portOf : Option String)
  | pair (name : String) (settings : Settings) (chunkedPortOf bulkPortOf : Option String)
  | drop (name : String)
  /-- A client connects to the listener's port at an address. -/
  | connect (name : String) (via : IpAddress)
  deriving DecidableEq

/-- What a step results in. -/
inductive Result
  | bound (address : SocketAddress)
  | boundPair (chunked bulk : SocketAddress)
  | dropped (wasBound : Bool)
  /-- The client's address as the listener sees it. -/
  | connected (client : IpAddress)
  | failed (e : StartError)
  | unreachable (e : IoError)
  | noListener
  deriving DecidableEq

/-- The answer to a step. -/
structure Answer where
  result : Result
  calls : List MadeCall := []
  log : Log := []

/-- The port to ask for in place of `port`: that of a name, or 0 if it was never bound. -/
def portFor (b : Bench) (port : UInt16) : Option String → UInt16
  | none => port
  | some name => (b.lastPorts.get? name).getD 0

/-- The names under which the ports of a holding are remembered. -/
def portNames (name : String) : Holding → List (String × UInt16)
  | .listener a | .server a => [(name, a.port)]
  | .pair p =>
    [(name ++ ".chunked", p.chunked.address.port), (name ++ ".bulk", p.bulk.address.port)]

/-- Gives back what is held under a name. -/
def releaseName (b : Bench) (name : String) : Ports :=
  ((b.held.get? name).elim [] Holding.addresses).foldl (fun t a => t.release a) b.ports

/-- Holds something new under a name, in place of what was there. -/
def hold (b : Bench) (name : String) (h : Holding) : Bench where
  ports := b.releaseName name
  held := b.held.insert name h
  lastPorts := (portNames name h).foldl (fun r (n, port) => r.insert n port) b.lastPorts

/-- The ports in use after an attempt that failed and has left those in `left`. -/
def portsAfterFailure (net : Network) (b : Bench) (left : Ports) : Ports :=
  { left with handedOut := if net.reissues then b.ports.handedOut else left.handedOut }

/-- Binds something and holds it under a name. -/
def bindAs {ε α : Type} (net : Network) (b : Bench) (faults : FaultPlan) (name : String)
    (action : Action ε α) (holding : α → Holding) (result : α → Result)
    (failure : ε → StartError) : Answer × Bench :=
  match action.run { ports := b.ports, faults } with
  | .ok a k =>
    ({ result := result a, calls := k.calls, log := k.log },
      { b with ports := k.ports }.hold name (holding a))
  | .error e k =>
    ({ result := .failed (failure e), calls := k.calls, log := k.log },
      { b with ports := b.portsAfterFailure net k.ports })

/-- A client's connection to a named listener. A server takes no connections of this kind. -/
def connect (net : Network) (b : Bench) (name : String) (via : IpAddress) : Result :=
  match b.held.get? name with
  | some (.listener a) =>
    match b.ports.connect net via a.port with
    | .ok (_, client) => .connected client
    | .error e => .unreachable (.ofErrno e)
  | _ => .noListener

/-- One step: its answer, and the bench after it. -/
def step (net : Network) (b : Bench) (faults : FaultPlan) : Op → Answer × Bench
  | .listener name a portOf =>
    b.bindAs net faults name (Listener.listenOn net (a.withPort (b.portFor a.port portOf)))
      .listener .bound .server
  | .server name a portOf =>
    b.bindAs net faults name (Server.acquire net (a.withPort (b.portFor a.port portOf)))
      .server .bound .server
  | .pair name s chunkedPortOf bulkPortOf =>
    let s := { s with
      chunkedPort := b.portFor s.chunkedPort chunkedPortOf
      bulkPort := b.portFor s.bulkPort bulkPortOf }
    b.bindAs net faults name (ServerPair.bind net s)
      .pair (fun p => .boundPair p.chunked.address p.bulk.address) id
  | .drop name =>
    ({ result := .dropped (b.held.contains name) },
      { b with ports := b.releaseName name, held := b.held.erase name })
  | .connect name via => ({ result := b.connect net name via }, b)

/-- The answers to a list of steps. -/
def run (net : Network) (b : Bench) : List (FaultPlan × Op) → List Answer
  | [] => []
  | (faults, op) :: ops => (b.step net faults op).1 :: (b.step net faults op).2.run net ops

/-- The bench after a list of steps. -/
def after (net : Network) (b : Bench) (ops : List (FaultPlan × Op)) : Bench :=
  ops.foldl (fun b (faults, op) => (b.step net faults op).2) b

end Bench

end TwinServers
