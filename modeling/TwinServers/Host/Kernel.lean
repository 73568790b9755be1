import TwinServers.Host.Ports
import TwinServers.Log

/-!
# System calls

The calls that set up a listener, as actions on a kernel that keeps the ports in use, a plan of
failures to inject, the calls made so far and the log. A call that is planned to fail does nothing
else; any other call really runs, and may then fail of its own. Either way it is recorded with its
outcome, so the record tells every call in order.
-/

namespace TwinServers

/-- The kinds of calls that can be made to fail. -/
inductive CallKind
  | socket
  | setsockopt
  | nonblocking
  | bind
  | listen
  | register
  | getsockname
  | accept
  deriving DecidableEq, Repr

/-- The name of a kind of call. -/
def CallKind.text : CallKind → String
  | socket => "socket"
  | setsockopt => "setsockopt"
  | nonblocking => "nonblocking"
  | bind => "bind"
  | listen => "listen"
  | register => "register"
  | getsockname => "getsockname"
  | accept => "accept"

/-- All the kinds of calls. -/
def CallKind.all : List CallKind :=
  [socket, setsockopt, nonblocking, bind, listen, register, getsockname, accept]

/-- The outcomes planned for the coming calls of each kind: a failure, or `none` for a call that
really runs, as every call does after the end of the list. -/
structure FaultPlan where
  coming : CallKind → List (Option Errno) := fun _ => []

namespace FaultPlan

/-- The plan that lets every call run. -/
def none : FaultPlan := {}

/-- The failure planned for the next call of a kind, and the plan after it. -/
def next (plan : FaultPlan) (kind : CallKind) : Option Errno × FaultPlan :=
  match plan.coming kind with
  | [] => (Option.none, plan)
  | e :: rest => (e, ⟨fun k => if k = kind then rest else plan.coming k⟩)

end FaultPlan

/-- A system call. -/
inductive Call
  /-- Makes a stream socket of the family of IPv6 or IPv4. -/
  | socket (ipv6 : Bool)
  /-- Lets an IPv6 socket take IPv4 connections too. -/
  | dualStack
  | reuseAddress
  | nonblocking
  | bind (address : SocketAddress)
  | listen (backlog : Nat)
  /-- Makes the listener known to the event loop. -/
  | register
  | getsockname
  deriving DecidableEq

namespace Call

/-- The kind of a call. -/
def kind : Call → CallKind
  | socket _ => .socket
  | dualStack | reuseAddress => .setsockopt
  | nonblocking => .nonblocking
  | bind _ => .bind
  | listen _ => .listen
  | register => .register
  | getsockname => .getsockname

/-- The text of a call. -/
def text (style : AddressStyle) : Call → String
  | socket true => "socket inet6 stream tcp"
  | socket false => "socket inet stream tcp"
  | dualStack => "setsockopt ipv6_v6only 0"
  | reuseAddress => "setsockopt so_reuseaddr 1"
  | nonblocking => "nonblocking 1"
  | bind a => "bind " ++ style.server a
  | listen backlog => "listen " ++ toString backlog
  | register => "register"
  | getsockname => "getsockname"

end Call

/-- What came of a call. -/
inductive Outcome
  | done
  /-- It ran and failed. -/
  | failed (e : Errno)
  /-- It was made to fail. -/
  | injected (e : Errno)
  deriving DecidableEq, Repr

/-- A call that was made. -/
structure MadeCall where
  call : Call
  outcome : Outcome
  deriving DecidableEq

/-- The text of a call. Only a failure that was injected shows. -/
def MadeCall.text (style : AddressStyle) (c : MadeCall) : String :=
  match c.outcome with
  | .injected e => c.call.text style ++ " -> " ++ e.name
  | _ => c.call.text style

/-- What the actions of a program change. -/
structure Kernel where
  ports : Ports := {}
  faults : FaultPlan := {}
  /-- The calls made so far, oldest first. -/
  calls : List MadeCall := []
  log : Log := []

/-- An action on the kernel that gives a value or fails with an error. What it did before it failed
stays done. -/
abbrev Action (ε α : Type) := EStateM ε Kernel α

namespace Kernel

/-- Records an event. -/
def record {ε : Type} (e : Event) : Action ε Unit := fun k =>
  .ok () { k with log := k.log ++ [{ event := e }] }

/-- Gives an address back. -/
def release {ε : Type} (a : SocketAddress) : Action ε Unit := fun k =>
  .ok () { k with ports := k.ports.release a }

/-- The kernel after a call. -/
def afterCall (k : Kernel) (faults : FaultPlan) (c : Call) (outcome : Outcome) : Kernel :=
  { k with faults, calls := k.calls ++ [{ call := c, outcome }] }

/-- Makes a call that does `run` on the ports in use, unless it is planned to fail. -/
def perform {α : Type} (c : Call) (run : Ports → Except Errno (α × Ports)) : Action IoError α :=
  fun k =>
    match k.faults.next c.kind with
    | (some e, faults) => .error (.ofErrno e) (k.afterCall faults c (.injected e))
    | (none, faults) =>
      match run k.ports with
      | .error e => .error (.ofErrno e) (k.afterCall faults c (.failed e))
      | .ok (a, ports) => .ok a { k.afterCall faults c .done with ports }

/-- Makes a call that changes nothing about the ports in use. -/
def call (c : Call) : Action IoError Unit := perform c fun ports => .ok ((), ports)

/-- Makes a call that binds an address, and gives the address with its port. -/
def bind (net : Network) (a : SocketAddress) : Action IoError SocketAddress :=
  perform (.bind a) (Ports.bind net a)

/-- Does an action for the listener at `a`, and gives the address back if it fails. -/
def holding {ε α : Type} (a : SocketAddress) (action : Action ε α) : Action ε α :=
  tryCatch action fun e => do
    release a
    throw e

/-- An action whose error is told in other words. -/
def explaining {ε ε' α : Type} (f : ε → ε') (action : Action ε α) : Action ε' α :=
  EStateM.adaptExcept f action

end Kernel

end TwinServers
