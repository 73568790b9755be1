import TwinServers.Address.Basic
import TwinServers.Errno

/-!
# The network of a host

What a host knows of the addresses around it: which of them are its own, so that a listener can be
bound to them, and which of them a client on it can reach. `Network.loopback` is a host whose
loopback interface is up; on `Network.isolated` it is down, and no connection can be made at all.
Either hands out again, as the next ones, the fresh ports that came to nothing.

`Ports` are the addresses that listeners of a host are bound to. An address can be bound if it is
one of the host's own and clashes with none in use; port 0 asks for a fresh port, which is taken
from the ephemeral range, after the one handed out last.
-/

namespace TwinServers

/-- Whether a listener bound to the first address takes what is sent to the second. A wildcard
covers its own family, and the IPv6 wildcard covers both. -/
def IpAddress.covers (a b : IpAddress) : Bool :=
  a.site == b.site || a.site == .any ||
    (a.site == .anyIpv4 && match b.site with | .v4 _ => true | .v6 _ => false)

/-- Whether two addresses cannot have the same port at the same time. -/
def IpAddress.clashes (a b : IpAddress) : Bool := a.covers b || b.covers a

/-- Whether two listeners cannot be bound at the same time. -/
def SocketAddress.clashes (a b : SocketAddress) : Bool := a.port == b.port && a.ip.clashes b.ip

/-- The addresses of a host and its routes. -/
structure Network where
  /-- Whether a listener can be bound to the address. -/
  assigned : IpAddress → Bool
  /-- Why a connection to the address fails before it meets a listener, if it does. -/
  refusal : IpAddress → Option Errno
  /-- Whether the fresh ports of an attempt to bind that failed are the next to be handed out. -/
  reissues : Bool

namespace Network

/-- A host that reaches itself in both families. -/
def loopback : Network where
  assigned a :=
    match a.site with
    | .v4 ip => ip == .unspecified || ip.isLoopback
    | .v6 ip => ip == .unspecified || ip == .localhost
  refusal a :=
    match a.site with
    | .v4 ip => if ip.isLoopback then none else some .networkUnreachable
    | .v6 ip => if ip = .localhost then none else some .networkUnreachable
  reissues := true

/-- A host whose loopback interface is down. Its IPv4 addresses and wildcards can still be bound;
the IPv6 loopback address is gone. -/
def isolated : Network where
  assigned a :=
    match a.site with
    | .v4 ip => ip == .unspecified || ip.isLoopback
    | .v6 ip => ip == .unspecified
  refusal a :=
    if a.site = .v6 .localhost then some .addressUnavailable else some .networkUnreachable
  reissues := true

/-- The address that a client reaches: a wildcard stands for the loopback address of its family. -/
def reached (destination : IpAddress) : IpAddress :=
  match destination.site with
  | .v4 ip => if ip = .unspecified then .v4 .localhost else .v4 ip
  | .v6 ip => if ip = .unspecified then .v6 .localhost else .v6 ip

/-- The client's own address in a connection that the host makes to itself. -/
def clientOf (destination : IpAddress) : IpAddress :=
  match destination with
  | .v4 _ => .v4 .localhost
  | .v6 ip => .v6 ip

/-- How a listener sees the address of a client: in an IPv6 socket an IPv4 address is mapped. -/
def seenBy (listener : SocketAddress) (client : IpAddress) : IpAddress :=
  match listener, client with
  | .v6 .., .v4 ip => .v6 (.ofIpv4 ip)
  | _, client => client

end Network

theorem IpAddress.covers_self (a : IpAddress) : a.covers a = true := by
  simp [IpAddress.covers]

theorem IpAddress.clashes_comm (a b : IpAddress) : a.clashes b = b.clashes a := by
  simp [IpAddress.clashes, Bool.or_comm]

theorem SocketAddress.clashes_comm (a b : SocketAddress) : a.clashes b = b.clashes a := by
  rw [SocketAddress.clashes, SocketAddress.clashes, IpAddress.clashes_comm,
    BEq.comm (a := a.port)]

/-! ## Ports in use -/

/-- The addresses in use, the newest first, and the number of fresh ports handed out so far. -/
structure Ports where
  bound : List SocketAddress := []
  handedOut : Nat := 0
  deriving DecidableEq

namespace Ports

/-- The first ephemeral port. -/
def firstEphemeral : Nat := 32768

/-- The number of ephemeral ports. -/
def ephemeralCount : Nat := 28232

/-- The `i`th ephemeral port, starting over after the last. -/
def ephemeral (i : Nat) : UInt16 := (firstEphemeral + i % ephemeralCount).toUInt16

/-- Whether nothing in use clashes with the address. -/
def isFree (t : Ports) (a : SocketAddress) : Bool := !t.bound.any a.clashes

/-- The address with the first fresh port that leaves it free, and how many ports have then been
handed out. -/
def fresh? (t : Ports) (a : SocketAddress) : Option (SocketAddress × Nat) :=
  (List.range ephemeralCount).findSome? fun i =>
    let candidate := a.withPort (ephemeral (t.handedOut + i))
    if t.isFree candidate then some (candidate, t.handedOut + i + 1) else none

/-- Binds an address. The result has a port, whether one was asked for or not. -/
def bind (net : Network) (a : SocketAddress) (t : Ports) : Except Errno (SocketAddress × Ports) :=
  if net.assigned a.ip = false then
    .error .addressUnavailable
  else if a.port = 0 then
    match t.fresh? a with
    | some (b, handedOut) => .ok (b, { bound := b :: t.bound, handedOut })
    | none => .error .addressInUse
  else if t.isFree a then
    .ok (a, { t with bound := a :: t.bound })
  else
    .error .addressInUse

/-- Gives an address back. -/
def release (a : SocketAddress) (t : Ports) : Ports := { t with bound := t.bound.erase a }

/-- The listener that a connection to the address and port reaches. -/
def listener? (t : Ports) (destination : IpAddress) (port : UInt16) : Option SocketAddress :=
  t.bound.find? fun a => a.port == port && a.ip.covers destination

/-- Connects to an address and port: the listener that is reached, and the client as it sees it. -/
def connect (net : Network) (t : Ports) (destination : IpAddress) (port : UInt16) :
    Except Errno (SocketAddress × IpAddress) :=
  let destination := Network.reached destination
  match net.refusal destination with
  | some e => .error e
  | none =>
    match t.listener? destination port with
    | some a => .ok (a, Network.seenBy a (Network.clientOf destination))
    | none => .error .connectionRefused

end Ports

end TwinServers
