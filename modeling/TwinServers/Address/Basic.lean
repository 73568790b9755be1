/-!
# Internet addresses

IPv4 and IPv6 addresses, and socket addresses with a port. An IPv6 address that stands for an IPv4
one is told apart from it here, since it belongs to the other family of sockets; `IpAddress.site`
is the address both mean.
-/

namespace TwinServers

/-- An IPv4 address. -/
structure Ipv4 where
  a : UInt8
  b : UInt8
  c : UInt8
  d : UInt8
  deriving DecidableEq, Repr

/-- An IPv6 address: eight groups of sixteen bits. -/
structure Ipv6 where
  groups : List UInt16
  length_groups : groups.length = 8 := by decide
  deriving DecidableEq

/-- An address of either family. -/
inductive IpAddress
  | v4 (ip : Ipv4)
  | v6 (ip : Ipv6)
  deriving DecidableEq

/-- The end of a connection: an address and a port, and for IPv6 the scope that the address is
meant in, zero when there is none. -/
inductive SocketAddress
  | v4 (ip : Ipv4) (port : UInt16)
  | v6 (ip : Ipv6) (port : UInt16) (scope : UInt32)
  deriving DecidableEq

namespace Ipv4

/-- The wildcard `0.0.0.0`. -/
def unspecified : Ipv4 := ⟨0, 0, 0, 0⟩

/-- The loopback address `127.0.0.1`. -/
def localhost : Ipv4 := ⟨127, 0, 0, 1⟩

/-- Whether the address lies in `127.0.0.0/8`. -/
def isLoopback (ip : Ipv4) : Bool := ip.a == 127

/-- The two groups that hold the address at the end of an IPv6 address. -/
def groups (ip : Ipv4) : List UInt16 :=
  [ip.a.toUInt16 <<< 8 ||| ip.b.toUInt16, ip.c.toUInt16 <<< 8 ||| ip.d.toUInt16]

/-- The address held by two groups. -/
def ofGroups (hi lo : UInt16) : Ipv4 :=
  ⟨(hi >>> 8).toUInt8, hi.toUInt8, (lo >>> 8).toUInt8, lo.toUInt8⟩

end Ipv4

namespace Ipv6

/-- The wildcard `::`. -/
def unspecified : Ipv6 := ⟨[0, 0, 0, 0, 0, 0, 0, 0], rfl⟩

/-- The loopback address `::1`. -/
def localhost : Ipv6 := ⟨[0, 0, 0, 0, 0, 0, 0, 1], rfl⟩

/-- The groups that an address begins with when it stands for an IPv4 address. -/
def mappedLead : List UInt16 := [0, 0, 0, 0, 0, 0xffff]

/-- The IPv4 address that an address of the form `::ffff:a.b.c.d` stands for. -/
def mapped? (ip : Ipv6) : Option Ipv4 :=
  match ip.groups with
  | [a, b, c, d, e, f, hi, lo] =>
    if [a, b, c, d, e, f] = mappedLead then some (.ofGroups hi lo) else none
  | _ => none

/-- The address `::ffff:a.b.c.d`. -/
def ofIpv4 (ip : Ipv4) : Ipv6 := ⟨mappedLead ++ ip.groups, rfl⟩

end Ipv6

namespace IpAddress

/-- The IPv4 wildcard. -/
def anyIpv4 : IpAddress := .v4 .unspecified

/-- The IPv6 wildcard, which covers both families. -/
def any : IpAddress := .v6 .unspecified

/-- The address that is meant: a mapped one means the IPv4 address in it. -/
def site : IpAddress → IpAddress
  | .v4 ip => .v4 ip
  | .v6 ip => ip.mapped?.elim (.v6 ip) .v4

end IpAddress

namespace SocketAddress

/-- An address with a port, in no particular scope. -/
def ofIp : IpAddress → UInt16 → SocketAddress
  | .v4 ip, port => .v4 ip port
  | .v6 ip, port => .v6 ip port 0

/-- The address without its port and scope. -/
def ip : SocketAddress → IpAddress
  | .v4 ip _ => .v4 ip
  | .v6 ip _ _ => .v6 ip

/-- The port. Port 0 asks for a fresh one. -/
def port : SocketAddress → UInt16
  | .v4 _ port => port
  | .v6 _ port _ => port

/-- The same address with another port. -/
def withPort : SocketAddress → UInt16 → SocketAddress
  | .v4 ip _, port => .v4 ip port
  | .v6 ip _ scope, port => .v6 ip port scope

/-- Whether the address needs an IPv6 socket. -/
def isIpv6 : SocketAddress → Bool
  | .v4 .. => false
  | .v6 .. => true

@[simp] theorem ip_ofIp (ip : IpAddress) (port : UInt16) : (ofIp ip port).ip = ip := by
  cases ip <;> rfl

@[simp] theorem port_ofIp (ip : IpAddress) (port : UInt16) : (ofIp ip port).port = port := by
  cases ip <;> rfl

@[simp] theorem ip_withPort (a : SocketAddress) (port : UInt16) : (a.withPort port).ip = a.ip := by
  cases a <;> rfl

@[simp] theorem port_withPort (a : SocketAddress) (port : UInt16) :
    (a.withPort port).port = port := by
  cases a <;> rfl

@[simp] theorem withPort_port (a : SocketAddress) : a.withPort a.port = a := by
  cases a <;> rfl

end SocketAddress

end TwinServers
