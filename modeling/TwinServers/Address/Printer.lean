import TwinServers.Address.Basic

/-!
# Addresses as text

IPv4 addresses in dotted form; IPv6 addresses in lower case, with the first of the longest blocks of
zero groups left out when it has at least two of them, and in mixed form only for mapped addresses.
An IPv6 socket address stands in brackets, with its scope before the closing one. The port is
written by a function of the caller's choice, since a log may name ports rather than number them.
-/

namespace TwinServers

/-- A number in decimal digits. -/
def decimal (n : Nat) : List Char := Nat.toDigits 10 n

namespace Ipv4

/-- The dotted form. -/
def chars (ip : Ipv4) : List Char :=
  decimal ip.a.toNat ++ '.' :: decimal ip.b.toNat ++ '.' :: decimal ip.c.toNat ++
    '.' :: decimal ip.d.toNat

end Ipv4

namespace Ipv6

/-- A group in lower-case hexadecimal digits, without leading zeros. -/
def groupChars (g : UInt16) : List Char := Nat.toDigits 16 g.toNat

/-- Groups with a colon between them. -/
def joinGroups : List UInt16 → List Char
  | [] => []
  | [g] => groupChars g
  | g :: gs => groupChars g ++ ':' :: joinGroups gs

/-- The length of the block of zero groups that a list begins with. -/
def leadingZeros (gs : List UInt16) : Nat := (gs.takeWhile (· == 0)).length

/-- Where the first of the longest blocks of zero groups begins, and its length. -/
def longestZeros : List UInt16 → Nat × Nat
  | [] => (0, 0)
  | g :: gs =>
    let here := leadingZeros (g :: gs)
    let (start, length) := longestZeros gs
    if length ≤ here then (0, here) else (start + 1, length)

/-- The text of an address. -/
def chars (ip : Ipv6) : List Char :=
  match ip.mapped? with
  | some v4 => "::ffff:".toList ++ v4.chars
  | none =>
    let (start, length) := longestZeros ip.groups
    if 1 < length then
      joinGroups (ip.groups.take start) ++
        ':' :: ':' :: joinGroups (ip.groups.drop (start + length))
    else
      joinGroups ip.groups

end Ipv6

namespace IpAddress

/-- The text of an address. -/
def chars : IpAddress → List Char
  | .v4 ip => ip.chars
  | .v6 ip => ip.chars

/-- The text of an address. -/
def text (ip : IpAddress) : String := String.ofList ip.chars

end IpAddress

namespace SocketAddress

/-- The part of the text before the colon and the port. -/
def hostChars : SocketAddress → List Char
  | .v4 ip _ => ip.chars
  | .v6 ip _ scope =>
    '[' :: ip.chars ++ (if scope = 0 then [] else '%' :: decimal scope.toNat) ++ [']']

/-- The text of an address whose port is written as `port` does. -/
def textWith (port : UInt16 → List Char) (a : SocketAddress) : String :=
  String.ofList (a.hostChars ++ ':' :: port a.port)

/-- The text of an address, with the port in decimal digits. -/
def text : SocketAddress → String := textWith fun port => decimal port.toNat

end SocketAddress

end TwinServers
