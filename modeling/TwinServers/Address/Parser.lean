import TwinServers.Address.Basic

/-!
# Reading addresses

Each reader takes the longest start of the text that it can use and hands back the rest. The parts
of an IPv4 address have at most three digits and no leading zeros, the groups of an IPv6 address at
most four digits; the last two groups may be written as an IPv4 address; `::` stands for at least
one group. A port or a scope may have any number of leading zeros. `IpAddress.parse` and
`SocketAddress.parse` accept a text only as a whole.
-/

namespace TwinServers

/-- How a number may be written where it stands. -/
structure Numeral where
  radix : Nat
  maxDigits : Option Nat
  leadingZeros : Bool
  limit : Nat

namespace Numeral

/-- A part of an IPv4 address. -/
def octet : Numeral := ⟨10, some 3, false, UInt8.size⟩

/-- A group of an IPv6 address. -/
def group : Numeral := ⟨16, some 4, true, UInt16.size⟩

/-- A port. -/
def port : Numeral := ⟨10, none, true, UInt16.size⟩

/-- A scope. -/
def scope : Numeral := ⟨10, none, true, UInt32.size⟩

/-- The value of a hexadecimal digit of either case, and 16 for any other character. -/
def digitValue (c : Char) : Nat :=
  if '0' ≤ c ∧ c ≤ '9' then c.toNat - '0'.toNat
  else if 'a' ≤ c ∧ c ≤ 'f' then c.toNat - 'a'.toNat + 10
  else if 'A' ≤ c ∧ c ≤ 'F' then c.toNat - 'A'.toNat + 10
  else 16

/-- Whether a character is a digit of the numeral. -/
def isDigit (form : Numeral) (c : Char) : Bool := decide (digitValue c < form.radix)

/-- The number that a row of digits stands for. -/
def value (form : Numeral) (digits : List Char) : Nat :=
  digits.foldl (fun n c => n * form.radix + digitValue c) 0

/-- Whether a row of digits is written as the numeral allows and stays below its limit. -/
def admits (form : Numeral) (digits : List Char) : Bool :=
  !digits.isEmpty && form.maxDigits.all (digits.length ≤ ·) &&
    (form.leadingZeros || digits.head? != some '0' || digits.length == 1) &&
    form.value digits < form.limit

/-- Reads a number. All the digits there are belong to it. -/
def read? (form : Numeral) (s : List Char) : Option (Nat × List Char) :=
  let digits := s.takeWhile form.isDigit
  if form.admits digits then some (form.value digits, s.dropWhile form.isDigit) else none

end Numeral

/-- Reads the given character. -/
def readChar? (c : Char) : List Char → Option (List Char)
  | [] => none
  | d :: s => if d = c then some s else none

namespace Ipv4

/-- Reads four octets with dots between them. -/
def read? (s : List Char) : Option (Ipv4 × List Char) := do
  let (a, s) ← Numeral.octet.read? s
  let s ← readChar? '.' s
  let (b, s) ← Numeral.octet.read? s
  let s ← readChar? '.' s
  let (c, s) ← Numeral.octet.read? s
  let s ← readChar? '.' s
  let (d, s) ← Numeral.octet.read? s
  return (⟨a.toUInt8, b.toUInt8, c.toUInt8, d.toUInt8⟩, s)

end Ipv4

namespace Ipv6

/-- A row of groups that was read: the groups, and whether the last two came in dotted form. -/
structure GroupRow where
  groups : List UInt16 := []
  dotted : Bool := false

/-- Passes the colon in front of every group but the first. -/
def readSeparator? (first : Bool) (s : List Char) : Option (List Char) :=
  if first then some s else readChar? ':' s

/-- Reads up to `room` groups, as many as there are. Where there is room for two, a dotted IPv4
address is looked for first, and ends the row. -/
def readGroups (first : Bool) : (room : Nat) → List Char → GroupRow × List Char
  | 0, s => ({}, s)
  | room + 1, s =>
    match (if room = 0 then none else readSeparator? first s >>= Ipv4.read?) with
    | some (ip, rest) => ({ groups := ip.groups, dotted := true }, rest)
    | none =>
      match readSeparator? first s >>= Numeral.group.read? with
      | some (g, rest) =>
        let (row, rest) := readGroups false room rest
        ({ row with groups := g.toUInt16 :: row.groups }, rest)
      | none => ({}, s)

/-- The address with the given groups at its two ends and zeros between them. -/
def ofEnds? (front back : List UInt16) : Option Ipv6 :=
  let groups := front ++ List.replicate (8 - front.length - back.length) 0 ++ back
  if h : groups.length = 8 then some ⟨groups, h⟩ else none

/-- Reads eight groups, or fewer with `::` in one place. A dotted form may only end the address. -/
def read? (s : List Char) : Option (Ipv6 × List Char) := do
  let (front, s) := readGroups true 8 s
  if front.groups.length = 8 then
    let ip ← ofEnds? front.groups []
    return (ip, s)
  else if front.dotted then
    none
  else
    let s ← readChar? ':' s
    let s ← readChar? ':' s
    let (back, s) := readGroups true (7 - front.groups.length) s
    let ip ← ofEnds? front.groups back.groups
    return (ip, s)

end Ipv6

/-- What was read, if it was the whole text. -/
def whole? {α : Type} : Option (α × List Char) → Option α
  | some (a, []) => some a
  | _ => none

/-- What kind of address a text fails to be. -/
inductive AddressError
  | ip
  | socket
  deriving DecidableEq, Repr

/-- The text of an address error. -/
def AddressError.message : AddressError → String
  | .ip => "invalid IP address syntax"
  | .socket => "invalid socket address syntax"

namespace IpAddress

/-- Reads an address of either family. -/
def read? (s : List Char) : Option (IpAddress × List Char) :=
  match Ipv4.read? s with
  | some (ip, rest) => some (.v4 ip, rest)
  | none => (Ipv6.read? s).map fun (ip, rest) => (.v6 ip, rest)

/-- The address that a text writes. -/
def parse (s : String) : Except AddressError IpAddress :=
  match whole? (read? s.toList) with
  | some ip => .ok ip
  | none => .error .ip

end IpAddress

namespace SocketAddress

/-- Reads a colon and a port. -/
def readPort? (s : List Char) : Option (UInt16 × List Char) := do
  let s ← readChar? ':' s
  let (port, s) ← Numeral.port.read? s
  return (port.toUInt16, s)

/-- Reads a percent sign and a scope, if that is what the text begins with. -/
def readScope (s : List Char) : UInt32 × List Char :=
  match readChar? '%' s >>= Numeral.scope.read? with
  | some (scope, rest) => (scope.toUInt32, rest)
  | none => (0, s)

/-- Reads an IPv4 address and a port. -/
def readIpv4? (s : List Char) : Option (SocketAddress × List Char) := do
  let (ip, s) ← Ipv4.read? s
  let (port, s) ← readPort? s
  return (.v4 ip port, s)

/-- Reads an IPv6 address in brackets, which its scope may end, and a port. -/
def readIpv6? (s : List Char) : Option (SocketAddress × List Char) := do
  let s ← readChar? '[' s
  let (ip, s) ← Ipv6.read? s
  let (scope, s) := readScope s
  let s ← readChar? ']' s
  let (port, s) ← readPort? s
  return (.v6 ip port scope, s)

/-- Reads a socket address of either family. -/
def read? (s : List Char) : Option (SocketAddress × List Char) :=
  readIpv4? s <|> readIpv6? s

/-- The socket address that a text writes. -/
def parse (s : String) : Except AddressError SocketAddress :=
  match whole? (read? s.toList) with
  | some a => .ok a
  | none => .error .socket

end SocketAddress

end TwinServers
