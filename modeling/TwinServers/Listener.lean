import TwinServers.Host.Kernel

/-!
# Listeners

`listenOn` binds a listener: it makes a socket, prepares it, binds it to the address, listens and
registers it with the event loop. An IPv6 socket takes IPv4 connections as well. Where `::` is asked
for and no IPv6 socket can be prepared, an IPv4 socket on `0.0.0.0` is tried instead, once; a
failure to bind, listen or register is never a reason for that. Whatever fails, nothing stays bound.
-/

namespace TwinServers.Listener

open Kernel

/-- The number of connections that may wait to be accepted. -/
def backlog : Nat := 1024

/-- Makes a socket for the family of an address and sets its options. -/
def prepareSocket (a : SocketAddress) : Action IoError Unit := do
  call (.socket a.isIpv6)
  if a.isIpv6 then
    call .dualStack
  call .reuseAddress
  call .nonblocking

/-- The address that is tried in place of `::` without IPv6. -/
def fallback (a : SocketAddress) : SocketAddress := .v4 .unspecified a.port

/-- Prepares a socket for an address, or for its fallback if it is `::`, and gives the address that
the socket is for. -/
def prepare (a : SocketAddress) : Action IoError SocketAddress :=
  tryCatch (do prepareSocket a; return a) fun e => do
    if a.ip = .any then
      record (.ipv4Only e)
      prepareSocket (fallback a)
      return fallback a
    else
      throw e

/-- Binds a listener and gives the address it listens on. -/
def openAt (net : Network) (a : SocketAddress) : Action IoError SocketAddress := do
  let target ← prepare a
  let bound ← Kernel.bind net target
  holding bound do
    call (.listen backlog)
    call .register
    return bound

/-- Binds a listener. The error names the address that was asked for. -/
def listenOn (net : Network) (a : SocketAddress) : Action ServerError SocketAddress :=
  explaining (.bind a) (openAt net a)

end TwinServers.Listener
