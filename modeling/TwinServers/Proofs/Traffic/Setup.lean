import TwinServers.Proofs.Listener.AllOrNothing
import TwinServers.Proofs.Listener.FaultFree
import TwinServers.Proofs.Response.Frames
import TwinServers.Traffic

/-!
# Servers that are set up

What is known of a pair of servers once `Setup.bind` has bound it on a host of its own: both answer
with the payload of the setup (`handler_of_bind`), and they listen side by side on one address, so
that a client reaches the one exactly when it reaches the other, and is seen alike by both
(`connect_of_bind`).
-/

namespace TwinServers

open Kernel

namespace Traffic.Setup

/-- The template of the payload. -/
def template : Setup → Bytes
  | .settings _ => Payload.standardTemplate
  | .payload template .. => template

/-- The closing line of the payload. -/
def closing : Setup → Bytes
  | .settings _ => Payload.standardClosing
  | .payload _ closing .. => closing

/-- Template copies in a unit. -/
def copies : Setup → UInt64
  | .settings s => s.copies
  | .payload _ _ copies .. => copies

/-- Units in a body. -/
def units : Setup → UInt64
  | .settings s => s.units
  | .payload _ _ _ units _ => units

/-- Whether every response declares its length. -/
def declares : Setup → Bool
  | .settings s => s.declares
  | .payload _ _ _ _ declares => declares

/-- The address that both servers listen on. -/
def host : Setup → IpAddress
  | .settings s => s.host
  | .payload .. => .v4 .localhost

/-- The body of every response: all the copies of the template, and the closing line. -/
def content (setup : Setup) : Bytes :=
  (List.replicate (setup.copies.toNat * setup.units.toNat) setup.template).flatten ++ setup.closing

/-- Either delivery of the payload has the body of the setup. -/
theorem content_body {setup : Setup} {payload : Payload}
    (h : payload.BuiltFrom setup.template setup.closing setup.copies setup.units) (d : Delivery) :
    (payload.body d).content = setup.content := by
  rw [Payload.content_body h, Bytes.copies_eq_flatten]
  rfl

theorem bind_payload (net : Network) {template closing : Bytes} {copies units : UInt64}
    {p : Payload} (h : Payload.build template closing copies units = .ok p) (declares : Bool) :
    (Setup.payload template closing copies units declares).bind net =
      explaining .server (ServerPair.bindHandlers net p declares (.v4 .localhost 0)
        (.v4 .localhost 0)) := by
  simp only [bind, h]

/-- Every setup binds its pair in the same way, once its payload is built. -/
theorem exists_bindHandlers {net : Network} {setup : Setup} {pair : ServerPair} {k : Kernel}
    (h : (setup.bind net).run {} = .ok pair k) :
    ∃ payload chunkedAddress bulkAddress log,
      payload.BuiltFrom setup.template setup.closing setup.copies setup.units ∧
      chunkedAddress.ip = setup.host ∧ bulkAddress.ip = setup.host ∧
      (ServerPair.bindHandlers net payload setup.declares chunkedAddress bulkAddress).run
        { log } = .ok pair k := by
  cases setup with
  | settings s =>
    obtain ⟨payload, hp, hrun⟩ := ServerPair.exists_bindHandlers_of_bind h
    exact ⟨payload, s.chunkedAddress, s.bulkAddress, _, Payload.build_eq_ok_iff.1 hp,
      SocketAddress.ip_ofIp .., SocketAddress.ip_ofIp .., hrun⟩
  | payload template closing copies units declares =>
    cases hp : Payload.build template closing copies units with
    | error e =>
      simp only [bind, hp] at h
      cases h
    | ok payload =>
      rw [bind_payload net hp] at h
      exact ⟨payload, _, _, _, Payload.build_eq_ok_iff.1 hp, rfl, rfl, run_explaining_eq_ok.1 h⟩

variable {net : Network} {setup : Setup} {pair : ServerPair} {k : Kernel}

theorem handler_of_bind (h : (setup.bind net).run {} = .ok pair k) :
    ∃ payload, payload.BuiltFrom setup.template setup.closing setup.copies setup.units ∧
      ∀ d, (pair.server d).handler = { delivery := d, payload, declares := setup.declares } := by
  obtain ⟨payload, _, _, _, hpayload, -, -, hrun⟩ := exists_bindHandlers h
  exact ⟨payload, hpayload, ServerPair.handler_of_bindHandlers hrun⟩

end Traffic.Setup

/-! ## Reaching the servers -/

theorem SocketAddress.port_ne_of_not_clashes {a b : SocketAddress} (hip : a.ip = b.ip)
    (h : a.clashes b = false) : a.port ≠ b.port := by
  intro hport
  rw [clashes, hport, hip, IpAddress.clashes, IpAddress.covers_self] at h
  simp at h

theorem Network.seenBy_of_ip_eq {a b : SocketAddress} (h : a.ip = b.ip) (client : IpAddress) :
    seenBy a client = seenBy b client := by
  cases a <;> cases b <;> cases h <;> cases client <;> rfl

namespace Traffic.Setup

variable {net : Network} {setup : Setup} {pair : ServerPair} {k : Kernel}

theorem ip_of_bind (h : (setup.bind net).run {} = .ok pair k) (d : Delivery) :
    (pair.server d).address.ip = setup.host := by
  obtain ⟨_, ca, ba, _, -, hca, hba, hrun⟩ := exists_bindHandlers h
  obtain ⟨hchunked, hbulk, -⟩ := ServerPair.addresses_of_bindHandlers rfl hrun
  cases d with
  | chunked =>
    rw [← hca, ← SocketAddress.ip_withPort ca pair.chunked.address.port]
    exact congrArg SocketAddress.ip hchunked
  | bulk =>
    rw [← hba, ← SocketAddress.ip_withPort ba pair.bulk.address.port]
    exact congrArg SocketAddress.ip hbulk

/-- A server of the pair is reached where its host is, whichever of the two it is. -/
theorem listener_of_bind (h : (setup.bind net).run {} = .ok pair k) (destination : IpAddress)
    (d : Delivery) :
    k.ports.listener? destination (pair.server d).address.port =
      if setup.host.covers destination then some (pair.server d).address else none := by
  obtain ⟨payload, ca, ba, _, -, -, -, hrun⟩ := exists_bindHandlers h
  obtain ⟨-, -, hclash⟩ := ServerPair.addresses_of_bindHandlers rfl hrun
  have hc : pair.chunked.address.ip = setup.host := ip_of_bind h .chunked
  have hb : pair.bulk.address.ip = setup.host := ip_of_bind h .bulk
  have hports := SocketAddress.port_ne_of_not_clashes (hb.trans hc.symm) hclash
  have hbound : k.ports.bound = [pair.bulk.address, pair.chunked.address] :=
    (ServerPair.settles_bindHandlers net payload _ ca ba).bound_of_ok hrun
  rw [Ports.listener?, hbound]
  cases d with
  | chunked =>
    change List.find? (fun a => a.port == pair.chunked.address.port && a.ip.covers destination) _ =
      if setup.host.covers destination then some pair.chunked.address else none
    rw [List.find?_cons_of_neg (by simp [hports]), List.find?_singleton]
    simp [hc]
  | bulk =>
    change List.find? (fun a => a.port == pair.bulk.address.port && a.ip.covers destination) _ =
      if setup.host.covers destination then some pair.bulk.address else none
    cases hcovers : setup.host.covers destination with
    | true => rw [List.find?_cons_of_pos (by simp [hb, hcovers])]; rfl
    | false =>
      rw [List.find?_cons_of_neg (by simp [hb, hcovers]),
        List.find?_cons_of_neg (by simp [hc, hcovers])]
      rfl

/-- **A client that connects meets either server alike**: it fails for the same reason, or is seen
under the same address. -/
theorem connect_of_bind (h : (setup.bind net).run {} = .ok pair k) (via : IpAddress)
    (d d' : Delivery) :
    (k.ports.connect net via (pair.server d).address.port).map Prod.snd =
      (k.ports.connect net via (pair.server d').address.port).map Prod.snd := by
  unfold Ports.connect
  simp only [listener_of_bind h]
  cases net.refusal (Network.reached via) with
  | some e => rfl
  | none =>
    cases setup.host.covers (Network.reached via) with
    | false => rfl
    | true =>
      simp only [if_true, Except.map, Except.ok.injEq]
      exact Network.seenBy_of_ip_eq ((ip_of_bind h d).trans (ip_of_bind h d').symm) _

/-! ## Payloads on the loopback address -/

/-- **Every payload that can be built is served**: both servers are bound on a host with a loopback
interface, and a client on it reaches either. -/
theorem exists_bind_of_build {template closing : Bytes} {copies units : UInt64} {p : Payload}
    (h : Payload.build template closing copies units = .ok p) (declares : Bool) :
    ∃ pair k, ((Setup.payload template closing copies units declares).bind .loopback).run {} =
        .ok pair k ∧
      ∀ d, ∃ a client, k.ports.connect .loopback (.v4 .localhost) (pair.server d).address.port =
        .ok (a, client) := by
  obtain ⟨pair, k, hrun⟩ := ServerPair.exists_bindHandlers_loopback p declares
  have hbind : ((Setup.payload template closing copies units declares).bind .loopback).run {} =
      .ok pair k := by
    rw [bind_payload .loopback h]
    exact run_explaining_eq_ok.2 hrun
  refine ⟨pair, k, hbind, fun d => ?_⟩
  have listener :
      k.ports.listener? (Network.reached (.v4 .localhost)) (pair.server d).address.port =
        some (pair.server d).address := by
    rw [listener_of_bind hbind]
    rfl
  have refusal : Network.loopback.refusal (Network.reached (.v4 .localhost)) = none := by decide
  simp only [Ports.connect, refusal, listener]
  exact ⟨_, _, rfl⟩

end Traffic.Setup

end TwinServers
