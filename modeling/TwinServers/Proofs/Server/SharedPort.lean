import TwinServers.Proofs.Listener.AllOrNothing
import TwinServers.Proofs.Server.Pair
import TwinServers.Proofs.Server.Stages

/-!
# One port for two servers

Two servers are never bound to one port, even where one of them falls back from `::` to `0.0.0.0`
and the other does not: every address that binding can give clashes with every other that it can
give (`clashes_of_targets`), and what is bound is free when it is bound (`Server.isFree_of_bind`).
If no call is made to fail, it is the bulk server that cannot be bound, because the address is in
use: `servers_never_share_a_port`.
-/

namespace TwinServers

open Kernel

/-! ## What was free -/

theorem Kernel.run_perform_eq_ok {α : Type} {c : Call} {run : Ports → Except Errno (α × Ports)}
    {k k' : Kernel} {a : α} (h : (perform c run).run k = .ok a k') :
    ∃ ports, run k.ports = .ok (a, ports) := by
  unfold EStateM.run perform at h
  split at h
  · exact nomatch h
  · split at h
    · exact nomatch h
    · next ports hrun =>
      cases h
      exact ⟨ports, hrun⟩

theorem Listener.isFree_of_openAt {net : Network} {a b : SocketAddress} {k k' : Kernel}
    (h : (openAt net a).run k = .ok b k') : k.ports.isFree b := by
  obtain ⟨target, k₁, hprepare, h⟩ := run_bind_eq_ok.1 h
  obtain ⟨bound, k₂, hbind, h⟩ := run_bind_eq_ok.1 h
  obtain ⟨_, _, -, h⟩ := run_bind_eq_ok.1 (run_holding_eq_ok.1 h)
  obtain ⟨_, _, -, h⟩ := run_bind_eq_ok.1 h
  obtain ⟨rfl, -⟩ := run_pure_eq_ok.1 h
  obtain ⟨ports, hports⟩ := run_perform_eq_ok hbind
  -- preparing a socket leaves the addresses in use as they are
  have same : k₁.ports.bound = k.ports.bound := (settles_prepare a).bound_of_ok hprepare
  rw [Ports.isFree_iff, ← same, ← Ports.isFree_iff]
  exact (Ports.isFree_of_bind hports).2

theorem Server.isFree_of_bind {net : Network} {a : SocketAddress} {handler : Handler}
    {server : Server} {k k' : Kernel} (h : (Server.bind net a handler).run k = .ok server k') :
    k.ports.isFree server.address := by
  obtain ⟨address, k₁, hacquire, h⟩ := run_bind_eq_ok.1 h
  obtain ⟨rfl, -⟩ := run_pure_eq_ok.1 h
  obtain ⟨bound, k₂, hopen, h⟩ := run_bind_eq_ok.1 (run_explaining_eq_ok.1 hacquire)
  obtain ⟨_, _, -, h⟩ := run_bind_eq_ok.1 h
  obtain ⟨rfl, -⟩ := run_pure_eq_ok.1 h
  exact Listener.isFree_of_openAt hopen

/-! ## What is given -/

/-- Where a port is asked for, a server gets the address that was asked for or its fallback. -/
theorem Server.address_of_bind {net : Network} {a : SocketAddress} {handler : Handler}
    {server : Server} {k k' : Kernel} (h : (Server.bind net a handler).run k = .ok server k')
    (hport : a.port ≠ 0) :
    server.address = a ∨ a.ip = .any ∧ server.address = Listener.fallback a := by
  obtain ⟨calls, log, -, -, binds, -⟩ := records_bind net a handler k
  rw [h] at binds
  obtain ⟨target, course, granted⟩ := binds.course_of_ok
  rcases course.target_eq with rfl | ⟨any, rfl⟩
  · exact .inl (granted.eq hport)
  · exact .inr ⟨any, granted.eq hport⟩

/-- Whether falling back or not, two listeners that ask for one address clash. -/
theorem SocketAddress.clashes_of_targets {a b c : SocketAddress}
    (hb : b = a ∨ a.ip = .any ∧ b = Listener.fallback a)
    (hc : c = a ∨ a.ip = .any ∧ c = Listener.fallback a) : b.clashes c := by
  rcases hb with rfl | ⟨any, rfl⟩ <;> rcases hc with rfl | ⟨any', rfl⟩
  · exact clashes_self _
  · exact (clashes_of_ip_any_iff any' _).2 rfl
  · rw [clashes_comm]
    exact (clashes_of_ip_any_iff any _).2 rfl
  · exact clashes_self _

/-- Two servers that ask for one address and a port are not both bound. -/
theorem Server.not_bind_of_bind {net : Network} {a : SocketAddress} {handler handler' : Handler}
    {server server' : Server} {k k' k'' : Kernel} (hport : a.port ≠ 0)
    (h : (Server.bind net a handler).run k = .ok server k') :
    (Server.bind net a handler').run k' ≠ .ok server' k'' := by
  intro h'
  have inUse : server.address ∈ k'.ports.bound := by
    rw [(Server.settles_bind net a handler).bound_of_ok h]
    exact List.mem_cons_self
  have free := Ports.isFree_iff.1 (isFree_of_bind h') _ inUse
  rw [SocketAddress.clashes_of_targets (address_of_bind h' hport) (address_of_bind h hport)] at free
  exact nomatch free

/-! ## One port -/

namespace ServerPair

variable {net : Network} {s : Settings} {p : Payload} {k : Kernel}

theorem not_bind_of_one_port (hp : s.payload = .ok p) (same : s.chunkedAddress = s.bulkAddress)
    (hport : s.bulkAddress.port ≠ 0) {pair : ServerPair} {k' : Kernel} :
    (bind net s).run k ≠ .ok pair k' := by
  intro h
  obtain ⟨chunked, k₁, bulk, k₂, hchunked, hbulk⟩ :=
    (exists_run_bind_eq_ok_iff net hp k).1 ⟨pair, k', h⟩
  rw [same] at hchunked
  exact Server.not_bind_of_bind hport hchunked hbulk

/-- **Two servers never share a port**: if the same port is asked for twice, a pair is not bound,
and the error names the address, which is the same for both. If no call was made to fail and the
chunked server could be bound, the reason is that the address is in use. -/
theorem servers_never_share_a_port (net : Network) (s : Settings) (k : Kernel)
    (hpayload : ∃ p, s.payload = .ok p) (hports : s.chunkedPort = s.bulkPort)
    (hport : s.bulkPort ≠ 0) :
    (∃ source, result ((bind net s).run k) = .error (.server (.bind s.bulkAddress source))) ∧
    ∀ calls, (final ((bind net s).run k)).calls = k.calls ++ calls →
      (∀ m ∈ calls, ∀ e, m.outcome ≠ .injected e) →
      ∀ bound ports, k.ports.bind net s.chunkedAddress = .ok (bound, ports) →
        result ((bind net s).run k) =
          .error (.server (.bind s.bulkAddress (.ofErrno .addressInUse))) := by
  obtain ⟨p, hp⟩ := hpayload
  have same : s.chunkedAddress = s.bulkAddress := congrArg (SocketAddress.ofIp s.host) hports
  have hbulkPort : s.bulkAddress.port ≠ 0 := by rwa [Settings.bulkAddress, SocketAddress.port_ofIp]
  constructor
  · obtain ⟨calls, _, -, -, later, r, -, hr, staged⟩ := records_bind net hp k
    rw [hr]
    cases staged with
    | chunkedFails => exact ⟨_, by rw [same]; rfl⟩
    | bulkFails => exact ⟨_, rfl⟩
    | bound =>
      cases hrun : (bind net s).run k with
      | ok pair k' => exact absurd hrun (not_bind_of_one_port hp same hbulkPort)
      | error e k' =>
        rw [hrun] at hr
        cases hr
  · intro calls hcalls unforced bound ports hbind
    have hbulk : ports.bind net s.bulkAddress = .error .addressInUse :=
      Ports.bind_eq_error_of_bind hbulkPort (same ▸ hbind)
    obtain ⟨calls', hrun⟩ := run_bindHandlers_of_bulk_error
      (k := { k.unplanned with log := k.unplanned.log ++ [{ event := sizes p }] }) rfl hbind hbulk p
      s.declares
    rw [(unaffected_bind net s).result_eq hcalls unforced, run_bind net hp, hrun]
    rfl

/-- Port 9000 twice: with a chunked server that falls back to IPv4, and without any failure. -/
theorem servers_never_share_a_port_of_fallback :
    (∃ source,
      result ((bind .loopback { bulkPort := 9000, copies := 1, units := 1 }).run
        { faults :=
          { coming := fun c => if c = .socket then [some .familyUnsupported] else [] } }) =
        .error (.server (.bind (.v6 .unspecified 9000 0) source))) ∧
    result ((bind .loopback { bulkPort := 9000, copies := 1, units := 1 }).run {}) =
      .error (.server (.bind (.v6 .unspecified 9000 0) (.ofErrno .addressInUse))) := by
  constructor
  · exact (servers_never_share_a_port .loopback { bulkPort := 9000, copies := 1, units := 1 }
      { faults := { coming := fun c => if c = .socket then [some .familyUnsupported] else [] } }
      ⟨_, rfl⟩ rfl (by decide)).1
  · have madeAlone : ∀ m ∈ (final ((bind .loopback
        { bulkPort := 9000, copies := 1, units := 1 }).run {})).calls, m.outcome = .done ∨
          m.outcome = .failed .addressInUse := by
      decide
    refine (servers_never_share_a_port .loopback { bulkPort := 9000, copies := 1, units := 1 } {}
      ⟨_, rfl⟩ rfl (by decide)).2 _ rfl (fun m hm e he => ?_) _ _ rfl
    rcases madeAlone m hm with h | h <;> exact nomatch h.symm.trans he

end ServerPair

end TwinServers
