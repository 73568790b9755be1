import TwinServers.Proofs.Server.Pair

/-!
# Binding without failures

When no call is planned to fail, all that binding a listener depends on is whether its address can
be bound: `run_openAt` for one listener, `run_acquire` for a server. A pair then listens on the
addresses that were asked for, each with its port, and the two do not clash
(`addresses_of_bindHandlers`).
-/

namespace TwinServers

open Kernel

/-! ## Calls -/

namespace Kernel

variable {k : Kernel}

theorem run_call (h : k.faults = .none) (c : Call) :
    (call c).run k = .ok () { k with calls := k.calls ++ [⟨c, .done⟩] } := by
  obtain ⟨ports, faults, calls, log⟩ := k
  cases h
  rfl

theorem run_bindCall (h : k.faults = .none) (net : Network) (a : SocketAddress) :
    (Kernel.bind net a).run k =
      match k.ports.bind net a with
      | .ok (b, ports) => .ok b { k with ports, calls := k.calls ++ [⟨.bind a, .done⟩] }
      | .error e =>
        .error (.ofErrno e) { k with calls := k.calls ++ [⟨.bind a, .failed e⟩] } := by
  obtain ⟨ports, faults, calls, log⟩ := k
  cases h
  unfold Kernel.bind perform EStateM.run
  cases hb : ports.bind net a <;> simp [FaultPlan.next, afterCall, hb]

/-- When all that an action depends on is whether its address can be bound, and it succeeds, what it
gives is made of the address that binding alone gives. -/
theorem ports_of_run {ε α : Type} {action : Action ε α} {net : Network} {a : SocketAddress}
    {result : SocketAddress → α} {failure : Errno → ε} (h : ∃ calls, action.run k =
      match k.ports.bind net a with
      | .ok (b, ports) => .ok (result b) { k with ports, calls }
      | .error e => .error (failure e) { k with calls })
    {r : α} {k' : Kernel} (hrun : action.run k = .ok r k') :
    ∃ b, r = result b ∧ k'.faults = k.faults ∧ k.ports.bind net a = .ok (b, k'.ports) := by
  obtain ⟨calls, haction⟩ := h
  rw [haction] at hrun
  cases hports : k.ports.bind net a with
  | error e =>
    rw [hports] at hrun
    exact nomatch hrun
  | ok bound =>
    rw [hports] at hrun
    cases hrun
    exact ⟨_, rfl, rfl, rfl⟩

end Kernel

/-! ## Listeners -/

namespace Listener

variable {k : Kernel}

theorem run_prepareSocket (h : k.faults = .none) (a : SocketAddress) :
    ∃ calls, (prepareSocket a).run k = .ok () { k with calls } := by
  unfold prepareSocket
  rw [run_bind, run_call h]
  cases a with
  | v4 ip port =>
    simp only [SocketAddress.isIpv6, Bool.false_eq_true, if_false, run_bind]
    rw [run_call (by exact h)]
    exact ⟨_, run_call (by exact h) _⟩
  | v6 ip port scope =>
    simp only [SocketAddress.isIpv6, if_true, run_bind]
    rw [run_call (by exact h)]
    simp only
    rw [run_call (by exact h)]
    exact ⟨_, run_call (by exact h) _⟩

theorem run_prepare (h : k.faults = .none) (a : SocketAddress) :
    ∃ calls, (prepare a).run k = .ok a { k with calls } := by
  obtain ⟨calls, hrun⟩ := run_prepareSocket h a
  refine ⟨calls, ?_⟩
  rw [prepare, run_tryCatch, run_bind, hrun]
  rfl

theorem run_openAt (h : k.faults = .none) (net : Network) (a : SocketAddress) :
    ∃ calls, (openAt net a).run k =
      match k.ports.bind net a with
      | .ok (b, ports) => .ok b { k with ports, calls }
      | .error e => .error (.ofErrno e) { k with calls } := by
  obtain ⟨calls, hprepare⟩ := run_prepare h a
  rw [openAt, run_bind, hprepare]
  simp only [run_bind]
  rw [run_bindCall (by exact h)]
  cases k.ports.bind net a with
  | error e => exact ⟨_, rfl⟩
  | ok r =>
    simp only [run_holding, run_bind]
    rw [run_call (by exact h)]
    simp only
    rw [run_call (by exact h)]
    exact ⟨_, rfl⟩

theorem run_listenOn (h : k.faults = .none) (net : Network) (a : SocketAddress) :
    ∃ calls, (listenOn net a).run k =
      match k.ports.bind net a with
      | .ok (b, ports) => .ok b { k with ports, calls }
      | .error e => .error (.bind a (.ofErrno e)) { k with calls } := by
  obtain ⟨calls, hopen⟩ := run_openAt h net a
  refine ⟨calls, ?_⟩
  rw [listenOn, run_explaining, hopen]
  cases k.ports.bind net a <;> rfl

end Listener

namespace Server

variable {k : Kernel}

theorem run_acquire (h : k.faults = .none) (net : Network) (a : SocketAddress) :
    ∃ calls, (acquire net a).run k =
      match k.ports.bind net a with
      | .ok (b, ports) => .ok b { k with ports, calls }
      | .error e => .error (.bind a (.ofErrno e)) { k with calls } := by
  obtain ⟨calls, hopen⟩ := Listener.run_openAt h net a
  rw [acquire, run_explaining, run_bind, hopen]
  cases k.ports.bind net a with
  | error e => exact ⟨_, rfl⟩
  | ok r =>
    simp only [run_bind, run_holding]
    rw [run_call (by exact h)]
    exact ⟨_, rfl⟩

theorem run_bind (h : k.faults = .none) (net : Network) (a : SocketAddress) (handler : Handler) :
    ∃ calls, (Server.bind net a handler).run k =
      match k.ports.bind net a with
      | .ok (address, ports) => .ok { address, handler } { k with ports, calls }
      | .error e => .error (.bind a (.ofErrno e)) { k with calls } := by
  obtain ⟨calls, hacquire⟩ := run_acquire h net a
  refine ⟨calls, ?_⟩
  rw [Server.bind, Kernel.run_bind, hacquire]
  cases k.ports.bind net a <;> rfl

theorem run_bind_of_ports (h : k.faults = .none) {net : Network} {a b : SocketAddress}
    {ports : Ports} (hports : k.ports.bind net a = .ok (b, ports)) (handler : Handler) :
    ∃ calls, (Server.bind net a handler).run k =
      .ok { address := b, handler } { k with ports, calls } := by
  obtain ⟨calls, hbind⟩ := run_bind h net a handler
  rw [hports] at hbind
  exact ⟨calls, hbind⟩

/-- A server that was bound without failures has the address that binding alone gives. -/
theorem ports_of_bind (h : k.faults = .none) {net : Network} {a : SocketAddress}
    {handler : Handler} {server : Server} {k' : Kernel}
    (hrun : (Server.bind net a handler).run k = .ok server k') :
    k'.faults = .none ∧ k.ports.bind net a = .ok (server.address, k'.ports) := by
  obtain ⟨b, rfl, hfaults, hports⟩ := ports_of_run (run_bind h net a handler) hrun
  exact ⟨hfaults.trans h, hports⟩

end Server

/-! ## Addresses -/

theorem Ports.fresh?_of_isFree {t : Ports} {a : SocketAddress}
    (h : t.isFree (a.withPort (ephemeral t.handedOut))) :
    t.fresh? a = some (a.withPort (ephemeral t.handedOut), t.handedOut + 1) := by
  have first : List.range ephemeralCount = 0 :: List.range' 1 28231 := List.range_eq_range'
  rw [fresh?, first, List.findSome?_cons]
  simp [h]

/-- Where port 0 is asked for, the next port of the ephemeral range is given if it is free. -/
theorem Ports.bind_of_isFree {net : Network} {t : Ports} {a : SocketAddress}
    (hassigned : net.assigned a.ip) (hport : a.port = 0)
    (h : t.isFree (a.withPort (ephemeral t.handedOut))) :
    t.bind net a = .ok (a.withPort (ephemeral t.handedOut),
      { bound := a.withPort (ephemeral t.handedOut) :: t.bound
        handedOut := t.handedOut + 1 }) := by
  rw [Ports.bind, if_neg (by simp [hassigned]), if_pos hport, fresh?_of_isFree h]

theorem Ports.isFree_of_bind {net : Network} {a b : SocketAddress} {t t' : Ports}
    (h : t.bind net a = .ok (b, t')) : b = a.withPort b.port ∧ t.isFree b := by
  obtain ⟨-, free, -, ⟨-, rfl⟩ | ⟨i, -, rfl⟩⟩ := cases_of_bind h
  · exact ⟨(SocketAddress.withPort_port b).symm, free⟩
  · exact ⟨by rw [SocketAddress.port_withPort], free⟩

namespace ServerPair

variable {k k' : Kernel} {net : Network} {payload : Payload} {declares : Bool}
  {chunkedAddress bulkAddress : SocketAddress} {pair : ServerPair}

/-- The two addresses of a pair are what binding alone gives, one after the other. -/
theorem ports_of_bindHandlers (h : k.faults = .none)
    (hrun : (bindHandlers net payload declares chunkedAddress bulkAddress).run k = .ok pair k') :
    ∃ ports, k.ports.bind net chunkedAddress = .ok (pair.chunked.address, ports) ∧
      ports.bind net bulkAddress = .ok (pair.bulk.address, k'.ports) := by
  obtain ⟨chunked, k₁, hchunked, hrun⟩ := run_bind_eq_ok.1 hrun
  obtain ⟨bulk, k₂, hbulk, hrun⟩ := run_bind_eq_ok.1 hrun
  obtain ⟨rfl, rfl⟩ := run_pure_eq_ok.1 hrun
  obtain ⟨h₁, hports₁⟩ := Server.ports_of_bind h hchunked
  obtain ⟨-, hports₂⟩ := Server.ports_of_bind h₁ (run_holding_eq_ok.1 hbulk)
  exact ⟨k₁.ports, hports₁, hports₂⟩

theorem addresses_of_bindHandlers (h : k.faults = .none)
    (hrun : (bindHandlers net payload declares chunkedAddress bulkAddress).run k = .ok pair k') :
    pair.chunked.address = chunkedAddress.withPort pair.chunked.address.port ∧
    pair.bulk.address = bulkAddress.withPort pair.bulk.address.port ∧
    pair.bulk.address.clashes pair.chunked.address = false := by
  obtain ⟨ports, hchunked, hbulk⟩ := ports_of_bindHandlers h hrun
  obtain ⟨hbulkPort, hfree⟩ := Ports.isFree_of_bind hbulk
  refine ⟨(Ports.isFree_of_bind hchunked).1, hbulkPort, ?_⟩
  -- the chunked server's address is the newest in use when the bulk one is bound
  rw [Ports.isFree, Ports.bound_of_bind hchunked, List.any_cons] at hfree
  simpa using And.left (by simpa using hfree)

/-- A host with a loopback interface has two fresh ports to begin with. -/
theorem exists_bindHandlers_loopback (payload : Payload) (declares : Bool) :
    ∃ pair k,
      (bindHandlers .loopback payload declares (.v4 .localhost 0) (.v4 .localhost 0)).run {} =
        .ok pair k := by
  have chunkedPorts : Ports.bind .loopback (.v4 .localhost 0) {} = .ok _ :=
    Ports.bind_of_isFree (by decide) rfl (by decide)
  obtain ⟨calls, hchunked⟩ := Server.run_bind_of_ports (k := {}) rfl chunkedPorts
    { delivery := .chunked, payload, declares }
  have bulkPorts : Ports.bind .loopback (.v4 .localhost 0)
      { bound := [.v4 .localhost 32768], handedOut := 1 } = .ok _ :=
    Ports.bind_of_isFree (by decide) rfl (by decide)
  obtain ⟨calls', hbulk⟩ := Server.run_bind_of_ports
    (k := { ports := { bound := [.v4 .localhost 32768], handedOut := 1 }, calls }) rfl bulkPorts
    { delivery := .bulk, payload, declares }
  exact ⟨_, _, run_bind_eq_ok.2 ⟨_, _, hchunked, run_bind_eq_ok.2
    ⟨_, _, run_holding_eq_ok.2 hbulk, run_pure _ _⟩⟩⟩

end ServerPair

end TwinServers
