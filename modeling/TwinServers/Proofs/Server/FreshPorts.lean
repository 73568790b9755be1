import TwinServers.Proofs.Host.Records
import TwinServers.Proofs.Server.Runs

/-!
# Fresh ports

When no call is planned to fail, whether something can be bound depends on the addresses in use, and
not on how many fresh ports were handed out before: the search for one starts after the last, but it
comes round to all of them. So for one address there is room or there is not
(`Ports.obstacle?_congr`), and for a pair as well, whichever ports it gets
(`ServerPair.error?_bind_congr`). The exception is a pair of which the first server is to get a
fresh port and the second asks for one of the ephemeral range: it may be the very one that the first
was given.
-/

namespace TwinServers

open Kernel

/-! ## One address -/

namespace Ports

variable {net : Network} {t t' u u' : Ports} {a b c c' : SocketAddress}

/-- Why an address cannot be bound, if it cannot. -/
def obstacle? (net : Network) (t : Ports) (a : SocketAddress) : Option Errno :=
  error? (t.bind net a)

/-- Whether what is in use leaves room for an address: with its own port or, where a fresh one is
asked for, with any ephemeral port. -/
def HasRoom (t : Ports) (a : SocketAddress) : Prop :=
  (a.port ≠ 0 ∧ t.isFree a) ∨ (a.port = 0 ∧ ∃ i, t.isFree (a.withPort (ephemeral i)))

theorem hasRoom_iff_of_port_ne_zero (h : a.port ≠ 0) : t.HasRoom a ↔ t.isFree a := by
  simp [HasRoom, h]

theorem hasRoom_iff_of_port_eq_zero (h : a.port = 0) :
    t.HasRoom a ↔ ∃ i, t.isFree (a.withPort (ephemeral i)) := by
  simp [HasRoom, h]

theorem obstacle?_eq_some_iff {e : Errno} :
    t.obstacle? net a = some e ↔ t.bind net a = .error e := by
  unfold obstacle? error?
  cases t.bind net a <;> simp

theorem obstacle?_eq_none_iff :
    t.obstacle? net a = none ↔ ∃ c u, t.bind net a = .ok (c, u) := by
  unfold obstacle? error?
  cases t.bind net a with
  | error e => simp
  | ok bound => exact ⟨fun _ => ⟨_, _, rfl⟩, fun _ => rfl⟩

/-- The search comes round to every ephemeral port, wherever it starts. -/
theorem exists_ephemeral_add_eq (start n : Nat) :
    ∃ i < ephemeralCount, ephemeral (start + i) = ephemeral n := by
  refine ⟨(n + (ephemeralCount - start % ephemeralCount)) % ephemeralCount,
    Nat.mod_lt _ (by decide), ?_⟩
  have same : (start + (n + (ephemeralCount - start % ephemeralCount)) % ephemeralCount) %
      ephemeralCount = n % ephemeralCount := by
    unfold ephemeralCount
    omega
  rw [ephemeral, ephemeral, same]

theorem isSome_fresh?_iff : (t.fresh? a).isSome ↔ ∃ i, t.isFree (a.withPort (ephemeral i)) := by
  unfold fresh?
  rw [List.findSome?_isSome_iff]
  constructor
  · rintro ⟨i, -, hi⟩
    refine ⟨t.handedOut + i, ?_⟩
    by_cases hfree : t.isFree (a.withPort (ephemeral (t.handedOut + i)))
    · exact hfree
    · simp [hfree] at hi
  · rintro ⟨n, hn⟩
    obtain ⟨i, hlt, hi⟩ := exists_ephemeral_add_eq t.handedOut n
    refine ⟨i, List.mem_range.2 hlt, ?_⟩
    simp only [hi, hn, if_true, Option.isSome_some]

/-- An address of the host can be bound exactly if there is room for it. -/
theorem obstacle?_eq_none_iff_hasRoom (h : net.assigned a.ip) :
    t.obstacle? net a = none ↔ t.HasRoom a := by
  unfold obstacle? Ports.bind
  rw [if_neg (by simp [h])]
  by_cases hport : a.port = 0
  · rw [if_pos hport, hasRoom_iff_of_port_eq_zero hport, ← isSome_fresh?_iff]
    cases t.fresh? a <;> simp [error?]
  · rw [if_neg hport, hasRoom_iff_of_port_ne_zero hport]
    by_cases hfree : t.isFree a <;> simp [hfree, error?]

theorem eq_addressInUse_of_bind {e : Errno} (h : net.assigned a.ip)
    (hbind : t.bind net a = .error e) : e = .addressInUse := by
  unfold Ports.bind at hbind
  rw [if_neg (by simp [h])] at hbind
  split at hbind
  · split at hbind
    · exact nomatch hbind
    · exact (Except.error.inj hbind).symm
  · split at hbind
    · exact nomatch hbind
    · exact (Except.error.inj hbind).symm

/-- **What keeps an address from being bound is the lack of room**, if it is one of the host's. -/
theorem obstacle?_congr (h : t.HasRoom a ↔ t'.HasRoom a) :
    t.obstacle? net a = t'.obstacle? net a := by
  by_cases hassigned : net.assigned a.ip
  · have hnone : t.obstacle? net a = none ↔ t'.obstacle? net a = none := by
      rw [obstacle?_eq_none_iff_hasRoom hassigned, obstacle?_eq_none_iff_hasRoom hassigned, h]
    cases ht : t.obstacle? net a with
    | none => exact (hnone.1 ht).symm
    | some e =>
      cases ht' : t'.obstacle? net a with
      | none =>
        rw [hnone.2 ht'] at ht
        exact nomatch ht
      | some e' =>
        rw [eq_addressInUse_of_bind hassigned (obstacle?_eq_some_iff.1 ht),
          eq_addressInUse_of_bind hassigned (obstacle?_eq_some_iff.1 ht')]
  · simp [obstacle?, Ports.bind, hassigned]

theorem isFree_congr (hbound : t.bound = t'.bound) (a : SocketAddress) :
    t.isFree a = t'.isFree a := by
  rw [isFree, isFree, hbound]

theorem hasRoom_congr (hbound : t.bound = t'.bound) : t.HasRoom a ↔ t'.HasRoom a := by
  simp only [HasRoom, isFree_congr hbound]

/-! ## One after another -/

/-- Addresses on one interface clash exactly if they have the same port. -/
theorem clashes_withPort_of_ip_eq (hip : b.ip = a.ip) (port : UInt16) :
    b.clashes (a.withPort port) = (b.port == port) := by
  simp [SocketAddress.clashes, IpAddress.clashes, hip, IpAddress.covers_self]

theorem isFree_iff_of_bound_cons {port : UInt16} (hbound : u.bound = a.withPort port :: t.bound)
    (hip : b.ip = a.ip) : u.isFree b ↔ t.isFree b ∧ b.port ≠ port := by
  simp [isFree, hbound, clashes_withPort_of_ip_eq hip, and_comm]

theorem isFree_eq_of_ip_eq (hip : a.ip = b.ip) (hport : a.port = b.port) :
    t.isFree a = t.isFree b := by
  unfold isFree SocketAddress.clashes
  rw [hip, hport]

/-- Whichever fresh port a first address is given, there is as much room for a second one on the
same interface, unless that asks for a port which may be the fresh one. -/
theorem hasRoom_of_bind (hbound : t.bound = t'.bound) (h : t.bind net a = .ok (c, u))
    (h' : t'.bind net a = .ok (c', u')) (hip : b.ip = a.ip)
    (hapart : a.port = 0 → ∀ i, b.port ≠ ephemeral i) (hroom : u.HasRoom b) : u'.HasRoom b := by
  obtain ⟨-, free, after, hcases⟩ := cases_of_bind h
  obtain ⟨-, -, after', hcases'⟩ := cases_of_bind h'
  rw [← hbound] at after'
  obtain ⟨hport, rfl⟩ | ⟨i, hport, rfl⟩ := hcases
  · obtain ⟨-, rfl⟩ | ⟨_, hport', -⟩ := hcases'
    · exact (hasRoom_congr (after.trans after'.symm)).1 hroom
    · exact absurd hport' hport
  · obtain ⟨hport', -⟩ | ⟨j, -, rfl⟩ := hcases'
    · exact absurd hport hport'
    · by_cases hfresh : b.port = 0
      · have hipFresh : ∀ port, (b.withPort port).ip = a.ip := fun port => by
          rw [SocketAddress.ip_withPort, hip]
        rw [hasRoom_iff_of_port_eq_zero hfresh] at hroom ⊢
        obtain ⟨n, hn⟩ := hroom
        obtain ⟨hfree, hne⟩ := (isFree_iff_of_bound_cons after (hipFresh _)).1 hn
        rw [SocketAddress.port_withPort] at hne
        -- the ports `i` and `n` are both free at first, and one of them still is
        by_cases hj : ephemeral n = ephemeral j
        · refine ⟨i, (isFree_iff_of_bound_cons after' (hipFresh _)).2 ⟨?_, ?_⟩⟩
          · rw [isFree_eq_of_ip_eq (b := a.withPort (ephemeral i)) (by simp [hip]) (by simp)]
            exact free
          · rw [SocketAddress.port_withPort, ← hj]
            exact hne.symm
        · refine ⟨n, (isFree_iff_of_bound_cons after' (hipFresh _)).2 ⟨hfree, ?_⟩⟩
          rwa [SocketAddress.port_withPort]
      · rw [hasRoom_iff_of_port_ne_zero hfresh] at hroom ⊢
        exact (isFree_iff_of_bound_cons after' hip).2
          ⟨((isFree_iff_of_bound_cons after hip).1 hroom).1, hapart hport j⟩

end Ports

/-! ## Errors -/

variable {net : Network} {k k' : Kernel}

theorem Kernel.error?_of_run {ε α : Type} {action : Action ε α} {a : SocketAddress}
    {value : SocketAddress → α} {failure : Errno → ε} (h : ∃ calls, action.run k =
      match k.ports.bind net a with
      | .ok (b, ports) => .ok (value b) { k with ports, calls }
      | .error e => .error (failure e) { k with calls }) :
    error? (result (action.run k)) = (k.ports.obstacle? net a).map failure := by
  obtain ⟨calls, hrun⟩ := h
  rw [hrun, Ports.obstacle?]
  cases k.ports.bind net a <;> rfl

theorem Listener.error?_listenOn (h : k.faults = .none) (h' : k'.faults = .none)
    (hbound : k.ports.bound = k'.ports.bound) (a : SocketAddress) :
    error? (result ((listenOn net a).run k)) = error? (result ((listenOn net a).run k')) := by
  rw [error?_of_run (run_listenOn h net a), error?_of_run (run_listenOn h' net a),
    Ports.obstacle?_congr (Ports.hasRoom_congr hbound)]

theorem Server.error?_acquire (h : k.faults = .none) (h' : k'.faults = .none)
    (hbound : k.ports.bound = k'.ports.bound) (a : SocketAddress) :
    error? (result ((acquire net a).run k)) = error? (result ((acquire net a).run k')) := by
  rw [error?_of_run (run_acquire h net a), error?_of_run (run_acquire h' net a),
    Ports.obstacle?_congr (Ports.hasRoom_congr hbound)]

namespace ServerPair

theorem error?_bindHandlers (h : k.faults = .none) (net : Network) (p : Payload) (declares : Bool)
    (chunkedAddress bulkAddress : SocketAddress) :
    error? (result ((bindHandlers net p declares chunkedAddress bulkAddress).run k)) =
      match k.ports.bind net chunkedAddress with
      | .error e => some (.bind chunkedAddress (.ofErrno e))
      | .ok (_, ports) =>
        (ports.obstacle? net bulkAddress).map fun e => .bind bulkAddress (.ofErrno e) := by
  cases hchunked : k.ports.bind net chunkedAddress with
  | error e =>
    obtain ⟨calls, hrun⟩ := run_bindHandlers_of_chunked_error h hchunked p declares
    rw [hrun]
    rfl
  | ok bound =>
    obtain ⟨a, ports⟩ := bound
    cases hbulk : ports.bind net bulkAddress with
    | error e =>
      obtain ⟨calls, hrun⟩ := run_bindHandlers_of_bulk_error h hchunked hbulk p declares
      rw [hrun]
      simp only [Ports.obstacle?, hbulk, result, error?, Option.map_some]
    | ok bound' =>
      obtain ⟨calls, hrun⟩ := run_bindHandlers_of_ok h hchunked hbulk p declares
      rw [hrun]
      simp only [Ports.obstacle?, hbulk, result, error?, Option.map_none]

theorem error?_bindHandlers_congr (h : k.faults = .none) (h' : k'.faults = .none)
    (hbound : k.ports.bound = k'.ports.bound) {chunkedAddress bulkAddress : SocketAddress}
    (hip : bulkAddress.ip = chunkedAddress.ip)
    (hapart : chunkedAddress.port = 0 → ∀ i, bulkAddress.port ≠ Ports.ephemeral i) (p : Payload)
    (declares : Bool) :
    error? (result ((bindHandlers net p declares chunkedAddress bulkAddress).run k)) =
      error? (result ((bindHandlers net p declares chunkedAddress bulkAddress).run k')) := by
  have hchunked : k.ports.obstacle? net chunkedAddress = k'.ports.obstacle? net chunkedAddress :=
    Ports.obstacle?_congr (Ports.hasRoom_congr hbound)
  rw [error?_bindHandlers h, error?_bindHandlers h']
  cases ho : k.ports.obstacle? net chunkedAddress with
  | some e =>
    rw [Ports.obstacle?_eq_some_iff.1 ho, Ports.obstacle?_eq_some_iff.1 (hchunked ▸ ho)]
  | none =>
    obtain ⟨c, u, hbind⟩ := Ports.obstacle?_eq_none_iff.1 ho
    obtain ⟨c', u', hbind'⟩ := Ports.obstacle?_eq_none_iff.1 (hchunked ▸ ho)
    have hroom : u.HasRoom bulkAddress ↔ u'.HasRoom bulkAddress :=
      ⟨Ports.hasRoom_of_bind hbound hbind hbind' hip hapart,
        Ports.hasRoom_of_bind hbound.symm hbind' hbind hip hapart⟩
    rw [hbind, hbind']
    simp only [Ports.obstacle?_congr hroom]

theorem error?_bind {s : Settings} {p : Payload} (hp : s.payload = .ok p) :
    error? (result ((ServerPair.bind net s).run k)) =
      (error? (result ((bindHandlers net p s.declares s.chunkedAddress s.bulkAddress).run
        { k with log := k.log ++ [{ event := sizes p }] }))).map .server := by
  rw [run_bind net hp]
  cases (bindHandlers net p s.declares s.chunkedAddress s.bulkAddress).run
    { k with log := k.log ++ [{ event := sizes p }] } <;> rfl

/-- **What a pair fails with depends on what is in use**, and not on the fresh ports it would get,
unless the chunked server is to get a fresh port and the bulk server asks for an ephemeral one. -/
theorem error?_bind_congr (h : k.faults = .none) (h' : k'.faults = .none)
    (hbound : k.ports.bound = k'.ports.bound) {s : Settings}
    (hapart : s.chunkedPort = 0 → ∀ i, s.bulkPort ≠ Ports.ephemeral i) :
    error? (result ((ServerPair.bind net s).run k)) =
      error? (result ((ServerPair.bind net s).run k')) := by
  cases hp : s.payload with
  | error e =>
    unfold ServerPair.bind
    rw [hp]
    rfl
  | ok p =>
    have hip : s.bulkAddress.ip = s.chunkedAddress.ip := by
      simp [Settings.bulkAddress, Settings.chunkedAddress]
    have hports : s.chunkedAddress.port = 0 → ∀ i, s.bulkAddress.port ≠ Ports.ephemeral i := by
      simpa [Settings.bulkAddress, Settings.chunkedAddress] using hapart
    rw [error?_bind hp, error?_bind hp, error?_bindHandlers_congr _ _ _ hip hports]
    · exact h
    · exact h'
    · exact hbound

end ServerPair

end TwinServers
