import TwinServers.Proofs.Listener.FaultFree

/-!
# Addresses that can be bound

What binding gives for an address that asks for a port of its own, and when two addresses clash. The
IPv6 wildcard clashes with everything on its port, whichever family it is of (`clashes_of_ip_any`),
so it can be bound exactly when its port is not in use (`isFree_iff_of_ip_any`).
-/

namespace TwinServers

/-! ## What is granted -/

/-- Whether an address is one that binding another can give: the same, with the port that was asked
for unless that was 0. -/
structure SocketAddress.GrantedFor (bound a : SocketAddress) : Prop where
  eq_withPort : bound = a.withPort bound.port
  port_eq : a.port ≠ 0 → bound.port = a.port

theorem SocketAddress.GrantedFor.eq {bound a : SocketAddress} (h : bound.GrantedFor a)
    (hport : a.port ≠ 0) : bound = a := by
  rw [h.eq_withPort, h.port_eq hport, withPort_port]

namespace Ports

variable {net : Network} {t t' : Ports} {a b : SocketAddress}

theorem bind_eq_of_port_ne_zero (hassigned : net.assigned a.ip) (hport : a.port ≠ 0) :
    t.bind net a =
      if t.isFree a then .ok (a, { t with bound := a :: t.bound }) else .error .addressInUse := by
  rw [bind, if_neg (by simp [hassigned]), if_neg hport]

theorem assigned_of_bind (h : t.bind net a = .ok (b, t')) : net.assigned a.ip :=
  (cases_of_bind h).1

theorem grantedFor_of_bind (h : t.bind net a = .ok (b, t')) : b.GrantedFor a where
  eq_withPort := (isFree_of_bind h).1
  port_eq hport := by
    obtain ⟨-, -, -, ⟨-, rfl⟩ | ⟨i, hzero, -⟩⟩ := cases_of_bind h
    · rfl
    · exact absurd hzero hport

theorem isFree_iff : t.isFree a ↔ ∀ b ∈ t.bound, a.clashes b = false := by
  simp [isFree]

end Ports

/-! ## What clashes -/

namespace SocketAddress

theorem clashes_self (a : SocketAddress) : a.clashes a := by
  simp [clashes, IpAddress.clashes, IpAddress.covers_self]

theorem clashes_of_ip_any {a : SocketAddress} (h : a.ip = .any) (b : SocketAddress) :
    a.clashes b = (a.port == b.port) := by
  have site : IpAddress.any.site = .any := rfl
  have covers : IpAddress.any.covers b.ip = true := by simp [IpAddress.covers, site]
  rw [clashes, h, IpAddress.clashes, covers, Bool.true_or, Bool.and_true]

theorem clashes_of_ip_any_iff {a : SocketAddress} (h : a.ip = .any) (b : SocketAddress) :
    a.clashes b ↔ b.port = a.port := by
  rw [clashes_of_ip_any h, beq_iff_eq, eq_comm]

end SocketAddress

/-- What is in use is not free. -/
theorem Ports.not_isFree_of_mem {t : Ports} {a : SocketAddress} (h : a ∈ t.bound) :
    ¬t.isFree a := by
  intro free
  exact absurd a.clashes_self (by simp [isFree_iff.1 free a h])

/-- An address with a port that has just been bound cannot be bound again. -/
theorem Ports.bind_eq_error_of_bind {net : Network} {a b : SocketAddress} {t t' : Ports}
    (hport : a.port ≠ 0) (h : t.bind net a = .ok (b, t')) :
    t'.bind net a = .error .addressInUse := by
  have inUse : a ∈ t'.bound := by
    rw [bound_of_bind h, (grantedFor_of_bind h).eq hport]
    exact List.mem_cons_self
  rw [bind_eq_of_port_ne_zero (assigned_of_bind h) hport, if_neg (not_isFree_of_mem inUse)]

theorem Ports.isFree_iff_of_ip_any {t : Ports} {a : SocketAddress} (h : a.ip = .any) :
    t.isFree a ↔ ∀ b ∈ t.bound, b.port ≠ a.port := by
  simp only [isFree_iff, ← Bool.not_eq_true, SocketAddress.clashes_of_ip_any_iff h, ne_eq]

end TwinServers
