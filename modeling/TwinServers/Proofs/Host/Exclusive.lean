import Mathlib.Data.List.Pairwise
import TwinServers.Proofs.Host.Ports

/-!
# Addresses in exclusive use

`Exclusive` says of the addresses in use that no two of them clash and that each could have been
asked for as it is. Whatever binds addresses keeps it so: `KeepsExclusive` holds of binding itself
and is closed under the combinators of actions. An address in exclusive use cannot be bound again
(`Exclusive.bind_eq_error`), and as soon as it is no longer in use it can be
(`Exclusive.bind_eq_ok`).
-/

namespace TwinServers

/-- Whether each of the addresses is used by one listener alone: it is one of the host's own, it has
a port, and it clashes with none of the others. -/
structure Exclusive (net : Network) (bound : List SocketAddress) : Prop where
  apart : bound.Pairwise fun a b => a.clashes b = false
  assigned : ∀ a ∈ bound, net.assigned a.ip
  port_ne_zero : ∀ a ∈ bound, a.port ≠ 0

namespace Exclusive

variable {net : Network} {bound bound' : List SocketAddress} {a b : SocketAddress}

theorem nil : Exclusive net [] := ⟨.nil, nofun, nofun⟩

theorem sublist (h : Exclusive net bound) (hsub : bound'.Sublist bound) : Exclusive net bound' where
  apart := h.apart.sublist hsub
  assigned a ha := h.assigned a (hsub.subset ha)
  port_ne_zero a ha := h.port_ne_zero a (hsub.subset ha)

/-- No address is in use twice, since it would clash with itself. -/
theorem nodup (h : Exclusive net bound) : bound.Nodup :=
  h.apart.imp fun {a b} hclash heq => by
    rw [heq, b.clashes_self] at hclash
    exact nomatch hclash

theorem not_clashes (h : Exclusive net bound) (ha : a ∈ bound) (hb : b ∈ bound) (hne : a ≠ b) :
    a.clashes b = false := by
  have : Std.Symm fun a b : SocketAddress => a.clashes b = false :=
    ⟨fun a b hclash => by rw [SocketAddress.clashes_comm, hclash]⟩
  exact h.apart.forall ha hb hne

variable {t : Ports}

/-- **An address in exclusive use cannot be bound again.** -/
theorem bind_eq_error (h : Exclusive net t.bound) (ha : a ∈ t.bound) :
    t.bind net a = .error .addressInUse := by
  rw [Ports.bind_eq_of_port_ne_zero (h.assigned a ha) (h.port_ne_zero a ha),
    if_neg (Ports.not_isFree_of_mem ha)]

/-- **An address that was in exclusive use and is so no longer can be bound**, whichever of the
others still are. -/
theorem bind_eq_ok (h : Exclusive net bound) (ha : a ∈ bound) (hsub : t.bound ⊆ bound)
    (hgone : a ∉ t.bound) : t.bind net a = .ok (a, { t with bound := a :: t.bound }) := by
  rw [Ports.bind_eq_of_port_ne_zero (h.assigned a ha) (h.port_ne_zero a ha), if_pos]
  rw [Ports.isFree_iff]
  intro b hb
  exact h.not_clashes ha (hsub hb) fun heq => hgone (heq ▸ hb)

end Exclusive

/-! ## Binding -/

namespace Ports

variable {net : Network} {t t' : Ports} {a b : SocketAddress}

/-- No ephemeral port is 0. -/
theorem ephemeral_ne_zero (i : Nat) : ephemeral i ≠ 0 := by
  intro h
  have hport := congrArg UInt16.toNat h
  rw [ephemeral, firstEphemeral, ephemeralCount, Nat.toUInt16_eq, UInt16.toNat_ofNat',
    UInt16.toNat_zero] at hport
  omega

theorem port_ne_zero_of_bind (h : t.bind net a = .ok (b, t')) : b.port ≠ 0 := by
  obtain ⟨-, -, -, ⟨hport, rfl⟩ | ⟨i, -, rfl⟩⟩ := cases_of_bind h
  · exact hport
  · rw [SocketAddress.port_withPort]
    exact ephemeral_ne_zero i

theorem exclusive_of_bind (h : t.bind net a = .ok (b, t')) (ht : Exclusive net t.bound) :
    Exclusive net t'.bound := by
  have granted := grantedFor_of_bind h
  have hip : b.ip = a.ip := by rw [granted.eq_withPort, SocketAddress.ip_withPort]
  have free := isFree_iff.1 (isFree_of_bind h).2
  rw [bound_of_bind h]
  exact {
    apart := List.pairwise_cons.2 ⟨free, ht.apart⟩
    assigned := List.forall_mem_cons.2 ⟨hip ▸ assigned_of_bind h, ht.assigned⟩
    port_ne_zero := List.forall_mem_cons.2 ⟨port_ne_zero_of_bind h, ht.port_ne_zero⟩ }

end Ports

namespace Kernel

variable {ε ε' α β : Type} {net : Network}

/-- Whether an action, when it succeeds, leaves addresses in exclusive use that were so before. -/
def KeepsExclusive (net : Network) (x : Action ε α) : Prop :=
  ∀ k a k', x.run k = .ok a k' → Exclusive net k.ports.bound → Exclusive net k'.ports.bound

/-- What comes into no addresses changes nothing about those in use. -/
theorem Settles.keepsExclusive {x : Action ε α} (h : Settles [] x fun _ => []) :
    KeepsExclusive net x := by
  intro k a k' hx hk
  rw [h.bound_of_ok hx]
  exact hk

theorem keepsExclusive_pure (a : α) : KeepsExclusive net (pure a : Action ε α) :=
  (settles_pure (fun _ => []) a).keepsExclusive

theorem keepsExclusive_throw (e : ε) : KeepsExclusive net (throw e : Action ε α) :=
  fun _ _ _ hx => nomatch hx

theorem KeepsExclusive.bind {x : Action ε α} {f : α → Action ε β} (hx : KeepsExclusive net x)
    (hf : ∀ a, KeepsExclusive net (f a)) : KeepsExclusive net (x >>= f) := by
  intro k b k'' h hk
  obtain ⟨a, k', h, h'⟩ := run_bind_eq_ok.1 h
  exact hf a k' b k'' h' (hx k a k' h hk)

theorem KeepsExclusive.holding {x : Action ε α} (hx : KeepsExclusive net x) (held : SocketAddress) :
    KeepsExclusive net (holding held x) :=
  fun k a k' h => hx k a k' (run_holding_eq_ok.1 h)

theorem KeepsExclusive.explaining {x : Action ε α} (hx : KeepsExclusive net x) (f : ε → ε') :
    KeepsExclusive net (explaining f x) :=
  fun k a k' h => hx k a k' (run_explaining_eq_ok.1 h)

theorem keepsExclusive_bind (net : Network) (a : SocketAddress) :
    KeepsExclusive net (Kernel.bind net a) := by
  intro k b k' h hk
  unfold EStateM.run Kernel.bind perform at h
  split at h
  · exact nomatch h
  · split at h
    · exact nomatch h
    · next ports hbind =>
      cases h
      exact Ports.exclusive_of_bind hbind hk

end Kernel

end TwinServers
