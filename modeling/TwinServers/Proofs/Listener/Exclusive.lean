import Mathlib.Data.List.Nodup
import TwinServers.Proofs.Host.Exclusive
import TwinServers.Proofs.Listener.AllOrNothing
import TwinServers.Proofs.Server.Pair

/-!
# Exclusive use on a bench

On a bench, what is held under names is in use, each address under one name and by one listener
alone: `Orderly`. A step is `Undone`, or it puts something new under its name in place of what was
held there, or nothing at all when the name is dropped; `Replaced` is what is then true of the
addresses, and every step keeps a bench orderly (`Orderly.after`).
-/

namespace TwinServers

open Kernel

/-! ## Binding keeps addresses in exclusive use -/

theorem Listener.keepsExclusive_openAt (net : Network) (a : SocketAddress) :
    KeepsExclusive net (openAt net a) :=
  (settles_prepare a).keepsExclusive.bind fun target =>
    (keepsExclusive_bind net target).bind fun bound =>
      KeepsExclusive.holding ((settles_call _).keepsExclusive.bind fun _ =>
        (settles_call _).keepsExclusive.bind fun _ => keepsExclusive_pure bound) bound

theorem Listener.keepsExclusive_listenOn (net : Network) (a : SocketAddress) :
    KeepsExclusive net (listenOn net a) :=
  (keepsExclusive_openAt net a).explaining _

theorem Server.keepsExclusive_acquire (net : Network) (a : SocketAddress) :
    KeepsExclusive net (acquire net a) :=
  KeepsExclusive.explaining ((Listener.keepsExclusive_openAt net a).bind fun bound =>
    ((settles_call _).keepsExclusive.holding bound).bind fun _ => keepsExclusive_pure bound) _

theorem Server.keepsExclusive_bind (net : Network) (a : SocketAddress) (handler : Handler) :
    KeepsExclusive net (Server.bind net a handler) :=
  (keepsExclusive_acquire net a).bind fun _ => keepsExclusive_pure _

theorem ServerPair.keepsExclusive_bind (net : Network) (s : Settings) :
    KeepsExclusive net (ServerPair.bind net s) := by
  unfold ServerPair.bind
  split
  · exact keepsExclusive_throw _
  · refine (settles_record _).keepsExclusive.bind fun _ => KeepsExclusive.explaining ?_ _
    exact (Server.keepsExclusive_bind net _ _).bind fun chunked =>
      ((Server.keepsExclusive_bind net _ _).holding chunked.address).bind fun _ =>
        keepsExclusive_pure _

theorem Holding.addresses_ne_nil (h : Holding) : h.addresses ≠ [] := by
  cases h <;> exact List.cons_ne_nil _ _

namespace Bench

/-! ## What is held -/

/-- The addresses that are bound under a name. -/
def heldAt (b : Bench) (name : String) : List SocketAddress :=
  (b.held.get? name).elim [] Holding.addresses

/-- The addresses that a step has bound, as its result tells. -/
def Result.addresses : Result → List SocketAddress
  | .bound a => [a]
  | .boundPair chunked bulk => [chunked, bulk]
  | _ => []

/-- The name that a step is about. -/
def Op.name : Op → String
  | .listener name .. | .server name .. | .pair name .. | .drop name | .connect name _ => name

/-- Whether a step has given up what was held under a name: it has dropped the name, or has bound
something else under it. -/
def GivesUp (name : String) (op : Op) (result : Result) : Prop :=
  op.name = name ∧ ((∃ wasBound, result = .dropped wasBound) ∨ result.addresses ≠ [])

instance (name : String) (op : Op) (result : Result) : Decidable (GivesUp name op result) :=
  inferInstanceAs (Decidable (_ ∧ _))

/-- Whether every address that is held is in use, under one name and by one listener alone. -/
structure Orderly (net : Network) (b : Bench) : Prop where
  exclusive : Exclusive net b.ports.bound
  heldAt_subset : ∀ name, b.heldAt name ⊆ b.ports.bound
  disjoint : ∀ name name', name ≠ name' → (b.heldAt name).Disjoint (b.heldAt name')

theorem Undone.heldAt_eq {b b' : Bench} (h : Undone b b') (name : String) :
    b'.heldAt name = b.heldAt name := by
  unfold heldAt
  rw [h.held_eq]

theorem Undone.orderly {net : Network} {b b' : Bench} (u : Undone b b') (h : Orderly net b) :
    Orderly net b' where
  exclusive := u.bound_eq ▸ h.exclusive
  heldAt_subset name := by
    rw [u.heldAt_eq, u.bound_eq]
    exact h.heldAt_subset name
  disjoint name name' hne := by
    rw [u.heldAt_eq, u.heldAt_eq]
    exact h.disjoint name name' hne

/-- What is true of the addresses after something new was bound under a name: `t` are the ports in
use when it was bound and the old was not yet given up. -/
structure Replaced (net : Network) (b : Bench) (name : String) (new : List SocketAddress)
    (b' : Bench) (t : Ports) : Prop where
  perm : t.bound.Perm (new ++ b.ports.bound)
  exclusive : Exclusive net b.ports.bound → Exclusive net t.bound
  bound_eq : b'.ports.bound = t.bound.diff (b.heldAt name)
  heldAt_eq : ∀ m, b'.heldAt m = if m = name then new else b.heldAt m

theorem Replaced.orderly {net : Network} {b b' : Bench} {name : String}
    {new : List SocketAddress} {t : Ports} (r : Replaced net b name new b' t)
    (h : Orderly net b) : Orderly net b' := by
  have texcl := r.exclusive h.exclusive
  have nodup : (new ++ b.ports.bound).Nodup := r.perm.nodup_iff.1 texcl.nodup
  have fresh : new.Disjoint b.ports.bound := (List.nodup_append'.1 nodup).2.2
  have mem_iff : ∀ a, a ∈ b'.ports.bound ↔ a ∈ t.bound ∧ a ∉ b.heldAt name := fun a => by
    rw [r.bound_eq, texcl.nodup.mem_sdiff_iff]
  refine ⟨?_, fun m a ha => ?_, fun m m' hne => ?_⟩
  · rw [r.bound_eq]
    exact texcl.sublist (List.diff_sublist _ _)
  · rw [r.heldAt_eq] at ha
    rw [mem_iff, r.perm.mem_iff, List.mem_append]
    split at ha
    · exact ⟨.inl ha, fun hold => fresh ha (h.heldAt_subset name hold)⟩
    · next hne =>
      exact ⟨.inr (h.heldAt_subset m ha), h.disjoint m name hne ha⟩
  · rw [r.heldAt_eq, r.heldAt_eq]
    split
    · next hm =>
      rw [if_neg fun hm' => hne (hm.trans hm'.symm)]
      exact fun a ha ha' => fresh ha (h.heldAt_subset m' ha')
    · split
      · exact fun a ha ha' => fresh ha' (h.heldAt_subset m ha)
      · exact h.disjoint m m' hne

/-! ## Steps -/

theorem bound_releaseName (b : Bench) (name : String) :
    (b.releaseName name).bound = b.ports.bound.diff (b.heldAt name) := by
  unfold releaseName heldAt
  generalize (b.held.get? name).elim [] Holding.addresses = addresses
  generalize b.ports = t
  induction addresses generalizing t with
  | nil => rfl
  | cons a addresses ih => rw [List.foldl_cons, ih, List.diff_cons, Ports.release]

variable {net : Network} {b : Bench} {faults : FaultPlan} {op : Op} {name : String}

section Binding

variable {ε α : Type} {action : Action ε α} {kept : α → List SocketAddress}
  {holding : α → Holding} {result : α → Result} {failure : ε → StartError}

/-- Binding something on a bench fails and is undone, or replaces what was held. -/
theorem cases_bindAs (settled : Settles [] action kept) (exclusive : KeepsExclusive net action)
    (hkept : ∀ a, (kept a).Perm (holding a).addresses)
    (hresult : ∀ a, (result a).addresses = (holding a).addresses) :
    let step := b.bindAs net faults name action holding result failure
    (∃ e, step.1.result = .failed e) ∧ Undone b step.2 ∨
      step.1.result.addresses ≠ [] ∧
        ∃ t, Replaced net b name step.1.result.addresses step.2 t := by
  unfold bindAs
  cases hrun : action.run { ports := b.ports, faults } with
  | ok a k =>
    refine .inr ⟨?_, k.ports, ?_⟩
    · rw [hresult a]
      exact (holding a).addresses_ne_nil
    · exact {
        perm := by
          rw [settled.bound_of_ok hrun, hresult a]
          exact (hkept a).append_right _
        exclusive := exclusive _ a k hrun
        bound_eq := bound_releaseName _ name
        heldAt_eq := fun m => by
          rw [hresult a]
          unfold heldAt hold
          rw [Registry.get?_insert]
          split <;> rfl }
  | error e k => exact .inl ⟨⟨_, rfl⟩, settled.bound_of_error hrun, rfl, rfl⟩

end Binding

/-- What a step that binds something gives up, as its result tells. -/
theorem cases_step_of_cases {result : Result} {b' : Bench}
    (h : (∃ e, result = .failed e) ∧ Undone b b' ∨
      result.addresses ≠ [] ∧ ∃ t, Replaced net b op.name result.addresses b' t) :
    (∀ name, ¬GivesUp name op result) ∧ Undone b b' ∨
      GivesUp op.name op result ∧ ∃ t, Replaced net b op.name result.addresses b' t := by
  refine h.imp ?_ fun ⟨hbound, replaced⟩ => ⟨⟨rfl, .inr hbound⟩, replaced⟩
  rintro ⟨⟨e, rfl⟩, undone⟩
  refine ⟨?_, undone⟩
  rintro name ⟨-, ⟨wasBound, h⟩ | h⟩
  · exact nomatch h
  · exact h rfl

/-- Dropping a name replaces what was held under it by nothing. -/
theorem replaced_drop (net : Network) (b : Bench) (name : String) :
    Replaced net b name []
      { b with ports := b.releaseName name, held := b.held.erase name } b.ports where
  perm := .refl _
  exclusive := id
  bound_eq := bound_releaseName b name
  heldAt_eq m := by
    unfold heldAt
    rw [Registry.get?_erase]
    split <;> rfl

/-- **What a step can do**: it gives nothing up and is undone, or it replaces what was held under
its name by what it has bound, which is nothing when it drops the name. -/
theorem cases_step (net : Network) (b : Bench) (faults : FaultPlan) (op : Op) :
    let step := b.step net faults op
    (∀ name, ¬GivesUp name op step.1.result) ∧ Undone b step.2 ∨
      GivesUp op.name op step.1.result ∧
        ∃ t, Replaced net b op.name step.1.result.addresses step.2 t := by
  cases op with
  | listener name a portOf =>
    exact cases_step_of_cases <| cases_bindAs (Listener.settles_listenOn net _)
      (Listener.keepsExclusive_listenOn net _) (fun _ => .refl _) fun _ => rfl
  | server name a portOf =>
    exact cases_step_of_cases <| cases_bindAs (Server.settles_acquire net _)
      (Server.keepsExclusive_acquire net _) (fun _ => .refl _) fun _ => rfl
  | pair name s chunkedPortOf bulkPortOf =>
    exact cases_step_of_cases <| cases_bindAs (ServerPair.settles_bind net _)
      (ServerPair.keepsExclusive_bind net _) (fun _ => .swap ..) fun _ => rfl
  | drop name => exact .inr ⟨⟨rfl, .inl ⟨_, rfl⟩⟩, _, replaced_drop net b name⟩
  | connect name via =>
    refine .inl ⟨?_, rfl, rfl, rfl⟩
    rintro name ⟨-, h⟩
    change (∃ wasBound, b.connect net _ via = _) ∨ (b.connect net _ via).addresses ≠ [] at h
    unfold connect at h
    split at h
    · split at h <;> simp [Result.addresses] at h
    · simp [Result.addresses] at h

/-! ## Runs -/

theorem orderly_empty (net : Network) : Orderly net {} where
  exclusive := .nil
  heldAt_subset _ := List.nil_subset _
  disjoint _ _ _ := List.disjoint_nil_left _

theorem Orderly.step (h : Orderly net b) (faults : FaultPlan) (op : Op) :
    Orderly net (b.step net faults op).2 := by
  obtain ⟨-, undone⟩ | ⟨-, t, replaced⟩ := cases_step net b faults op
  · exact undone.orderly h
  · exact replaced.orderly h

/-- **Every step keeps a bench orderly.** -/
theorem Orderly.after (h : Orderly net b) (ops : List (FaultPlan × Op)) :
    Orderly net (b.after net ops) := by
  induction ops generalizing b with
  | nil => exact h
  | cons op ops ih => exact ih (h.step op.1 op.2)

/-- What is held under a name stays so as long as no step gives it up. -/
theorem heldAt_step (h : ¬GivesUp name op (b.step net faults op).1.result) :
    (b.step net faults op).2.heldAt name = b.heldAt name := by
  obtain ⟨-, undone⟩ | ⟨gives, t, replaced⟩ := cases_step net b faults op
  · exact undone.heldAt_eq name
  · rw [replaced.heldAt_eq, if_neg]
    rintro rfl
    exact h gives

theorem heldAt_after (ops : List (FaultPlan × Op))
    (h : ∀ x ∈ (ops.map Prod.snd).zip (b.run net ops), ¬GivesUp name x.1 x.2.result) :
    (b.after net ops).heldAt name = b.heldAt name := by
  induction ops generalizing b with
  | nil => rfl
  | cons op ops ih =>
    obtain ⟨first, later⟩ := List.forall_mem_cons.1 h
    exact (ih later).trans (heldAt_step first)

end Bench

end TwinServers
