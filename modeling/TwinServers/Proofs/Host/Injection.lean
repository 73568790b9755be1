import TwinServers.Proofs.Host.Records

/-!
# Plans that inject nothing

A plan of failures matters to a run only through the failures that it injects, and each of these is
on record. `Unaffected` says so of an action: a run on whose record no call was made to fail is also
the run without a plan. It holds of every call and is closed under the combinators of actions, so it
holds of whatever is put together from them.
-/

namespace TwinServers

/-- Whether no call was made to fail. -/
def Unforced (calls : List MadeCall) : Prop := ∀ m ∈ calls, ∀ e, m.outcome ≠ .injected e

/-- Whether a call was made to fail. -/
def Outcome.isInjected : Outcome → Bool
  | .injected _ => true
  | _ => false

theorem unforced_iff {calls : List MadeCall} :
    Unforced calls ↔ ∀ m ∈ calls, m.outcome.isInjected = false := by
  refine forall₂_congr fun m _ => ?_
  cases m.outcome <;> simp [Outcome.isInjected]

instance (calls : List MadeCall) : Decidable (Unforced calls) := decidable_of_iff' _ unforced_iff

theorem unforced_append {calls calls' : List MadeCall} :
    Unforced (calls ++ calls') ↔ Unforced calls ∧ Unforced calls' :=
  List.forall_mem_append

namespace Kernel

variable {ε ε' α β : Type}

/-- The kernel without its plan of failures. -/
def unplanned (k : Kernel) : Kernel := { k with faults := .none }

/-- The end of a run, without the rest of the plan. -/
def spared : EStateM.Result ε Kernel α → EStateM.Result ε Kernel α
  | .ok a k => .ok a k.unplanned
  | .error e k => .error e k.unplanned

/-- Whether a plan of failures changes nothing about an action, unless it makes a call fail. -/
def Unaffected (x : Action ε α) : Prop :=
  ∀ k, ∃ calls, (final (x.run k)).calls = k.calls ++ calls ∧
    (Unforced calls → x.run k.unplanned = spared (x.run k))

theorem unaffected_pure (a : α) : Unaffected (pure a : Action ε α) := fun _ =>
  ⟨[], (List.append_nil _).symm, fun _ => rfl⟩

theorem unaffected_throw (e : ε) : Unaffected (throw e : Action ε α) := fun _ =>
  ⟨[], (List.append_nil _).symm, fun _ => rfl⟩

theorem unaffected_record (event : Event) : Unaffected (record event : Action ε Unit) := fun _ =>
  ⟨[], (List.append_nil _).symm, fun _ => rfl⟩

theorem unaffected_perform (c : Call) (run : Ports → Except Errno (α × Ports)) :
    Unaffected (perform c run) := by
  intro k
  unfold EStateM.run perform
  rcases k.faults.next c.kind with ⟨_ | e, faults⟩
  · cases h : run k.ports with
    | ok r => exact ⟨[_], rfl, fun _ => by simp only [unplanned, FaultPlan.next, h]; rfl⟩
    | error e => exact ⟨[_], rfl, fun _ => by simp only [unplanned, FaultPlan.next, h]; rfl⟩
  · exact ⟨[_], rfl, fun unforced => absurd rfl (unforced _ (List.mem_singleton_self _) e)⟩

/-- An action that comes after calls of another, seen together with these. -/
private theorem Unaffected.after {y : Action ε α} (hy : Unaffected y) {k k' : Kernel}
    {calls : List MadeCall} (hcalls : k'.calls = k.calls ++ calls)
    {r : EStateM.Result ε Kernel α} (same : Unforced calls → r = y.run k'.unplanned) :
    ∃ calls, (final (y.run k')).calls = k.calls ++ calls ∧
      (Unforced calls → r = spared (y.run k')) := by
  obtain ⟨calls', hcalls', same'⟩ := hy k'
  refine ⟨calls ++ calls', by rw [hcalls', hcalls, List.append_assoc], fun unforced => ?_⟩
  obtain ⟨unforced, unforced'⟩ := unforced_append.1 unforced
  rw [same unforced, same' unforced']

theorem Unaffected.bind {x : Action ε α} {f : α → Action ε β} (hx : Unaffected x)
    (hf : ∀ a, Unaffected (f a)) : Unaffected (x >>= f) := by
  intro k
  obtain ⟨calls, hcalls, same⟩ := hx k
  rw [run_bind, run_bind]
  cases h : x.run k with
  | ok a k' =>
    rw [h] at hcalls same
    exact (hf a).after hcalls fun unforced => by rw [same unforced]; rfl
  | error e k' =>
    rw [h] at hcalls same
    exact ⟨calls, hcalls, fun unforced => by rw [same unforced]; rfl⟩

theorem Unaffected.tryCatch {x : Action ε α} {f : ε → Action ε α} (hx : Unaffected x)
    (hf : ∀ e, Unaffected (f e)) : Unaffected (tryCatch x f) := by
  intro k
  obtain ⟨calls, hcalls, same⟩ := hx k
  rw [run_tryCatch, run_tryCatch]
  cases h : x.run k with
  | ok a k' =>
    rw [h] at hcalls same
    exact ⟨calls, hcalls, fun unforced => by rw [same unforced]; rfl⟩
  | error e k' =>
    rw [h] at hcalls same
    exact (hf e).after hcalls fun unforced => by rw [same unforced]; rfl

theorem Unaffected.holding {x : Action ε α} (hx : Unaffected x) (held : SocketAddress) :
    Unaffected (holding held x) := by
  refine hx.tryCatch fun e => Unaffected.bind (fun k => ?_) fun _ => unaffected_throw e
  exact ⟨[], (List.append_nil _).symm, fun _ => rfl⟩

theorem Unaffected.explaining {x : Action ε α} (hx : Unaffected x) (f : ε → ε') :
    Unaffected (explaining f x) := by
  intro k
  obtain ⟨calls, hcalls, same⟩ := hx k
  rw [run_explaining, run_explaining]
  cases h : x.run k <;> rw [h] at hcalls same <;>
    exact ⟨calls, hcalls, fun unforced => by rw [same unforced]; rfl⟩

/-- What a run comes to, in which no call was made to fail, is what it comes to without a plan. -/
theorem Unaffected.result_eq {x : Action ε α} (hx : Unaffected x) {k : Kernel}
    {calls : List MadeCall} (hcalls : (final (x.run k)).calls = k.calls ++ calls)
    (unforced : Unforced calls) : result (x.run k) = result (x.run k.unplanned) := by
  obtain ⟨calls', hcalls', same⟩ := hx k
  obtain rfl := List.append_cancel_left (hcalls.symm.trans hcalls')
  rw [same unforced]
  cases x.run k <;> rfl

end Kernel

end TwinServers
