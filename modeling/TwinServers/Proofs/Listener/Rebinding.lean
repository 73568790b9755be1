import TwinServers.Proofs.Listener.Exclusive

/-!
# Binding an address again

An address that a step has bound stays in use until its name is given up, and cannot be bound again
before that; from then on it can. `bound_addresses_are_exclusive` says so after any history of a
bench, of steps in which no call was made to fail. Such a step comes to what it comes to without a
plan of failures (`step_of_unforced`), and then all depends on the ports in use
(`result_step_listener`).
-/

namespace TwinServers

open Kernel

namespace Bench

variable {net : Network} {b : Bench} {faults : FaultPlan} {op : Op} {name : String}

/-! ## Steps without failures -/

section Binding

variable {ε α : Type} {action : Action ε α} {holding : α → Holding} {result : α → Result}
  {failure : ε → StartError}

theorem bindAs_of_unforced (unaffected : Unaffected action)
    (h : Unforced (b.bindAs net faults name action holding result failure).1.calls) :
    b.bindAs net faults name action holding result failure =
      b.bindAs net .none name action holding result failure := by
  obtain ⟨calls, hcalls, same⟩ := unaffected { ports := b.ports, faults }
  have hmade : (final (action.run { ports := b.ports, faults })).calls =
      (b.bindAs net faults name action holding result failure).1.calls := by
    unfold bindAs
    cases action.run { ports := b.ports, faults } <;> rfl
  have hsame : action.run { ports := b.ports, faults := .none } =
      spared (action.run { ports := b.ports, faults }) := by
    refine same ?_
    rw [← List.nil_append calls, ← hcalls, hmade]
    exact h
  unfold bindAs
  rw [hsame]
  cases action.run { ports := b.ports, faults } <;> rfl

/-- What holds of the addresses that the action binds holds of those that the step binds. -/
theorem forall_mem_zip_bindAs {requests : List SocketAddress}
    {P : SocketAddress × SocketAddress → Prop}
    (h : ∀ a k, action.run { ports := b.ports, faults } = .ok a k →
      ∀ x ∈ requests.zip (result a).addresses, P x) :
    ∀ x ∈ requests.zip (b.bindAs net faults name action holding result failure).1.result.addresses,
      P x := by
  unfold bindAs
  cases hrun : action.run { ports := b.ports, faults } with
  | ok a k => exact h a k hrun
  | error e k =>
    rw [show (Result.failed (failure e)).addresses = [] from rfl, List.zip_nil_right]
    exact nofun

end Binding

/-- A step in which no call was made to fail is the step without a plan. -/
theorem step_of_unforced (h : Unforced (b.step net faults op).1.calls) :
    b.step net faults op = b.step net .none op := by
  cases op with
  | listener name a portOf => exact bindAs_of_unforced (Listener.unaffected_listenOn net _) h
  | server name a portOf => exact bindAs_of_unforced (Server.unaffected_acquire net _) h
  | pair name s chunkedPortOf bulkPortOf =>
    exact bindAs_of_unforced (ServerPair.unaffected_bind net _) h
  | drop name => rfl
  | connect name via => rfl

/-- What comes of a listener depends on whether its address can be bound. -/
theorem result_step_listener (h : Unforced (b.step net faults (.listener name a none)).1.calls) :
    (b.step net faults (.listener name a none)).1.result =
      match b.ports.bind net a with
      | .ok (bound, _) => .bound bound
      | .error e => .failed (.server (.bind a (.ofErrno e))) := by
  rw [step_of_unforced h]
  obtain ⟨calls, hrun⟩ :=
    Listener.run_listenOn (k := { ports := b.ports, faults := .none }) rfl net a
  have asked : a.withPort (b.portFor a.port none) = a := a.withPort_port
  unfold step
  simp only [asked]
  unfold bindAs
  rw [hrun]
  cases b.ports.bind net a <;> rfl

/-! ## What is granted -/

theorem grantedFor_of_pair {s : Settings} {pair : ServerPair} {k k' : Kernel}
    (h : k.faults = .none) (hrun : (ServerPair.bind net s).run k = .ok pair k') :
    pair.chunked.address.GrantedFor s.chunkedAddress ∧
      pair.bulk.address.GrantedFor s.bulkAddress := by
  obtain ⟨payload, -, hrun⟩ := ServerPair.exists_bindHandlers_of_bind hrun
  obtain ⟨ports, hchunked, hbulk⟩ := ServerPair.ports_of_bindHandlers (by exact h) hrun
  exact ⟨Ports.grantedFor_of_bind hchunked, Ports.grantedFor_of_bind hbulk⟩

/-- Without failures, each address that a step binds is one that was asked for. -/
theorem grantedFor_of_step (h : Unforced (b.step net faults op).1.calls) :
    ∀ x ∈ (op.requests b).zip (b.step net faults op).1.result.addresses, x.2.GrantedFor x.1 := by
  rw [step_of_unforced h]
  cases op with
  | listener name a portOf =>
    refine forall_mem_zip_bindAs fun bound k hrun => ?_
    obtain ⟨_, rfl, -, hports⟩ := ports_of_run (Listener.run_listenOn rfl net _) hrun
    exact List.forall_mem_singleton.2 (Ports.grantedFor_of_bind hports)
  | server name a portOf =>
    refine forall_mem_zip_bindAs fun bound k hrun => ?_
    obtain ⟨_, rfl, -, hports⟩ := ports_of_run (Server.run_acquire rfl net _) hrun
    exact List.forall_mem_singleton.2 (Ports.grantedFor_of_bind hports)
  | pair name s chunkedPortOf bulkPortOf =>
    refine forall_mem_zip_bindAs fun pair k hrun => ?_
    obtain ⟨chunked, bulk⟩ := grantedFor_of_pair rfl hrun
    exact List.forall_mem_cons.2 ⟨chunked, List.forall_mem_singleton.2 bulk⟩
  | drop name => exact nofun
  | connect name via => exact nofun

/-! ## Binding again -/

variable {a : SocketAddress}

/-- What a step has bound is held under its name. -/
theorem heldAt_step_of_bound (h : (b.step net faults op).1.result.addresses ≠ []) :
    (b.step net faults op).2.heldAt op.name = (b.step net faults op).1.result.addresses := by
  obtain ⟨none, -⟩ | ⟨-, t, replaced⟩ := cases_step net b faults op
  · exact absurd ⟨rfl, .inr h⟩ (none op.name)
  · rw [replaced.heldAt_eq, if_pos rfl]

theorem Orderly.result_step_of_held (h : Orderly net b) {holder : String}
    (ha : a ∈ b.heldAt holder)
    (unforced : Unforced (b.step net faults (.listener name a none)).1.calls) :
    (b.step net faults (.listener name a none)).1.result =
      .failed (.server (.bind a (.ofErrno .addressInUse))) := by
  rw [result_step_listener unforced, h.exclusive.bind_eq_error (h.heldAt_subset holder ha)]

/-- What is given up can be bound at once, also where a step has bound something else instead. -/
theorem Orderly.result_step_of_givesUp (h : Orderly net b) {holder : String}
    (ha : a ∈ b.heldAt holder) (gives : GivesUp holder op (b.step net faults op).1.result)
    {faults' : FaultPlan} (unforced :
      Unforced ((b.step net faults op).2.step net faults' (.listener name a none)).1.calls) :
    ((b.step net faults op).2.step net faults' (.listener name a none)).1.result = .bound a := by
  obtain rfl := gives.1
  obtain ⟨none, -⟩ | ⟨-, t, replaced⟩ := cases_step net b faults op
  · exact absurd gives (none op.name)
  · have exclusive := replaced.exclusive h.exclusive
    have wasBound : a ∈ t.bound :=
      replaced.perm.mem_iff.2 (List.mem_append_right _ (h.heldAt_subset op.name ha))
    have stillBound : (b.step net faults op).2.ports.bound ⊆ t.bound := by
      rw [replaced.bound_eq]
      exact List.diff_subset _ _
    have gone : a ∉ (b.step net faults op).2.ports.bound := by
      rw [replaced.bound_eq, exclusive.nodup.mem_sdiff_iff]
      exact fun left => left.2 ha
    rw [result_step_listener unforced, exclusive.bind_eq_ok wasBound stillBound gone]

/-- **A bound address is in exclusive use until it is given up, and then free at once.** After any
history of a bench, let a step in which no call was made to fail bind an address that was asked for.
It is of the address asked for and has the port asked for, or some port if that was 0. Whatever is
done then, as long as no step gives up what was bound: the address cannot be bound again, under any
name, and trying to changes nothing. As soon as a step gives it up, the address can be bound. -/
theorem bound_addresses_are_exclusive (net : Network) (before : List (FaultPlan × Op))
    (faults : FaultPlan) (op : Op) :
    let b := Bench.after net {} before
    let answer := (b.step net faults op).1
    Unforced answer.calls →
    ∀ requested address, (requested, address) ∈ (op.requests b).zip answer.result.addresses →
      (address.ip = requested.ip ∧ (requested.port ≠ 0 → address.port = requested.port) ∧
        address.port ≠ 0) ∧
      ∀ later,
        let b₁ := (b.step net faults op).2
        (∀ x ∈ (later.map Prod.snd).zip (b₁.run net later), ¬GivesUp op.name x.1 x.2.result) →
        let b' := b₁.after net later
        (∀ name faults,
          let again := b'.step net faults (.listener name address none)
          Unforced again.1.calls →
          again.1.result = .failed (.server (.bind address (.ofErrno .addressInUse))) ∧
            again.2 = b') ∧
        ∀ faults' op',
          let last := b'.step net faults' op'
          GivesUp op.name op' last.1.result →
          ∀ name faults,
            let again := last.2.step net faults (.listener name address none)
            Unforced again.1.calls → again.1.result = .bound address := by
  intro b answer unforced requested address hmem
  have granted : address.GrantedFor requested := grantedFor_of_step unforced _ hmem
  have bound : address ∈ answer.result.addresses := (List.of_mem_zip hmem).2
  have orderly : Orderly net (b.step net faults op).2 :=
    ((orderly_empty net).after before).step faults op
  have held : address ∈ (b.step net faults op).2.heldAt op.name := by
    rw [heldAt_step_of_bound (List.ne_nil_of_mem bound)]
    exact bound
  have port_ne_zero : address.port ≠ 0 :=
    orderly.exclusive.port_ne_zero address (orderly.heldAt_subset op.name held)
  refine ⟨⟨?_, granted.port_eq, port_ne_zero⟩, ?_⟩
  · rw [granted.eq_withPort, SocketAddress.ip_withPort]
  · intro later b₁ kept b'
    have orderly' : Orderly net b' := orderly.after later
    have held' : address ∈ b'.heldAt op.name := by
      rw [heldAt_after later kept]
      exact held
    refine ⟨fun name faults unforced => ?_, fun faults' op' gives name faults => ?_⟩
    · have failed := orderly'.result_step_of_held held' unforced
      have asked : ∀ a ∈ Op.requests b' (.listener name address none), a.port ≠ 0 :=
        List.forall_mem_singleton.2 (by rwa [SocketAddress.port_withPort])
      exact ⟨failed, step_of_failed (.inr asked) failed⟩
    · exact orderly'.result_step_of_givesUp held' gives

/-- Here another name is dropped and tries to take the address before the first one is dropped. -/
theorem bound_addresses_are_exclusive_of_two_names :
    let a : SocketAddress := .v4 .localhost 80
    let before : List (FaultPlan × Op) := [(.none, .server "second" (.v4 .localhost 81) none)]
    let first : Op := .listener "first" a none
    let later : List (FaultPlan × Op) := [(.none, .drop "second"), (.none, .server "second" a none)]
    let b := Bench.after .loopback {} before
    let b' := (b.step .loopback .none first).2.after .loopback later
    let last := b'.step .loopback .none (.drop "first")
    (b'.step .loopback .none (.listener "second" a none)).1.result =
        .failed (.server (.bind a (.ofErrno .addressInUse))) ∧
      (last.2.step .loopback .none (.listener "second" a none)).1.result = .bound a := by
  intro a before first later b b' last
  obtain ⟨-, exclusive⟩ := bound_addresses_are_exclusive .loopback before .none first
    (by decide +kernel) a a (by decide +kernel)
  obtain ⟨inUse, free⟩ := exclusive later (by decide +kernel)
  exact ⟨(inUse "second" .none (by decide +kernel)).1,
    free .none (.drop "first") (by decide +kernel) "second" .none (by decide +kernel)⟩

end Bench

end TwinServers
