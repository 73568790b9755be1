import TwinServers.Program
import TwinServers.Proofs.Payload.Build
import TwinServers.Proofs.Server.Runs

/-!
# Starting on a host where ports are in use

The program listens on the IPv6 wildcard, so it can start exactly when nothing in use has one of its
two ports, at any address of either family. `start_needs_both_ports` says this of the whole program,
with all that is logged and reported: the first port in use is the one that is told.
-/

namespace TwinServers

open Kernel

/-- Whether something in use has a port, at whatever address. -/
def Ports.InUse (t : Ports) (port : UInt16) : Prop := ∃ a ∈ t.bound, a.port = port

instance (t : Ports) (port : UInt16) : Decidable (t.InUse port) :=
  inferInstanceAs (Decidable (∃ a ∈ t.bound, a.port = port))

/-! ## Binding the IPv6 wildcard -/

namespace SocketAddress

/-- The address `[::]` with a port. -/
def everywhere (port : UInt16) : SocketAddress := .v6 .unspecified port 0

theorem exists_clashes_everywhere_iff {t : Ports} {port : UInt16} :
    (∃ a ∈ t.bound, (everywhere port).clashes a) ↔ t.InUse port :=
  exists_congr fun a => and_congr_right fun _ => clashes_of_ip_any_iff rfl a

end SocketAddress

namespace Ports

variable {net : Network} {t : Ports} {port : UInt16}

theorem bind_everywhere_of_inUse (ipv6 : net.assigned .any) (hport : port ≠ 0)
    (h : t.InUse port) : t.bind net (.everywhere port) = .error .addressInUse := by
  rw [bind_eq_of_port_ne_zero (a := .everywhere port) ipv6 hport, if_neg]
  rw [isFree_iff_of_ip_any rfl]
  obtain ⟨a, ha, rfl⟩ := h
  exact fun free => free a ha rfl

theorem bind_everywhere_of_not_inUse (ipv6 : net.assigned .any) (hport : port ≠ 0)
    (h : ¬t.InUse port) :
    t.bind net (.everywhere port) =
      .ok (.everywhere port, { t with bound := .everywhere port :: t.bound }) := by
  rw [bind_eq_of_port_ne_zero (a := .everywhere port) ipv6 hport, if_pos]
  rw [isFree_iff_of_ip_any rfl]
  exact fun a ha hp => h ⟨a, ha, hp⟩

end Ports

/-! ## The standard settings -/

theorem ServerPair.sizes_of_builtFrom {template closing : Bytes} {copies units : UInt64}
    {p : Payload} (h : p.BuiltFrom template closing copies units) :
    sizes p = .builtPayload (template.length * copies.toNat) units.toNat
      (units.toNat * (template.length * copies.toNat) + closing.length) := by
  rw [sizes, Payload.bodyLength, h.unit_eq, h.units_eq, h.closing_eq, Bytes.length_copies]

namespace Settings

/-- The standard payload can be built: 300 copies of 76 bytes, ten times, and a line of 41 bytes. -/
theorem exists_payload_standard :
    ∃ p, ({} : Settings).payload = .ok p ∧ ServerPair.sizes p = .builtPayload 22800 10 228041 := by
  have template : Payload.standardTemplate.length = 76 := by decide
  have closing : Payload.standardClosing.length = 41 := by decide
  have built : Payload.build Payload.standardTemplate Payload.standardClosing 300 10 = .ok _ :=
    Payload.build_of_lt (by rw [template]; decide) (by decide) (by rw [template]; decide)
  refine ⟨_, built, ?_⟩
  rw [ServerPair.sizes_of_builtFrom (Payload.build_eq_ok_iff.1 built), template, closing]
  rfl

end Settings

/-! ## The program -/

namespace Program

variable {net : Network} {inUse : Ports}

theorem run_of_start_error {faults : FaultPlan} {e : StartError} {k : Kernel}
    (h : (ServerPair.start net {}).run { ports := inUse, faults } = .error e k) (date : Bytes)
    (visitors : List Visit) :
    run net inUse faults date visitors =
      .ok { log := k.log, ended := some e, responses := [] } := by
  unfold run
  rw [h]

theorem run_of_start_ok {faults : FaultPlan} {pair : ServerPair} {k : Kernel}
    (h : (ServerPair.start net {}).run { ports := inUse, faults } = .ok pair k) (date : Bytes)
    (visitors : List Visit) :
    run net inUse faults date visitors = do
      let (responses, log) ←
        visits { net, ports := k.ports, pair, faults := k.faults, date } visitors
      return { log := k.log ++ log, ended := none, responses } := by
  unfold run
  rw [h]

/-- What is logged when the program starts on the two ports. -/
def startLog : Log :=
  [{ event := .builtPayload 22800 10 228041 },
    { event := .boundListeners (.everywhere 9000) (.everywhere 9001) },
    { event := .acceptingRequests, spans := [.server .chunked (.everywhere 9000)] },
    { event := .acceptingRequests, spans := [.server .bulk (.everywhere 9001)] }]

/-- The program that could not be bound to a port. -/
def stoppedAt (port : UInt16) : Program where
  log := [{ event := .builtPayload 22800 10 228041 }]
  ended := some (.server (.bind (.everywhere port) (.ofErrno .addressInUse)))
  responses := []

theorem run_of_inUse_chunked (ipv6 : net.assigned .any) (h : inUse.InUse 9000) (date : Bytes)
    (visitors : List Visit) : run net inUse .none date visitors = .ok (stoppedAt 9000) := by
  obtain ⟨p, hp, sizes⟩ := Settings.exists_payload_standard
  obtain ⟨calls, hstart⟩ := ServerPair.run_start_of_chunked_error
    (k := { ports := inUse, faults := .none }) rfl hp
    (Ports.bind_everywhere_of_inUse ipv6 (by decide) h)
  rw [run_of_start_error hstart, sizes]
  rfl

theorem run_of_inUse_bulk (ipv6 : net.assigned .any) (h : ¬inUse.InUse 9000)
    (h' : inUse.InUse 9001) (date : Bytes) (visitors : List Visit) :
    run net inUse .none date visitors = .ok (stoppedAt 9001) := by
  obtain ⟨p, hp, sizes⟩ := Settings.exists_payload_standard
  -- the chunked server is bound by now, which frees nothing
  have still : Ports.InUse { inUse with bound := .everywhere 9000 :: inUse.bound } 9001 := by
    obtain ⟨a, ha, hport⟩ := h'
    exact ⟨a, List.mem_cons_of_mem _ ha, hport⟩
  obtain ⟨calls, hstart⟩ := ServerPair.run_start_of_bulk_error
    (k := { ports := inUse, faults := .none }) rfl hp
    (Ports.bind_everywhere_of_not_inUse ipv6 (by decide) h)
    (Ports.bind_everywhere_of_inUse ipv6 (by decide) still)
  rw [run_of_start_error hstart, sizes]
  rfl

/-- The servers of a program that has started with a payload. -/
def started (net : Network) (inUse : Ports) (date : Bytes) (p : Payload) : Running where
  net
  ports := { inUse with bound := .everywhere 9001 :: .everywhere 9000 :: inUse.bound }
  pair := .listeningOn (.everywhere 9000) (.everywhere 9001) p false
  faults := .none
  date

/-- On a host with both ports free the program starts, and goes on to its visitors. -/
theorem exists_run_of_free (ipv6 : net.assigned .any) (h : ¬inUse.InUse 9000)
    (h' : ¬inUse.InUse 9001) (date : Bytes) :
    ∃ p, ({} : Settings).payload = .ok p ∧
      ∀ visitors, run net inUse .none date visitors = do
        let (responses, log) ← visits (started net inUse date p) visitors
        return { log := startLog ++ log, ended := none, responses } := by
  obtain ⟨p, hp, sizes⟩ := Settings.exists_payload_standard
  -- the address of the chunked server has another port, so it is not in the way of the bulk one
  have still : ¬Ports.InUse { inUse with bound := .everywhere 9000 :: inUse.bound } 9001 := by
    rintro ⟨a, ha, hport⟩
    obtain rfl | ha := List.mem_cons.1 ha
    · exact absurd hport (by decide)
    · exact h' ⟨a, ha, hport⟩
  obtain ⟨calls, hstart⟩ := ServerPair.run_start_of_ok
    (k := { ports := inUse, faults := .none }) rfl hp
    (Ports.bind_everywhere_of_not_inUse ipv6 (by decide) h)
    (Ports.bind_everywhere_of_not_inUse ipv6 (by decide) still)
  refine ⟨p, hp, fun visitors => ?_⟩
  rw [run_of_start_ok hstart, sizes]
  rfl

theorem run_of_inUse (ipv6 : net.assigned .any) (h : inUse.InUse 9000 ∨ inUse.InUse 9001)
    (date : Bytes) (visitors : List Visit) :
    run net inUse .none date visitors =
      .ok (stoppedAt (if inUse.InUse 9000 then 9000 else 9001)) := by
  split
  · next h₀ => exact run_of_inUse_chunked ipv6 h₀ date visitors
  · next h₀ => exact run_of_inUse_bulk ipv6 h₀ (h.resolve_left h₀) date visitors

theorem prefix_log_of_free (ipv6 : net.assigned .any) (h : ¬inUse.InUse 9000)
    (h' : ¬inUse.InUse 9001) {date : Bytes} {visitors : List Visit} {p : Program}
    (hrun : run net inUse .none date visitors = .ok p) : p.ended = none ∧ startLog <+: p.log := by
  obtain ⟨payload, -, hfree⟩ := exists_run_of_free ipv6 h h' date
  rw [hfree] at hrun
  cases hvisits : visits (started net inUse date payload) visitors with
  | error e =>
    rw [hvisits] at hrun
    exact nomatch hrun
  | ok r =>
    rw [hvisits] at hrun
    obtain rfl := Except.ok.inj hrun
    exact ⟨rfl, List.prefix_append _ _⟩

/-- What the program prints about a port that is in use. -/
theorem report_stoppedAt (inUse : Ports) :
    (stoppedAt (if inUse.InUse 9000 then 9000 else 9001)).ended.map report =
      some ("Error: Failed to bind " ++ (if inUse.InUse 9000 then "[::]:9000" else "[::]:9001") ++
        ": Address already in use (os error 98)" ++
        "\n\nCaused by:\n    Address already in use (os error 98)") := by
  split <;> decide

theorem exists_clashes_iff (inUse : Ports) :
    (∃ a ∈ inUse.bound, (SocketAddress.v6 .unspecified 9000 0).clashes a ∨
        (SocketAddress.v6 .unspecified 9001 0).clashes a) ↔
      inUse.InUse 9000 ∨ inUse.InUse 9001 := by
  simp only [and_or_left, exists_or]
  exact or_congr SocketAddress.exists_clashes_everywhere_iff
    SocketAddress.exists_clashes_everywhere_iff

/-- **The program starts exactly when both its ports are free.** What keeps it from starting are the
addresses in use that clash with `[::]:9000` or `[::]:9001`, and these are the ones with port 9000
or 9001, of either family. With one of them in use the program logs the sizes of its payload and
nothing more, and ends with exit code 1 and a report on the first of the two ports that is in use.
Otherwise it does not end: it logs the sizes, both addresses and that each server accepts, and all
else that it logs comes after that. -/
theorem start_needs_both_ports (net : Network) (ipv6 : net.assigned .any) (inUse : Ports)
    (date : Bytes) (visitors : List Visit) :
    ((∃ p, run net inUse .none date visitors = .ok p ∧ p.ended ≠ none) ↔
      ∃ a ∈ inUse.bound, (SocketAddress.v6 .unspecified 9000 0).clashes a ∨
        (SocketAddress.v6 .unspecified 9001 0).clashes a) ∧
    ((∃ a ∈ inUse.bound, (SocketAddress.v6 .unspecified 9000 0).clashes a ∨
        (SocketAddress.v6 .unspecified 9001 0).clashes a) ↔
      inUse.InUse 9000 ∨ inUse.InUse 9001) ∧
    (inUse.InUse 9000 ∨ inUse.InUse 9001 →
      ∃ p, run net inUse .none date visitors = .ok p ∧
        p.log = [{ event := .builtPayload 22800 10 228041 }] ∧ p.exitCode? = some 1 ∧
        p.ended.map report = some ("Error: Failed to bind " ++
          (if inUse.InUse 9000 then "[::]:9000" else "[::]:9001") ++
          ": Address already in use (os error 98)" ++
          "\n\nCaused by:\n    Address already in use (os error 98)")) ∧
    (¬inUse.InUse 9000 → ¬inUse.InUse 9001 →
      (∃ p, run net inUse .none date [] = .ok p ∧ p.ended = none ∧ p.log = startLog) ∧
      ∀ p, run net inUse .none date visitors = .ok p → p.ended = none ∧ startLog <+: p.log) := by
  refine ⟨?_, exists_clashes_iff inUse, fun h => ?_, fun h h' => ⟨?_, fun p hrun => ?_⟩⟩
  · rw [exists_clashes_iff]
    constructor
    · rintro ⟨p, hrun, ended⟩
      refine Decidable.byContradiction fun free => ended ?_
      rw [not_or] at free
      exact (prefix_log_of_free ipv6 free.1 free.2 hrun).1
    · intro h
      exact ⟨_, run_of_inUse ipv6 h date visitors, Option.some_ne_none _⟩
  · exact ⟨_, run_of_inUse ipv6 h date visitors, rfl, rfl, report_stoppedAt inUse⟩
  · obtain ⟨p, -, hfree⟩ := exists_run_of_free ipv6 h h' date
    exact ⟨_, hfree [], rfl, rfl⟩
  · exact prefix_log_of_free ipv6 h h' hrun

/-- With port 9001 in use at an IPv4 address the report is about the second port; with port 9002 in
use instead the program starts. -/
theorem start_needs_both_ports_of_ipv4_listener :
    (∃ p, run .loopback { bound := [.v4 .localhost 9001] } .none [] [] = .ok p ∧
      p.log = [{ event := .builtPayload 22800 10 228041 }] ∧ p.exitCode? = some 1 ∧
      p.ended.map report = some ("Error: Failed to bind [::]:9001: " ++
        "Address already in use (os error 98)\n\nCaused by:\n" ++
        "    Address already in use (os error 98)")) ∧
    ∃ p, run .loopback { bound := [.v4 .localhost 9002] } .none [] [] = .ok p ∧
      p.ended = none ∧ p.log = startLog := by
  constructor
  · obtain ⟨p, hrun, hlog, hexit, hreport⟩ :=
      (start_needs_both_ports .loopback (by decide) { bound := [.v4 .localhost 9001] } [] []).2.2.1
        (.inr (by decide))
    refine ⟨p, hrun, hlog, hexit, hreport.trans ?_⟩
    decide
  · exact ((start_needs_both_ports .loopback (by decide) { bound := [.v4 .localhost 9002] }
      [] []).2.2.2 (by decide) (by decide)).1

end Program

end TwinServers
