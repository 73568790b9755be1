import TwinServers.Proofs.Host.Ports
import TwinServers.Proofs.Server.Pair

/-!
# Runs of a pair

How binding a pair and starting the program run, given how the two binds do: `run_bind` and
`run_start`. When no call is planned to fail, all depends on whether the two addresses can be bound,
the second one after the first. There are then three ways to go, for the two binds
(`run_bindHandlers_of_ok` and the lemmas before it) and for the whole start (`run_start_of_ok` and
the lemmas before it).
-/

namespace TwinServers.ServerPair

open Kernel

variable {s : Settings} {p : Payload}

/-- The pair that answers with a payload at two addresses. -/
def listeningOn (chunked bulk : SocketAddress) (p : Payload) (declares : Bool) : ServerPair where
  chunked := { address := chunked, handler := { delivery := .chunked, payload := p, declares } }
  bulk := { address := bulk, handler := { delivery := .bulk, payload := p, declares } }

/-- Binding logs the sizes of the payload and binds the two servers to it. -/
theorem run_bind (net : Network) (hp : s.payload = .ok p) (k : Kernel) :
    (bind net s).run k =
      match (bindHandlers net p s.declares s.chunkedAddress s.bulkAddress).run
          { k with log := k.log ++ [{ event := sizes p }] } with
      | .ok pair k' => .ok pair k'
      | .error e k' => .error (.server e) k' := by
  rw [bind_of_payload net hp, Kernel.run_bind, run_record]
  simp only [run_explaining]
  cases (bindHandlers net p s.declares s.chunkedAddress s.bulkAddress).run
    { k with log := k.log ++ [{ event := sizes p }] } <;> rfl

/-- A start that binds the pair goes on to log where it listens and that it accepts. -/
theorem run_start (net : Network) (s : Settings) (k : Kernel) :
    (start net s).run k =
      match (bind net s).run k with
      | .ok pair k' => .ok pair
        { k' with log := k'.log ++
            { event := .boundListeners pair.chunked.address pair.bulk.address } ::
              pair.accepting }
      | .error e k' => .error e k' := by
  rw [start, Kernel.run_bind]
  cases (bind net s).run k with
  | error e k' => rfl
  | ok pair k' =>
    simp only [Kernel.run_bind, run_record]
    change EStateM.Result.ok pair { k' with log := _ } = _
    rw [List.append_assoc]
    rfl

/-! ## Without failures -/

variable {k : Kernel} {net : Network} {chunkedAddress bulkAddress : SocketAddress}

theorem run_bindHandlers_of_chunked_error (h : k.faults = .none) {e : Errno}
    (hchunked : k.ports.bind net chunkedAddress = .error e) (p : Payload) (declares : Bool) :
    ∃ calls, (bindHandlers net p declares chunkedAddress bulkAddress).run k =
      .error (.bind chunkedAddress (.ofErrno e)) { k with calls } := by
  obtain ⟨calls, hrun⟩ :=
    Server.run_bind h net chunkedAddress { delivery := .chunked, payload := p, declares }
  rw [hchunked] at hrun
  exact ⟨calls, by rw [bindHandlers, Kernel.run_bind, hrun]⟩

variable {a b : SocketAddress} {ports ports' : Ports}

theorem run_bindHandlers_of_bulk_error (h : k.faults = .none) {e : Errno}
    (hchunked : k.ports.bind net chunkedAddress = .ok (a, ports))
    (hbulk : ports.bind net bulkAddress = .error e) (p : Payload) (declares : Bool) :
    ∃ calls, (bindHandlers net p declares chunkedAddress bulkAddress).run k =
      .error (.bind bulkAddress (.ofErrno e)) { k with ports := ports.release a, calls } := by
  obtain ⟨calls, hrun⟩ :=
    Server.run_bind_of_ports h hchunked { delivery := .chunked, payload := p, declares }
  obtain ⟨calls', hrun'⟩ := Server.run_bind (k := { k with ports, calls }) h net bulkAddress
    { delivery := .bulk, payload := p, declares }
  rw [hbulk] at hrun'
  refine ⟨calls', ?_⟩
  rw [bindHandlers, Kernel.run_bind, hrun]
  simp only [Kernel.run_bind, run_holding, hrun']

theorem run_bindHandlers_of_ok (h : k.faults = .none)
    (hchunked : k.ports.bind net chunkedAddress = .ok (a, ports))
    (hbulk : ports.bind net bulkAddress = .ok (b, ports')) (p : Payload) (declares : Bool) :
    ∃ calls, (bindHandlers net p declares chunkedAddress bulkAddress).run k =
      .ok (listeningOn a b p declares) { k with ports := ports', calls } := by
  obtain ⟨calls, hrun⟩ :=
    Server.run_bind_of_ports h hchunked { delivery := .chunked, payload := p, declares }
  obtain ⟨calls', hrun'⟩ := Server.run_bind_of_ports (k := { k with ports, calls }) h hbulk
    { delivery := .bulk, payload := p, declares }
  refine ⟨calls', ?_⟩
  rw [bindHandlers, Kernel.run_bind, hrun]
  simp only [Kernel.run_bind, run_holding, hrun']
  rfl

/-! ## The start without failures -/

theorem run_start_of_chunked_error (h : k.faults = .none) (hp : s.payload = .ok p) {e : Errno}
    (hchunked : k.ports.bind net s.chunkedAddress = .error e) :
    ∃ calls, (start net s).run k =
      .error (.server (.bind s.chunkedAddress (.ofErrno e)))
        { k with calls, log := k.log ++ [{ event := sizes p }] } := by
  obtain ⟨calls, hrun⟩ := run_bindHandlers_of_chunked_error
    (k := { k with log := k.log ++ [{ event := sizes p }] }) h hchunked p s.declares
  exact ⟨calls, by rw [run_start, run_bind net hp, hrun]⟩

theorem run_start_of_bulk_error (h : k.faults = .none) (hp : s.payload = .ok p) {e : Errno}
    (hchunked : k.ports.bind net s.chunkedAddress = .ok (a, ports))
    (hbulk : ports.bind net s.bulkAddress = .error e) :
    ∃ calls, (start net s).run k =
      .error (.server (.bind s.bulkAddress (.ofErrno e)))
        { k with ports := ports.release a, calls, log := k.log ++ [{ event := sizes p }] } := by
  obtain ⟨calls, hrun⟩ := run_bindHandlers_of_bulk_error
    (k := { k with log := k.log ++ [{ event := sizes p }] }) h hchunked hbulk p s.declares
  exact ⟨calls, by rw [run_start, run_bind net hp, hrun]⟩

theorem run_start_of_ok (h : k.faults = .none) (hp : s.payload = .ok p)
    (hchunked : k.ports.bind net s.chunkedAddress = .ok (a, ports))
    (hbulk : ports.bind net s.bulkAddress = .ok (b, ports')) :
    ∃ calls, (start net s).run k =
      .ok (listeningOn a b p s.declares)
        { k with
          ports := ports'
          calls
          log := k.log ++
            [{ event := sizes p }, { event := .boundListeners a b },
              { event := .acceptingRequests, spans := [.server .chunked a] },
              { event := .acceptingRequests, spans := [.server .bulk b] }] } := by
  obtain ⟨calls, hrun⟩ := run_bindHandlers_of_ok
    (k := { k with log := k.log ++ [{ event := sizes p }] }) h hchunked hbulk p s.declares
  refine ⟨calls, ?_⟩
  rw [run_start, run_bind net hp, hrun]
  simp only [List.append_assoc]
  rfl

end TwinServers.ServerPair
