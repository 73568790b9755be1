import TwinServers.Proofs.Listener.Course
import TwinServers.Proofs.Response.Frames
import TwinServers.Proofs.Server.Runs

/-!
# Binding a pair in stages

A pair is bound in three stages: the payload is built, the chunked server is bound, the bulk server
is bound. A stage begins only when the one before it has succeeded, and an error names the address
of the stage that it belongs to. `Staged` tells the ways in which the two binds can go as the
courses that they take; `servers_are_bound_in_stages` adds the payload, which is built and logged
before anything else.
-/

namespace TwinServers.ServerPair

open Kernel Listener

/-- The ways in which binding a pair to a payload can go: the calls made, the events logged and the
result. The calls of the bulk server come after those of the chunked one, and only if that one took
its course to the end. -/
inductive Staged (s : Settings) (p : Payload) :
    List MadeCall → Log → Except ServerError ServerPair → Prop
  /-- The chunked server is not bound, and nothing is done about the bulk one. -/
  | chunkedFails {target : SocketAddress} {calls : List MadeCall} {log : Log} {e : IoError}
      (chunked : Course serving s.chunkedAddress target calls log (some e)) :
      Staged s p calls log (.error (.bind s.chunkedAddress e))
  /-- The chunked server is bound, and the bulk one is not. -/
  | bulkFails {target target' : SocketAddress} {calls calls' : List MadeCall} {log log' : Log}
      {e : IoError} (chunked : Course serving s.chunkedAddress target calls log none)
      (bulk : Course serving s.bulkAddress target' calls' log' (some e)) :
      Staged s p (calls ++ calls') (log ++ log') (.error (.bind s.bulkAddress e))
  /-- Both are bound, each with its own way to deliver the payload. -/
  | bound {target target' : SocketAddress} {calls calls' : List MadeCall} {log log' : Log}
      {pair : ServerPair} (chunked : Course serving s.chunkedAddress target calls log none)
      (bulk : Course serving s.bulkAddress target' calls' log' none)
      (chunkedHandler :
        pair.chunked.handler = { delivery := .chunked, payload := p, declares := s.declares })
      (bulkHandler :
        pair.bulk.handler = { delivery := .bulk, payload := p, declares := s.declares }) :
      Staged s p (calls ++ calls') (log ++ log') (.ok pair)

variable {s : Settings} {p : Payload}

theorem Staged.eq_ipv4Only_of_mem {calls : List MadeCall} {log : Log}
    {r : Except ServerError ServerPair} (h : Staged s p calls log r) {entry : Entry}
    (hentry : entry ∈ log) : ∃ e, entry = { event := .ipv4Only e } := by
  cases h with
  | chunkedFails chunked => exact chunked.eq_ipv4Only_of_mem hentry
  | bulkFails chunked bulk | bound chunked bulk =>
    exact (List.mem_append.1 hentry).elim chunked.eq_ipv4Only_of_mem bulk.eq_ipv4Only_of_mem

theorem records_bindHandlers (net : Network) (s : Settings) (p : Payload) :
    Records (bindHandlers net p s.declares s.chunkedAddress s.bulkAddress) (Staged s p) := by
  unfold bindHandlers
  refine (Server.records_bind net s.chunkedAddress _).bind ?_ ?_
  · rintro calls log chunked ⟨binds, handler⟩
    obtain ⟨target, course, -⟩ := binds.course_of_ok
    -- whatever becomes of the bulk server comes after a complete course of the chunked one
    refine ((Server.records_bind net s.bulkAddress _).holding chunked.address).bind ?_ ?_
    · rintro calls' log' bulk ⟨binds', handler'⟩
      obtain ⟨target', course', -⟩ := binds'.course_of_ok
      refine Records.pure ?_
      rw [List.append_nil, List.append_nil]
      exact .bound course course' (handler chunked rfl) (handler' bulk rfl)
    · rintro calls' log' e ⟨binds', -⟩
      obtain ⟨target', source, course', rfl⟩ := binds'.course_of_error
      exact .bulkFails course course'
  · rintro calls log e ⟨binds, -⟩
    obtain ⟨target, source, course, rfl⟩ := binds.course_of_error
    exact .chunkedFails course

/-! ## With the payload -/

theorem run_bind_of_error (net : Network) {e : SizeError} (hp : s.payload = .error e) (k : Kernel) :
    (bind net s).run k = .error (.size e) k := by
  simp only [bind, hp]
  rfl

theorem records_bind (net : Network) (hp : s.payload = .ok p) :
    Records (bind net s) fun calls log r =>
      ∃ later bound, log = { event := sizes p } :: later ∧ r = bound.mapError .server ∧
        Staged s p calls later bound := by
  rw [bind_of_payload net hp]
  refine Records.after_record ?_
  exact (records_bindHandlers net s p).explaining _ fun calls log r h => ⟨log, r, rfl, rfl, h⟩

/-- A pair is bound exactly when both of its servers are, one after the other. -/
theorem exists_run_bind_eq_ok_iff (net : Network) (hp : s.payload = .ok p) (k : Kernel) :
    (∃ pair k', (bind net s).run k = .ok pair k') ↔
      ∃ chunked k₁ bulk k₂,
        (Server.bind net s.chunkedAddress
          { delivery := .chunked, payload := p, declares := s.declares }).run
            { k with log := k.log ++ [{ event := sizes p }] } = .ok chunked k₁ ∧
        (Server.bind net s.bulkAddress
          { delivery := .bulk, payload := p, declares := s.declares }).run k₁ = .ok bulk k₂ := by
  rw [bind_of_payload net hp]
  simp only [Kernel.run_bind, run_record]
  constructor
  · rintro ⟨pair, k', h⟩
    obtain ⟨chunked, k₁, hchunked, h⟩ := run_bind_eq_ok.1 (run_explaining_eq_ok.1 h)
    obtain ⟨bulk, k₂, hbulk, -⟩ := run_bind_eq_ok.1 h
    exact ⟨chunked, k₁, bulk, k₂, hchunked, run_holding_eq_ok.1 hbulk⟩
  · rintro ⟨chunked, k₁, bulk, k₂, hchunked, hbulk⟩
    refine ⟨{ chunked, bulk }, k₂, run_explaining_eq_ok.2 (run_bind_eq_ok.2 ?_)⟩
    exact ⟨chunked, k₁, hchunked,
      run_bind_eq_ok.2 ⟨bulk, k₂, run_holding_eq_ok.2 hbulk, run_pure _ _⟩⟩

/-- **A pair is bound in stages.** If its payload cannot be built, nothing happens at all. Otherwise
the sizes of the payload are logged first, once, with the length of every body that is going to be
sent; then the two servers are bound as `Staged` tells, so that no call is made for the bulk server
before the chunked one knows its address, and an error names the server that it is about. The pair
is bound exactly when both servers are. -/
theorem servers_are_bound_in_stages (net : Network) (s : Settings) (k : Kernel) :
    (∀ e, s.payload = .error e → (bind net s).run k = .error (.size e) k) ∧
    ∀ p, s.payload = .ok p →
      (∀ (d : Delivery) (request : Http.Request),
        ((Handler.mk d p s.declares).respond request).body.frames.flatten.length = p.bodyLength) ∧
      (∃ calls later r,
        (final ((bind net s).run k)).calls = k.calls ++ calls ∧
        (final ((bind net s).run k)).log =
          k.log ++ { event := .builtPayload p.unit.length p.units.toNat p.bodyLength } :: later ∧
        (∀ entry ∈ later, ∀ unit writes body, entry.event ≠ .builtPayload unit writes body) ∧
        result ((bind net s).run k) = r.mapError .server ∧ Staged s p calls later r) ∧
      ((∃ pair k', (bind net s).run k = .ok pair k') ↔
        ∃ chunked k₁ bulk k₂,
          (Server.bind net s.chunkedAddress
            { delivery := .chunked, payload := p, declares := s.declares }).run
              { k with log := k.log ++ [{ event := sizes p }] } = .ok chunked k₁ ∧
          (Server.bind net s.bulkAddress
            { delivery := .bulk, payload := p, declares := s.declares }).run k₁ =
              .ok bulk k₂) := by
  refine ⟨fun e he => run_bind_of_error net he k, fun p hp => ⟨fun d request => ?_, ?_, ?_⟩⟩
  · exact Payload.length_content_body (Payload.build_eq_ok_iff.1 hp) d
  · obtain ⟨calls, _, hcalls, hlog, later, r, rfl, hr, staged⟩ := records_bind net hp k
    refine ⟨calls, later, r, hcalls, hlog, fun entry hentry => ?_, hr, staged⟩
    obtain ⟨e, rfl⟩ := staged.eq_ipv4Only_of_mem hentry
    exact fun _ _ _ => nofun
  · exact exists_run_bind_eq_ok_iff net hp k

/-- A payload that is too long, and a bulk port that is in use while the chunked server has to do
without IPv6. -/
theorem servers_are_bound_in_stages_of_port_in_use :
    (bind .loopback { copies := 0xffffffffffffffff }).run {} = .error (.size .capacity) {} ∧
    ∃ p calls later, ({ copies := 1, units := 1 } : Settings).payload = .ok p ∧
      calls = (final ((bind .loopback { copies := 1, units := 1 }).run
        { ports := { bound := [.v6 .localhost 9001 0] }
          faults :=
            { coming := fun c => if c = .socket then [some .familyUnsupported] else [] } })).calls ∧
      Staged { copies := 1, units := 1 } p calls later
        (.error (.bind (.v6 .unspecified 9001 0) (.ofErrno .addressInUse))) := by
  constructor
  · exact (servers_are_bound_in_stages .loopback { copies := 0xffffffffffffffff } {}).1 _ rfl
  · obtain ⟨-, ⟨calls, later, r, hcalls, -, -, hresult, staged⟩, -⟩ :=
      (servers_are_bound_in_stages .loopback { copies := 1, units := 1 }
        { ports := { bound := [.v6 .localhost 9001 0] }
          faults :=
            { coming := fun c => if c = .socket then [some .familyUnsupported] else [] } }).2 _ rfl
    refine ⟨_, calls, later, rfl, hcalls.symm, ?_⟩
    cases r with
    | ok pair => exact nomatch hresult
    | error e =>
      cases hresult
      exact staged

end TwinServers.ServerPair
