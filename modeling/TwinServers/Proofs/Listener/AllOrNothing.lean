import TwinServers.Listener.Bench
import TwinServers.Proofs.Host.Action
import TwinServers.Proofs.Server.FreshPorts

/-!
# Binding is all or nothing

Whichever calls are made to fail, an action that binds listeners ends with all of them bound or with
none: `settles_openAt` for one listener, `settles_acquire` for a server, which asks for its address
when it is already bound, and `settles_bindHandlers` for a pair, in which the chunked server is held
while the bulk one is bound. On a bench this means that a failed step leaves everything as it was,
but perhaps for the fresh ports that were handed out on the way (`undone_of_failed`). That makes no
difference to what the step comes to when it is tried again (`Undone.error?_step`), with one
exception. If no fresh port was handed out, or if the host hands them out again, the step was not
taken at all: `failed_attempt_is_undone`.
-/

namespace TwinServers

open Kernel

/-! ## What binding settles -/

namespace Listener

theorem settles_prepareSocket (a : SocketAddress) :
    Settles [] (prepareSocket a) fun _ => [] := by
  unfold prepareSocket
  refine (settles_call _).bind fun _ => ?_
  split
  · exact (settles_call _).bind fun _ => (settles_call _).bind fun _ => settles_call _
  · exact (settles_call _).bind fun _ => settles_call _

theorem settles_prepare (a : SocketAddress) : Settles [] (prepare a) fun _ => [] := by
  have attempt : ∀ target : SocketAddress,
      Settles [] (do prepareSocket target; return target) fun _ => [] := fun target =>
    (settles_prepareSocket target).bind fun _ => settles_pure (fun _ => []) target
  refine (attempt a).tryCatch fun e => ?_
  split
  · exact (settles_record _).bind fun _ => attempt (fallback a)
  · exact settles_throw e _

theorem settles_openAt (net : Network) (a : SocketAddress) :
    Settles [] (openAt net a) fun bound => [bound] := by
  unfold openAt
  refine (settles_prepare a).bind fun target => (settles_bind net target).bind fun bound => ?_
  have settled : Settles [] (do call (.listen backlog); call .register; return bound)
      fun _ => [] :=
    (settles_call _).bind fun _ => (settles_call _).bind fun _ => settles_pure (fun _ => []) bound
  refine (settled.holding bound).congr fun k b k' h => ?_
  -- the address that is held is the one that is given
  obtain ⟨_, _, -, h⟩ := run_bind_eq_ok.1 (run_holding_eq_ok.1 h)
  obtain ⟨_, _, -, h⟩ := run_bind_eq_ok.1 h
  obtain ⟨rfl, -⟩ := run_pure_eq_ok.1 h
  rfl

theorem settles_listenOn (net : Network) (a : SocketAddress) :
    Settles [] (listenOn net a) fun bound => [bound] :=
  (settles_openAt net a).explaining _

end Listener

theorem Server.settles_acquire (net : Network) (a : SocketAddress) :
    Settles [] (acquire net a) fun bound => [bound] :=
  Settles.explaining _ <| (Listener.settles_openAt net a).bind fun bound =>
    ((settles_call _).holding bound).bind fun _ => settles_pure (fun b => [b]) bound

theorem Server.settles_bind (net : Network) (a : SocketAddress) (handler : Handler) :
    Settles [] (Server.bind net a handler) fun server => [server.address] :=
  (settles_acquire net a).bind fun address =>
    settles_pure (fun server : Server => [server.address]) { address, handler }

namespace ServerPair

theorem settles_bindHandlers (net : Network) (payload : Payload) (declares : Bool)
    (chunkedAddress bulkAddress : SocketAddress) :
    Settles [] (bindHandlers net payload declares chunkedAddress bulkAddress)
      fun pair => [pair.bulk.address, pair.chunked.address] := by
  unfold bindHandlers
  refine (Server.settles_bind net chunkedAddress _).bind fun chunked => ?_
  refine ((Server.settles_bind net bulkAddress _).holding chunked.address).bind fun bulk => ?_
  exact settles_pure (fun pair : ServerPair => [pair.bulk.address, pair.chunked.address])
    { chunked, bulk }

theorem settles_bind (net : Network) (s : Settings) :
    Settles [] (ServerPair.bind net s)
      fun pair => [pair.bulk.address, pair.chunked.address] := by
  unfold ServerPair.bind
  split
  · exact settles_throw _ _
  · next payload _ =>
    exact (settles_record _).bind fun _ => (settles_bindHandlers net payload _ _ _).explaining _

end ServerPair

/-! ## Binding to the ports that are asked for -/

namespace Listener

theorem handsOutNone_prepareSocket (a : SocketAddress) :
    HandsOutNone (prepareSocket a) fun _ => True := by
  unfold prepareSocket
  refine (handsOutNone_call _).bind fun _ _ => ?_
  split
  · exact (handsOutNone_call _).bind fun _ _ => (handsOutNone_call _).bind fun _ _ =>
      handsOutNone_call _
  · exact (handsOutNone_call _).bind fun _ _ => handsOutNone_call _

theorem handsOutNone_prepare (a : SocketAddress) :
    HandsOutNone (prepare a) fun target => target.port = a.port := by
  have attempt : ∀ target : SocketAddress, target.port = a.port →
      HandsOutNone (do prepareSocket target; return target) fun target => target.port = a.port :=
    fun target h => (handsOutNone_prepareSocket target).bind fun _ _ => handsOutNone_pure h
  refine (attempt a rfl).tryCatch fun e => ?_
  split
  · exact (handsOutNone_record _).bind fun _ _ => attempt (fallback a) rfl
  · exact handsOutNone_throw e

theorem handsOutNone_openAt (net : Network) {a : SocketAddress} (h : a.port ≠ 0) :
    HandsOutNone (openAt net a) fun _ => True := by
  unfold openAt
  refine (handsOutNone_prepare a).bind fun target htarget => ?_
  refine (handsOutNone_bind net (htarget ▸ h)).bind fun bound _ => HandsOutNone.holding ?_ bound
  exact (handsOutNone_call _).bind fun _ _ => (handsOutNone_call _).bind fun _ _ =>
    handsOutNone_pure trivial

end Listener

theorem Server.handsOutNone_acquire (net : Network) {a : SocketAddress} (h : a.port ≠ 0) :
    HandsOutNone (acquire net a) fun _ => True :=
  HandsOutNone.explaining ((Listener.handsOutNone_openAt net h).bind fun bound _ =>
    ((handsOutNone_call _).holding bound).bind fun _ _ => handsOutNone_pure trivial) _

theorem ServerPair.handsOutNone_bind (net : Network) {s : Settings}
    (hchunked : s.chunkedAddress.port ≠ 0) (hbulk : s.bulkAddress.port ≠ 0) :
    HandsOutNone (ServerPair.bind net s) fun _ => True := by
  unfold ServerPair.bind
  split
  · exact handsOutNone_throw _
  · refine (handsOutNone_record _).bind fun _ _ => HandsOutNone.explaining ?_ _
    have server : ∀ {a : SocketAddress}, a.port ≠ 0 → ∀ handler : Handler,
        HandsOutNone (Server.bind net a handler) fun _ => True := fun h handler =>
      (Server.handsOutNone_acquire net h).bind fun _ _ => handsOutNone_pure trivial
    exact (server hchunked _).bind fun chunked _ =>
      ((server hbulk _).holding chunked.address).bind fun _ _ => handsOutNone_pure trivial

/-! ## Failed steps -/

namespace Bench

/-- The addresses that a step asks for. -/
def Op.requests (b : Bench) : Op → List SocketAddress
  | .listener _ a portOf | .server _ a portOf => [a.withPort (b.portFor a.port portOf)]
  | .pair _ s chunkedPortOf bulkPortOf =>
    [.ofIp s.host (b.portFor s.chunkedPort chunkedPortOf),
      .ofIp s.host (b.portFor s.bulkPort bulkPortOf)]
  | .drop _ | .connect .. => []

/-- Whether a step asks for two servers such that a fresh port for the first may be the one that is
asked for by the second. -/
def Op.MayCollide (b : Bench) : Op → Prop
  | .pair _ s chunkedPortOf bulkPortOf =>
    b.portFor s.chunkedPort chunkedPortOf = 0 ∧
      ∃ i, b.portFor s.bulkPort bulkPortOf = Ports.ephemeral i
  | _ => False

/-- The error that a step ends with, if it does. -/
def Result.error? : Result → Option StartError
  | .failed e => some e
  | _ => none

theorem Result.ne_failed_of_error?_eq_none {r : Result} (h : r.error? = none) (e : StartError) :
    r ≠ .failed e := by
  rintro rfl
  exact nomatch h

/-- Whether a bench is what it was before, but perhaps for the count of fresh ports. -/
structure Undone (b b' : Bench) : Prop where
  bound_eq : b'.ports.bound = b.ports.bound
  held_eq : b'.held = b.held
  lastPorts_eq : b'.lastPorts = b.lastPorts

theorem Undone.eq {b b' : Bench} (h : Undone b b')
    (hcount : b'.ports.handedOut = b.ports.handedOut) : b' = b := by
  obtain ⟨⟨bound, handedOut⟩, held, lastPorts⟩ := b'
  obtain ⟨rfl, rfl, rfl⟩ := h
  obtain rfl := hcount
  rfl

section Binding

variable {ε α : Type} {action : Action ε α} {kept : α → List SocketAddress} {net : Network}
  {b : Bench} {faults : FaultPlan} {name : String} {holding : α → Holding} {result : α → Result}
  {failure : ε → StartError} {e : StartError}

/-- What is left on a bench by an attempt to bind something that has failed. -/
theorem exists_of_bindAs_failed (hresult : ∀ a, (result a).error? = none)
    (h : (b.bindAs net faults name action holding result failure).1.result = .failed e) :
    ∃ e' k, action.run { ports := b.ports, faults } = .error e' k ∧
      (b.bindAs net faults name action holding result failure).2 =
        { b with ports := b.portsAfterFailure net k.ports } := by
  unfold bindAs at h ⊢
  cases hrun : action.run { ports := b.ports, faults } with
  | ok a k =>
    rw [hrun] at h
    exact absurd h ((result a).ne_failed_of_error?_eq_none (hresult a) e)
  | error e' k => exact ⟨e', k, rfl, rfl⟩

theorem undone_of_bindAs_failed (settled : Settles [] action kept)
    (hresult : ∀ a, (result a).error? = none)
    (h : (b.bindAs net faults name action holding result failure).1.result = .failed e) :
    Undone b (b.bindAs net faults name action holding result failure).2 := by
  obtain ⟨e', k, hrun, hafter⟩ := exists_of_bindAs_failed hresult h
  rw [hafter]
  exact ⟨settled.bound_of_error hrun, rfl, rfl⟩

/-- The count of fresh ports is as before if the host sets it back, or if none was handed out. -/
theorem handedOut_of_bindAs_failed
    (hcount : net.reissues ∨ HandsOutNone action fun _ => True)
    (hresult : ∀ a, (result a).error? = none)
    (h : (b.bindAs net faults name action holding result failure).1.result = .failed e) :
    (b.bindAs net faults name action holding result failure).2.ports.handedOut =
      b.ports.handedOut := by
  obtain ⟨e', k, hrun, hafter⟩ := exists_of_bindAs_failed hresult h
  rw [hafter]
  change (if net.reissues then b.ports.handedOut else k.ports.handedOut) = _
  obtain reissues | none := hcount
  · rw [if_pos reissues]
  · rw [none.handedOut_of_error hrun, ite_self]

theorem error?_bindAs (hresult : ∀ a, (result a).error? = none) :
    (b.bindAs net faults name action holding result failure).1.result.error? =
      (error? (Kernel.result (action.run { ports := b.ports, faults }))).map failure := by
  unfold bindAs
  cases action.run { ports := b.ports, faults } with
  | ok a k => exact hresult a
  | error e k => rfl

/-- What fails alike wherever the same is in use does so after a failure, too. -/
theorem Undone.error?_bindAs {b' : Bench} (h : Undone b b')
    (hresult : ∀ a, (result a).error? = none)
    (alike : ∀ {k k' : Kernel}, k.faults = .none → k'.faults = .none →
      k.ports.bound = k'.ports.bound →
      error? (Kernel.result (action.run k)) = error? (Kernel.result (action.run k'))) :
    (b'.bindAs net .none name action holding result failure).1.result.error? =
      (b.bindAs net .none name action holding result failure).1.result.error? := by
  rw [Bench.error?_bindAs hresult, Bench.error?_bindAs hresult]
  exact congrArg (Option.map failure) (alike rfl rfl h.bound_eq)

end Binding

variable {net : Network} {b b' : Bench} {faults : FaultPlan} {op : Op} {e : StartError}

theorem error?_connect (net : Network) (b : Bench) (name : String) (via : IpAddress) :
    (b.connect net name via).error? = none := by
  unfold connect
  split
  · split <;> rfl
  · rfl

/-- **A step that fails leaves everything as it was**, but perhaps for the count of fresh ports. -/
theorem undone_of_failed (h : (b.step net faults op).1.result = .failed e) :
    Undone b (b.step net faults op).2 := by
  cases op with
  | listener name a portOf =>
    exact undone_of_bindAs_failed (Listener.settles_listenOn net _) (fun _ => rfl) h
  | server name a portOf =>
    exact undone_of_bindAs_failed (Server.settles_acquire net _) (fun _ => rfl) h
  | pair name s chunkedPortOf bulkPortOf =>
    exact undone_of_bindAs_failed (ServerPair.settles_bind net _) (fun _ => rfl) h
  | drop name => exact nomatch h
  | connect name via =>
    exact absurd h (Result.ne_failed_of_error?_eq_none (b.error?_connect net name via) e)

/-- A step that fails and asks for its ports, or any step that fails where fresh ports are handed
out again, was not taken at all. -/
theorem step_of_failed (hports : net.reissues ∨ ∀ a ∈ op.requests b, a.port ≠ 0)
    (h : (b.step net faults op).1.result = .failed e) : (b.step net faults op).2 = b := by
  refine (undone_of_failed h).eq ?_
  cases op with
  | listener name a portOf =>
    refine handedOut_of_bindAs_failed (hports.imp_right fun asked => ?_) (fun _ => rfl) h
    exact (Listener.handsOutNone_openAt net (asked _ List.mem_cons_self)).explaining _
  | server name a portOf =>
    refine handedOut_of_bindAs_failed (hports.imp_right fun asked => ?_) (fun _ => rfl) h
    exact Server.handsOutNone_acquire net (asked _ List.mem_cons_self)
  | pair name s chunkedPortOf bulkPortOf =>
    refine handedOut_of_bindAs_failed (hports.imp_right fun asked => ?_) (fun _ => rfl) h
    exact ServerPair.handsOutNone_bind net (asked _ List.mem_cons_self)
      (asked _ (List.mem_cons_of_mem _ List.mem_cons_self))
  | drop name => exact nomatch h
  | connect name via =>
    exact absurd h (Result.ne_failed_of_error?_eq_none (b.error?_connect net name via) e)

/-- **What a step fails with depends on what is in use**, and not on the count of fresh ports,
unless the ports of a pair may collide. -/
theorem Undone.error?_step (h : Undone b b') (hapart : ¬op.MayCollide b) :
    (b'.step net .none op).1.result.error? = (b.step net .none op).1.result.error? := by
  have hport : b'.portFor = b.portFor := by
    funext port portOf
    unfold Bench.portFor
    rw [h.lastPorts_eq]
  cases op with
  | listener name a portOf =>
    unfold step
    rw [hport]
    exact h.error?_bindAs (fun _ => rfl) fun hk hk' hbound =>
      Listener.error?_listenOn hk hk' hbound _
  | server name a portOf =>
    unfold step
    rw [hport]
    exact h.error?_bindAs (fun _ => rfl) fun hk hk' hbound =>
      Server.error?_acquire hk hk' hbound _
  | pair name s chunkedPortOf bulkPortOf =>
    unfold step
    rw [hport]
    exact h.error?_bindAs (fun _ => rfl) fun hk hk' hbound =>
      ServerPair.error?_bind_congr hk hk' hbound fun hzero i hi => hapart ⟨hzero, i, hi⟩
  | drop name => rfl
  | connect name via =>
    exact (b'.error?_connect net name via).trans (b.error?_connect net name via).symm

/-- **A failed attempt to bind is undone.** Whatever is in use and whichever calls are made to fail,
an attempt to bind a listener, a server or a pair that ends in an error leaves in use exactly what
was in use before it. On a bench such a step leaves what is held, and the ports that names are
remembered by, as they were. The same step, tried again without failures, succeeds or fails as it
would have done in the first place, with the same error. That holds on every host, except for a pair
whose fresh port may be the one that is asked for beside it; it holds for this too where the host
hands out the fresh ports of a failed attempt again. There, or if no fresh port is asked for, a
failed step leaves no trace at all, and what comes of the next attempt is the same in every
respect. -/
theorem failed_attempt_is_undone (net : Network) :
    (∀ (a : SocketAddress) (k k' : Kernel) (e : ServerError),
      (Listener.listenOn net a).run k = .error e k' → k'.ports.bound = k.ports.bound) ∧
    (∀ (a : SocketAddress) (handler : Handler) (k k' : Kernel) (e : ServerError),
      (Server.bind net a handler).run k = .error e k' → k'.ports.bound = k.ports.bound) ∧
    (∀ (s : Settings) (k k' : Kernel) (e : StartError),
      (ServerPair.bind net s).run k = .error e k' → k'.ports.bound = k.ports.bound) ∧
    ∀ (b : Bench) (faults : FaultPlan) (op : Op) (e : StartError),
      let b' := (b.step net faults op).2
      (b.step net faults op).1.result = .failed e →
      b'.ports.bound = b.ports.bound ∧ b'.held = b.held ∧ b'.lastPorts = b.lastPorts ∧
      (net.reissues ∨ ¬op.MayCollide b →
        (b'.step net .none op).1.result.error? = (b.step net .none op).1.result.error?) ∧
      (net.reissues ∨ (∀ a ∈ op.requests b, a.port ≠ 0) →
        b' = b ∧ b'.step net .none op = b.step net .none op) := by
  refine ⟨fun a k k' e h => ?_, fun a handler k k' e h => ?_, fun s k k' e h => ?_, ?_⟩
  · exact (Listener.settles_listenOn net a).bound_of_error h
  · exact (Server.settles_bind net a handler).bound_of_error h
  · exact (ServerPair.settles_bind net s).bound_of_error h
  · intro b faults op e b' h
    have undone : Undone b b' := undone_of_failed h
    refine ⟨undone.bound_eq, undone.held_eq, undone.lastPorts_eq, fun hapart => ?_,
      fun hports => ?_⟩
    · obtain reissues | apart := hapart
      · have unchanged : b' = b := step_of_failed (.inl reissues) h
        rw [unchanged]
      · exact undone.error?_step apart
    · have unchanged : b' = b := step_of_failed hports h
      exact ⟨unchanged, by rw [unchanged]⟩

/-- Here the last call of each attempt fails, when its address is bound already; for the pair that
is the second of two addresses, and on the bench another listener stays. At last a fresh port is
lost in this way, on a host that does not hand it out again, and the next attempt gets another. -/
theorem failed_attempt_is_undone_at_last_call :
    let a : SocketAddress := .v4 .localhost 80
    let s : Settings := { copies := 1, units := 1 }
    let handler : Handler := { delivery := .bulk, payload := ⟨[], [], [], 0⟩ }
    let planned (kind : CallKind) (outcomes : List (Option Errno)) : FaultPlan :=
      { coming := fun k => if k = kind then outcomes else [] }
    let unregistered : Kernel := { faults := planned .register [some .noMemory] }
    let unnamed : Kernel := { faults := planned .getsockname [some .badDescriptor] }
    let secondUnnamed : Kernel := { faults := planned .getsockname [none, some .badDescriptor] }
    let b : Bench := { ports := { bound := [a] } }
    let goesOn : Network := { Network.loopback with reissues := false }
    let fresh : Op := .listener "fresh" (.v4 .localhost 0) none
    (∃ e k, (Listener.listenOn .loopback a).run unregistered = .error e k ∧ k.ports.bound = []) ∧
    (∃ e k, (Server.bind .loopback a handler).run unnamed = .error e k ∧ k.ports.bound = []) ∧
    (∃ e k, (ServerPair.bind .loopback s).run secondUnnamed = .error e k ∧ k.ports.bound = []) ∧
    (∃ e, (b.step .loopback secondUnnamed.faults (.pair "pair" s none none)).1.result = .failed e ∧
      (b.step .loopback secondUnnamed.faults (.pair "pair" s none none)).2 = b) ∧
    ∃ e, (b.step goesOn unregistered.faults fresh).1.result = .failed e ∧
      ¬fresh.MayCollide b ∧
      ((b.step goesOn unregistered.faults fresh).2.step goesOn .none fresh).1.result.error? =
        none := by
  intro a s handler planned unregistered unnamed secondUnnamed b goesOn fresh
  obtain ⟨listener, server, pair, step⟩ := failed_attempt_is_undone .loopback
  have failed : (b.step goesOn unregistered.faults fresh).1.result =
      .failed (.server (.bind (.v4 .localhost 0) (.ofErrno .noMemory))) := by
    decide +kernel
  have retried : (b.step goesOn .none fresh).1.result.error? = none := by decide +kernel
  refine ⟨⟨_, _, rfl, listener a unregistered _ _ rfl⟩,
    ⟨_, _, rfl, server a handler unnamed _ _ rfl⟩,
    ⟨_, _, rfl, pair s secondUnnamed _ _ rfl⟩,
    ⟨_, rfl, ((step b _ _ _ rfl).2.2.2.2 (.inl rfl)).1⟩,
    ⟨_, failed, not_false, ?_⟩⟩
  have again := ((failed_attempt_is_undone goesOn).2.2.2 b _ _ _ failed).2.2.2.1
  exact (again (.inr not_false)).trans retried

/-- Where a failed attempt uses up the fresh port that it got, the next one gets the port after it,
which may be the one that the bulk server asks for. -/
theorem fresh_port_may_collide :
    let s : Settings :=
      { host := .v4 .localhost, chunkedPort := 0, bulkPort := 32769, copies := 1, units := 1 }
    let faults : FaultPlan := { coming := fun k => if k = .listen then [some .noMemory] else [] }
    let goesOn : Network := { Network.loopback with reissues := false }
    let pair : Op := .pair "pair" s none none
    let b : Bench := {}
    (b.step goesOn .none pair).1.result = .boundPair (.v4 .localhost 32768) (.v4 .localhost 32769) ∧
    (b.step goesOn faults pair).1.result =
      .failed (.server (.bind (.v4 .localhost 0) (.ofErrno .noMemory))) ∧
    ((b.step goesOn faults pair).2.step goesOn .none pair).1.result =
      .failed (.server (.bind (.v4 .localhost 32769) (.ofErrno .addressInUse))) := by
  decide +kernel

end Bench

end TwinServers
