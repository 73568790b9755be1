import TwinServers.Proofs.Host.Injection
import TwinServers.Server

/-!
# Binding a pair

A pair that was bound answers on both its listeners with one payload, each in its own delivery:
`handler_of_bindHandlers`. With the settings of the program that payload is the standard one in the
sizes of the settings, which are logged first (`exists_bindHandlers_of_bind`, `payload_of_bind`).

Binding a listener, a server or a pair of servers is put together from calls, so a plan of failures
changes nothing about it unless it makes one of these calls fail: `ServerPair.unaffected_bind`.
-/

namespace TwinServers

open Kernel

/-! ## What a pair answers with -/

theorem Server.handler_of_bind {net : Network} {a : SocketAddress} {handler : Handler}
    {server : Server} {k k' : Kernel}
    (h : (Server.bind net a handler).run k = .ok server k') : server.handler = handler := by
  obtain ⟨address, _, -, h⟩ := run_bind_eq_ok.1 h
  obtain ⟨rfl, -⟩ := run_pure_eq_ok.1 h
  rfl

namespace ServerPair

theorem handler_of_bindHandlers {net : Network} {payload : Payload} {declares : Bool}
    {chunkedAddress bulkAddress : SocketAddress} {pair : ServerPair} {k k' : Kernel}
    (h : (bindHandlers net payload declares chunkedAddress bulkAddress).run k = .ok pair k')
    (d : Delivery) : (pair.server d).handler = { delivery := d, payload, declares } := by
  obtain ⟨chunked, _, hchunked, h⟩ := run_bind_eq_ok.1 h
  obtain ⟨bulk, _, hbulk, h⟩ := run_bind_eq_ok.1 h
  obtain ⟨rfl, -⟩ := run_pure_eq_ok.1 h
  cases d with
  | chunked => exact Server.handler_of_bind hchunked
  | bulk => exact Server.handler_of_bind (run_holding_eq_ok.1 hbulk)

variable {net : Network} {s : Settings} {p : Payload} {pair : ServerPair} {k k' : Kernel}

theorem bind_of_payload (net : Network) (hp : s.payload = .ok p) :
    bind net s = (do
      record (sizes p)
      explaining .server (bindHandlers net p s.declares s.chunkedAddress s.bulkAddress)) := by
  unfold bind
  rw [hp]

/-- A pair that was bound comes from binding its handlers, after the sizes were logged. -/
theorem exists_bindHandlers_of_bind (h : (ServerPair.bind net s).run k = .ok pair k') :
    ∃ payload, s.payload = .ok payload ∧
      (bindHandlers net payload s.declares s.chunkedAddress s.bulkAddress).run
        { k with log := k.log ++ [{ event := sizes payload }] } = .ok pair k' := by
  cases hp : s.payload with
  | error e =>
    unfold ServerPair.bind at h
    rw [hp] at h
    exact nomatch h
  | ok payload =>
    rw [bind_of_payload net hp, run_bind, run_record] at h
    exact ⟨payload, rfl, run_explaining_eq_ok.1 h⟩

/-- Settings with which a pair was bound have a payload, and the pair answers with it. -/
theorem payload_of_bind (h : (ServerPair.bind net s).run k = .ok pair k') :
    ∃ payload, s.payload = .ok payload ∧
      ∀ d, (pair.server d).handler = { delivery := d, payload, declares := s.declares } := by
  obtain ⟨payload, hp, h⟩ := exists_bindHandlers_of_bind h
  exact ⟨payload, hp, handler_of_bindHandlers h⟩

end ServerPair

/-! ## Plans that inject nothing -/

namespace Listener

theorem unaffected_prepareSocket (a : SocketAddress) : Unaffected (prepareSocket a) := by
  unfold prepareSocket
  refine (unaffected_perform _ _).bind fun _ => ?_
  split
  · exact (unaffected_perform _ _).bind fun _ =>
      (unaffected_perform _ _).bind fun _ => unaffected_perform _ _
  · exact (unaffected_perform _ _).bind fun _ => unaffected_perform _ _

theorem unaffected_prepare (a : SocketAddress) : Unaffected (prepare a) := by
  refine Unaffected.tryCatch ?_ fun e => ?_
  · exact (unaffected_prepareSocket a).bind fun _ => unaffected_pure a
  · split
    · exact (unaffected_record _).bind fun _ =>
        (unaffected_prepareSocket _).bind fun _ => unaffected_pure _
    · exact unaffected_throw e

theorem unaffected_openAt (net : Network) (a : SocketAddress) : Unaffected (openAt net a) :=
  (unaffected_prepare a).bind fun _ => (unaffected_perform _ _).bind fun bound =>
    Unaffected.holding ((unaffected_perform _ _).bind fun _ =>
      (unaffected_perform _ _).bind fun _ => unaffected_pure bound) bound

theorem unaffected_listenOn (net : Network) (a : SocketAddress) : Unaffected (listenOn net a) :=
  (unaffected_openAt net a).explaining _

end Listener

namespace Server

theorem unaffected_acquire (net : Network) (a : SocketAddress) : Unaffected (acquire net a) :=
  Unaffected.explaining ((Listener.unaffected_openAt net a).bind fun bound =>
    ((unaffected_perform _ _).holding bound).bind fun _ => unaffected_pure bound) _

theorem unaffected_bind (net : Network) (a : SocketAddress) (handler : Handler) :
    Unaffected (Server.bind net a handler) :=
  (unaffected_acquire net a).bind fun _ => unaffected_pure _

end Server

theorem ServerPair.unaffected_bind (net : Network) (s : Settings) :
    Unaffected (ServerPair.bind net s) := by
  unfold ServerPair.bind
  split
  · exact unaffected_throw _
  · refine (unaffected_record _).bind fun _ => Unaffected.explaining ?_ _
    exact (Server.unaffected_bind net _ _).bind fun chunked =>
      ((Server.unaffected_bind net _ _).holding chunked.address).bind fun _ => unaffected_pure _

end TwinServers
