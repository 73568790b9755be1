import Mathlib.Data.List.TakeWhile
import TwinServers.Proofs.Listener.Course

/-!
# When binding falls back

The record of calls is read socket by socket: `onFirst` are the calls on the first socket and
`onRetry` those after it. `Lawful` says of this record when there is a second socket, what it is
for, what is logged of it, which error is reported and what was done to the socket of a listener
that is returned. `binding_is_lawful` is that binding a listener or a server obeys all of this,
whichever addresses are in use and whichever calls fail.
-/

namespace TwinServers

open Kernel

/-! ## Reading calls socket by socket -/

/-- Whether a call makes a socket. -/
def Call.makesSocket : Call → Bool
  | socket _ => true
  | _ => false

/-- Whether a call prepares a socket: it makes it, or sets one of its options. -/
def Call.prepares : Call → Bool
  | socket _ | dualStack | reuseAddress | nonblocking => true
  | bind _ | listen _ | register | getsockname => false

theorem Call.makesSocket_of_not_prepares {c : Call} (h : c.prepares = false) :
    c.makesSocket = false := by
  cases c with
  | socket => exact nomatch h
  | _ => rfl

namespace Listener

/-- The calls on the first socket. -/
def onFirst : List MadeCall → List MadeCall
  | [] => []
  | m :: calls => m :: calls.takeWhile fun m => !m.call.makesSocket

/-- The calls from the one that makes a second socket. -/
def onRetry : List MadeCall → List MadeCall
  | [] => []
  | _ :: calls => calls.dropWhile fun m => !m.call.makesSocket

/-- Whether calls are made on one socket, beginning with the one that makes it. -/
def OneSocket (made : List MadeCall) : Prop :=
  ∃ m later, made = m :: later ∧ m.call.makesSocket ∧ ∀ m' ∈ later, m'.call.makesSocket = false

namespace OneSocket

variable {first second : List MadeCall}

theorem onFirst_self (h : OneSocket first) : onFirst first = first := by
  obtain ⟨m, later, rfl, -, hlater⟩ := h
  rw [onFirst, List.takeWhile_eq_self_iff.2 (by simpa using hlater)]

theorem onRetry_self (h : OneSocket first) : onRetry first = [] := by
  obtain ⟨m, later, rfl, -, hlater⟩ := h
  exact List.dropWhile_eq_nil_iff.2 (by simpa using hlater)

theorem onFirst_append (h : OneSocket first) (h' : OneSocket second) :
    onFirst (first ++ second) = first := by
  obtain ⟨m, later, rfl, -, hlater⟩ := h
  obtain ⟨m', later', rfl, hm', -⟩ := h'
  rw [List.cons_append, onFirst, List.takeWhile_append_of_pos (by simpa using hlater),
    List.takeWhile_cons_of_neg (by simp [hm']), List.append_nil]

theorem onRetry_append (h : OneSocket first) (h' : OneSocket second) :
    onRetry (first ++ second) = second := by
  obtain ⟨m, later, rfl, -, hlater⟩ := h
  obtain ⟨m', later', rfl, hm', -⟩ := h'
  rw [List.cons_append, onRetry, List.dropWhile_append_of_pos (by simpa using hlater),
    List.dropWhile_cons_of_neg (by simp [hm'])]

theorem countP_eq_one (h : OneSocket first) : first.countP (·.call.makesSocket) = 1 := by
  obtain ⟨m, later, rfl, hm, hlater⟩ := h
  rw [List.countP_cons_of_pos (by exact hm), List.countP_eq_zero.2 (by simpa using hlater)]

theorem ne_nil (h : OneSocket first) : first ≠ [] := by
  obtain ⟨m, later, rfl, -⟩ := h
  exact List.cons_ne_nil _ _

end OneSocket

theorem prepares_of_mem_preparation {a : SocketAddress} {c : Call} (h : c ∈ preparation a) :
    c.prepares := by
  have all : (preparation a).all Call.prepares := by cases a <;> rfl
  exact List.all_eq_true.1 all c h

theorem not_prepares_of_mem_opening {a : SocketAddress} {c : Call} (h : c ∈ opening a) :
    c.prepares = false := by
  have all : (opening a).all (!·.prepares) := rfl
  simpa using List.all_eq_true.1 all c h

/-- The calls of a preparation, and those that follow it, are made on one socket. -/
theorem oneSocket_of_inTurn {target : SocketAddress} {later : List Call} {made : List MadeCall}
    {failure : Option IoError} (h : InTurn (preparation target ++ later) made failure)
    (hlater : ∀ c ∈ later, c.prepares = false) : OneSocket made := by
  have options : (preparation target).tail.all (!·.makesSocket) := by cases target <;> rfl
  cases made with
  | nil => exact absurd rfl (h.ne_nil (List.cons_ne_nil _ _))
  | cons m made =>
    have initial := h.map_call_prefix
    rw [List.map_cons] at initial
    obtain ⟨hm, hmade⟩ := List.cons_prefix_cons.1 initial
    refine ⟨m, made, rfl, by rw [hm]; rfl, fun m' hm' => ?_⟩
    have mem : m'.call ∈ (preparation target).tail ++ later :=
      hmade.subset (List.mem_map_of_mem hm')
    rcases List.mem_append.1 mem with hoption | hcall
    · simpa using List.all_eq_true.1 options _ hoption
    · exact Call.makesSocket_of_not_prepares (hlater _ hcall)

/-! ## The laws -/

/-- The laws of binding at an address, when the calls `closing` come after the registration: what
they say of the calls that were made, the events that were logged and the result. -/
structure Lawful (closing : List Call) (a : SocketAddress) (calls : List MadeCall) (log : Log)
    (r : Except ServerError SocketAddress) : Prop where
  /-- The first socket is for the address that was asked for. -/
  first_prefix : (onFirst calls).map (·.call) <+:
    preparation a ++ [.bind a, .listen 1024, .register] ++ closing
  /-- There is a second socket just if `::` was asked for and a call that prepares the first socket
  failed. -/
  retry_iff : onRetry calls ≠ [] ↔
    a.ip = .any ∧ ∃ m ∈ onFirst calls, m.call.prepares ∧ m.failure? ≠ none
  /-- Any other failure on the first socket is the end. -/
  retry_of_late : ∀ m ∈ onFirst calls, m.call.prepares = false → m.failure? ≠ none →
    onRetry calls = []
  /-- The second socket is for `0.0.0.0` on the same port. -/
  retry_prefix : (onRetry calls).map (·.call) <+:
    preparation (.v4 .unspecified a.port) ++
      [.bind (.v4 .unspecified a.port), .listen 1024, .register] ++ closing
  /-- There is no third. -/
  sockets_le : calls.countP (·.call.makesSocket) ≤ 2
  /-- A second socket is logged once, with the failure that the first one ended with. -/
  retry_logged : onRetry calls ≠ [] →
    ∃ before m e, onFirst calls = allDone before ++ [m] ∧ m.failure? = some e ∧
      log = [{ event := .ipv4Only e }]
  /-- Nothing else is logged. -/
  silent : onRetry calls = [] → log = []
  /-- An error names the address that was asked for and tells the failure of the last call. -/
  error : ∀ e, r = .error e →
    ∃ before m source, calls = before ++ [m] ∧ m.failure? = some source ∧ e = .bind a source
  /-- A listener sits on a socket on which every call was made in order, and none failed. -/
  ok : ∀ bound, r = .ok bound →
    ∃ target, target = (if onRetry calls = [] then a else .v4 .unspecified a.port) ∧
      (if onRetry calls = [] then onFirst calls else onRetry calls) =
        allDone (preparation target ++ [.bind target, .listen 1024, .register] ++ closing) ∧
      bound.GrantedFor target

section

variable {closing : List Call} {a : SocketAddress} {calls : List MadeCall}
  {failure : Option IoError} {opened : Except IoError SocketAddress}

/-- Calls that were made of a row after its preparation was done prepare nothing or did not fail. -/
theorem failure?_of_prepared {target : SocketAddress} {later : List Call}
    (made : InTurn (preparation target ++ later) calls failure)
    (prepared : allDone (preparation target) <+: calls) (hlater : ∀ c ∈ later, c.prepares = false)
    {m : MadeCall} (hm : m ∈ calls) (hprepares : m.call.prepares) : m.failure? = none := by
  obtain ⟨rest, rfl⟩ := prepared
  have hrest : rest.map (·.call) <+: later := by
    have initial := made.map_call_prefix
    rwa [List.map_append, map_call_allDone, List.prefix_append_right_inj] at initial
  rcases List.mem_append.1 hm with hdone | hcall
  · exact failure?_of_mem_allDone hdone
  · rw [hlater _ (hrest.subset (List.mem_map_of_mem hcall))] at hprepares
    exact nomatch hprepares

theorem error_of_inTurn {row : List Call} (made : InTurn row calls (error? opened))
    {e : ServerError} (he : opened.mapError (.bind a) = .error e) :
    ∃ before m source, calls = before ++ [m] ∧ m.failure? = some source ∧ e = .bind a source := by
  cases opened with
  | ok bound => exact nomatch he
  | error source =>
    cases he
    obtain ⟨before, m, rfl, hm⟩ := made.exists_concat
    exact ⟨_, m, source, rfl, hm, rfl⟩

theorem ok_of_inTurn {row : List Call} (made : InTurn row calls (error? opened))
    {bound : SocketAddress} (h : opened.mapError (ServerError.bind a) = .ok bound) :
    calls = allDone row ∧ opened = .ok bound := by
  cases opened with
  | ok bound =>
    cases h
    exact ⟨made.eq_allDone, rfl⟩
  | error e => exact nomatch h

theorem lawful_of_direct (hclosing : ∀ c ∈ opening a ++ closing, c.prepares = false)
    (made : InTurn (preparation a ++ (opening a ++ closing)) calls (error? opened))
    (prepared : a.ip = .any → allDone (preparation a) <+: calls)
    (hbound : ∀ bound, opened = .ok bound → bound.GrantedFor a) :
    Lawful closing a calls [] (opened.mapError (.bind a)) := by
  -- the whole record is about one socket, and a failure in it, if any, came after the preparation
  have socket := oneSocket_of_inTurn made hclosing
  have hfirst := socket.onFirst_self
  have hretry := socket.onRetry_self
  constructor
  case first_prefix =>
    rw [hfirst, List.append_assoc]
    exact made.map_call_prefix
  case retry_iff =>
    refine ⟨fun h => absurd hretry h, ?_⟩
    rintro ⟨any, m, hm, hprepares, hfailed⟩
    rw [hfirst] at hm
    exact absurd (failure?_of_prepared made (prepared any) hclosing hm hprepares) hfailed
  case retry_of_late => exact fun _ _ _ _ => hretry
  case retry_prefix => exact hretry ▸ List.nil_prefix
  case sockets_le => rw [socket.countP_eq_one]; decide
  case retry_logged => exact fun h => absurd hretry h
  case silent => exact fun _ => rfl
  case error => exact fun e he => error_of_inTurn made he
  case ok =>
    intro bound h
    obtain ⟨hcalls, hopened⟩ := ok_of_inTurn made h
    rw [if_pos hretry, if_pos hretry, hfirst]
    refine ⟨a, rfl, ?_, hbound bound hopened⟩
    rwa [List.append_assoc]

theorem lawful_of_retried {first second : List MadeCall} {e : IoError} (any : a.ip = .any)
    (hclosing : ∀ c ∈ opening (fallback a) ++ closing, c.prepares = false)
    (stopped : InTurn (preparation a) first (some e))
    (made : InTurn (preparation (fallback a) ++ (opening (fallback a) ++ closing)) second
      (error? opened))
    (hbound : ∀ bound, opened = .ok bound → bound.GrantedFor (fallback a)) :
    Lawful closing a (first ++ second) [{ event := .ipv4Only e }] (opened.mapError (.bind a)) := by
  -- the record is that of the first socket and that of the second, cut where this one is made
  have alone : InTurn (preparation a ++ []) first (some e) := by rwa [List.append_nil]
  have socket : OneSocket first := oneSocket_of_inTurn alone nofun
  have socket' : OneSocket second := oneSocket_of_inTurn made hclosing
  have hfirst := socket.onFirst_append socket'
  have hretry := socket.onRetry_append socket'
  have hne : onRetry (first ++ second) ≠ [] := hretry.symm ▸ socket'.ne_nil
  obtain ⟨before, m, hm, hfailed⟩ := stopped.exists_concat
  have initial : first.map (·.call) <+: preparation a := stopped.map_call_prefix
  have hprepares : ∀ m' ∈ first, m'.call.prepares := fun m' hm' =>
    prepares_of_mem_preparation (initial.subset (List.mem_map_of_mem hm'))
  constructor
  case first_prefix =>
    rw [hfirst, List.append_assoc]
    exact initial.trans (List.prefix_append ..)
  case retry_iff =>
    refine ⟨fun _ => ⟨any, m, ?_, ?_, ?_⟩, fun _ => hne⟩
    · rw [hfirst, hm]
      exact List.mem_concat_self
    · exact hprepares m (hm ▸ List.mem_concat_self)
    · rw [hfailed]
      exact nofun
  case retry_of_late =>
    intro m' hm' hlate
    rw [hfirst] at hm'
    exact absurd (hprepares m' hm') (by simp [hlate])
  case retry_prefix =>
    rw [hretry, List.append_assoc]
    exact made.map_call_prefix
  case sockets_le => rw [List.countP_append, socket.countP_eq_one, socket'.countP_eq_one]
  case retry_logged => exact fun _ => ⟨before, m, e, hfirst.trans hm, hfailed, rfl⟩
  case silent => exact fun h => absurd h hne
  case error =>
    intro e' he
    obtain ⟨before', m', source, rfl, hm', he'⟩ := error_of_inTurn made he
    exact ⟨first ++ before', m', source, (List.append_assoc ..).symm, hm', he'⟩
  case ok =>
    intro bound h
    obtain ⟨hcalls, hopened⟩ := ok_of_inTurn made h
    rw [if_neg hne, if_neg hne, hretry]
    refine ⟨fallback a, rfl, ?_, hbound bound hopened⟩
    rwa [List.append_assoc]

/-- Whatever course binding takes is lawful. -/
theorem lawful_of_binds {log : Log} {r : Except ServerError SocketAddress}
    (hclosing : ∀ c ∈ closing, c.prepares = false)
    (h : Binds (fun target => opening target ++ closing) a calls log r) :
    Lawful closing a calls log r := by
  have hlater (target : SocketAddress) : ∀ c ∈ opening target ++ closing, c.prepares = false :=
    fun c hc => (List.mem_append.1 hc).elim not_prepares_of_mem_opening (hclosing c)
  obtain ⟨opened, ⟨target, course, hbound⟩, rfl⟩ := h
  generalize hfailure : error? opened = failure at course
  cases course with
  | direct made prepared =>
    subst hfailure
    exact lawful_of_direct (hlater a) made prepared hbound
  | retried any stopped made =>
    subst hfailure
    exact lawful_of_retried any (hlater (fallback a)) stopped made hbound

end

/-- **Binding is lawful**, whatever is in use and whichever calls fail. There is a second socket, an
IPv4 one on the same port, just if the socket for `::` could not be prepared; that is logged once,
with the reason. An error names the address that was asked for and tells why the last call failed.
A listener that is returned sits on a socket that was fully prepared before it was bound, and on
which no call failed. The same holds of a server, which also asks for its address. -/
theorem binding_is_lawful (net : Network) (a : SocketAddress) :
    Records (listenOn net a) (Lawful [] a) ∧
    ∀ handler, Records (Server.bind net a handler) fun calls log r =>
      Lawful [.getsockname] a calls log (r.map Server.address) := by
  constructor
  · exact (records_listenOn net a).mono fun calls log r h => lawful_of_binds nofun h
  · intro handler
    refine (Server.records_bind net a handler).mono fun calls log r h => lawful_of_binds ?_ h.1
    intro c hc
    rw [List.mem_singleton.1 hc]
    rfl

/-- An IPv6 socket that cannot take IPv4, and then an IPv4 socket that cannot be prepared either:
the error is the second one, and names the address with the scope that was asked for. -/
theorem binding_is_lawful_of_failed_retry :
    ∃ calls log,
      calls = (final ((listenOn .loopback (.v6 .unspecified 80 3)).run
        { faults := { coming := fun c =>
          if c = .setsockopt then [some .protocolUnavailable, some .noBuffers] else [] } })).calls ∧
      onRetry calls ≠ [] ∧
      Lawful [] (.v6 .unspecified 80 3) calls log
        (.error (.bind (.v6 .unspecified 80 3) (.ofErrno .noBuffers))) := by
  obtain ⟨calls, log, hcalls, -, lawful⟩ :=
    (binding_is_lawful .loopback (.v6 .unspecified 80 3)).1
      { faults := { coming := fun c =>
          if c = .setsockopt then [some .protocolUnavailable, some .noBuffers] else [] } }
  obtain rfl : calls = _ := hcalls.symm
  refine ⟨_, log, rfl, ?_, lawful⟩
  decide

end Listener

end TwinServers
