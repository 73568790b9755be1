import TwinServers.Proofs.Host.Ports
import TwinServers.Proofs.Host.Records

/-!
# The course that binding takes

`Course` tells every way in which binding a listener can go, as the calls it makes, the events it
logs and the error it ends with. Either everything happens on one socket, or `::` was asked for and
the preparation of its socket failed, and then everything happens again on a second socket, for the
fallback. What comes after the preparation is a parameter: `records_openAt` is the course of a
listener, and `records_acquire` that of a server, which asks for its address at the end.
-/

namespace TwinServers

open Kernel

namespace Listener

/-! ## Rows of calls -/

/-- The calls that prepare a socket for an address, in order. -/
def preparation (a : SocketAddress) : List Call :=
  .socket a.isIpv6 :: (if a.isIpv6 then [.dualStack] else []) ++ [.reuseAddress, .nonblocking]

/-- The calls that make a prepared socket a listener on an address, in order. -/
def opening (a : SocketAddress) : List Call := [.bind a, .listen backlog, .register]

/-- The calls that make a prepared socket the listener of a server, in order. -/
def serving (a : SocketAddress) : List Call := opening a ++ [.getsockname]

theorem makes_prepareSocket (a : SocketAddress) :
    Makes (preparation a) (prepareSocket a) fun _ => True := by
  unfold prepareSocket preparation
  refine (makes_call _).bind fun _ _ => ?_
  split
  · exact (makes_call _).bind fun _ _ => (makes_call _).bind fun _ _ => makes_call _
  · exact (makes_call _).bind fun _ _ => makes_call _

theorem makes_prepared (a : SocketAddress) :
    Makes (preparation a) (do prepareSocket a; return a) (· = a) := by
  have given : Makes [] (pure a) (· = a) := makes_pure rfl
  have made := (makes_prepareSocket a).bind fun _ _ => given
  rwa [List.append_nil] at made

theorem makes_opening (net : Network) (a : SocketAddress) :
    Makes (opening a)
      (do
        let bound ← Kernel.bind net a
        holding bound do
          call (.listen backlog)
          call .register
          return bound)
      (·.GrantedFor a) := by
  refine Makes.bind (makes_perform _ fun _ _ _ h => Ports.grantedFor_of_bind h)
    fun bound hbound => ?_
  refine Makes.holding ?_ bound
  exact (makes_call _).bind fun _ _ => (makes_call _).bind fun _ _ => makes_pure hbound

/-! ## Courses -/

/-- A way in which binding at an address can go, when a prepared socket for a target goes on to
make the calls `rest target`: the target of the last socket, the calls made, the events logged and
the error of the call that failed, if the last socket met one. -/
inductive Course (rest : SocketAddress → List Call) (a : SocketAddress) :
    SocketAddress → List MadeCall → Log → Option IoError → Prop
  /-- There is one socket. For `::` this means that it could be prepared. -/
  | direct {calls : List MadeCall} {failure : Option IoError}
      (made : InTurn (preparation a ++ rest a) calls failure)
      (prepared : a.ip = .any → allDone (preparation a) <+: calls) :
      Course rest a a calls [] failure
  /-- The socket for `::` could not be prepared, and there is a second one for its fallback. -/
  | retried {first second : List MadeCall} {e : IoError} {failure : Option IoError}
      (any : a.ip = .any) (stopped : InTurn (preparation a) first (some e))
      (made : InTurn (preparation (fallback a) ++ rest (fallback a)) second failure) :
      Course rest a (fallback a) (first ++ second) [{ event := .ipv4Only e }] failure

namespace Course

variable {rest : SocketAddress → List Call} {a target : SocketAddress}
  {calls calls' : List MadeCall} {log : Log} {failure : Option IoError} {e : IoError}

/-- A course that met no failure goes on with further calls. -/
theorem extend (h : Course rest a target calls log none) {more : SocketAddress → List Call}
    (made : InTurn (more target) calls' failure) :
    Course (fun t => rest t ++ more t) a target (calls ++ calls') log failure := by
  cases h with
  | direct first prepared =>
    refine .direct ?_ fun any => (prepared any).trans (List.prefix_append ..)
    rw [← List.append_assoc]
    exact first.append made
  | retried any stopped second =>
    rw [List.append_assoc]
    refine .retried any stopped ?_
    rw [← List.append_assoc]
    exact second.append made

/-- A course that ended at a failure is the same whatever was to follow. -/
theorem stop (h : Course rest a target calls log (some e)) (more : SocketAddress → List Call) :
    Course (fun t => rest t ++ more t) a target calls log (some e) := by
  cases h with
  | direct first prepared =>
    refine .direct ?_ prepared
    rw [← List.append_assoc]
    exact first.stop _
  | retried any stopped second =>
    refine .retried any stopped ?_
    rw [← List.append_assoc]
    exact second.stop _

theorem target_eq (h : Course rest a target calls log failure) :
    target = a ∨ a.ip = .any ∧ target = fallback a := by
  cases h with
  | direct => exact .inl rfl
  | retried any => exact .inr ⟨any, rfl⟩

theorem eq_ipv4Only_of_mem (h : Course rest a target calls log failure) {entry : Entry}
    (hentry : entry ∈ log) : ∃ e, entry = { event := .ipv4Only e } := by
  cases h with
  | direct => exact nomatch hentry
  | retried => exact ⟨_, List.mem_singleton.1 hentry⟩

end Course

/-- Preparing a socket takes a course that ends where the socket is prepared. -/
theorem records_prepare (a : SocketAddress) :
    Records (prepare a) fun calls log r =>
      ∃ target, Course (fun _ => []) a target calls log (error? r) ∧
        ∀ t, r = .ok t → t = target := by
  refine Records.tryCatch (makes_prepared a) ?_ ?_
  · rintro calls log t ⟨made, rfl, ht⟩
    refine ⟨a, .direct ?_ fun _ => ?_, fun t' h => ?_⟩
    · rwa [List.append_nil]
    · obtain rfl := made.eq_allDone
      exact List.prefix_refl _
    · cases h
      exact ht t rfl
  · rintro calls log e ⟨made, rfl, -⟩
    split
    -- the failed preparation is the first half of the course, and only `::` has a second
    · next any =>
      refine Records.after_record ((makes_prepared (fallback a)).mono ?_)
      rintro calls' log' r ⟨made', rfl, ht⟩
      refine ⟨fallback a, .retried any made ?_, ht⟩
      rwa [List.append_nil]
    · next notAny =>
      refine Records.throw ⟨a, ?_, nofun⟩
      rw [List.append_nil]
      refine .direct ?_ fun any => absurd any notAny
      rwa [List.append_nil]

/-- How opening a listener at an address can go: it takes a course, and the address that it gives is
granted for the target of this course. -/
def Opens (rest : SocketAddress → List Call) (a : SocketAddress) (calls : List MadeCall) (log : Log)
    (r : Except IoError SocketAddress) : Prop :=
  ∃ target, Course rest a target calls log (error? r) ∧
    ∀ bound, r = .ok bound → bound.GrantedFor target

/-- How binding at an address can go: as opening a listener does, with an error that names the
address. -/
def Binds (rest : SocketAddress → List Call) (a : SocketAddress) (calls : List MadeCall) (log : Log)
    (r : Except ServerError SocketAddress) : Prop :=
  ∃ opened, Opens rest a calls log opened ∧ r = opened.mapError (.bind a)

namespace Binds

variable {rest : SocketAddress → List Call} {a : SocketAddress} {calls : List MadeCall} {log : Log}

theorem course_of_ok {bound : SocketAddress} (h : Binds rest a calls log (.ok bound)) :
    ∃ target, Course rest a target calls log none ∧ bound.GrantedFor target := by
  obtain ⟨_ | opened, ⟨target, course, hbound⟩, h⟩ := h
  · exact nomatch h
  · cases h
    exact ⟨target, course, hbound bound rfl⟩

theorem course_of_error {e : ServerError} (h : Binds rest a calls log (.error e)) :
    ∃ target source, Course rest a target calls log (some source) ∧ e = .bind a source := by
  obtain ⟨source | _, ⟨target, course, -⟩, h⟩ := h
  · cases h
    exact ⟨target, source, course, rfl⟩
  · exact nomatch h

end Binds

/-- **Opening a listener takes a course.** -/
theorem records_openAt (net : Network) (a : SocketAddress) :
    Records (openAt net a) (Opens opening a) := by
  unfold openAt
  refine (records_prepare a).bind ?_ ?_
  · rintro calls log t ⟨target, course, ht⟩
    obtain rfl := ht t rfl
    refine (makes_opening net t).mono ?_
    rintro calls' log' r ⟨made, rfl, hbound⟩
    rw [List.append_nil]
    exact ⟨t, course.extend made, hbound⟩
  · rintro calls log e ⟨target, course, -⟩
    exact ⟨target, course.stop _, nofun⟩

theorem records_listenOn (net : Network) (a : SocketAddress) :
    Records (listenOn net a) (Binds opening a) :=
  (records_openAt net a).explaining _ fun _ _ r h => ⟨r, h, rfl⟩

end Listener

namespace Server

open Listener

theorem records_acquire (net : Network) (a : SocketAddress) :
    Records (acquire net a) (Binds serving a) := by
  refine Records.explaining (?_ : Records _ (Opens serving a)) _ fun _ _ r h => ⟨r, h, rfl⟩
  refine (records_openAt net a).bind ?_ ?_
  · rintro calls log bound ⟨target, course, hbound⟩
    have asked : Makes [.getsockname] (do holding bound (call .getsockname); return bound)
        (· = bound) :=
      ((makes_call _).holding bound).bind fun _ _ => makes_pure rfl
    refine asked.mono ?_
    rintro calls' log' r ⟨made, rfl, hr⟩
    rw [List.append_nil]
    have served : Course serving a target (calls ++ calls') log (error? r) := course.extend made
    refine ⟨target, served, fun b hb => ?_⟩
    rw [hr b hb]
    exact hbound bound rfl
  · rintro calls log e ⟨target, course, -⟩
    exact ⟨target, course.stop _, nofun⟩

/-- A server is bound as its listener is. -/
theorem records_bind (net : Network) (a : SocketAddress) (handler : Handler) :
    Records (Server.bind net a handler) fun calls log r =>
      Binds serving a calls log (r.map Server.address) ∧
        ∀ server, r = .ok server → server.handler = handler := by
  refine (records_acquire net a).bind ?_ ?_
  · intro calls log address h
    refine Records.pure ?_
    rw [List.append_nil, List.append_nil]
    refine ⟨h, fun server hs => ?_⟩
    cases hs
    rfl
  · intro calls log e h
    exact ⟨h, nofun⟩

end Server

end TwinServers
