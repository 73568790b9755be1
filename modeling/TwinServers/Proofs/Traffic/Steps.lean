import TwinServers.Traffic

/-!
# Traffic, one connection at a time

A step looks at the connection it names and at no other, and all that the servers do when they run
is to settle every connection by itself: `get?_run`. So what is under a name after a step follows
from what was under it before, and so does the answer to the step that names it: `step_of_linkFor`.
-/

namespace TwinServers.Traffic

variable {rules : Http.Rules}

/-! ## The servers run -/

/-- What the servers make of a connection when they run: it is accepted if it was not yet, and
served as far as what has arrived allows. -/
def settle (t : Traffic rules) (l : Link rules) : Link rules :=
  let served := l.connection.serve t.date (t.pair.server l.server).handler
  { l with accepted := true, connection := served.connection, unread := l.unread ++ served.wire }

theorem accept_accept (t : Traffic rules) (l : Link rules) :
    (t.accept .bulk (t.accept .chunked l).1).1 = { l with accepted := true } := by
  obtain ⟨server, client, accepted, connection, unread⟩ := l
  cases server <;> cases accepted <;> rfl

/-- **Every connection is settled by itself.** -/
theorem get?_run (t : Traffic rules) (name : String) :
    t.run.1.links.get? name = (t.links.get? name).map t.settle := by
  simp only [run, Registry.get?_mapGather, Option.map_map]
  congr 1
  funext l
  simp only [Function.comp_apply, accept_accept]
  rfl

/-! ## A step -/

/-- The connection of a step, with what the client sends on it under way. -/
def deliverOn (s : Step) (l : Link rules) : Link rules :=
  { l with connection := l.connection.receive s.send (s.closing != .goesOn) }

theorem get?_deliver (t : Traffic rules) (s : Step) (l : Link rules) (name : String) :
    (t.deliver s l).links.get? name =
      if name = s.connection then some (deliverOn s l) else t.links.get? name :=
  Registry.get?_insert ..

/-- Whether the servers run in a step. -/
def Step.runs (s : Step) : Bool := s.closing == .leaves || s.wait

/-- The answer to a step on a connection, with what is logged in it. -/
def answerOn (t : Traffic rules) (s : Step) (l : Link rules) (log : Log) : Answer :=
  let settled := t.settle (deliverOn s l)
  if s.closing = .leaves then .left log
  else if s.wait then .received settled.unread settled.connection.closed log
  else .sent s.send.length

/-- The connection of a step after it, if it is still there. -/
def afterOn (t : Traffic rules) (s : Step) (l : Link rules) : Option (Link rules) :=
  if s.closing = .leaves then none
  else if s.wait then some { t.settle (deliverOn s l) with unread := [] }
  else some (deliverOn s l)

theorem get?_run_deliver (t : Traffic rules) (s : Step) (l : Link rules) (name : String) :
    (t.deliver s l).run.1.links.get? name =
      if name = s.connection then some (t.settle (deliverOn s l))
      else (t.links.get? name).map t.settle := by
  rw [get?_run, get?_deliver]
  split <;> rfl

/-- **What a step does**: its answer is about its own connection, every other connection is settled
if the servers run, and is left alone if they do not. -/
theorem step_of_linkFor {t : Traffic rules} {s : Step} {l : Link rules} (h : t.linkFor s = .ok l) :
    ∃ log links, t.step s = .ok (t.answerOn s l log, { t with links }) ∧
      ∀ name, links.get? name =
        if name = s.connection then t.afterOn s l
        else if s.runs then (t.links.get? name).map t.settle
        else t.links.get? name := by
  rw [step, h]
  simp only [answerOn, afterOn, Step.runs]
  change ∃ log links, (if s.closing = .leaves then _ else if s.wait then _ else _) = _ ∧ _
  by_cases hleaves : s.closing = .leaves
  · refine ⟨(t.deliver s l).run.2, (t.deliver s l).run.1.links.erase s.connection, ?_,
      fun name => ?_⟩
    · simp only [hleaves, if_true]
      rfl
    · rw [Registry.get?_erase, get?_run_deliver]
      simp only [hleaves, if_true, beq_self_eq_true, Bool.true_or]
      split <;> rfl
  · have hruns : (s.closing == .leaves || s.wait) = s.wait := by
      rw [beq_eq_false_iff_ne.2 hleaves, Bool.false_or]
    simp only [hleaves, if_false, hruns]
    cases hwait : s.wait with
    | true =>
      have hread : (t.deliver s l).run.1.links.get? s.connection =
          some (t.settle (deliverOn s l)) := by rw [get?_run_deliver, if_pos rfl]
      refine ⟨(t.deliver s l).run.2, (t.deliver s l).run.1.links.insert s.connection
        { t.settle (deliverOn s l) with unread := [] }, ?_, fun name => ?_⟩
      · change Except.ok ((t.deliver s l).run.1.read s.connection _) = _
        unfold read
        rw [hread]
        rfl
      · rw [Registry.get?_insert, get?_run_deliver]
        by_cases hname : name = s.connection <;> simp [hname]
    | false =>
      refine ⟨[], (t.deliver s l).links, rfl, fun name => ?_⟩
      rw [get?_deliver]
      by_cases hname : name = s.connection <;> simp [hname]

/-- A step whose connection cannot be made has no answer. -/
theorem step_of_linkFor_error {t : Traffic rules} {s : Step} {e : IoError}
    (h : t.linkFor s = .error e) : t.step s = .error e := by
  rw [step, h]
  rfl

/-! ## From the start -/

theorem linkFor_of_connect {t : Traffic rules} {s : Step} {a : SocketAddress} {client : IpAddress}
    (hnew : t.links.get? s.connection = none)
    (h : t.ports.connect t.net s.via (t.pair.server s.server).address.port = .ok (a, client)) :
    t.linkFor s = .ok { server := s.server, client } := by
  unfold linkFor
  rw [hnew, h]

theorem exchangeUnder_of_bind (rules : Http.Rules) {net : Network} {setup : Setup}
    {pair : ServerPair} {k : Kernel} (hbind : (setup.bind net).run {} = .ok pair k) (date : Bytes)
    (steps : List Step) :
    exchangeUnder rules net date setup steps =
      match (opening rules net k pair date).answers steps with
      | .error e => .error (.connect e)
      | .ok answers => .ok (k.log ++ pair.accepting, pair, answers) := by
  unfold exchangeUnder
  generalize (setup.bind net).run {} = bound at hbind
  subst hbind
  rfl

theorem exchangeUnder_of_bind_error (rules : Http.Rules) {net : Network} {setup : Setup}
    {e : StartError} {k : Kernel} (hbind : (setup.bind net).run {} = .error e k) (date : Bytes)
    (steps : List Step) : exchangeUnder rules net date setup steps = .error (.start e) := by
  simp only [exchangeUnder, hbind]

end TwinServers.Traffic
