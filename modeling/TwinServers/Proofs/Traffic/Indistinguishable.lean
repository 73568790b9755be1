import Mathlib.Control.Monad.Basic
import TwinServers.Proofs.Http.Alike
import TwinServers.Proofs.Traffic.Setup
import TwinServers.Proofs.Traffic.Steps

/-!
# Servers that cannot be told apart

With the length of a body declared that is not empty, clients cannot find out which of the two
servers they talk to. Two runs in which the same clients do the same things, but turn to different
servers, keep their connections in the same states (`Alike`): the servers have the same replies, and
are reached alike. So whatever is sent, in whatever portions and on however many connections, all
that clients see is the same: `declared_servers_are_indistinguishable`. This is so under all rules
that honour declared lengths. An empty body gives the servers away
(`empty_bodies_tell_servers_apart`).
-/

namespace TwinServers.Traffic

variable {rules : Http.Rules}

/-! ## What clients can see -/

/-- A connection without the server it was made to. -/
def linkFace (l : Link rules) : Link rules := { l with server := .chunked }

/-- The same step, on a connection to the given server. -/
def Step.to (d : Delivery) (s : Step) : Step := { s with server := d }

/-- An answer without the log of the servers, which clients do not see. -/
def Answer.seen : Answer → Answer
  | .sent n => .sent n
  | .received wire closed _ => .received wire closed []
  | .left _ => .left []

/-- What the clients of an exchange see of it. -/
def seen (r : Except Failure (Log × ServerPair × List Answer)) : Except Failure (List Answer) :=
  r.map fun (_, _, answers) => answers.map Answer.seen

/-- Whether it makes no difference to which of the two servers a client turns. -/
structure Uniform (t : Traffic rules) : Prop where
  connect : ∀ via d d', (t.ports.connect t.net via (t.pair.server d).address.port).map Prod.snd =
    (t.ports.connect t.net via (t.pair.server d').address.port).map Prod.snd
  handler : ∀ d d', (t.pair.server d).handler.Alike rules.output (t.pair.server d').handler

/-- Whether two registries hold the same connections, up to the servers they were made to. -/
def Alike (links links' : Registry (Link rules)) : Prop :=
  ∀ name, (links.get? name).map linkFace = (links'.get? name).map linkFace

variable {t : Traffic rules} {links : Registry (Link rules)}

/-! ## A step -/

theorem linkFace_settle (u : Uniform t) (l : Link rules) :
    linkFace (t.settle l) = linkFace (t.settle (linkFace l)) := by
  simp only [settle, linkFace, Http.Connection.serve_of_alike (u.handler l.server .chunked) t.date]

theorem linkFace_settle_deliverOn (u : Uniform t) (s : Step) {l l' : Link rules}
    (hl : linkFace l = linkFace l') :
    linkFace (t.settle (deliverOn s l)) = linkFace (t.settle (deliverOn s l')) := by
  have hdeliver : linkFace (deliverOn s l) = linkFace (deliverOn s l') :=
    congrArg (deliverOn s) hl
  rw [linkFace_settle u, hdeliver, ← linkFace_settle u]

/-- A new connection shows the client, and that is all there is to see of it. -/
theorem linkFor_of_none {t : Traffic rules} {s : Step} (h : t.links.get? s.connection = none) :
    (t.linkFor s).map linkFace =
      match (t.ports.connect t.net s.via (t.pair.server s.server).address.port).map Prod.snd with
      | .ok client => .ok { server := .chunked, client }
      | .error e => .error (.ofErrno e) := by
  unfold linkFor
  rw [h]
  cases t.ports.connect t.net s.via (t.pair.server s.server).address.port <;> rfl

/-- Runs that are alike find the connections of their steps alike. -/
theorem linkFor_alike (u : Uniform t) (h : Alike t.links links) (d : Delivery) (s : Step) :
    (t.linkFor s).map linkFace = ({ t with links }.linkFor (s.to d)).map linkFace := by
  have hname := h s.connection
  cases hl : t.links.get? s.connection with
  | some l =>
    rw [hl] at hname
    obtain ⟨l', hl', hface⟩ := Option.map_eq_some_iff.1 hname.symm
    unfold linkFor
    simp only [Step.to, hl, hl', Except.map, hface]
  | none =>
    rw [hl, Option.map_none, eq_comm, Option.map_eq_none_iff] at hname
    rw [linkFor_of_none hl, linkFor_of_none (by exact hname), u.connect s.via s.server d]
    rfl

theorem seen_answerOn (u : Uniform t) (s : Step) {l l' : Link rules} (hl : linkFace l = linkFace l')
    (log log' : Log) : (t.answerOn s l log).seen = (t.answerOn s l' log').seen := by
  have hsettle := linkFace_settle_deliverOn u s hl
  have hunread : (t.settle (deliverOn s l)).unread = (t.settle (deliverOn s l')).unread :=
    (Link.mk.inj hsettle).2.2.2.2
  have hconnection : (t.settle (deliverOn s l)).connection =
      (t.settle (deliverOn s l')).connection := (Link.mk.inj hsettle).2.2.2.1
  simp only [answerOn, hunread, hconnection]
  split
  · rfl
  · split <;> rfl

theorem afterOn_alike (u : Uniform t) (s : Step) {l l' : Link rules}
    (hl : linkFace l = linkFace l') :
    (t.afterOn s l).map linkFace = (t.afterOn s l').map linkFace := by
  unfold afterOn
  split
  · rfl
  · split
    · exact congrArg (fun l : Link rules => some { l with unread := [] })
        (linkFace_settle_deliverOn u s hl)
    · exact congrArg (fun l => some (deliverOn s l)) hl

/-- **Runs that are alike stay alike and answer alike**, whichever server the second turns to. -/
theorem step_alike (u : Uniform t) (h : Alike t.links links) (d : Delivery) (s : Step) :
    (∃ e, t.step s = .error e ∧ { t with links }.step (s.to d) = .error e) ∨
    ∃ answer answer' next next', t.step s = .ok (answer, { t with links := next }) ∧
      { t with links }.step (s.to d) = .ok (answer', { t with links := next' }) ∧
      answer.seen = answer'.seen ∧ Alike next next' := by
  have hlink := linkFor_alike u h d s
  cases hl : t.linkFor s with
  | error e =>
    cases hl' : { t with links }.linkFor (s.to d) with
    | error e' =>
      rw [hl, hl'] at hlink
      cases hlink
      exact .inl ⟨e, step_of_linkFor_error hl, step_of_linkFor_error hl'⟩
    | ok l' =>
      rw [hl, hl'] at hlink
      exact nomatch hlink
  | ok l =>
    cases hl' : { t with links }.linkFor (s.to d) with
    | error e' =>
      rw [hl, hl'] at hlink
      exact nomatch hlink
    | ok l' =>
      rw [hl, hl'] at hlink
      have hface : linkFace l = linkFace l' := Except.ok.inj hlink
      obtain ⟨log, next, hstep, hnext⟩ := step_of_linkFor hl
      obtain ⟨log', next', hstep', hnext'⟩ := step_of_linkFor hl'
      refine .inr ⟨_, _, next, next', hstep, hstep', seen_answerOn u s hface log log', ?_⟩
      intro name
      rw [hnext, hnext']
      change Option.map linkFace _ = Option.map linkFace (if name = s.connection then t.afterOn s l'
        else if s.runs then (links.get? name).map t.settle else links.get? name)
      split
      · exact afterOn_alike u s hface
      · split
        · have hsettle : linkFace ∘ t.settle = (linkFace ∘ t.settle) ∘ linkFace :=
            funext (linkFace_settle u)
          rw [Option.map_map, Option.map_map, hsettle, ← Option.map_map, h name, Option.map_map]
        · exact h name

/-! ## Runs -/

theorem answers_alike (d : Delivery) (steps : List Step) {t : Traffic rules}
    {links : Registry (Link rules)} (u : Uniform t) (h : Alike t.links links) :
    (t.answers steps).map (List.map Answer.seen) =
      ({ t with links }.answers (steps.map (Step.to d))).map (List.map Answer.seen) := by
  induction steps generalizing t links with
  | nil => rfl
  | cons s steps ih =>
    rw [List.map_cons, answers, answers]
    obtain ⟨e, hstep, hstep'⟩ | ⟨answer, answer', next, next', hstep, hstep', hseen, hnext⟩ :=
      step_alike u h d s
    · rw [hstep, hstep']
      rfl
    · have hrest : ({ t with links := next }.answers steps).map (List.map Answer.seen) =
          ({ t with links := next' }.answers (steps.map (Step.to d))).map (List.map Answer.seen) :=
        ih ⟨u.connect, u.handler⟩ hnext
      have cons : ∀ (a : Answer) (r : Except IoError (List Answer)),
          (do let rest ← r; return a :: rest : Except IoError (List Answer)).map
            (List.map Answer.seen) = (r.map (List.map Answer.seen)).map (a.seen :: ·) := by
        intro a r
        cases r <;> rfl
      rw [hstep, hstep']
      exact (cons _ _).trans (by rw [hrest, hseen]; exact (cons _ _).symm)

theorem uniform_of_bind (honours : rules.output.HonoursLengths) {net : Network} {setup : Setup}
    {pair : ServerPair} {k : Kernel} (hbind : (setup.bind net).run {} = .ok pair k)
    (hdeclares : setup.declares = true) (hne : setup.content ≠ []) (date : Bytes) :
    Uniform (opening rules net k pair date) where
  connect := Setup.connect_of_bind hbind
  handler d d' := by
    obtain ⟨payload, hpayload, hhandler⟩ := Setup.handler_of_bind hbind
    have content : (payload.body d).content ≠ [] := by
      rw [Setup.content_body hpayload]
      exact hne
    change Handler.Alike rules.output (pair.server d).handler (pair.server d').handler
    rw [hhandler, hhandler, hdeclares]
    exact Handler.alike_of_declares honours hpayload content d'

theorem seen_exchangeUnder_of_bind (rules : Http.Rules) {net : Network} {setup : Setup}
    {pair : ServerPair} {k : Kernel} (hbind : (setup.bind net).run {} = .ok pair k) (date : Bytes)
    (steps : List Step) :
    seen (exchangeUnder rules net date setup steps) =
      match ((opening rules net k pair date).answers steps).map (List.map Answer.seen) with
      | .error e => .error (.connect e)
      | .ok seen => .ok seen := by
  rw [exchangeUnder_of_bind rules hbind]
  cases (opening rules net k pair date).answers steps <;> rfl

/-- **With the length declared, the two servers cannot be told apart**, unless their bodies are
empty. Whatever clients send, on any connections and in any portions, they see the same of the
chunked server as of the bulk server: the same bytes in answer to each step, and the connection
closed or open. All that is needed of the rules that the servers go by is that they honour declared
lengths. -/
theorem declared_servers_are_indistinguishable (rules : Http.Rules)
    (honours : rules.output.HonoursLengths) (net : Network) (date : Bytes) (setup : Setup)
    (hdeclares : setup.declares = true) (hne : setup.content ≠ []) (steps : List Step) :
    seen (exchangeUnder rules net date setup (steps.map (Step.to .chunked))) =
      seen (exchangeUnder rules net date setup (steps.map (Step.to .bulk))) := by
  cases hbind : (setup.bind net).run {} with
  | error e k =>
    rw [exchangeUnder_of_bind_error rules hbind, exchangeUnder_of_bind_error rules hbind]
  | ok pair k =>
    have u := uniform_of_bind honours hbind hdeclares hne date
    have hsame := answers_alike .bulk (steps.map (Step.to .chunked)) u fun _ => rfl
    have hto : (steps.map (Step.to .chunked)).map (Step.to .bulk) = steps.map (Step.to .bulk) := by
      rw [List.map_map]
      rfl
    rw [hto] at hsame
    rw [seen_exchangeUnder_of_bind rules hbind, seen_exchangeUnder_of_bind rules hbind, hsame]

/-- With the rules of the program: after a reply, a malformed request on one connection, and on
another a request after which the client has nothing more to send. -/
theorem declared_servers_are_indistinguishable_to_bad_request :
    let setup : Setup := .payload [0x61] [0x62] 3 2 true
    let malformed : Step :=
      { connection := "a", server := .chunked, via := .v4 .localhost
        send := Bytes.latin "HEAD / HTTP/1.0\r\n\r\nGET <" }
    let last : Step :=
      { malformed with
        connection := "b", send := Bytes.latin "GET / HTTP/1.1\r\n\r\n", closing := .endsSending }
    Http.Rules.standard.output.HonoursLengths ∧ setup.declares = true ∧ setup.content ≠ [] ∧
    seen (exchange .loopback [] setup [malformed.to .chunked, last.to .chunked]) =
      seen (exchange .loopback [] setup [malformed.to .bulk, last.to .bulk]) :=
  ⟨Http.Output.honoursLengths_standard, rfl, by decide,
    declared_servers_are_indistinguishable .standard Http.Output.honoursLengths_standard .loopback
      [] _ rfl (by decide) [_, _]⟩

/-- The length of an empty body is found out where it is all in one piece, and then announced after
the line about the connection. -/
theorem empty_bodies_tell_servers_apart :
    let setup : Setup := .payload [] [] 1 1 true
    let step : Step :=
      { connection := "a", server := .chunked, via := .v4 .localhost
        send := Bytes.latin "GET / HTTP/1.1\r\nConnection: close\r\n\r\n" }
    let response (lines : String) := Bytes.latin "HTTP/1.1 200 OK\r\n" ++ Bytes.latin lines ++
      Bytes.latin "date: now\r\n\r\n"
    seen (exchange .loopback (Bytes.latin "now") setup [step.to .chunked]) =
        .ok [.received (response "content-length: 0\r\nconnection: close\r\n") true []] ∧
      seen (exchange .loopback (Bytes.latin "now") setup [step.to .bulk]) =
        .ok [.received (response "connection: close\r\ncontent-length: 0\r\n") true []] := by
  intro setup step response
  constructor <;> decide +kernel

end TwinServers.Traffic
