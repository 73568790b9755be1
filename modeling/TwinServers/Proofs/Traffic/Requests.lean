import TwinServers.Proofs.Http.KeepAlive
import TwinServers.Proofs.Traffic.Setup
import TwinServers.Proofs.Traffic.Steps

/-!
# Requests over one connection

A client sends plain requests on one connection, any number in a step, and need not wait for the
servers in every step. Between its steps the connection holds the requests that are not answered yet
and nothing else (`Holds`): what a step sends is added to them, and when the servers run they answer
all of them at once (`step_sending`). So when the last step waits, as many responses have been
written as there were requests, and a decoder finds where each of them ends:
`every_response_is_read_whole`.
-/

namespace TwinServers.Traffic

/-- The part of an answer that came over the wire. -/
def Answer.wire : Answer → Bytes
  | .received wire .. => wire
  | .sent _ | .left _ => []

/-- The same step, which sends the given texts and leaves the connection open. -/
def Step.sending (s : Step) (texts : List Bytes) (wait : Bool) : Step :=
  { s with send := texts.flatten, closing := .goesOn, wait }

/-- Whether a connection holds texts that the server has yet to read, and nothing else. -/
structure Holds (l : Link .standard) (d : Delivery) (texts : List Bytes) : Prop where
  server : l.server = d
  connection : l.connection = { inbox := { arrived := texts.flatten } }
  unread : l.unread = []

variable {t : Traffic .standard} {s : Step} {l : Link .standard} {pending : List Bytes}
  {r : Response}

/-! ## A step -/

theorem Holds.deliverOn (h : Holds l s.server pending) (texts : List Bytes) (wait : Bool) :
    Holds (deliverOn (s.sending texts wait) l) s.server (pending ++ texts) where
  server := h.server
  connection := by
    simp only [Traffic.deliverOn, h.connection, List.flatten_append]
    rfl
  unread := h.unread

/-- When the servers run, everything that is held is answered. -/
theorem Holds.settle (h : Holds l s.server pending)
    (hr : ∀ request, (t.pair.server s.server).handler.respond request = r) (htruthful : r.Truthful)
    (hplain : ∀ text ∈ pending, Http.IsPlain text) :
    (t.settle l).unread = pending.flatMap (fun _ => r.text t.date) ∧
      Holds { t.settle l with unread := [] } s.server [] := by
  have served : l.connection.serve t.date (t.pair.server l.server).handler =
      { wire := pending.flatMap fun _ => r.text t.date, connection := {} } := by
    rw [h.connection, h.server]
    exact Http.serveInbox_of_plain hr htruthful hplain
  constructor
  · rw [Traffic.settle, served, h.unread]
    rfl
  · exact ⟨h.server, congrArg Http.Served.connection served, rfl⟩

/-- **A step adds to what the connection holds**, and if it waits, all of that is answered. -/
theorem step_sending (hlink : t.linkFor s = .ok l) (hl : Holds l s.server pending)
    (hr : ∀ request, (t.pair.server s.server).handler.respond request = r) (htruthful : r.Truthful)
    {texts : List Bytes} (hplain : ∀ text ∈ pending ++ texts, Http.IsPlain text) (wait : Bool) :
    ∃ answer links l', t.step (s.sending texts wait) = .ok (answer, { t with links }) ∧
      { t with links }.linkFor s = .ok l' ∧
      Holds l' s.server (if wait then [] else pending ++ texts) ∧
      answer.wire = if wait then (pending ++ texts).flatMap fun _ => r.text t.date else [] := by
  obtain ⟨log, links, hstep, hlinks⟩ := step_of_linkFor (s := s.sending texts wait) hlink
  have delivered := hl.deliverOn texts wait
  have after : links.get? s.connection = t.afterOn (s.sending texts wait) l := by
    rw [hlinks]
    exact if_pos rfl
  cases wait with
  | true =>
    obtain ⟨hwire, hsettled⟩ := delivered.settle hr htruthful hplain
    refine ⟨_, links, _, hstep, ?_, hsettled, hwire⟩
    unfold linkFor
    simp only [after]
    rfl
  | false =>
    refine ⟨_, links, _, hstep, ?_, delivered, rfl⟩
    unfold linkFor
    simp only [after]
    rfl

/-! ## Runs -/

/-- **However the requests are spread over steps**, what comes over the wire is a response for each
of them, in a row. -/
theorem answers_sending (groups : List (List Bytes × Bool)) (last : List Bytes)
    (hlink : t.linkFor s = .ok l) (hl : Holds l s.server pending)
    (hr : ∀ request, (t.pair.server s.server).handler.respond request = r) (htruthful : r.Truthful)
    (hplain : ∀ text ∈ pending ++ (groups.flatMap Prod.fst ++ last), Http.IsPlain text) :
    ∃ answers, t.answers (groups.map (fun g => s.sending g.1 g.2) ++ [s.sending last true]) =
        .ok answers ∧
      answers.flatMap Answer.wire =
        (pending ++ (groups.flatMap Prod.fst ++ last)).flatMap fun _ => r.text t.date := by
  -- the induction is on the steps; what is still unanswered is carried along
  induction groups generalizing t l pending with
  | nil =>
    rw [List.flatMap_nil, List.nil_append] at hplain ⊢
    obtain ⟨answer, links, l', hstep, -, -, hwire⟩ := step_sending hlink hl hr htruthful hplain true
    refine ⟨[answer], ?_, ?_⟩
    · change t.answers [s.sending last true] = _
      rw [answers, hstep]
      rfl
    · rw [List.flatMap_cons, List.flatMap_nil, List.append_nil, hwire]
      rfl
  | cons g groups ih =>
    obtain ⟨texts, wait⟩ := g
    rw [List.flatMap_cons, List.append_assoc, ← List.append_assoc pending] at hplain ⊢
    obtain ⟨answer, links, l', hstep, hlink', hl', hwire⟩ := step_sending hlink hl hr htruthful
      (fun text ht => hplain text (List.mem_append_left _ ht)) wait
    have hplain' : ∀ text ∈ (if wait then [] else pending ++ texts) ++
        (groups.flatMap Prod.fst ++ last), Http.IsPlain text := by
      intro text ht
      refine hplain text ?_
      cases wait with
      | true => exact List.mem_append_right _ ht
      | false => exact ht
    obtain ⟨rest, hrest, hwires⟩ := ih (t := { t with links }) hlink' hl' hr hplain'
    refine ⟨answer :: rest, ?_, ?_⟩
    · rw [List.map_cons, List.cons_append, answers, hstep]
      change (do let rest ← answers _ _; return answer :: rest : Except IoError _) = _
      rw [hrest]
      rfl
    · rw [List.flatMap_cons, hwire, hwires]
      cases wait with
      | true => exact (List.flatMap_append ..).symm
      | false => rfl

/-! ## From the start -/

/-- Whether the servers of a setup are bound and a step reaches its server. -/
structure Reaches (net : Network) (setup : Setup) (s : Step) (pair : ServerPair) (k : Kernel) :
    Prop where
  bound : (setup.bind net).run {} = .ok pair k
  connected : ∃ a client,
    k.ports.connect net s.via (pair.server s.server).address.port = .ok (a, client)

/-- Both servers have one truthful response to every request, with the body of the setup. -/
theorem exists_respond_eq {net : Network} {setup : Setup} {pair : ServerPair} {k : Kernel}
    (hbind : (setup.bind net).run {} = .ok pair k) (d : Delivery) :
    ∃ r : Response, (∀ request, (pair.server d).handler.respond request = r) ∧ r.Truthful ∧
      r.body.content = setup.content := by
  obtain ⟨payload, hpayload, hhandler⟩ := Setup.handler_of_bind hbind
  rw [hhandler d]
  exact ⟨_, fun _ => rfl, Handler.truthful_respond hpayload ⟨[], [], .http11, []⟩,
    Setup.content_body hpayload d⟩

/-- **Under keep-alive every response is read whole.** Whatever the payload is and whether or not
its length is declared, and however plain requests are spread over steps on one connection to either
server, a decoder splits what comes over the wire into as many responses, with nothing left over,
each with status 200 and the body of the setup. Every payload that can be built is served so. -/
theorem every_response_is_read_whole :
    (∀ (net : Network) (date : Bytes) (setup : Setup) (s : Step) (pair : ServerPair) (k : Kernel),
      Reaches net setup s pair k → date.all Http.isValueByte →
      ∀ (groups : List (List Bytes × Bool)) (last : List Bytes),
        (∀ text ∈ groups.flatMap Prod.fst ++ last, Http.IsPlain text) →
        ∃ answers messages,
          exchange net date setup
              (groups.map (fun g => s.sending g.1 g.2) ++ [s.sending last true]) =
            .ok (k.log ++ pair.accepting, pair, answers) ∧
          Http.messages? (answers.flatMap Answer.wire) = some messages ∧
          messages.length = (groups.flatMap Prod.fst ++ last).length ∧
          ∀ m ∈ messages, m.status = 200 ∧ m.body = setup.content) ∧
    ∀ (template closing : Bytes) (copies units : UInt64) (p : Payload),
      Payload.build template closing copies units = .ok p → ∀ (declares : Bool) (s : Step),
        s.via = .v4 .localhost →
        ∃ pair k, Reaches .loopback (.payload template closing copies units declares) s pair k := by
  constructor
  · intro net date setup s pair k ⟨hbind, a, client, hconnect⟩ hdate groups last hplain
    obtain ⟨r, hr, htruthful, hbody⟩ := exists_respond_eq hbind s.server
    have hlink : (opening .standard net k pair date).linkFor s =
        .ok { server := s.server, client } := linkFor_of_connect rfl hconnect
    have fresh : Holds { server := s.server, client } s.server [] := ⟨rfl, rfl, rfl⟩
    obtain ⟨answers, hanswers, hwire⟩ :=
      answers_sending groups last hlink fresh hr htruthful hplain
    refine ⟨answers, (groups.flatMap Prod.fst ++ last).map fun _ => r.message date, ?_, ?_, ?_, ?_⟩
    · rw [exchange, exchangeUnder_of_bind .standard hbind, hanswers]
    · rw [hwire]
      exact Http.messages?_flatMap fun _ _ => htruthful.reads_text hdate
    · exact List.length_map ..
    · intro m hm
      obtain ⟨_, -, rfl⟩ := List.mem_map.1 hm
      exact ⟨rfl, hbody⟩
  · intro template closing copies units p hbuild declares s hvia
    obtain ⟨pair, k, hbind, hconnect⟩ := Setup.exists_bind_of_build hbuild declares
    exact ⟨pair, k, hbind, hvia ▸ hconnect s.server⟩

/-- The template of this payload looks like the end of a body in chunks. -/
theorem every_response_is_read_whole_of_three_requests :
    let setup : Setup := .payload (Bytes.latin "0\r\n\r\n") (Bytes.latin "1") 2 2 false
    let step : Step := { connection := "a", server := .chunked, via := .v4 .localhost, send := [] }
    let date := Bytes.latin "Thu, 01 Jan 1970 00:00:00 GMT"
    let get := Http.requestText (Bytes.latin "GET") (Bytes.latin "/") [("host", Bytes.latin "a")]
    (∃ pair k, Reaches .loopback setup step pair k) ∧ date.all Http.isValueByte ∧
    Http.IsPlain get ∧
    ∃ log pair answers messages,
      exchange .loopback date setup [step.sending [get] false, step.sending [get, get] true] =
        .ok (log, pair, answers) ∧
      Http.messages? (answers.flatMap Answer.wire) = some messages ∧ messages.length = 3 ∧
      ∀ m ∈ messages, m.status = 200 ∧
        m.body = Bytes.latin "0\r\n\r\n0\r\n\r\n0\r\n\r\n0\r\n\r\n1" := by
  intro setup step date get
  have hdate : date.all Http.isValueByte := by decide
  have hvalid : Http.Target.valid (Bytes.latin "/") := by
    refine Bool.and_eq_true_iff.2 ⟨by decide, ?_⟩
    rw [Http.Target.isUtf8, ByteArray.validateUTF8_eq_true_iff]
    exact ⟨['/'], by decide⟩
  have hget : Http.IsPlain get :=
    Http.isPlain_requestText (by decide) (by decide) (by decide) (by decide) (by decide) (by decide)
      hvalid (by decide) (fun line hline => by
        obtain rfl := List.mem_singleton.1 hline
        exact ⟨by decide, by decide, by decide⟩) (by decide) (by decide)
  obtain ⟨pair, k, hreaches⟩ := every_response_is_read_whole.2 (Bytes.latin "0\r\n\r\n")
    (Bytes.latin "1") 2 2 _ rfl false step rfl
  have hplain : ∀ text ∈ [([get], false)].flatMap Prod.fst ++ [get, get], Http.IsPlain text := by
    intro text htext
    obtain rfl : text = get := by simpa using htext
    exact hget
  obtain ⟨answers, messages, hexchange, hmessages, hlength, hbodies⟩ :=
    every_response_is_read_whole.1 .loopback date setup step pair k hreaches hdate
      [([get], false)] [get, get] hplain
  exact ⟨⟨pair, k, hreaches⟩, hdate, hget, _, pair, answers, messages, hexchange, hmessages,
    hlength, hbodies⟩

end TwinServers.Traffic
