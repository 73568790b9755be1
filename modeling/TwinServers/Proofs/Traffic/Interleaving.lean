import Mathlib.Data.List.Chain
import TwinServers.Proofs.Traffic.Indistinguishable

/-!
# Interleaved connections

All that a connection notices of the steps of others is when the servers run. `view` keeps just
that of a list of steps, and `replay` takes a connection through it without any other; what clients
see of the connection in a run is what `replay` gives (`replay_of_answers`). Serving a connection
once more without anything new has no effect (`settle_settled`), so the times at which the servers
run matter only while something that was sent waits to be served (`replay_of_awaits`).
`connections_do_not_interfere` is what follows for whole runs. A connection that leaves something
waiting can be served earlier because of others, and that may show:
`others_can_have_waiting_bytes_served`.
-/

namespace TwinServers

/-! ## Serving twice -/

namespace Http

variable {rules : Rules} {date : Bytes} {h : Handler}

theorem Connection.serve_of_closed (c : Connection rules.intake) (hc : c.closed = true) :
    c.serve date h = { connection := c } := if_pos hc

theorem serve_connection_serveInbox (s : rules.intake.State) :
    (serveInbox rules date h s).connection.serve date h =
      { connection := (serveInbox rules date h s).connection } := by
  -- the induction is on what is left to answer, of which every request takes something
  induction hn : rules.intake.size s using Nat.strongRecOn generalizing s with
  | ind n ih =>
    cases hs : rules.intake.next s with
    | waits =>
      -- the same is found again
      have hwaits : serveInbox rules date h s = { connection := { inbox := s } } := by
        rw [serveInbox_eq, hs]
      rw [hwaits]
      exact hwaits
    | ends fault =>
      rw [serveInbox_eq, hs]
      exact Connection.serve_of_closed _ rfl
    | asks request keepAlive rest =>
      have less : rules.intake.size rest < n := hn ▸ rules.intake.size_lt hs
      rw [serveInbox_eq, hs]
      dsimp only
      split
      · exact ih _ less rest rfl
      · exact Connection.serve_of_closed _ rfl

/-- **A connection that was served has nothing left to serve.** -/
theorem Connection.serve_connection_serve (date : Bytes) (h : Handler)
    (c : Connection rules.intake) :
    (c.serve date h).connection.serve date h = { connection := (c.serve date h).connection } := by
  cases hc : c.closed with
  | true => rw [c.serve_of_closed hc, c.serve_of_closed hc]
  | false =>
    have hserve : c.serve date h = serveInbox rules date h c.inbox :=
      if_neg (by rw [hc]; decide)
    rw [hserve]
    exact serve_connection_serveInbox c.inbox

end Http

namespace Traffic

variable {rules : Http.Rules}

theorem settle_settled (t : Traffic rules) (l : Link rules) :
    t.settle { t.settle l with unread := [] } = { t.settle l with unread := [] } := by
  have hagain := l.connection.serve_connection_serve t.date (t.pair.server l.server).handler
  simp only [settle, hagain, List.append_nil]

/-! ## What concerns a connection -/

/-- The steps of a connection. -/
def own (name : String) (steps : List Step) : List Step := steps.filter (·.connection = name)

/-- What clients see of a connection in the answers to a list of steps. -/
def ownAnswers (name : String) (steps : List Step) (answers : List Answer) : List Answer :=
  ((steps.zip answers).filter (·.1.connection = name)).map (·.2.seen)

/-- What a list of steps is to a connection: its own steps, and `none` for each step of another in
which the servers run. -/
def view (name : String) (steps : List Step) : List (Option Step) :=
  steps.filterMap fun s =>
    if s.connection = name then some (some s) else if s.runs then some none else none

/-- Whether the servers never run for another connection while something that this one has sent
waits to be served. -/
def Awaits (name : String) (steps : List Step) : Prop :=
  (view name steps).IsChain fun before next => next = none → ∀ s ∈ before, s.runs

/-- The connection of a step: the one that is there, or a new one. -/
def linkOf (t : Traffic rules) (s : Step) : Option (Link rules) → Except IoError (Link rules)
  | some l => .ok l
  | none =>
    match t.ports.connect t.net s.via (t.pair.server s.server).address.port with
    | .ok (_, client) => .ok { server := s.server, client }
    | .error e => .error (.ofErrno e)

/-- What is under a name after a step on a connection. -/
def linkAfter (t : Traffic rules) (s : Step) (l : Link rules) (name : String) :
    Option (Link rules) :=
  if name = s.connection then t.afterOn s l
  else if s.runs then (t.links.get? name).map t.settle
  else t.links.get? name

/-- Takes a connection through its view of a list of steps. -/
def replay (t : Traffic rules) (l : Option (Link rules)) :
    List (Option Step) → Except IoError (List Answer)
  | [] => .ok []
  | none :: view => t.replay (l.map t.settle) view
  | some s :: view =>
    match t.linkOf s l with
    | .error e => .error e
    | .ok link => (t.replay (t.afterOn s link) view).map ((t.answerOn s link []).seen :: ·)

variable {t : Traffic rules} {name : String}

theorem linkFor_eq (t : Traffic rules) (s : Step) :
    t.linkFor s = t.linkOf s (t.links.get? s.connection) := by
  unfold linkFor linkOf
  cases t.links.get? s.connection <;> rfl

theorem replay_links (t : Traffic rules) (links : Registry (Link rules)) (l : Option (Link rules))
    (view : List (Option Step)) : { t with links }.replay l view = t.replay l view := by
  induction view generalizing l with
  | nil => rfl
  | cons s view ih =>
    cases s with
    | none => exact ih _
    | some s =>
      have hlink : { t with links }.linkOf s l = t.linkOf s l := by cases l <;> rfl
      simp only [replay, hlink]
      cases t.linkOf s l with
      | error e => rfl
      | ok link => exact congrArg (Except.map _) (ih _)

theorem view_cons_own {s : Step} {steps : List Step} (h : s.connection = name) :
    view name (s :: steps) = some s :: view name steps := by
  simp [view, h]

theorem view_cons_other {s : Step} {steps : List Step} (h : s.connection ≠ name) :
    view name (s :: steps) = if s.runs then none :: view name steps else view name steps := by
  rw [view, List.filterMap_cons, if_neg h]
  split <;> simp_all [view]

theorem view_own (name : String) (steps : List Step) :
    view name (own name steps) = (view name steps).filter Option.isSome := by
  induction steps with
  | nil => rfl
  | cons s steps ih =>
    by_cases h : s.connection = name
    · rw [view_cons_own h, own, List.filter_cons_of_pos (by simpa), ← own, view_cons_own h, ih]
      rfl
    · rw [view_cons_other h, own, List.filter_cons_of_neg (by simpa), ← own, ih]
      split <;> rfl

/-! ## Runs -/

section Run

theorem isOk_map {ε α β : Type} (f : α → β) (r : Except ε α) : (r.map f).isOk = r.isOk := by
  cases r <;> rfl

theorem exists_eq_ok_of_map {ε α β : Type} {f : α → β} {r : Except ε α} {b : β}
    (h : r.map f = .ok b) : ∃ a, r = .ok a ∧ f a = b := by
  cases r with
  | error e => exact nomatch h
  | ok a => exact ⟨a, rfl, Except.ok.inj h⟩

variable {s : Step} {l : Link rules}

theorem seen_answerOn_log (t : Traffic rules) (s : Step) (l : Link rules) (log : Log) :
    (t.answerOn s l log).seen = (t.answerOn s l []).seen := by
  unfold answerOn
  split
  · rfl
  · split <;> rfl

theorem ownAnswers_cons (name : String) (s : Step) (steps : List Step) (a : Answer)
    (answers : List Answer) :
    ownAnswers name (s :: steps) (a :: answers) =
      if s.connection = name then a.seen :: ownAnswers name steps answers
      else ownAnswers name steps answers := by
  by_cases h : s.connection = name <;> simp [ownAnswers, h]

theorem answers_cons_of_linkFor (h : t.linkFor s = .ok l) (steps : List Step) :
    ∃ log links, (∀ name, links.get? name = t.linkAfter s l name) ∧
      t.answers (s :: steps) =
        ({ t with links }.answers steps).map (t.answerOn s l log :: ·) := by
  obtain ⟨log, links, hstep, hlinks⟩ := step_of_linkFor h
  refine ⟨log, links, hlinks, ?_⟩
  rw [Traffic.answers, hstep]
  change (do let rest ← { t with links }.answers steps; return t.answerOn s l log :: rest) = _
  cases { t with links }.answers steps <;> rfl

theorem answers_cons_of_linkFor_error {e : IoError} (h : t.linkFor s = .error e)
    (steps : List Step) : t.answers (s :: steps) = .error e := by
  rw [Traffic.answers, step_of_linkFor_error h]
  rfl

/-- What has answered a step and the steps after it. -/
theorem exists_of_answers_cons {steps : List Step} {answers : List Answer}
    (h : t.answers (s :: steps) = .ok answers) :
    ∃ l log links rest, t.linkFor s = .ok l ∧
      (∀ name, links.get? name = t.linkAfter s l name) ∧
      { t with links }.answers steps = .ok rest ∧ answers = t.answerOn s l log :: rest := by
  cases hl : t.linkFor s with
  | error e =>
    rw [answers_cons_of_linkFor_error hl] at h
    exact nomatch h
  | ok l =>
    obtain ⟨log, links, hlinks, hcons⟩ := answers_cons_of_linkFor hl steps
    rw [hcons] at h
    obtain ⟨rest, hrest, rfl⟩ := exists_eq_ok_of_map h
    exact ⟨l, log, links, rest, rfl, hlinks, hrest, rfl⟩

theorem length_answers {steps : List Step} {answers : List Answer}
    (h : t.answers steps = .ok answers) : answers.length = steps.length := by
  induction steps generalizing t answers with
  | nil =>
    obtain rfl := Except.ok.inj h
    rfl
  | cons s steps ih =>
    obtain ⟨l, log, links, rest, -, -, hrest, rfl⟩ := exists_of_answers_cons h
    exact congrArg Nat.succ (ih hrest)

/-- A connection takes part in its own steps, and in those of others as the view has it. -/
theorem replay_view_cons (h : t.linkFor s = .ok l) {links : Registry (Link rules)}
    (hlinks : ∀ name, links.get? name = t.linkAfter s l name) (name : String) (steps : List Step) :
    t.replay (t.links.get? name) (view name (s :: steps)) =
      (t.replay (links.get? name) (view name steps)).map
        (if s.connection = name then ((t.answerOn s l []).seen :: ·) else id) := by
  by_cases hname : s.connection = name
  · subst hname
    rw [linkFor_eq] at h
    rw [view_cons_own rfl, replay, h, hlinks, linkAfter, if_pos rfl, if_pos rfl]
  · rw [view_cons_other hname, hlinks, linkAfter, if_neg (Ne.symm hname), if_neg hname]
    split
    · rw [replay]
      cases t.replay _ _ <;> rfl
    · cases t.replay _ _ <;> rfl

/-- **What clients see of a connection in a run is what its replay gives.** -/
theorem replay_of_answers {steps : List Step} {answers : List Answer}
    (h : t.answers steps = .ok answers) (name : String) :
    t.replay (t.links.get? name) (view name steps) = .ok (ownAnswers name steps answers) := by
  induction steps generalizing t answers with
  | nil => rfl
  | cons s steps ih =>
    obtain ⟨l, log, links, rest, hl, hlinks, hrest, rfl⟩ := exists_of_answers_cons h
    have hnext := ih hrest
    rw [replay_links] at hnext
    rw [replay_view_cons hl hlinks, hnext, ownAnswers_cons, seen_answerOn_log t s l log]
    split <;> rfl

/-- **A run is answered if the replay of each of its connections is.** -/
theorem isOk_answers_iff (t : Traffic rules) (steps : List Step) :
    (t.answers steps).isOk ↔
      ∀ s ∈ steps, (t.replay (t.links.get? s.connection) (view s.connection steps)).isOk := by
  constructor
  · intro h s _
    cases hanswers : t.answers steps with
    | error e => rw [hanswers] at h; exact nomatch h
    | ok answers => rw [replay_of_answers hanswers]; rfl
  · intro h
    induction steps generalizing t with
    | nil => rfl
    | cons s steps ih =>
      cases hl : t.linkFor s with
      | error e =>
        have hself := h s List.mem_cons_self
        rw [linkFor_eq] at hl
        rw [view_cons_own rfl, replay, hl] at hself
        exact nomatch hself
      | ok l =>
        obtain ⟨log, links, hlinks, hcons⟩ := answers_cons_of_linkFor hl steps
        rw [hcons, isOk_map]
        refine ih _ fun s' hs' => ?_
        have hlater := h s' (List.mem_cons_of_mem _ hs')
        rw [replay_view_cons hl hlinks, isOk_map] at hlater
        rwa [replay_links t links]

end Run

/-! ## Without the others -/

theorem isSome_afterOn (t : Traffic rules) (s : Step) (l l' : Link rules) :
    (t.afterOn s l).isSome = (t.afterOn s l').isSome := by
  unfold afterOn
  split
  · rfl
  · split <;> rfl

theorem linkOf_of_isSome (t : Traffic rules) (s : Step) {l l' : Option (Link rules)}
    (h : l.isSome = l'.isSome) :
    (∃ e, t.linkOf s l = .error e ∧ t.linkOf s l' = .error e) ∨
      ∃ k k', t.linkOf s l = .ok k ∧ t.linkOf s l' = .ok k' := by
  cases l with
  | some k =>
    obtain ⟨k', rfl⟩ := Option.isSome_iff_exists.1 h.symm
    exact .inr ⟨k, k', rfl, rfl⟩
  | none =>
    obtain rfl : l' = none := Option.isNone_iff_eq_none.1 (by simpa using h.symm)
    cases hnew : t.linkOf s none with
    | error e => exact .inl ⟨e, rfl, rfl⟩
    | ok k => exact .inr ⟨k, k, rfl, rfl⟩

/-- Whether a replay is answered does not depend on when the servers run. -/
theorem isOk_replay_filter {l l' : Option (Link rules)} (h : l.isSome = l'.isSome)
    (view : List (Option Step)) :
    (t.replay l view).isOk = (t.replay l' (view.filter Option.isSome)).isOk := by
  induction view generalizing l l' with
  | nil => rfl
  | cons s view ih =>
    cases s with
    | none => exact ih (by rw [Option.isSome_map, h])
    | some s =>
      rw [List.filter_cons_of_pos rfl, replay, replay]
      obtain ⟨e, hl, hl'⟩ | ⟨k, k', hl, hl'⟩ := linkOf_of_isSome t s h
      · rw [hl, hl']
      · rw [hl, hl']
        dsimp only
        rw [isOk_map, isOk_map, ih (isSome_afterOn t s k k')]

/-- After a step in which the servers have run nothing waits. -/
theorem map_settle_afterOn {s : Step} (h : s.runs) (l : Link rules) :
    (t.afterOn s l).map t.settle = t.afterOn s l := by
  unfold afterOn
  split
  · rfl
  · next hleaves =>
    have hwait : s.wait = true := by
      simpa [Step.runs, hleaves] using h
    rw [if_pos hwait, Option.map_some, settle_settled]

/-- **Where nothing waits while the servers run for others, the others can be left out.** -/
theorem replay_of_awaits {l : Option (Link rules)} {view : List (Option Step)}
    (h : view.IsChain fun before next => next = none → ∀ s ∈ before, s.runs)
    (hl : view.head? = some none → l.map t.settle = l) :
    t.replay l view = t.replay l (view.filter Option.isSome) := by
  induction view generalizing l with
  | nil => rfl
  | cons s view ih =>
    cases s with
    | none =>
      rw [List.filter_cons_of_neg (by decide), replay, hl rfl]
      exact ih h.tail fun _ => hl rfl
    | some s =>
      rw [List.filter_cons_of_pos rfl, replay, replay]
      cases t.linkOf s l with
      | error e => rfl
      | ok link =>
        refine congrArg (Except.map _) (ih h.tail fun hhead => map_settle_afterOn ?_ link)
        obtain ⟨later, rfl⟩ := List.head?_eq_some_iff.1 hhead
        exact h.rel rfl s rfl

/-! ## Whole runs -/

variable {net : Network} {date : Bytes} {setup : Setup}

theorem isOk_exchangeUnder (rules : Http.Rules) (net : Network) (date : Bytes) {setup : Setup}
    {pair : ServerPair} {k : Kernel} (h : (setup.bind net).run {} = .ok pair k)
    (steps : List Step) :
    (exchangeUnder rules net date setup steps).isOk =
      ((opening rules net k pair date).answers steps).isOk := by
  rw [exchangeUnder_of_bind rules h]
  cases (opening rules net k pair date).answers steps <;> rfl

theorem exists_answers_of_exchangeUnder {steps : List Step} {log : Log} {pair : ServerPair}
    {answers : List Answer}
    (h : exchangeUnder rules net date setup steps = .ok (log, pair, answers)) :
    ∃ k, (setup.bind net).run {} = .ok pair k ∧ log = k.log ++ pair.accepting ∧
      (opening rules net k pair date).answers steps = .ok answers := by
  cases hbind : (setup.bind net).run {} with
  | error e k =>
    rw [exchangeUnder_of_bind_error rules hbind] at h
    exact nomatch h
  | ok pair' k =>
    rw [exchangeUnder_of_bind rules hbind] at h
    cases hanswers : (opening rules net k pair' date).answers steps with
    | error e =>
      rw [hanswers] at h
      exact nomatch h
    | ok answers' =>
      rw [hanswers] at h
      obtain ⟨rfl, hrest⟩ := Prod.mk.inj (Except.ok.inj h)
      obtain ⟨rfl, rfl⟩ := Prod.mk.inj hrest
      exact ⟨k, rfl, rfl, hanswers⟩

theorem ownAnswers_own {t : Traffic rules} {name : String} {steps : List Step}
    {answers : List Answer} (h : t.answers (own name steps) = .ok answers) :
    ownAnswers name (own name steps) answers = answers.map Answer.seen := by
  have hall : ((own name steps).zip answers).filter (·.1.connection = name) =
      (own name steps).zip answers :=
    List.filter_eq_self.2 fun p hp => (List.mem_filter.1 (List.of_mem_zip hp).1).2
  have hsnd : ((own name steps).zip answers).map Prod.snd = answers :=
    List.map_snd_zip (length_answers h).le
  rw [ownAnswers, hall]
  conv_rhs => rw [← hsnd, List.map_map]
  rfl

/-- **A run is answered if and only if each of its connections would be by itself.** -/
theorem isOk_exchangeUnder_iff (rules : Http.Rules) (net : Network) (date : Bytes) (setup : Setup)
    (steps : List Step) :
    (exchangeUnder rules net date setup steps).isOk ↔
      ∀ name, (exchangeUnder rules net date setup (own name steps)).isOk := by
  cases hbind : (setup.bind net).run {} with
  | error e k => simp [exchangeUnder_of_bind_error rules hbind, Except.isOk, Except.toBool]
  | ok pair k =>
    simp only [isOk_exchangeUnder rules net date hbind, isOk_answers_iff]
    -- by itself, a connection has the same replay but for the runs of the servers
    have alone (s : Step) :
        ((opening rules net k pair date).replay none
          (view s.connection (own s.connection steps))).isOk =
        ((opening rules net k pair date).replay none (view s.connection steps)).isOk := by
      rw [view_own]
      exact (isOk_replay_filter rfl (view s.connection steps)).symm
    constructor
    · intro h name s hs
      obtain ⟨hmem, hname⟩ := List.mem_filter.1 hs
      obtain rfl : s.connection = name := of_decide_eq_true hname
      exact (alone s).trans (h s hmem)
    · intro h s hs
      exact (alone s).symm.trans
        (h s.connection s (List.mem_filter.2 ⟨hs, decide_eq_true rfl⟩))

/-- **Connections do not interfere.** Whatever clients send, on any connections and however these
are interleaved: a run is answered if and only if each of its connections is by itself. A connection
on which nothing waits while the servers run for others is answered as if the others were not there:
the same bytes come over the wire in each of its steps, and it is closed at the same step. In any
case all that matters to a connection is its own steps, and between which of them the servers run:
what the others send, to which server, and how they end makes no difference. -/
theorem connections_do_not_interfere (rules : Http.Rules) (net : Network) (date : Bytes)
    (setup : Setup) (steps : List Step) :
    ((exchangeUnder rules net date setup steps).isOk ↔
      ∀ name, (exchangeUnder rules net date setup (own name steps)).isOk) ∧
    ∀ log pair answers,
      exchangeUnder rules net date setup steps = .ok (log, pair, answers) → ∀ name,
      (Awaits name steps →
        ∃ alone, exchangeUnder rules net date setup (own name steps) = .ok (log, pair, alone) ∧
          alone.map Answer.seen = ownAnswers name steps answers) ∧
      ∀ steps' log' pair' answers',
        exchangeUnder rules net date setup steps' = .ok (log', pair', answers') →
        view name steps' = view name steps →
        ownAnswers name steps' answers' = ownAnswers name steps answers := by
  refine ⟨isOk_exchangeUnder_iff rules net date setup steps, fun log pair answers h name => ?_⟩
  obtain ⟨k, hbind, rfl, hanswers⟩ := exists_answers_of_exchangeUnder h
  have joint := replay_of_answers hanswers name
  constructor
  · intro hawaits
    have hok : (exchangeUnder rules net date setup (own name steps)).isOk :=
      (isOk_exchangeUnder_iff rules net date setup steps).1 (by rw [h]; rfl) name
    cases hown : exchangeUnder rules net date setup (own name steps) with
    | error e =>
      rw [hown] at hok
      exact nomatch hok
    | ok r =>
      obtain ⟨log', pair', alone⟩ := r
      obtain ⟨k', hbind', rfl, halone⟩ := exists_answers_of_exchangeUnder hown
      obtain ⟨rfl, rfl⟩ := EStateM.Result.ok.inj (hbind.symm.trans hbind')
      refine ⟨alone, rfl, ?_⟩
      have separate := replay_of_answers halone name
      rw [view_own, ownAnswers_own halone] at separate
      rw [replay_of_awaits hawaits fun _ => rfl] at joint
      exact Except.ok.inj (separate.symm.trans joint)
  · intro steps' log' pair' answers' h' hview
    obtain ⟨k', hbind', -, hanswers'⟩ := exists_answers_of_exchangeUnder h'
    obtain ⟨rfl, rfl⟩ := EStateM.Result.ok.inj (hbind.symm.trans hbind')
    have joint' := replay_of_answers hanswers' name
    rw [hview] at joint'
    exact Except.ok.inj (joint'.symm.trans joint)

/-- One connection is in the middle of a head while another sends something malformed, or while
another is left by its client before a request is complete. -/
theorem connections_do_not_interfere_of_half_read_head :
    let setup : Setup := .payload (Bytes.latin "a") (Bytes.latin "b") 1 1 false
    let front : Step :=
      { connection := "a", server := .chunked, via := .v4 .localhost
        send := Bytes.latin "GET / HTTP/1" }
    let back : Step := { front with send := Bytes.latin ".1\r\n\r\n" }
    let malformed : Step :=
      { connection := "b", server := .bulk, via := .v4 .localhost
        send := Bytes.latin "GET <\r\n\r\n" }
    let unfinished : Step :=
      { connection := "c", server := .chunked, via := .v4 .localhost
        send := Bytes.latin "HEAD", closing := .leaves }
    Awaits "a" [front, malformed, back] ∧
    view "a" [front, unfinished, back] = view "a" [front, malformed, back] ∧
    ∃ log pair answers alone log' pair' answers',
      exchange .loopback [] setup [front, malformed, back] = .ok (log, pair, answers) ∧
      exchange .loopback [] setup (own "a" [front, malformed, back]) = .ok (log, pair, alone) ∧
      alone.map Answer.seen = ownAnswers "a" [front, malformed, back] answers ∧
      exchange .loopback [] setup [front, unfinished, back] = .ok (log', pair', answers') ∧
      ownAnswers "a" [front, unfinished, back] answers' =
        ownAnswers "a" [front, malformed, back] answers := by
  intro setup front back malformed unfinished
  obtain ⟨⟨log, pair, answers⟩, hexchange, -⟩ := exists_eq_ok_of_map (b := 3)
    (r := exchange .loopback [] setup [front, malformed, back]) (f := fun r => r.2.2.length)
    (by decide +kernel)
  obtain ⟨⟨log', pair', answers'⟩, hexchange', -⟩ := exists_eq_ok_of_map (b := 3)
    (r := exchange .loopback [] setup [front, unfinished, back]) (f := fun r => r.2.2.length)
    (by decide +kernel)
  have hawaits : Awaits "a" [front, malformed, back] := by
    unfold Awaits
    decide
  have hview : view "a" [front, unfinished, back] = view "a" [front, malformed, back] := by decide
  obtain ⟨halone, hsame⟩ := (connections_do_not_interfere .standard .loopback [] setup
    [front, malformed, back]).2 log pair answers hexchange "a"
  obtain ⟨alone, hown, hseen⟩ := halone hawaits
  exact ⟨hawaits, hview, log, pair, answers, alone, log', pair', answers', hexchange, hown, hseen,
    hexchange', hsame _ _ _ _ hexchange' hview⟩

/-- A request whose body is under way is answered at once, and the connection closed after it. So it
matters whether the servers run before the body is sent, be it for another connection. -/
theorem others_can_have_waiting_bytes_served :
    let setup : Setup := .payload (Bytes.latin "a") (Bytes.latin "b") 1 1 false
    let date := Bytes.latin "now"
    let head : Step :=
      { connection := "a", server := .chunked, via := .v4 .localhost, wait := false
        send := Bytes.latin "POST / HTTP/1.1\r\nContent-Length: 1\r\n\r\n" }
    let body : Step := { head with send := Bytes.latin "x", wait := true }
    let other : Step :=
      { connection := "b", server := .bulk, via := .v4 .localhost
        send := Bytes.latin "GET / HTTP/1.1\r\n\r\n" }
    let response (connection : String) := Bytes.latin "HTTP/1.1 200 OK\r\n" ++
      Bytes.latin connection ++ Bytes.latin "transfer-encoding: chunked\r\ndate: now\r\n\r\n" ++
      Bytes.latin "1\r\na\r\n1\r\nb\r\n0\r\n\r\n"
    (∃ log pair answers,
      exchange .loopback date setup [head, other, body] = .ok (log, pair, answers) ∧
      ownAnswers "a" [head, other, body] answers =
        [.sent 38, .received (response "connection: close\r\n") true []]) ∧
    ∃ log pair alone,
      exchange .loopback date setup (own "a" [head, other, body]) = .ok (log, pair, alone) ∧
      alone.map Answer.seen = [.sent 38, .received (response "") false []] := by
  intro setup date head body other response
  have joint : (exchange .loopback date setup [head, other, body]).map
      (fun r => ownAnswers "a" [head, other, body] r.2.2) =
        .ok [.sent 38, .received (response "connection: close\r\n") true []] := by
    decide +kernel
  have separate : (exchange .loopback date setup (own "a" [head, other, body])).map
      (fun r => r.2.2.map Answer.seen) = .ok [.sent 38, .received (response "") false []] := by
    decide +kernel
  obtain ⟨⟨log, pair, answers⟩, hexchange, hanswers⟩ := exists_eq_ok_of_map joint
  obtain ⟨⟨log', pair', alone⟩, hown, halone⟩ := exists_eq_ok_of_map separate
  exact ⟨⟨log, pair, answers, hexchange, hanswers⟩, log', pair', alone, hown, halone⟩

end Traffic

end TwinServers
