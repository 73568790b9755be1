import TwinServers.Proofs.Response.Frames
import TwinServers.Proofs.Session.History

/-!
# Isolation in a session

A body that a handler has answered with is read to the frames of the payload and the delivery that
the handler was made with. Which frames its reads give depends on how often it was read before, and
on nothing else: not on what has since become of the payload, of the handler, of its copies, or of
other bodies (`answer_frame`, `answer_collect`). Whether the length is declared is settled by the
history of the handler (`answer_respond`), and a step that fails leaves no trace (`run_of_error`).
-/

namespace TwinServers

theorem Response.exists_content_length_iff (r : Response) :
    (∃ value, ("content-length", value) ∈ r.headers) ↔ r.declared.isSome := by
  rw [headers]
  cases r.declared <;> simp

namespace Session

/-! ## Answers -/

theorem step_respond (s : Session) (handler body : String) (request : Http.Request) :
    (s.step (.respond handler body request)).1 =
      ((s.handlers.get? handler).map fun h => .response (h.respond request)).elim
        (.error .unknownName) .ok := by
  simp only [step, advance, find_bind]
  cases s.handlers.get? handler <;> rfl

theorem step_frame {s : Session} {name : String} {b : Body} (h : s.bodies.get? name = some b) :
    (s.step (.frame name)).1 = .ok (.frame b.frames.head? b.rest.hint) := by
  simp only [step, advance, find_bind, h, ← Body.map_fst_next?, Body.rest]
  cases b.next? <;> rfl

theorem step_collect {s : Session} {name : String} {b : Body} (h : s.bodies.get? name = some b) :
    (s.step (.collect name)).1 = .ok (.content b.frames.flatten) := by
  simp only [step, advance, find_bind, h]
  rfl

/-- A step that fails leaves no trace: all other answers are as they are without it. -/
theorem run_of_error {s : Session} {ops later : List Op} {op : Op} {e : Failure}
    (h : ((s.after ops).step op).1 = .error e) :
    s.after (ops ++ [op]) = s.after ops ∧
      s.run (ops ++ later) = (s.run (ops ++ op :: later)).eraseIdx ops.length := by
  have hsame := step_of_error h
  constructor
  · rw [after_append]
    exact hsame
  · rw [run_append, run_append, run, hsame,
      List.eraseIdx_append_of_length_le (Nat.le_of_eq (length_run ..)), length_run, Nat.sub_self]
    rfl

/-! ## A body from its making on -/

section Body

variable {ops mid : List Op} {handler body : String} {request : Http.Request}
  {delivery : Delivery} {payload : Payload}

theorem handler_of_origin (h : origin? ops.reverse handler = some (delivery, payload)) :
    (after {} ops).handlers.get? handler =
      some { delivery, payload, declares := declares ops.reverse handler } := by
  have hafter := get?_handlers_after ops.reverse handler
  rw [List.reverse_reverse, h] at hafter
  exact hafter

/-- A body that was made is there as long as it is kept, with the frames that are not read yet. -/
theorem body_of_origin (h : origin? ops.reverse handler = some (delivery, payload))
    (hkeeps : Keeps body (.respond handler body request :: ops.reverse) mid) :
    (after {} (ops ++ .respond handler body request :: mid)).bodies.get? body =
      some (Body.rest^[mid.count (.frame body)] (payload.body delivery)) := by
  have hmade : (after {} (Op.respond handler body request :: ops.reverse).reverse).bodies.get?
      body = some (payload.body delivery) := by
    rw [after_reverse_cons, List.reverse_reverse, (get?_step ..).2.2]
    simp [handler_of_origin h]
  have hkept := get?_bodies_after hmade hkeeps
  rwa [List.reverse_cons, List.reverse_reverse, List.append_assoc, List.singleton_append] at hkept

/-- The answer to a step on a body that was made follows from the reads it has had. -/
theorem getElem?_run_of_origin (op : Op) (later : List Op) :
    (run {} (ops ++ .respond handler body request :: (mid ++ op :: later)))[ops.length + 1 +
        mid.length]? =
      some ((after {} (ops ++ .respond handler body request :: mid)).step op).1 := by
  have hlength : ops.length + 1 + mid.length =
      (ops ++ Op.respond handler body request :: mid).length := by
    rw [List.length_append, List.length_cons]
    omega
  rw [hlength, ← List.cons_append, ← List.append_assoc]
  exact getElem?_run ..

theorem answer_frame (h : origin? ops.reverse handler = some (delivery, payload))
    (hkeeps : Keeps body (.respond handler body request :: ops.reverse) mid) :
    ((after {} (ops ++ .respond handler body request :: mid)).step (.frame body)).1 =
      .ok (.frame (payload.body delivery).frames[mid.count (.frame body)]?
        (Body.rest^[mid.count (.frame body) + 1] (payload.body delivery)).hint) := by
  rw [step_frame (body_of_origin h hkeeps), Body.frames_iterate_rest, List.head?_drop,
    Function.iterate_succ_apply']

theorem answer_collect (h : origin? ops.reverse handler = some (delivery, payload))
    (hkeeps : Keeps body (.respond handler body request :: ops.reverse) mid) :
    ((after {} (ops ++ .respond handler body request :: mid)).step (.collect body)).1 =
      .ok (.content ((payload.body delivery).frames.drop (mid.count (.frame body))).flatten) := by
  rw [step_collect (body_of_origin h hkeeps), Body.frames_iterate_rest]

end Body

/-! ## Sessions -/

/-- **What is done under other names never shows.** A request is answered if and only if there is a
handler under the name, and the response declares the length if and only if the handler was last
told so, itself or as the one it was copied from. From then on, as long as the body is kept, its
reads give the frames of the payload and the delivery that the handler was made with, one after the
other and each once, and collecting it gives all that are left. A step that fails leaves everything
as it was. -/
theorem handlers_and_bodies_are_isolated :
    (∀ (ops later : List Op) (handler body : String) (request : Http.Request),
      let answers := run {} (ops ++ .respond handler body request :: later)
      ((∃ r, answers[ops.length]? = some (.ok (.response r))) ↔
        (origin? ops.reverse handler).isSome) ∧
      ∀ r, answers[ops.length]? = some (.ok (.response r)) →
        ((∃ value, ("content-length", value) ∈ r.headers) ↔
          declares ops.reverse handler = true) ∧
        ∃ delivery payload, origin? ops.reverse handler = some (delivery, payload) ∧
          let frames := (payload.pieces delivery).filter fun piece => !piece.isEmpty
          ∀ (mid rest : List Op) (op : Op), later = mid ++ op :: rest →
            Keeps body (.respond handler body request :: ops.reverse) mid →
            let read := mid.count (.frame body)
            (op = .frame body → answers[ops.length + 1 + mid.length]? = some (.ok
              (.frame frames[read]? (Body.rest^[read + 1] (payload.body delivery)).hint))) ∧
            (op = .collect body → answers[ops.length + 1 + mid.length]? = some (.ok
              (.content (frames.drop read).flatten)))) ∧
    ∀ (ops later : List Op) (op : Op) (e : Failure),
      (run {} (ops ++ op :: later))[ops.length]? = some (.error e) →
      after {} (ops ++ [op]) = after {} ops ∧
        run {} (ops ++ later) = (run {} (ops ++ op :: later)).eraseIdx ops.length := by
  constructor
  · intro ops later handler body request answers
    have hanswer : answers[ops.length]? =
        some ((after {} ops).step (.respond handler body request)).1 := getElem?_run ..
    rw [hanswer, step_respond]
    cases horigin : origin? ops.reverse handler with
    | none =>
      have hnone : (after {} ops).handlers.get? handler = none := by
        have hafter := get?_handlers_after ops.reverse handler
        rwa [List.reverse_reverse, horigin] at hafter
      simp [hnone]
    | some made =>
      obtain ⟨delivery, payload⟩ := made
      rw [handler_of_origin horigin]
      refine ⟨by simp, fun r hr => ?_⟩
      obtain rfl : _ = r := by simpa using hr
      refine ⟨?_, delivery, payload, rfl, ?_⟩
      · rw [Response.exists_content_length_iff, Handler.respond]
        cases declares ops.reverse handler <;> simp
      · rintro frames mid rest op rfl hkeeps read
        have hframes : frames = (payload.body delivery).frames := (Payload.frames_body ..).symm
        constructor
        · rintro rfl
          rw [hframes]
          exact (getElem?_run_of_origin ..).trans (congrArg some (answer_frame horigin hkeeps))
        · rintro rfl
          rw [hframes]
          exact (getElem?_run_of_origin ..).trans (congrArg some (answer_collect horigin hkeeps))
  · intro ops later op e h
    rw [getElem?_run] at h
    exact run_of_error (Option.some.inj h)

theorem handlers_and_bodies_are_isolated_of_replaced_payload :
    let request : Http.Request := { method := [], target := [], version := .http11, headers := [] }
    let ops : List Op :=
      [.build "p" [0x61] [0x62] 1 2, .handler "h" "p" .chunked, .declare "h" true]
    let mid : List Op :=
      [.build "p" [0x63] [0x64] 1 1, .declare "h" false, .frame "b", .clone "h" "g", .drop "h"]
    let answers := run {} (ops ++ .respond "h" "b" request :: (mid ++ [.collect "b"]))
    (∃ r, answers[3]? = some (.ok (.response r)) ∧
      ∃ value, ("content-length", value) ∈ r.headers) ∧
    answers[9]? = some (.ok (.content [0x61, 0x62])) ∧
    after {} (ops ++ [.build "p" [0x63] [] 0xffffffffffffffff 2]) = after {} ops := by
  intro request ops mid answers
  obtain ⟨hbodies, hfailed⟩ := handlers_and_bodies_are_isolated
  obtain ⟨-, hmade⟩ := hbodies ops (mid ++ [.collect "b"]) "h" "b" request
  obtain ⟨hdeclares, delivery, payload, horigin, hreads⟩ := hmade _ rfl
  obtain ⟨rfl, rfl⟩ : delivery = .chunked ∧ payload = ⟨[0x61], [0x61, 0x61], [0x62], 2⟩ := by
    obtain ⟨rfl, rfl⟩ := Prod.mk.inj (Option.some.inj horigin)
    exact ⟨rfl, rfl⟩
  refine ⟨⟨_, rfl, hdeclares.2 rfl⟩, ?_, (hfailed ops [] _ (.size .capacity) rfl).1⟩
  exact (hreads mid [] (.collect "b") rfl ⟨rfl, rfl, rfl, rfl, rfl, trivial⟩).2 rfl

end Session

end TwinServers
