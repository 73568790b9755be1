import TwinServers.Proofs.Response.Frames
import TwinServers.Session

/-!
# The history of a session

What is under a name can be read off the steps made so far, without the session: `payload?` looks
for the last build of a payload, `origin?` for the making of a handler, back through every copy, and
`declares` for the last word about the length that the handler or the one it was copied from has
had. A history is a list of steps, the newest first. `get?_payloads_after` and `get?_handlers_after`
say that a session holds just that. A body is its own history: as long as its name is not taken away
(`Keeps`), all that happens to it are the reads under its name (`get?_bodies_after`).
-/

namespace TwinServers.Session

/-- The payload under a name: that of the last build that succeeded. -/
def payload? : List Op → String → Option Payload
  | [], _ => none
  | .build n template closing copies units :: past, name =>
    if name = n then
      (Payload.build template closing copies units).toOption.or (payload? past name)
    else payload? past name
  | .drop n :: past, name => if name = n then none else payload? past name
  | _ :: past, name => payload? past name

/-- The delivery and the payload that the handler under a name was made with. A copy was made when
the handler that it is a copy of was made. -/
def origin? : List Op → String → Option (Delivery × Payload)
  | [], _ => none
  | .handler n payload delivery :: past, name =>
    if name = n then ((payload? past payload).map (delivery, ·)).or (origin? past name)
    else origin? past name
  | .clone source n :: past, name =>
    if name = n then (origin? past source).or (origin? past name) else origin? past name
  | .drop n :: past, name => if name = n then none else origin? past name
  | _ :: past, name => origin? past name

/-- Whether the handler under a name declares the length: as it was last told to, or, if that was
before it was copied, as the handler was that it is a copy of. -/
def declares : List Op → String → Bool
  | [], _ => false
  | .handler n payload _ :: past, name =>
    if name = n ∧ (payload? past payload).isSome then false else declares past name
  | .declare n value :: past, name => if name = n then value else declares past name
  | .clone source n :: past, name =>
    if name = n ∧ (origin? past source).isSome then declares past source else declares past name
  | _ :: past, name => declares past name

/-! ## Runs -/

theorem after_append (s : Session) (ops ops' : List Op) :
    s.after (ops ++ ops') = (s.after ops).after ops' := List.foldl_append

theorem after_reverse_cons (s : Session) (op : Op) (past : List Op) :
    s.after (op :: past).reverse = ((s.after past.reverse).step op).2 := by
  rw [List.reverse_cons, after_append]
  rfl

theorem run_append (s : Session) (ops ops' : List Op) :
    s.run (ops ++ ops') = s.run ops ++ (s.after ops).run ops' := by
  induction ops generalizing s with
  | nil => rfl
  | cons op ops ih => exact congrArg (_ :: ·) (ih _)

theorem length_run (s : Session) (ops : List Op) : (s.run ops).length = ops.length := by
  induction ops generalizing s with
  | nil => rfl
  | cons op ops ih => exact congrArg (· + 1) (ih _)

/-- The answer to a step is its answer in the session that the steps before it have made. -/
theorem getElem?_run (s : Session) (ops : List Op) (op : Op) (later : List Op) :
    (s.run (ops ++ op :: later))[ops.length]? = some ((s.after ops).step op).1 := by
  rw [run_append, List.getElem?_append_right (Nat.le_of_eq (length_run ..)), length_run,
    Nat.sub_self]
  rfl

/-- A step that fails changes nothing. -/
theorem step_of_error {s : Session} {op : Op} {e : Failure} (h : (s.step op).1 = .error e) :
    (s.step op).2 = s := by
  unfold step at h ⊢
  cases ha : s.advance op with
  | ok next => rw [ha] at h; exact nomatch h
  | error e => rfl

/-! ## A step, name by name -/

theorem find_bind {α β : Type} (r : Registry α) (name : String) (f : α → Except Failure β) :
    (find r name >>= f) =
      match r.get? name with
      | some a => f a
      | none => .error .unknownName := by
  unfold find
  cases r.get? name <;> rfl

/-- **What a step does to each name.** A build, a making or a copy that fails leaves what is there,
and what is not there cannot be told anything. -/
theorem get?_step (s : Session) (op : Op) (name : String) :
    ((s.step op).2.payloads.get? name =
      match op with
      | .build n template closing copies units =>
        if name = n then
          (Payload.build template closing copies units).toOption.or (s.payloads.get? name)
        else s.payloads.get? name
      | .drop n => if name = n then none else s.payloads.get? name
      | _ => s.payloads.get? name) ∧
    ((s.step op).2.handlers.get? name =
      match op with
      | .handler n payload delivery =>
        if name = n then
          ((s.payloads.get? payload).map (Handler.mk delivery · false)).or (s.handlers.get? name)
        else s.handlers.get? name
      | .declare n value =>
        if name = n then (s.handlers.get? name).map (·.declare value) else s.handlers.get? name
      | .clone source n =>
        if name = n then (s.handlers.get? source).or (s.handlers.get? name)
        else s.handlers.get? name
      | .drop n => if name = n then none else s.handlers.get? name
      | _ => s.handlers.get? name) ∧
    ((s.step op).2.bodies.get? name =
      match op with
      | .respond handler n _ =>
        if name = n then
          ((s.handlers.get? handler).map fun h => h.payload.body h.delivery).or (s.bodies.get? name)
        else s.bodies.get? name
      | .frame n => if name = n then (s.bodies.get? name).map Body.rest else s.bodies.get? name
      | .collect n => if name = n then none else s.bodies.get? name
      | .drop n => if name = n then none else s.bodies.get? name
      | _ => s.bodies.get? name) := by
  cases op with
  | build n template closing copies units =>
    simp only [step, advance]
    cases Payload.build template closing copies units with
    | error e => simp [Except.toOption]
    | ok p => simp [Registry.get?_insert, Except.toOption]
  | handler n payload delivery =>
    simp only [step, advance, find_bind]
    cases s.payloads.get? payload with
    | none => simp
    | some p => simp [pure, Except.pure, Registry.get?_insert]
  | declare n value =>
    simp only [step, advance, find_bind]
    cases hn : s.handlers.get? n with
    | none => by_cases h : name = n <;> simp [h, hn]
    | some p => by_cases h : name = n <;> simp [pure, Except.pure, Registry.get?_insert, h, hn]
  | clone source n =>
    simp only [step, advance, find_bind]
    cases s.handlers.get? source with
    | none => simp
    | some p => simp [pure, Except.pure, Registry.get?_insert]
  | compare n other =>
    simp only [step, advance, find_bind]
    cases s.handlers.get? n <;> cases s.handlers.get? other <;> exact ⟨rfl, rfl, rfl⟩
  | respond handler n request =>
    simp only [step, advance, find_bind]
    cases s.handlers.get? handler with
    | none => simp
    | some h => simp [pure, Except.pure, Registry.get?_insert, Handler.respond]
  | frame n =>
    simp only [step, advance, find_bind]
    cases hn : s.bodies.get? n with
    | none => by_cases h : name = n <;> simp [h, hn]
    | some b =>
      cases hb : b.next? with
      | none => by_cases h : name = n <;> simp [pure, Except.pure, hb, h, hn, Body.rest]
      | some next =>
        by_cases h : name = n <;>
          simp [pure, Except.pure, Registry.get?_insert, hb, h, hn, Body.rest]
  | collect n =>
    simp only [step, advance, find_bind]
    cases hn : s.bodies.get? n with
    | none => by_cases h : name = n <;> simp [h, hn]
    | some b => simp [pure, Except.pure, Registry.get?_erase]
  | drop n => simp only [step, advance, Registry.get?_erase, and_self]

/-! ## Payloads and handlers -/

theorem get?_payloads_after (past : List Op) (name : String) :
    (after {} past.reverse).payloads.get? name = payload? past name := by
  induction past generalizing name with
  | nil => rfl
  | cons op past ih =>
    rw [after_reverse_cons, (get?_step ..).1]
    cases op <;> simp only [payload?, ih]

/-- **A session holds the handlers that its history tells of.** -/
theorem get?_handlers_after (past : List Op) (name : String) :
    (after {} past.reverse).handlers.get? name =
      (origin? past name).map fun (delivery, payload) =>
        { delivery, payload, declares := declares past name } := by
  induction past generalizing name with
  | nil => rfl
  | cons op past ih =>
    rw [after_reverse_cons, (get?_step ..).2.1]
    cases op with
    | handler n payload delivery =>
      simp only [origin?, declares, ih, get?_payloads_after]
      cases payload? past payload <;> by_cases h : name = n <;> simp [h]
    | declare n value =>
      simp only [origin?, declares, ih]
      cases origin? past name <;> by_cases h : name = n <;> simp [h, Handler.declare]
    | clone source n =>
      simp only [origin?, declares, ih]
      cases origin? past source <;> by_cases h : name = n <;> simp [h]
    | drop n =>
      simp only [origin?, declares, ih]
      by_cases h : name = n <;> simp [h]
    | _ => simp only [origin?, declares, ih]

/-! ## Bodies -/

/-- Whether a step takes a body away from its name: it is read to its end, forgotten, or replaced by
another. -/
def takes (past : List Op) (body : String) : Op → Bool
  | .collect n | .drop n => n = body
  | .respond handler n _ => n = body && (origin? past handler).isSome
  | _ => false

/-- Whether none of the steps that come after the history takes a body away from its name. -/
def Keeps (body : String) : List Op → List Op → Prop
  | _, [] => True
  | past, op :: ops => takes past body op = false ∧ Keeps body (op :: past) ops

theorem get?_bodies_of_not_takes {past : List Op} {op : Op} {name : String} {b : Body}
    (hb : (after {} past.reverse).bodies.get? name = some b) (h : takes past name op = false) :
    ((after {} past.reverse).step op).2.bodies.get? name =
      some (if op = .frame name then b.rest else b) := by
  rw [(get?_step ..).2.2]
  cases op with
  | respond handler n request =>
    rw [if_neg (by simp)]
    by_cases hn : name = n
    · -- the handler is not there, so nothing is answered
      have hnone : origin? past handler = none := by simpa [takes, hn] using h
      simp [get?_handlers_after, hnone, hb]
    · simp [hn, hb]
  | frame n =>
    by_cases hn : name = n
    · subst hn
      simp [hb]
    · simp [hn, Ne.symm hn, hb]
  | collect n =>
    have hn : name ≠ n := by simpa [takes, eq_comm] using h
    simp [hn, hb]
  | drop n =>
    have hn : name ≠ n := by simpa [takes, eq_comm] using h
    simp [hn, hb]
  | _ => simp [hb]

/-- **A body under a name follows the reads under that name**, and nothing else that is done. -/
theorem get?_bodies_after {name : String} {past mid : List Op} {b : Body}
    (hb : (after {} past.reverse).bodies.get? name = some b) (h : Keeps name past mid) :
    (after {} (past.reverse ++ mid)).bodies.get? name =
      some (Body.rest^[mid.count (.frame name)] b) := by
  induction mid generalizing past b with
  | nil => rw [List.append_nil]; exact hb
  | cons op mid ih =>
    obtain ⟨hop, hmid⟩ := h
    have hnext := get?_bodies_of_not_takes hb hop
    rw [← after_reverse_cons] at hnext
    rw [List.append_cons, ← List.reverse_cons, ih hnext hmid, List.count_cons]
    by_cases hframe : op = .frame name
    · rw [if_pos hframe, if_pos (beq_iff_eq.2 hframe)]
      rfl
    · rw [if_neg hframe, if_neg (by rwa [beq_iff_eq]), Nat.add_zero]

end TwinServers.Session
