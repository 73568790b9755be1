import TwinServers.Proofs.Host.Action

/-!
# What an action records

An action leaves two records behind, the calls that it made and the events that it logged, and it
ends with a value or an error. `Records` says of an action what these three are together, whatever
was recorded before it and whichever calls are planned to fail. `InTurn` is how a row of calls goes:
one after the other, up to the first that fails. An action that makes such a row and does nothing
else that is recorded `Makes` it.
-/

namespace TwinServers

/-! ## Rows of calls -/

/-- The error that a call failed with, whether of its own or because it was made to. -/
def MadeCall.failure? (m : MadeCall) : Option IoError :=
  match m.outcome with
  | .done => none
  | .failed e | .injected e => some (.ofErrno e)

/-- A row of calls none of which failed. -/
def allDone (calls : List Call) : List MadeCall := calls.map fun call => { call, outcome := .done }

/-- How a row of calls goes that are made one after the other, up to the first that fails: the
calls that were made of it, and the failure if there was one. -/
inductive InTurn : List Call → List MadeCall → Option IoError → Prop
  | nil : InTurn [] [] none
  | done {call : Call} {calls : List Call} {made : List MadeCall} {failure : Option IoError}
      (rest : InTurn calls made failure) :
      InTurn (call :: calls) ({ call, outcome := .done } :: made) failure
  | failed {m : MadeCall} {calls : List Call} {e : IoError} (h : m.failure? = some e) :
      InTurn (m.call :: calls) [m] (some e)

@[simp] theorem failure?_of_mem_allDone {calls : List Call} {m : MadeCall} (h : m ∈ allDone calls) :
    m.failure? = none := by
  obtain ⟨call, -, rfl⟩ := List.mem_map.1 h
  rfl

@[simp] theorem map_call_allDone (calls : List Call) : (allDone calls).map (·.call) = calls := by
  rw [allDone, List.map_map]
  exact List.map_id calls

namespace InTurn

variable {calls calls' : List Call} {made made' : List MadeCall} {failure : Option IoError}
  {e : IoError}

/-- A row without a failure was made to its end. -/
theorem eq_allDone (h : InTurn calls made none) : made = allDone calls := by
  generalize hf : (none : Option IoError) = failure at h
  induction h with
  | nil => rfl
  | done rest ih => rw [ih hf]; rfl
  | failed h => exact nomatch hf

theorem append (h : InTurn calls made none) (h' : InTurn calls' made' failure) :
    InTurn (calls ++ calls') (made ++ made') failure := by
  rw [h.eq_allDone]
  clear h
  induction calls with
  | nil => exact h'
  | cons call calls ih => exact .done ih

/-- A row that stops at a failure is the same whatever was to follow. -/
theorem stop (h : InTurn calls made (some e)) (later : List Call) :
    InTurn (calls ++ later) made (some e) := by
  generalize hf : some e = failure at h
  induction h with
  | nil => exact nomatch hf
  | done rest ih => exact .done (ih hf)
  | failed h =>
    cases hf
    exact .failed h

theorem ne_nil (h : InTurn calls made failure) (hne : calls ≠ []) : made ≠ [] := by
  cases h with
  | nil => exact absurd rfl hne
  | done => exact List.cons_ne_nil _ _
  | failed => exact List.cons_ne_nil _ _

theorem map_call_prefix (h : InTurn calls made failure) : made.map (·.call) <+: calls := by
  induction h with
  | nil => exact List.prefix_refl _
  | done rest ih => exact (List.cons_prefix_cons).2 ⟨rfl, ih⟩
  | failed h => exact ⟨_, rfl⟩

/-- All the calls but the last were done, and the last is where the row stopped. -/
theorem exists_concat (h : InTurn calls made (some e)) :
    ∃ before m, made = allDone before ++ [m] ∧ m.failure? = some e := by
  generalize hf : some e = failure at h
  induction h with
  | nil => exact nomatch hf
  | @done call calls made failure rest ih =>
    obtain ⟨before, m, rfl, hm⟩ := ih hf
    exact ⟨call :: before, m, rfl, hm⟩
  | @failed m calls e' h =>
    cases hf
    exact ⟨[], m, rfl, h⟩

end InTurn

/-! ## Runs and their records -/

namespace Kernel

variable {ε ε' α β : Type}

/-- The kernel that a run ends with. -/
def final : EStateM.Result ε Kernel α → Kernel
  | .ok _ k => k
  | .error _ k => k

/-- What a run comes to. -/
def result : EStateM.Result ε Kernel α → Except ε α
  | .ok a _ => .ok a
  | .error e _ => .error e

/-- The error of a result, if it is one. -/
def error? : Except ε α → Option ε
  | .ok _ => none
  | .error e => some e

/-- Whether the calls that an action makes, the events that it logs and what it comes to are always
as `spec` says. -/
def Records (x : Action ε α) (spec : List MadeCall → Log → Except ε α → Prop) : Prop :=
  ∀ k, ∃ calls log,
    (final (x.run k)).calls = k.calls ++ calls ∧ (final (x.run k)).log = k.log ++ log ∧
    spec calls log (result (x.run k))

namespace Records

variable {spec spec' : List MadeCall → Log → Except ε α → Prop}

theorem mono {x : Action ε α} (h : Records x spec)
    (himp : ∀ calls log r, spec calls log r → spec' calls log r) : Records x spec' := by
  intro k
  obtain ⟨calls, log, hcalls, hlog, hspec⟩ := h k
  exact ⟨calls, log, hcalls, hlog, himp _ _ _ hspec⟩

/-- What an action that runs leaves is what its kernel has more than the one before. -/
private theorem of_run {x : Action ε α} {k : Kernel} {calls : List MadeCall} {log : Log}
    {r : EStateM.Result ε Kernel α} (hx : x.run k = r) (hcalls : (final r).calls = k.calls ++ calls)
    (hlog : (final r).log = k.log ++ log) (hspec : spec calls log (result r)) :
    ∃ calls log,
      (final (x.run k)).calls = k.calls ++ calls ∧ (final (x.run k)).log = k.log ++ log ∧
      spec calls log (result (x.run k)) := by
  subst hx
  exact ⟨calls, log, hcalls, hlog, hspec⟩

/-- An action that goes on as another one does, from a kernel with longer records. -/
private theorem of_run_after {x y : Action ε α} {k k' : Kernel} {calls : List MadeCall}
    {log : Log} (hx : x.run k = y.run k') (hcalls : k'.calls = k.calls ++ calls)
    (hlog : k'.log = k.log ++ log)
    (hy : Records y fun calls' log' r => spec (calls ++ calls') (log ++ log') r) :
    ∃ calls log,
      (final (x.run k)).calls = k.calls ++ calls ∧ (final (x.run k)).log = k.log ++ log ∧
      spec calls log (result (x.run k)) := by
  obtain ⟨calls', log', hcalls', hlog', hspec⟩ := hy k'
  rw [hcalls, List.append_assoc] at hcalls'
  rw [hlog, List.append_assoc] at hlog'
  exact of_run hx hcalls' hlog' hspec

theorem pure {a : α} (h : spec [] [] (.ok a)) : Records (pure a : Action ε α) spec := fun k =>
  of_run (run_pure a k) (List.append_nil _).symm (List.append_nil _).symm h

theorem throw {e : ε} (h : spec [] [] (.error e)) : Records (throw e : Action ε α) spec := fun k =>
  of_run (r := .error e k) rfl (List.append_nil _).symm (List.append_nil _).symm h

/-- The second action records after the first, which has come to a value. -/
theorem bind {x : Action ε α} {f : α → Action ε β} {spec' : List MadeCall → Log → Except ε β → Prop}
    (hx : Records x spec)
    (hok : ∀ calls log a, spec calls log (.ok a) →
      Records (f a) fun calls' log' r => spec' (calls ++ calls') (log ++ log') r)
    (herror : ∀ calls log e, spec calls log (.error e) → spec' calls log (.error e)) :
    Records (x >>= f) spec' := by
  intro k
  obtain ⟨calls, log, hcalls, hlog, hspec⟩ := hx k
  cases h : x.run k with
  | ok a k' =>
    rw [h] at hcalls hlog hspec
    have after : (x >>= f).run k = (f a).run k' := by rw [run_bind, h]
    exact of_run_after after hcalls hlog (hok calls log a hspec)
  | error e k' =>
    rw [h] at hcalls hlog hspec
    exact of_run (r := .error e k') (by rw [run_bind, h]) hcalls hlog (herror _ _ _ hspec)

/-- What comes after an event records after it. -/
theorem after_record {event : Event} {x : Action ε α}
    (hx : Records x fun calls log r => spec calls ({ event } :: log) r) :
    Records (do record event; x) spec := by
  intro k
  have after : EStateM.run (do record event; x) k =
      x.run { k with log := k.log ++ [{ event }] } := by rw [run_bind, run_record]
  exact of_run_after after (List.append_nil _).symm rfl hx

/-- What is tried instead records after the attempt that failed. -/
theorem tryCatch {x : Action ε α} {f : ε → Action ε α} (hx : Records x spec)
    (hok : ∀ calls log a, spec calls log (.ok a) → spec' calls log (.ok a))
    (herror : ∀ calls log e, spec calls log (.error e) →
      Records (f e) fun calls' log' r => spec' (calls ++ calls') (log ++ log') r) :
    Records (tryCatch x f) spec' := by
  intro k
  obtain ⟨calls, log, hcalls, hlog, hspec⟩ := hx k
  cases h : x.run k with
  | ok a k' =>
    rw [h] at hcalls hlog hspec
    exact of_run (r := .ok a k') (by rw [run_tryCatch, h]) hcalls hlog (hok _ _ _ hspec)
  | error e k' =>
    rw [h] at hcalls hlog hspec
    have after : (MonadExcept.tryCatch x f).run k = (f e).run k' := by rw [run_tryCatch, h]
    exact of_run_after after hcalls hlog (herror calls log e hspec)

/-- Giving an address back is not recorded. -/
theorem holding {x : Action ε α} (hx : Records x spec) (held : SocketAddress) :
    Records (holding held x) spec := by
  intro k
  obtain ⟨calls, log, hcalls, hlog, hspec⟩ := hx k
  cases h : x.run k with
  | ok a k' =>
    rw [h] at hcalls hlog hspec
    exact of_run (r := .ok a k') (by rw [run_holding, h]) hcalls hlog hspec
  | error e k' =>
    rw [h] at hcalls hlog hspec
    exact of_run (r := .error e { k' with ports := k'.ports.release held })
      (by rw [run_holding, h]) hcalls hlog hspec

theorem explaining {x : Action ε α} (hx : Records x spec) (f : ε → ε')
    {spec' : List MadeCall → Log → Except ε' α → Prop}
    (himp : ∀ calls log r, spec calls log r → spec' calls log (r.mapError f)) :
    Records (explaining f x) spec' := by
  intro k
  obtain ⟨calls, log, hcalls, hlog, hspec⟩ := hx k
  cases h : x.run k with
  | ok a k' =>
    rw [h] at hcalls hlog hspec
    exact of_run (r := .ok a k') (by rw [run_explaining, h]) hcalls hlog (himp _ _ _ hspec)
  | error e k' =>
    rw [h] at hcalls hlog hspec
    exact of_run (r := .error (f e) k') (by rw [run_explaining, h]) hcalls hlog (himp _ _ _ hspec)

end Records

/-! ## Making a row of calls -/

/-- Whether an action makes a row of calls, logs nothing, fails just when a call does, and otherwise
gives a value with the property. -/
def Makes (row : List Call) (x : Action IoError α) (property : α → Prop) : Prop :=
  Records x fun calls log r =>
    InTurn row calls (error? r) ∧ log = [] ∧ ∀ a, r = .ok a → property a

theorem makes_perform (c : Call) {run : Ports → Except Errno (α × Ports)} {property : α → Prop}
    (hrun : ∀ t a t', run t = .ok (a, t') → property a) : Makes [c] (perform c run) property := by
  intro k
  unfold EStateM.run perform
  -- the plan lets the call run, which may fail of its own, or it makes the call fail
  rcases k.faults.next c.kind with ⟨_ | e, faults⟩
  · cases h : run k.ports with
    | ok r =>
      refine ⟨[_], [], rfl, (List.append_nil _).symm, .done .nil, rfl, fun a ha => ?_⟩
      cases ha
      exact hrun _ _ _ h
    | error e =>
      exact ⟨[_], [], rfl, (List.append_nil _).symm, .failed (m := ⟨c, .failed e⟩) rfl, rfl, nofun⟩
  · exact ⟨[_], [], rfl, (List.append_nil _).symm, .failed (m := ⟨c, .injected e⟩) rfl, rfl, nofun⟩

theorem makes_call (c : Call) : Makes [c] (call c) fun _ => True :=
  makes_perform c fun _ _ _ _ => trivial

theorem makes_pure {property : α → Prop} {a : α} (h : property a) :
    Makes [] (pure a : Action IoError α) property :=
  Records.pure ⟨.nil, rfl, fun _ hb => Except.ok.inj hb ▸ h⟩

theorem Makes.bind {row row' : List Call} {x : Action IoError α} {f : α → Action IoError β}
    {property : α → Prop} {property' : β → Prop} (hx : Makes row x property)
    (hf : ∀ a, property a → Makes row' (f a) property') :
    Makes (row ++ row') (x >>= f) property' := by
  refine Records.bind hx ?_ ?_
  · rintro calls log a ⟨hcalls, rfl, ha⟩
    refine (hf a (ha a rfl)).mono ?_
    rintro calls' log' r ⟨hcalls', rfl, hr⟩
    exact ⟨hcalls.append hcalls', rfl, hr⟩
  · rintro calls log e ⟨hcalls, rfl, -⟩
    exact ⟨hcalls.stop row', rfl, nofun⟩

theorem Makes.holding {row : List Call} {x : Action IoError α} {property : α → Prop}
    (hx : Makes row x property) (held : SocketAddress) : Makes row (holding held x) property :=
  Records.holding hx held

end Kernel

end TwinServers
