import TwinServers.Host.Kernel

/-!
# Actions and the addresses they leave in use

How the combinators of actions run, and what an action does to the addresses in use. `Settles`
says of an action that comes into its own addresses that it keeps those it should when it succeeds
and gives all of them back when it fails, whatever else is in use and whichever calls are planned to
fail. It is closed under the combinators: in `Settles.bind` the second action takes over what the
first one kept, and `Settles.holding` is where an address is given back. `HandsOutNone` says of an
action that it leaves the count of fresh ports alone, which is so of whatever asks for its ports.
-/

namespace TwinServers.Kernel

variable {ε ε' α β : Type}

/-! ## Running the combinators -/

theorem run_pure (a : α) (k : Kernel) : (pure a : Action ε α).run k = .ok a k := rfl

theorem run_bind (x : Action ε α) (f : α → Action ε β) (k : Kernel) :
    (x >>= f).run k =
      match x.run k with
      | .ok a k' => (f a).run k'
      | .error e k' => .error e k' := by
  change EStateM.bind x f k = _
  unfold EStateM.bind EStateM.run
  cases x k <;> rfl

theorem run_explaining (f : ε → ε') (x : Action ε α) (k : Kernel) :
    (explaining f x).run k =
      match x.run k with
      | .ok a k' => .ok a k'
      | .error e k' => .error (f e) k' := by
  change EStateM.adaptExcept f x k = _
  unfold EStateM.adaptExcept EStateM.run
  cases x k <;> rfl

theorem run_tryCatch (x : Action ε α) (f : ε → Action ε α) (k : Kernel) :
    (tryCatch x f).run k =
      match x.run k with
      | .ok a k' => .ok a k'
      | .error e k' => (f e).run k' := by
  change EStateM.tryCatch x f k = _
  unfold EStateM.tryCatch EStateM.run
  cases x k <;> rfl

theorem run_holding (held : SocketAddress) (x : Action ε α) (k : Kernel) :
    (holding held x).run k =
      match x.run k with
      | .ok a k' => .ok a k'
      | .error e k' => .error e { k' with ports := k'.ports.release held } := by
  rw [holding, run_tryCatch]
  cases x.run k <;> rfl

theorem run_record (e : Event) (k : Kernel) :
    (record e : Action ε Unit).run k = .ok () { k with log := k.log ++ [{ event := e }] } := rfl

theorem run_bind_eq_ok {x : Action ε α} {f : α → Action ε β} {k k'' : Kernel} {b : β} :
    (x >>= f).run k = .ok b k'' ↔ ∃ a k', x.run k = .ok a k' ∧ (f a).run k' = .ok b k'' := by
  rw [run_bind]
  cases x.run k with
  | ok a k' =>
    constructor
    · intro h
      exact ⟨a, k', rfl, h⟩
    · rintro ⟨_, _, h, h'⟩
      cases h
      exact h'
  | error e k' => simp

theorem run_pure_eq_ok {a b : α} {k k' : Kernel} :
    (pure a : Action ε α).run k = .ok b k' ↔ a = b ∧ k = k' := by
  rw [run_pure, EStateM.Result.ok.injEq]

theorem run_explaining_eq_ok {f : ε → ε'} {x : Action ε α} {k k' : Kernel} {a : α} :
    (explaining f x).run k = .ok a k' ↔ x.run k = .ok a k' := by
  rw [run_explaining]
  cases x.run k <;> simp

theorem run_holding_eq_ok {held : SocketAddress} {x : Action ε α} {k k' : Kernel} {a : α} :
    (holding held x).run k = .ok a k' ↔ x.run k = .ok a k' := by
  rw [run_holding]
  cases x.run k <;> simp

/-! ## Settling -/

/-- Whether an action that comes with the addresses `owed` ends with the addresses `kept` when it
succeeds, and with none of them when it fails. All others in use stay as they are. -/
def Settles (owed : List SocketAddress) (x : Action ε α) (kept : α → List SocketAddress) : Prop :=
  ∀ k others, k.ports.bound = owed ++ others →
    match x.run k with
    | .ok a k' => k'.ports.bound = kept a ++ others
    | .error _ k' => k'.ports.bound = others

/-- An action that comes with nothing changes nothing when it fails. -/
theorem Settles.bound_of_error {x : Action ε α} {kept : α → List SocketAddress}
    (h : Settles [] x kept) {k k' : Kernel} {e : ε} (hx : x.run k = .error e k') :
    k'.ports.bound = k.ports.bound := by
  have settled := h k k.ports.bound rfl
  rw [hx] at settled
  exact settled

theorem Settles.bound_of_ok {x : Action ε α} {kept : α → List SocketAddress}
    (h : Settles [] x kept) {k k' : Kernel} {a : α} (hx : x.run k = .ok a k') :
    k'.ports.bound = kept a ++ k.ports.bound := by
  have settled := h k k.ports.bound rfl
  rw [hx] at settled
  exact settled

/-- What is kept matters only for the values that the action can give. -/
theorem Settles.congr {owed : List SocketAddress} {x : Action ε α}
    {kept kept' : α → List SocketAddress} (h : Settles owed x kept)
    (heq : ∀ k a k', x.run k = .ok a k' → kept a = kept' a) : Settles owed x kept' := by
  intro k others hk
  have settled := h k others hk
  cases hx : x.run k with
  | ok a k' =>
    rw [hx] at settled
    exact settled.trans (by rw [heq k a k' hx])
  | error e k' =>
    rw [hx] at settled
    exact settled

theorem settles_pure (kept : α → List SocketAddress) (a : α) :
    Settles (kept a) (pure a : Action ε α) kept :=
  fun _ _ hk => hk

theorem settles_throw (e : ε) (kept : α → List SocketAddress) :
    Settles [] (throw e : Action ε α) kept :=
  fun _ _ hk => hk

theorem settles_record (e : Event) : Settles [] (record e : Action ε Unit) fun _ => [] :=
  fun _ _ hk => hk

theorem Settles.bind {owed : List SocketAddress} {x : Action ε α} {f : α → Action ε β}
    {held : α → List SocketAddress} {kept : β → List SocketAddress} (hx : Settles owed x held)
    (hf : ∀ a, Settles (held a) (f a) kept) : Settles owed (x >>= f) kept := by
  intro k others hk
  have settled := hx k others hk
  rw [run_bind]
  cases h : x.run k with
  | ok a k' =>
    rw [h] at settled
    exact hf a k' others settled
  | error e k' =>
    rw [h] at settled
    exact settled

theorem Settles.explaining {owed : List SocketAddress} {x : Action ε α}
    {kept : α → List SocketAddress} (f : ε → ε') (hx : Settles owed x kept) :
    Settles owed (explaining f x) kept := by
  intro k others hk
  have settled := hx k others hk
  rw [run_explaining]
  cases h : x.run k <;> rw [h] at settled <;> exact settled

/-- What is tried instead starts with nothing, since the first attempt has given all back. -/
theorem Settles.tryCatch {owed : List SocketAddress} {x : Action ε α} {f : ε → Action ε α}
    {kept : α → List SocketAddress} (hx : Settles owed x kept) (hf : ∀ e, Settles [] (f e) kept) :
    Settles owed (tryCatch x f) kept := by
  intro k others hk
  have settled := hx k others hk
  rw [run_tryCatch]
  cases h : x.run k with
  | ok a k' =>
    rw [h] at settled
    exact settled
  | error e k' =>
    rw [h] at settled
    exact hf e k' others settled

/-- Holding an address while something else is done: it is still there when that succeeds, and is
given back when it fails. -/
theorem Settles.holding {x : Action ε α} {kept : α → List SocketAddress} (a : SocketAddress)
    (hx : Settles [] x kept) : Settles [a] (holding a x) fun b => kept b ++ [a] := by
  intro k others hk
  have settled := hx k (a :: others) hk
  rw [run_holding]
  cases h : x.run k with
  | ok b k' =>
    rw [h] at settled
    simpa using settled
  | error e k' =>
    rw [h] at settled
    change k'.ports.bound.erase a = others
    rw [settled, List.erase_cons_head]

/-! ## Calls -/

/-- A call that is planned to fail does nothing, so what it settles is what its run does. -/
theorem settles_perform (c : Call) {run : Ports → Except Errno (α × Ports)}
    {kept : α → List SocketAddress}
    (hrun : ∀ t a t', run t = .ok (a, t') → t'.bound = kept a ++ t.bound) :
    Settles [] (perform c run) kept := by
  intro k others hk
  rw [List.nil_append] at hk
  unfold EStateM.run perform
  rcases k.faults.next c.kind with ⟨_ | e, faults⟩
  · cases h : run k.ports with
    | ok r =>
      rw [← hk]
      exact hrun _ _ _ h
    | error e => exact hk
  · exact hk

theorem settles_call (c : Call) : Settles [] (call c) fun _ => [] :=
  settles_perform c fun t _ t' h => by
    cases h
    rfl

/-! ## Fresh ports -/

/-- Whether an action hands out no fresh port, also where it fails, and its values are of a kind. -/
def HandsOutNone (x : Action ε α) (gives : α → Prop) : Prop :=
  ∀ k,
    match x.run k with
    | .ok a k' => k'.ports.handedOut = k.ports.handedOut ∧ gives a
    | .error _ k' => k'.ports.handedOut = k.ports.handedOut

variable {gives : α → Prop}

theorem HandsOutNone.handedOut_of_error {x : Action ε α} (h : HandsOutNone x gives) {k k' : Kernel}
    {e : ε} (hx : x.run k = .error e k') : k'.ports.handedOut = k.ports.handedOut := by
  have same := h k
  rw [hx] at same
  exact same

theorem handsOutNone_pure {a : α} (h : gives a) : HandsOutNone (pure a : Action ε α) gives :=
  fun _ => ⟨rfl, h⟩

theorem handsOutNone_throw (e : ε) : HandsOutNone (throw e : Action ε α) gives :=
  fun _ => rfl

theorem handsOutNone_record (e : Event) :
    HandsOutNone (record e : Action ε Unit) fun _ => True :=
  fun _ => ⟨rfl, trivial⟩

theorem HandsOutNone.bind {x : Action ε α} {f : α → Action ε β} {gives' : β → Prop}
    (hx : HandsOutNone x gives) (hf : ∀ a, gives a → HandsOutNone (f a) gives') :
    HandsOutNone (x >>= f) gives' := by
  intro k
  have first := hx k
  rw [run_bind]
  cases h : x.run k with
  | ok a k' =>
    rw [h] at first
    have second := hf a first.2 k'
    dsimp only
    rw [← first.1]
    exact second
  | error e k' =>
    rw [h] at first
    exact first

theorem HandsOutNone.tryCatch {x : Action ε α} {f : ε → Action ε α} (hx : HandsOutNone x gives)
    (hf : ∀ e, HandsOutNone (f e) gives) : HandsOutNone (tryCatch x f) gives := by
  intro k
  have first := hx k
  rw [run_tryCatch]
  cases h : x.run k with
  | ok a k' =>
    rw [h] at first
    exact first
  | error e k' =>
    rw [h] at first
    have second := hf e k'
    dsimp only
    rw [← first]
    exact second

theorem HandsOutNone.holding {x : Action ε α} (hx : HandsOutNone x gives) (a : SocketAddress) :
    HandsOutNone (holding a x) gives := by
  intro k
  have same := hx k
  rw [run_holding]
  cases h : x.run k <;> rw [h] at same <;> exact same

theorem HandsOutNone.explaining {x : Action ε α} (hx : HandsOutNone x gives) (f : ε → ε') :
    HandsOutNone (explaining f x) gives := by
  intro k
  have same := hx k
  rw [run_explaining]
  cases h : x.run k <;> rw [h] at same <;> exact same

theorem handsOutNone_perform (c : Call) {run : Ports → Except Errno (α × Ports)}
    (hrun : ∀ t a t', run t = .ok (a, t') → t'.handedOut = t.handedOut) :
    HandsOutNone (perform c run) fun _ => True := by
  intro k
  unfold EStateM.run perform
  rcases k.faults.next c.kind with ⟨_ | e, faults⟩
  · cases h : run k.ports with
    | ok r => exact ⟨hrun _ _ _ h, trivial⟩
    | error e => rfl
  · rfl

theorem handsOutNone_call (c : Call) : HandsOutNone (call c) fun _ => True :=
  handsOutNone_perform c fun t _ t' h => by
    cases h
    rfl

end TwinServers.Kernel

namespace TwinServers

/-- What binding an address comes to when it succeeds: the address is one of the host's own, and a
free one is put in front of those in use, the same one if it asks for a port and otherwise the same
one with an ephemeral port. -/
theorem Ports.cases_of_bind {net : Network} {a b : SocketAddress} {t t' : Ports}
    (h : t.bind net a = .ok (b, t')) :
    net.assigned a.ip ∧ t.isFree b ∧ t'.bound = b :: t.bound ∧
      (a.port ≠ 0 ∧ b = a ∨ ∃ i, a.port = 0 ∧ b = a.withPort (ephemeral i)) := by
  unfold Ports.bind at h
  split at h
  · exact nomatch h
  · next hassigned =>
    split at h
    · next hport =>
      split at h
      · next hfresh =>
        cases h
        obtain ⟨i, -, hi⟩ := List.exists_of_findSome?_eq_some hfresh
        simp only [Option.ite_none_right_eq_some, Option.some.injEq, Prod.mk.injEq] at hi
        obtain ⟨hfree, rfl, -⟩ := hi
        exact ⟨by simpa using hassigned, hfree, rfl, .inr ⟨_, hport, rfl⟩⟩
      · exact nomatch h
    · next hport =>
      split at h
      · next hfree =>
        cases h
        exact ⟨by simpa using hassigned, hfree, rfl, .inl ⟨hport, rfl⟩⟩
      · exact nomatch h

theorem Ports.bound_of_bind {net : Network} {a b : SocketAddress} {t t' : Ports}
    (h : t.bind net a = .ok (b, t')) : t'.bound = b :: t.bound :=
  (cases_of_bind h).2.2.1

theorem Kernel.settles_bind (net : Network) (a : SocketAddress) :
    Kernel.Settles [] (Kernel.bind net a) fun b => [b] :=
  settles_perform _ fun _ _ _ h => Ports.bound_of_bind h

/-- A port that is asked for is not a fresh one. -/
theorem Kernel.handsOutNone_bind (net : Network) {a : SocketAddress} (h : a.port ≠ 0) :
    Kernel.HandsOutNone (Kernel.bind net a) fun _ => True := by
  refine handsOutNone_perform _ fun t b t' hbind => ?_
  unfold Ports.bind at hbind
  rw [if_neg h] at hbind
  split at hbind
  · exact nomatch hbind
  · split at hbind
    · cases hbind
      rfl
    · exact nomatch hbind

end TwinServers
