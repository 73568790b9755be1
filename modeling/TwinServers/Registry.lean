/-!
# Registries

Finite maps from names, as lists of bindings that keep the order in which the names came.
`get?_insert`, `get?_erase` and `get?_mapGather` say all that a look-up can see of a change.
-/

namespace TwinServers

/-- Values under names. -/
structure Registry (α : Type) where
  bindings : List (String × α) := []

namespace Registry

variable {α : Type}

/-- The value of the first binding of a name. -/
def firstOf (name : String) : List (String × α) → Option α
  | [] => none
  | (n, a) :: bs => if name = n then some a else firstOf name bs

/-- The value under a name. -/
def get? (r : Registry α) (name : String) : Option α := firstOf name r.bindings

/-- Whether there is a value under a name. -/
def contains (r : Registry α) (name : String) : Bool := (r.get? name).isSome

/-- Forgets a name. -/
def erase (r : Registry α) (name : String) : Registry α :=
  { bindings := r.bindings.filter (·.1 != name) }

/-- Puts a value under a name, in place of any other. New names come last. -/
def insert (r : Registry α) (name : String) (a : α) : Registry α :=
  if r.contains name then
    { bindings := r.bindings.map fun (n, b) => (n, if n = name then a else b) }
  else
    { bindings := r.bindings ++ [(name, a)] }

/-- Changes every value in turn and gathers what each change brings. -/
def mapGather {β : Type} (r : Registry α) (f : α → α × List β) : Registry α × List β :=
  let results := r.bindings.map fun (n, a) => (n, f a)
  ({ bindings := results.map fun (n, b, _) => (n, b) }, results.flatMap fun (_, _, l) => l)

theorem get?_erase (r : Registry α) (n m : String) :
    (r.erase n).get? m = if m = n then none else r.get? m := by
  obtain ⟨bs⟩ := r
  simp only [get?, erase]
  induction bs with
  | nil => simp [firstOf]
  | cons b bs ih =>
    obtain ⟨k, v⟩ := b
    by_cases hk : k = n
    · simp only [hk, bne_self_eq_false, Bool.false_eq_true, not_false_eq_true,
        List.filter_cons_of_neg, ih, firstOf]
      by_cases hm : m = n <;> simp [hm]
    · by_cases hm : m = k
      · subst hm; simp [hk, firstOf]
      · simp [hk, firstOf, hm, ih]

private theorem firstOf_replace (bs : List (String × α)) (n m : String) (a : α) :
    firstOf m (bs.map fun (k, b) => (k, if k = n then a else b)) =
      (firstOf m bs).map fun b => if m = n then a else b := by
  induction bs with
  | nil => rfl
  | cons b bs ih =>
    obtain ⟨k, v⟩ := b
    by_cases hm : m = k <;> simp [firstOf, hm, ih]

private theorem firstOf_concat (bs : List (String × α)) (n m : String) (a : α) :
    firstOf m (bs ++ [(n, a)]) = (firstOf m bs).or (if m = n then some a else none) := by
  induction bs with
  | nil => by_cases hm : m = n <;> simp [firstOf, hm]
  | cons b bs ih =>
    obtain ⟨k, v⟩ := b
    by_cases hm : m = k <;> simp [firstOf, hm, ih]

theorem get?_insert (r : Registry α) (n m : String) (a : α) :
    (r.insert n a).get? m = if m = n then some a else r.get? m := by
  obtain ⟨bs⟩ := r
  cases hv : firstOf n bs with
  | some v =>
    simp only [insert, contains, get?, hv, Option.isSome_some, if_true, firstOf_replace]
    by_cases hm : m = n <;> simp [hm, hv]
  | none =>
    simp only [insert, contains, get?, hv, Option.isSome_none, Bool.false_eq_true, if_false,
      firstOf_concat]
    by_cases hm : m = n <;> simp [hm, hv]

theorem get?_mapGather {β : Type} (r : Registry α) (f : α → α × List β) (name : String) :
    (r.mapGather f).1.get? name = (r.get? name).map fun a => (f a).1 := by
  obtain ⟨bs⟩ := r
  simp only [mapGather, get?, List.map_map]
  induction bs with
  | nil => rfl
  | cons b bs ih =>
    obtain ⟨k, v⟩ := b
    by_cases hn : name = k <;> simp [firstOf, hn, ih]

end Registry

end TwinServers
