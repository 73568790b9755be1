import Mathlib.Data.Nat.Digits.Defs

/-!
# Numbers in digits and in words

The digits in which a number is written, in any base. What is said of the digits one by one holds of
every number (`forall_mem_toDigits`), a number is read back from its digits (`foldl_toDigits`), and
only zero begins with the digit 0 (`head?_toDigits`).

Products and sums of 64-bit words as a machine takes them that looks for overflow: the result is the
exact one or there is none. `Word.mul?_eq_some_iff` and `Word.add?_eq_some_iff` say so, and what is
reckoned with these operations is what wrapping around would have given (`Word.eq_of_checked`).
-/

namespace TwinServers

/-! ## Digits -/

theorem forall_mem_toDigits {P : Char → Prop} {base : Nat} (hbase : 1 < base)
    (h : ∀ d < base, P (Nat.digitChar d)) (n : Nat) : ∀ c ∈ Nat.toDigits base n, P c := by
  induction n using Nat.base_induction base hbase with
  | single d hd =>
    rw [Nat.toDigits_of_lt_base hd]
    simpa using h d hd
  | digit m d hd hm ih =>
    rw [← Nat.toDigits_append_toDigits hbase hm hd, Nat.toDigits_of_lt_base hd]
    intro c hc
    obtain hc | hc := List.mem_append.1 hc
    · exact ih c hc
    · exact List.mem_singleton.1 hc ▸ h d hd

/-- Reading a number digit by digit gives it back if each digit has its value. -/
theorem foldl_toDigits {v : Char → Nat} {base : Nat} (hbase : 1 < base)
    (h : ∀ d < base, v (Nat.digitChar d) = d) (n : Nat) :
    (Nat.toDigits base n).foldl (fun m c => m * base + v c) 0 = n := by
  induction n using Nat.base_induction base hbase with
  | single d hd =>
    rw [Nat.toDigits_of_lt_base hd]
    simpa using h d hd
  | digit m d hd hm ih =>
    rw [← Nat.toDigits_append_toDigits hbase hm hd, Nat.toDigits_of_lt_base hd, List.foldl_append,
      ih, List.foldl_cons, List.foldl_nil, h d hd, Nat.mul_comm]

theorem digitChar_ne_zero : ∀ d < 16, d ≠ 0 → Nat.digitChar d ≠ '0' := by decide

theorem head?_toDigits {base : Nat} (hbase : 1 < base) (hle : base ≤ 16) {n : Nat} (hn : n ≠ 0) :
    (Nat.toDigits base n).head? ≠ some '0' := by
  induction n using Nat.base_induction base hbase with
  | single d hd =>
    rw [Nat.toDigits_of_lt_base hd]
    simpa using digitChar_ne_zero d (by omega) hn
  | digit m d hd hm ih =>
    rw [← Nat.toDigits_append_toDigits hbase hm hd, List.head?_append,
      Option.or_of_isSome (List.isSome_head?.2 Nat.toDigits_ne_nil)]
    exact ih (by omega)

/-! ## Machine words -/

namespace Word

/-- The word that an operation gives, unless the exact result takes more than a word. -/
def checked (exact : Nat) (word : UInt64) : Option UInt64 :=
  if exact < UInt64.size then some word else none

/-- The product of two words, if it is a word. -/
def mul? (a b : UInt64) : Option UInt64 := checked (a.toNat * b.toNat) (a * b)

/-- The sum of two words, if it is a word. -/
def add? (a b : UInt64) : Option UInt64 := checked (a.toNat + b.toNat) (a + b)

theorem checked_eq_some_iff {exact : Nat} {word n : UInt64}
    (hword : word.toNat = exact % UInt64.size) :
    checked exact word = some n ↔ n.toNat = exact := by
  unfold checked
  split
  · next h => rw [Option.some.injEq, ← UInt64.toNat_inj, hword, Nat.mod_eq_of_lt h, eq_comm]
  · next h =>
    constructor
    · exact nofun
    · intro hn
      exact absurd (hn ▸ n.toNat_lt_size) h

/-- An operation that fits does not wrap around. -/
theorem eq_of_checked {exact : Nat} {word n : UInt64} (h : checked exact word = some n) :
    word = n := by
  unfold checked at h
  split at h
  · exact Option.some.inj h
  · exact nomatch h

theorem toNat_mul_of_lt {a b : UInt64} (h : a.toNat * b.toNat < UInt64.size) :
    (a * b).toNat = a.toNat * b.toNat := by
  rw [UInt64.toNat_mul, Nat.mod_eq_of_lt h]

theorem mul?_eq_some_iff {a b n : UInt64} : mul? a b = some n ↔ n.toNat = a.toNat * b.toNat :=
  checked_eq_some_iff (UInt64.toNat_mul a b)

theorem add?_eq_some_iff {a b n : UInt64} : add? a b = some n ↔ n.toNat = a.toNat + b.toNat :=
  checked_eq_some_iff (UInt64.toNat_add a b)

end Word

end TwinServers
