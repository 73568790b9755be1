import TwinServers.Proofs.Backoff
import TwinServers.Proofs.Numbers

/-!
# Pauses as spans of time

A machine keeps a span of time as whole seconds in a word of 64 bits and the nanoseconds beyond them
in a word of 32. Multiplying a span looks for overflow and then stops at the longest span there is
(`Duration.saturatingMul`), and so does shifting by more places than a word has (`shiftLeft?`).
`Backoff.span?` is the pause after a failed accept as it is reckoned so. None of the precautions
ever comes into play (`exists_span?_eq`): the pause is the exact number of milliseconds, doubled
from one failure to the next until it is a second. `pauses_are_exact` says so.
-/

namespace TwinServers

/-! ## Spans of time -/

/-- A span of time: whole seconds, and the nanoseconds beyond them. -/
structure Duration where
  seconds : UInt64
  nanos : UInt32
  nanos_lt : nanos.toNat < 1000000000 := by decide
  deriving DecidableEq

namespace Duration

/-- The length of a span in nanoseconds. -/
def toNanos (d : Duration) : Nat := d.seconds.toNat * 1000000000 + d.nanos.toNat

/-- The longest span there is. -/
def greatest : Duration where
  seconds := 0xffffffffffffffff
  nanos := 999999999

/-- The nanoseconds of a span that is taken several times, before they are made into seconds. -/
def nanosTimes (d : Duration) (n : UInt32) : UInt64 := d.nanos.toUInt64 * n.toUInt64

/-- A span taken several times, if that is a span. The nanoseconds are reckoned in a word of 64
bits, and the seconds that they come to are added to the others. -/
def mul? (d : Duration) (n : UInt32) : Option Duration := do
  let seconds ← Word.mul? d.seconds n.toUInt64
  let seconds ← Word.add? seconds (d.nanosTimes n / 1000000000)
  return {
    seconds
    nanos := (d.nanosTimes n % 1000000000).toUInt32
    nanos_lt := by
      rw [UInt64.toNat_toUInt32, UInt64.toNat_mod]
      exact Nat.lt_of_le_of_lt (Nat.mod_le _ _) (Nat.mod_lt _ (by decide)) }

/-- A span taken several times, or the longest span if it would be longer than that. -/
def saturatingMul (d : Duration) (n : UInt32) : Duration := (d.mul? n).getD greatest

/-- Whether a span is at most as long as another. -/
def atMost (d e : Duration) : Bool :=
  d.seconds < e.seconds || d.seconds == e.seconds && d.nanos ≤ e.nanos

/-- The shorter of two spans. -/
def shorter (d e : Duration) : Duration := if d.atMost e then d else e

theorem atMost_iff {d e : Duration} : d.atMost e ↔ d.toNanos ≤ e.toNanos := by
  have := d.nanos_lt
  have := e.nanos_lt
  simp only [atMost, toNanos, Bool.or_eq_true, Bool.and_eq_true, decide_eq_true_eq, beq_iff_eq,
    UInt64.lt_iff_toNat_lt, UInt32.le_iff_toNat_le, ← UInt64.toNat_inj]
  omega

theorem toNanos_shorter (d e : Duration) : (d.shorter e).toNanos = min d.toNanos e.toNanos := by
  unfold shorter
  split
  · next h => rw [Nat.min_eq_left (atMost_iff.1 h)]
  · next h =>
    rw [atMost_iff] at h
    rw [Nat.min_eq_right (by omega)]

/-- The nanoseconds of a span that is taken several times fit in a word. -/
theorem toNat_nanosTimes (d : Duration) (n : UInt32) :
    (d.nanosTimes n).toNat = d.nanos.toNat * n.toNat := by
  have hlt : d.nanos.toNat * n.toNat < 1000000000 * 2 ^ 32 :=
    Nat.mul_lt_mul_of_lt_of_lt d.nanos_lt n.toNat_lt
  rw [nanosTimes, UInt64.toNat_mul, UInt32.toNat_toUInt64, UInt32.toNat_toUInt64,
    Nat.mod_eq_of_lt (by omega)]

theorem mul?_eq_some_iff_parts {d e : Duration} {n : UInt32} :
    d.mul? n = some e ↔
      e.seconds.toNat = d.seconds.toNat * n.toNat + d.nanos.toNat * n.toNat / 1000000000 ∧
      e.nanos.toNat = d.nanos.toNat * n.toNat % 1000000000 := by
  have carried : (d.nanosTimes n / 1000000000).toNat = d.nanos.toNat * n.toNat / 1000000000 := by
    rw [UInt64.toNat_div, toNat_nanosTimes]
    rfl
  have left : (d.nanosTimes n % 1000000000).toUInt32.toNat =
      d.nanos.toNat * n.toNat % 1000000000 := by
    have hlt : d.nanos.toNat * n.toNat % 1000000000 < 1000000000 := Nat.mod_lt _ (by decide)
    rw [UInt64.toNat_toUInt32, UInt64.toNat_mod, toNat_nanosTimes]
    exact Nat.mod_eq_of_lt (Nat.lt_trans hlt (by decide))
  simp only [mul?, Option.bind_eq_bind, Option.bind_eq_some_iff, Word.mul?_eq_some_iff,
    Word.add?_eq_some_iff, carried, UInt32.toNat_toUInt64, Option.pure_def, Option.some.injEq]
  constructor
  · rintro ⟨product, hproduct, sum, hsum, rfl⟩
    exact ⟨by rw [hsum, hproduct], left⟩
  · rintro ⟨hseconds, hnanos⟩
    -- the product is a word, since the sum is one
    have hlt : d.seconds.toNat * n.toNat < UInt64.size := by
      have := e.seconds.toNat_lt_size
      omega
    have hproduct := UInt64.toNat_ofNat_of_lt' hlt
    refine ⟨.ofNat (d.seconds.toNat * n.toNat), hproduct, e.seconds, by rw [hseconds, hproduct], ?_⟩
    obtain ⟨seconds, nanos, hnanos_lt⟩ := e
    congr 1
    exact UInt32.toNat_inj.1 (left.trans hnanos.symm)

/-- **A span is multiplied exactly, or not at all** if the result is not a span. -/
theorem mul?_eq_some_iff {d e : Duration} {n : UInt32} :
    d.mul? n = some e ↔ e.toNanos = d.toNanos * n.toNat := by
  have hnanos := e.nanos_lt
  rw [mul?_eq_some_iff_parts, toNanos, toNanos, Nat.add_mul, Nat.mul_right_comm]
  omega

/-- Every number of nanoseconds that is not too great is that of a span. -/
theorem exists_toNanos_eq {m : Nat} (h : m < UInt64.size * 1000000000) :
    ∃ d : Duration, d.toNanos = m := by
  have hseconds : (UInt64.ofNat (m / 1000000000)).toNat = m / 1000000000 :=
    UInt64.toNat_ofNat_of_lt' (Nat.div_lt_of_lt_mul (by omega))
  have hlt : m % 1000000000 < 1000000000 := Nat.mod_lt _ (by decide)
  have hnanos : (UInt32.ofNat (m % 1000000000)).toNat = m % 1000000000 :=
    UInt32.toNat_ofNat_of_lt' (Nat.lt_trans hlt (by decide))
  refine ⟨{ seconds := .ofNat (m / 1000000000), nanos := .ofNat (m % 1000000000)
            nanos_lt := by rw [hnanos]; exact hlt }, ?_⟩
  rw [toNanos, hseconds, hnanos]
  exact Nat.div_add_mod' m 1000000000

end Duration

/-! ## The pause -/

/-- A word shifted to the left, unless it is shifted by more places than it has. -/
def shiftLeft? (a places : UInt32) : Option UInt32 :=
  if places < 32 then some (a <<< places) else none

namespace Backoff

/-- The shortest pause, as a span of time. -/
def shortestSpan : Duration := { seconds := 0, nanos := 10000000 }

/-- The longest pause, as a span of time. -/
def longestSpan : Duration := { seconds := 1, nanos := 0 }

/-- The pause after the given number of failures in a row, reckoned as a span of time. -/
def span? (failures : UInt32) : Option Duration := do
  let factor ← shiftLeft? 1 (doublings failures)
  return (shortestSpan.saturatingMul factor).shorter longestSpan

/-- **Nothing is cut off when a pause is reckoned**: it is never shifted out of its word, the
product is a span, and the shorter span is the pause in milliseconds. -/
theorem exists_span?_eq (failures : UInt32) :
    ∃ (factor : UInt32) (product span : Duration),
      shiftLeft? 1 (doublings failures) = some factor ∧
      factor.toNat = 2 ^ min (failures.toNat - 1) 16 ∧
      shortestSpan.mul? factor = some product ∧
      product.toNanos = 10 * factor.toNat * 1000000 ∧
      span? failures = some span ∧ span.toNanos = pause failures * 1000000 := by
  have hfactor := toNat_doublingFactor failures
  have factor_le := two_pow_doublings_le failures
  have hshift : shiftLeft? 1 (doublings failures) = some (1 <<< doublings failures) := by
    refine if_pos (UInt32.lt_iff_toNat_lt.2 ?_)
    have : UInt32.toNat 32 = 32 := rfl
    rw [toNat_doublings]
    omega
  have hsize : UInt64.size = 18446744073709551616 := rfl
  obtain ⟨product, hproduct⟩ := Duration.exists_toNanos_eq
    (m := 10000000 * ((1 : UInt32) <<< doublings failures).toNat) (by omega)
  have hmul : shortestSpan.mul? (1 <<< doublings failures) = some product :=
    Duration.mul?_eq_some_iff.2 hproduct
  refine ⟨1 <<< doublings failures, product, product.shorter longestSpan, hshift, hfactor, hmul,
    by omega, ?_, ?_⟩
  · rw [span?, hshift, Option.bind_eq_bind, Option.bind_some, Duration.saturatingMul, hmul]
    rfl
  · have hlongest : longestSpan.toNanos = 1000000000 := rfl
    rw [Duration.toNanos_shorter, hlongest, pause, shortest, longest]
    omega

/-- **Pauses are exact.** After every number of failures in a row, the pause is ten milliseconds
doubled for each failure but the first, or a second if that is less, in exact numbers; and it is
reckoned in words and spans of time without anything being cut off. So it never gets shorter from
one failure to the next, and as long as the count goes on it doubles up to a second. -/
theorem pauses_are_exact :
    (∀ failures : UInt32,
      pause failures = min (10 * 2 ^ (max failures.toNat 1 - 1)) 1000 ∧
      10 ≤ pause failures ∧ pause failures ≤ 1000 ∧
      ∃ (factor : UInt32) (product span : Duration),
        shiftLeft? 1 (doublings failures) = some factor ∧
        factor.toNat = 2 ^ min (failures.toNat - 1) 16 ∧
        shortestSpan.mul? factor = some product ∧
        product.toNanos = 10 * factor.toNat * 1000000 ∧
        span? failures = some span ∧ span.toNanos = pause failures * 1000000) ∧
    (∀ failures failures' : UInt32, failures ≤ failures' → pause failures ≤ pause failures') ∧
    ∀ failures : UInt32, 1 ≤ failures → failures < 0xffffffff →
      pause (failures + 1) = min (2 * pause failures) 1000 := by
  refine ⟨fun failures => ?_, fun failures failures' hle => ?_, fun failures hpos hlt => ?_⟩
  · have hpow : 0 < 2 ^ (failures.toNat - 1) := Nat.two_pow_pos _
    have hmax : max failures.toNat 1 - 1 = failures.toNat - 1 := by omega
    have hpause := pause_eq failures
    refine ⟨by rw [hmax, hpause], by omega, by omega, exists_span?_eq failures⟩
  · have hpow : 2 ^ (failures.toNat - 1) ≤ 2 ^ (failures'.toNat - 1) :=
      Nat.pow_le_pow_right (by decide) (Nat.sub_le_sub_right (UInt32.le_iff_toNat_le.1 hle) 1)
    rw [pause_eq, pause_eq]
    omega
  · have hpos : 1 ≤ failures.toNat := UInt32.le_iff_toNat_le.1 hpos
    have hlt : failures.toNat < 4294967295 := UInt32.lt_iff_toNat_lt.1 hlt
    have hnext : (failures + 1).toNat = failures.toNat + 1 := by
      rw [UInt32.toNat_add, UInt32.toNat_one, Nat.mod_eq_of_lt (by omega)]
    have hpow : 2 ^ failures.toNat = 2 * 2 ^ (failures.toNat - 1) := by
      rw [← Nat.pow_succ', Nat.succ_eq_add_one, Nat.sub_add_cancel hpos]
    rw [pause_eq, pause_eq, hnext, Nat.add_sub_cancel, hpow]
    omega

theorem pauses_are_exact_of_seventh_failure :
    (7 : UInt32) ≤ 0xffffffff ∧ pause 7 ≤ pause 0xffffffff ∧
    (1 : UInt32) ≤ 7 ∧ (7 : UInt32) < 0xffffffff ∧ pause (7 + 1) = min (2 * pause 7) 1000 ∧
    pause 7 = 640 := by
  obtain ⟨hvalue, hmono, hnext⟩ := pauses_are_exact
  have hle : (7 : UInt32) ≤ 0xffffffff := by decide
  have hpos : (1 : UInt32) ≤ 7 := by decide
  have hlt : (7 : UInt32) < 0xffffffff := by decide
  exact ⟨hle, hmono _ _ hle, hpos, hlt, hnext 7 hpos hlt, (hvalue 7).1⟩

end Backoff

end TwinServers
