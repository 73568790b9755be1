import Mathlib.Algebra.BigOperators.Group.Finset.Basic
import TwinServers.Error

/-!
# Pauses in plain numbers

The pause after a failed accept is reckoned in 32-bit words, with an exponent that stops at 16.
`pause_eq` says that nothing of this shows: the pause is `10 * 2 ^ (n - 1)` milliseconds or a
second, whichever is less. Nor does it show that the count of failures stops at its greatest value
(`min_pause_of_count`). The pauses of a streak add up as a geometric sum until the longest pause is
reached (`sum_pauses_short`), and evenly from there on (`sum_pauses_long`).
-/

namespace TwinServers.Backoff

open Finset

/-! ## Words -/

theorem toNat_doublings (failures : UInt32) :
    (doublings failures).toNat = min (failures.toNat - 1) 16 := by
  have hcount : (if failures = 0 then 0 else failures - 1).toNat = failures.toNat - 1 := by
    split
    · next h => rw [h]; rfl
    · next h =>
      have hpos : failures.toNat ≠ 0 := fun h' => h (UInt32.toNat_inj.1 h')
      have hle : (1 : UInt32) ≤ failures := by
        rw [UInt32.le_iff_toNat_le, UInt32.toNat_one]
        omega
      rw [UInt32.toNat_sub_of_le _ _ hle, UInt32.toNat_one]
  rw [doublings, UInt32.toNat_min, hcount]
  rfl

theorem toNat_countFailure (failures : UInt32) :
    (countFailure failures).toNat = min (failures.toNat + 1) (2 ^ 32 - 1) := by
  have hlt := failures.toNat_lt
  unfold countFailure
  split
  · next h => rw [h]; rfl
  · next h =>
    have hne : failures.toNat ≠ 2 ^ 32 - 1 := fun h' => h (UInt32.toNat_inj.1 h')
    rw [UInt32.toNat_add, UInt32.toNat_one]
    omega

theorem two_pow_doublings_le (failures : UInt32) :
    2 ^ min (failures.toNat - 1) 16 ≤ 2 ^ 16 :=
  Nat.pow_le_pow_right (by decide) (Nat.min_le_right ..)

theorem toNat_doublingFactor (failures : UInt32) :
    ((1 : UInt32) <<< doublings failures).toNat = 2 ^ min (failures.toNat - 1) 16 := by
  have hle := two_pow_doublings_le failures
  have hshift : min (failures.toNat - 1) 16 % 32 = min (failures.toNat - 1) 16 := by omega
  rw [UInt32.toNat_shiftLeft, toNat_doublings, hshift, UInt32.toNat_one, Nat.shiftLeft_eq,
    Nat.one_mul, Nat.mod_eq_of_lt (by omega)]

/-! ## One pause -/

/-- **The pause doubles from ten milliseconds up to a second**, in exact numbers. -/
theorem pause_eq (failures : UInt32) :
    pause failures = min (10 * 2 ^ (failures.toNat - 1)) 1000 := by
  rw [pause, toNat_doublingFactor, shortest, longest]
  obtain hle | hge := Nat.le_total (failures.toNat - 1) 16
  · rw [Nat.min_eq_left hle]
  · -- both powers are past the longest pause
    have hpast : 2 ^ 16 ≤ 2 ^ (failures.toNat - 1) := Nat.pow_le_pow_right (by omega) hge
    rw [Nat.min_eq_right hge]
    omega

/-- The count of failures stops at its greatest value only when the pause has long reached its
own. -/
theorem min_pause_of_count (n : Nat) :
    min (10 * 2 ^ (min n (2 ^ 32 - 1) - 1)) 1000 = min (10 * 2 ^ (n - 1)) 1000 := by
  have reached : ∀ m : Nat, 7 ≤ m → min (10 * 2 ^ m) 1000 = 1000 := by
    intro m hm
    have hle : 2 ^ 7 ≤ 2 ^ m := Nat.pow_le_pow_right (by omega) hm
    omega
  obtain hle | hge := Nat.le_total n (2 ^ 32 - 1)
  · rw [Nat.min_eq_left hle]
  · rw [Nat.min_eq_right hge, reached _ (by omega), reached _ (by omega)]

/-! ## The pauses of a streak -/

theorem sum_pauses_short {n : Nat} (h : n ≤ 7) :
    ∑ k ∈ range n, min (10 * 2 ^ k) 1000 = 10 * (2 ^ n - 1) := by
  induction n with
  | zero => rfl
  | succ n ih =>
    have hle : 2 ^ n ≤ 2 ^ 6 := Nat.pow_le_pow_right (by omega) (by omega)
    have hpos : 0 < 2 ^ n := Nat.two_pow_pos n
    rw [sum_range_succ, ih (by omega), Nat.pow_succ]
    omega

theorem sum_pauses_long {n : Nat} (h : 7 ≤ n) :
    ∑ k ∈ range n, min (10 * 2 ^ k) 1000 = 1270 + 1000 * (n - 7) := by
  induction n, h using Nat.le_induction with
  | base => exact sum_pauses_short (Nat.le_refl 7)
  | succ n h ih =>
    have hle : 2 ^ 7 ≤ 2 ^ n := Nat.pow_le_pow_right (by omega) h
    rw [sum_range_succ, ih]
    omega

end TwinServers.Backoff
