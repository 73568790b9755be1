import Mathlib.Algebra.Order.BigOperators.Group.Finset
import TwinServers.Proofs.AcceptLoop.Runs

/-!
# The pace of the accept loop

On a clock on which only pauses take time, an attempt is logged when the pauses of all failures
before it are over: `timeOf_run`. In a streak these pauses are the first terms of a fixed sequence
(`pauseAfter_streak`), so its attempts come at fixed distances from its first (`timeOf_streak`). A
connection ends the streak, and what is logged after it is what a server logs that has just started,
later by the time of the connection: `drop_run_of_client`.
-/

namespace TwinServers.AcceptLoop

open Finset

/-- When a log has the entry of an attempt. The first entry of a log is that of the start. -/
def timeOf (log : List TimedEntry) (i : Nat) : Nat := (log.map TimedEntry.time).getD (i + 1) 0

variable {delivery : Delivery} {address : SocketAddress} {script : List Accept}

/-! ## The pauses of a script -/

theorem pauseAfter_of_client {i : Nat} {client : IpAddress}
    (h : script[i]? = some (.client client)) : pauseAfter (script.take (i + 1)) = 0 := by
  rw [List.take_add_one, h]
  exact if_pos (streak_concat_client ..)

theorem pauseAfter_of_failure {i : Nat} {e : IoError} (h : script[i]? = some (.failure e)) :
    10 ≤ pauseAfter (script.take (i + 1)) ∧ pauseAfter (script.take (i + 1)) ≤ 1000 := by
  have hpow : 0 < 2 ^ streak (script.take i) := Nat.two_pow_pos _
  rw [List.take_add_one, h]
  simp only [pauseAfter, Option.toList_some, streak_concat_failure]
  rw [if_neg (Nat.succ_ne_zero _), Nat.add_sub_cancel]
  omega

/-- The pauses of a streak do not depend on what was before it. -/
theorem pauseAfter_streak {before failures later : List Accept} (hbefore : streak before = 0)
    (hall : ∀ a ∈ failures, a.failed) {k : Nat} (hk : k < failures.length) :
    pauseAfter ((before ++ failures ++ later).take (before.length + k + 1)) =
      min (10 * 2 ^ k) 1000 := by
  have htake : (before ++ failures ++ later).take (before.length + k + 1) =
      before ++ failures.take (k + 1) := by
    rw [List.append_assoc, Nat.add_assoc, List.take_length_add_append,
      List.take_append_of_le_length hk]
  have hstreak : streak (before ++ failures.take (k + 1)) = k + 1 := by
    rw [streak_append fun a ha => hall a (List.mem_of_mem_take ha), hbefore, Nat.zero_add,
      List.length_take_of_le hk]
  rw [htake, pauseAfter, hstreak, if_neg (Nat.succ_ne_zero k), Nat.add_sub_cancel]

/-! ## The times of a log -/

theorem timeOf_run_eq_clock {i : Nat} (h : i < script.length) :
    timeOf (run delivery address script) i = (after address {} (script.take i)).clock := by
  rw [timeOf, List.getD_eq_getElem?_getD, List.getElem?_map, getElem?_run,
    List.getElem?_eq_getElem h]
  rfl

/-- **An attempt is logged when all pauses before it are over.** -/
theorem timeOf_run {i : Nat} (h : i < script.length) :
    timeOf (run delivery address script) i = ∑ k ∈ range i, pauseAfter (script.take (k + 1)) := by
  rw [timeOf_run_eq_clock h, clock_after, List.length_take_of_le (Nat.le_of_lt h)]
  refine sum_congr rfl fun k hk => ?_
  rw [List.take_take, Nat.min_eq_left (mem_range.1 hk)]

theorem timeOf_succ {i : Nat} (h : i + 1 < script.length) :
    timeOf (run delivery address script) (i + 1) =
      timeOf (run delivery address script) i + pauseAfter (script.take (i + 1)) := by
  rw [timeOf_run h, timeOf_run (Nat.lt_of_succ_lt h), sum_range_succ]

theorem timeOf_succ_of_client {i : Nat} {client : IpAddress}
    (hi : script[i]? = some (.client client)) (h : i + 1 < script.length) :
    timeOf (run delivery address script) (i + 1) = timeOf (run delivery address script) i := by
  rw [timeOf_succ h, pauseAfter_of_client hi, Nat.add_zero]

theorem timeOf_succ_of_failure {i : Nat} {e : IoError} (hi : script[i]? = some (.failure e))
    (h : i + 1 < script.length) :
    timeOf (run delivery address script) i + 10 ≤ timeOf (run delivery address script) (i + 1) ∧
      timeOf (run delivery address script) (i + 1) ≤
        timeOf (run delivery address script) i + 1000 := by
  have hpause := pauseAfter_of_failure hi
  rw [timeOf_succ h]
  omega

theorem timeOf_le {i k : Nat} (hik : i ≤ k) (h : k < script.length) :
    timeOf (run delivery address script) i ≤ timeOf (run delivery address script) k := by
  rw [timeOf_run h, timeOf_run (Nat.lt_of_le_of_lt hik h)]
  exact sum_le_sum_of_subset (range_mono hik)

/-- Nothing is logged sooner than ten milliseconds after a failure. -/
theorem timeOf_add_le_of_failure {i k : Nat} {e : IoError} (hi : script[i]? = some (.failure e))
    (hik : i < k) (h : k < script.length) :
    timeOf (run delivery address script) i + 10 ≤ timeOf (run delivery address script) k :=
  (timeOf_succ_of_failure hi (Nat.lt_of_le_of_lt hik h)).1.trans (timeOf_le hik h)

/-! ## Streaks -/

section Streak

variable {before failures later : List Accept} {j : Nat}

/-- The attempts of a streak come at fixed distances from its first. -/
theorem timeOf_streak (hbefore : streak before = 0) (hall : ∀ a ∈ failures, a.failed)
    (hpos : 1 ≤ j) (hj : j ≤ failures.length) :
    timeOf (run delivery address (before ++ failures ++ later)) (before.length + (j - 1)) =
      timeOf (run delivery address (before ++ failures ++ later)) before.length +
        ∑ k ∈ range (j - 1), min (10 * 2 ^ k) 1000 := by
  have hlength : (before ++ failures ++ later).length =
      before.length + failures.length + later.length := by
    rw [List.length_append, List.length_append]
  rw [timeOf_run (by omega), timeOf_run (by omega), sum_range_add]
  congr 1
  refine sum_congr rfl fun k hk => ?_
  have hk : k < j - 1 := mem_range.1 hk
  exact pauseAfter_streak hbefore hall (by omega)

theorem timeOf_streak_short (hbefore : streak before = 0) (hall : ∀ a ∈ failures, a.failed)
    (hpos : 1 ≤ j) (hj : j ≤ failures.length) (hshort : j ≤ 8) :
    timeOf (run delivery address (before ++ failures ++ later)) (before.length + (j - 1)) =
      timeOf (run delivery address (before ++ failures ++ later)) before.length +
        10 * (2 ^ (j - 1) - 1) := by
  rw [timeOf_streak hbefore hall hpos hj, Backoff.sum_pauses_short (by omega)]

theorem timeOf_streak_long (hbefore : streak before = 0) (hall : ∀ a ∈ failures, a.failed)
    (hlong : 8 ≤ j) (hj : j ≤ failures.length) :
    timeOf (run delivery address (before ++ failures ++ later)) (before.length + (j - 1)) =
      timeOf (run delivery address (before ++ failures ++ later)) before.length +
        (1270 + 1000 * (j - 8)) := by
  rw [timeOf_streak hbefore hall (by omega) hj, Backoff.sum_pauses_long (by omega), Nat.sub_sub]

end Streak

/-! ## Starting over -/

/-- Later by some time, a server does the same. -/
theorem events_later (address : SocketAddress) (t : Nat) (s : AcceptLoop) (script : List Accept) :
    events address { s with clock := t + s.clock } script =
      (events address s script).map fun (time, event) => (t + time, event) := by
  induction script generalizing s with
  | nil => rfl
  | cons a script ih =>
    have hstep : ({ s with clock := t + s.clock } : AcceptLoop).step address a =
        ((s.step address a).1,
          { (s.step address a).2 with clock := t + (s.step address a).2.clock }) := by
      cases a with
      | client client => rfl
      | failure e => simp only [step, Nat.add_assoc]
    rw [events, events, hstep, List.map_cons, ← ih]

/-- **After a connection a server goes on as if it had just started.** -/
theorem drop_run_of_client (before later : List Accept) (client : IpAddress) :
    (run delivery address (before ++ .client client :: later)).drop (before.length + 2) =
      ((run delivery address later).drop 1).map fun e =>
        { e with time := (after address {} before).clock + e.time } := by
  have hstart : after address {} (before ++ [.client client]) =
      { clock := (after address {} before).clock + 0 } := by
    rw [after_concat]
    rfl
  have hlength : (events address {} (before ++ [.client client])).length = before.length + 1 := by
    rw [length_events, List.length_append, List.length_singleton]
  rw [List.append_cons, run, ← List.map_drop, List.drop_succ_cons, events_append,
    List.drop_left' hlength, hstart, events_later address _ {} later, run, ← List.map_drop,
    List.drop_succ_cons, List.drop_zero, List.map_map, List.map_map]
  rfl

/-! ## Runs -/

/-- **The pace of a server**: each entry of the log comes when the pauses of all failures before it
are over, so the failures of a streak come at fixed times after its first, which double up to the
eighth failure and then go on evenly; failures are never closer than ten milliseconds; the next
attempt comes between ten milliseconds and a second after a failure, and at once after a connection;
and after a connection the server goes on as if it had just started. -/
theorem attempts_are_paced (delivery : Delivery) (address : SocketAddress) (script : List Accept) :
    let log := run delivery address script
    (log.length = script.length + 1 ∧ log.head?.map TimedEntry.time = some 0 ∧
      ∀ i < script.length, timeOf log i = ∑ k ∈ range i, pauseAfter (script.take (k + 1))) ∧
    (∀ before failures later, script = before ++ failures ++ later → streak before = 0 →
      (∀ a ∈ failures, a.failed) → ∀ j, 1 ≤ j → j ≤ failures.length →
        (j ≤ 8 → timeOf log (before.length + (j - 1)) =
          timeOf log before.length + 10 * (2 ^ (j - 1) - 1)) ∧
        (8 ≤ j → timeOf log (before.length + (j - 1)) =
          timeOf log before.length + (1270 + 1000 * (j - 8)))) ∧
    (∀ i k e e', i < k → script[i]? = some (.failure e) → script[k]? = some (.failure e') →
      timeOf log i + 10 ≤ timeOf log k) ∧
    (∀ i e, script[i]? = some (.failure e) → i + 1 < script.length →
      timeOf log i + 10 ≤ timeOf log (i + 1) ∧ timeOf log (i + 1) ≤ timeOf log i + 1000) ∧
    (∀ i client, script[i]? = some (.client client) → i + 1 < script.length →
      timeOf log (i + 1) = timeOf log i) ∧
    ∀ before client later, script = before ++ .client client :: later →
      log.drop (before.length + 2) = ((run delivery address later).drop 1).map fun e =>
        { e with time := timeOf log before.length + e.time } := by
  refine ⟨⟨length_run .., rfl, fun i hi => timeOf_run hi⟩, ?_, ?_, ?_, ?_, ?_⟩
  · rintro before failures later rfl hbefore hall j hpos hj
    exact ⟨timeOf_streak_short hbefore hall hpos hj,
      fun hlong => timeOf_streak_long hbefore hall hlong hj⟩
  · intro i k e e' hik hi hk
    exact timeOf_add_le_of_failure hi hik (List.getElem?_eq_some_iff.1 hk).1
  · intro i e hi hlt
    exact timeOf_succ_of_failure hi hlt
  · intro i client hi hlt
    exact timeOf_succ_of_client hi hlt
  · rintro before client later rfl
    rw [timeOf_run_eq_clock (by simp), List.take_left]
    exact drop_run_of_client ..

/-- Nine failures and a connection between two of them. -/
theorem attempts_are_paced_of_long_streak :
    let failures : List Accept := List.replicate 9 (.failure (.os 24))
    let script : List Accept := .failure (.os 4) :: .client (.v4 .localhost) :: failures
    let log := run .chunked (.v4 .localhost 9000) script
    streak [.failure (.os 4), .client (.v4 .localhost)] = 0 ∧
    timeOf log 10 = timeOf log 2 + 2270 ∧ timeOf log 0 + 10 ≤ timeOf log 2 ∧
    timeOf log 2 = timeOf log 1 := by
  intro failures script log
  obtain ⟨-, hstreak, hfailures, -, hclient, -⟩ :=
    attempts_are_paced .chunked (.v4 .localhost 9000) script
  refine ⟨rfl, ?_, hfailures 0 2 (.os 4) (.os 24) (by decide) rfl rfl,
    hclient 1 (.v4 .localhost) rfl (by decide)⟩
  exact (hstreak [.failure (.os 4), .client (.v4 .localhost)] failures [] rfl rfl (by decide) 9
    (by decide) (by decide)).2 (by decide)

end TwinServers.AcceptLoop
