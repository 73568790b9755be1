import TwinServers.AcceptLoop
import TwinServers.Proofs.Backoff

/-!
# Runs of the accept loop

The loop carries two numbers from one attempt to the next, and both follow from the attempts made so
far: the count of failures is the length of the streak that they end with, as far as a word can tell
(`toNat_failures_after`), and the clock is the sum of the pauses after them (`clock_after`). So each
entry of the log is a function of the attempts up to its own: `getElem?_run`.
-/

namespace TwinServers

/-- Whether an attempt failed. -/
def Accept.failed : Accept → Bool
  | .client _ => false
  | .failure _ => true

namespace AcceptLoop

open Finset

/-! ## Streaks -/

/-- The number of failures in a row that the attempts end with. -/
def streak (attempts : List Accept) : Nat := (attempts.reverse.takeWhile Accept.failed).length

@[simp] theorem streak_nil : streak [] = 0 := rfl

@[simp] theorem streak_concat_client (attempts : List Accept) (client : IpAddress) :
    streak (attempts ++ [.client client]) = 0 := by
  simp [streak, Accept.failed]

@[simp] theorem streak_concat_failure (attempts : List Accept) (e : IoError) :
    streak (attempts ++ [.failure e]) = streak attempts + 1 := by
  simp [streak, List.takeWhile_cons, Accept.failed]

/-- Failures lengthen the streak that is there. -/
theorem streak_append {before failures : List Accept} (h : ∀ a ∈ failures, a.failed) :
    streak (before ++ failures) = streak before + failures.length := by
  rw [streak, List.reverse_append, List.takeWhile_append_of_pos (by simpa using h),
    List.length_append, List.length_reverse, Nat.add_comm, ← streak]

/-- The pause that the last of the attempts is followed by, in milliseconds: none if it brought a
client. -/
def pauseAfter (attempts : List Accept) : Nat :=
  if streak attempts = 0 then 0 else min (10 * 2 ^ (streak attempts - 1)) 1000

/-! ## The state of the loop -/

/-- Where a server stands after a list of attempts. -/
def after (address : SocketAddress) (s : AcceptLoop) (attempts : List Accept) : AcceptLoop :=
  attempts.foldl (fun s a => (s.step address a).2) s

variable (address : SocketAddress)

theorem after_concat (s : AcceptLoop) (attempts : List Accept) (a : Accept) :
    after address s (attempts ++ [a]) = ((after address s attempts).step address a).2 :=
  List.foldl_concat ..

/-- **The loop counts the streak it is in.** -/
theorem toNat_failures_after (attempts : List Accept) :
    (after address {} attempts).failures.toNat = min (streak attempts) (2 ^ 32 - 1) := by
  induction attempts using List.reverseRecOn with
  | nil => rfl
  | append_singleton attempts a ih =>
    rw [after_concat]
    cases a with
    | client client => simp [step]
    | failure e =>
      rw [streak_concat_failure, step, Backoff.toNat_countFailure, ih]
      omega

/-- The pause that a failure is followed by, when the loop has counted it. -/
theorem pause_countFailure_after (attempts : List Accept) :
    Backoff.pause (Backoff.countFailure (after address {} attempts).failures) =
      min (10 * 2 ^ streak attempts) 1000 := by
  have hcount : (Backoff.countFailure (after address {} attempts).failures).toNat =
      min (streak attempts + 1) (2 ^ 32 - 1) := by
    rw [Backoff.toNat_countFailure, toNat_failures_after]
    omega
  rw [Backoff.pause_eq, hcount, Backoff.min_pause_of_count, Nat.add_sub_cancel]

/-- **The clock shows the pauses so far**, and nothing else. -/
theorem clock_after (attempts : List Accept) :
    (after address {} attempts).clock =
      ∑ k ∈ range attempts.length, pauseAfter (attempts.take (k + 1)) := by
  induction attempts using List.reverseRecOn with
  | nil => rfl
  | append_singleton attempts a ih =>
    have earlier : ∑ k ∈ range attempts.length, pauseAfter ((attempts ++ [a]).take (k + 1)) =
        ∑ k ∈ range attempts.length, pauseAfter (attempts.take (k + 1)) := by
      refine sum_congr rfl fun k hk => ?_
      rw [List.take_append_of_le_length (by rw [mem_range] at hk; omega)]
    have last : (attempts ++ [a]).take (attempts.length + 1) = attempts ++ [a] :=
      List.take_of_length_le (by simp)
    rw [after_concat, List.length_append, List.length_singleton, sum_range_succ, earlier, ← ih,
      last]
    cases a with
    | client client => simp [step, pauseAfter]
    | failure e => simp [step, pauseAfter, pause_countFailure_after]

/-! ## The log -/

theorem getElem?_events (s : AcceptLoop) (script : List Accept) (i : Nat) :
    (events address s script)[i]? = script[i]?.map fun a =>
      ((after address s (script.take i)).clock,
        ((after address s (script.take i)).step address a).1) := by
  induction script generalizing s i with
  | nil => rfl
  | cons a script ih =>
    cases i with
    | zero => rfl
    | succ i => exact ih _ i

/-- An entry of the log follows from its attempt and those before it. -/
theorem getElem?_run (delivery : Delivery) (script : List Accept) (i : Nat) :
    (run delivery address script)[i + 1]? = script[i]?.map fun a =>
      { time := (after address {} (script.take i)).clock
        entry :=
          { event := ((after address {} (script.take i)).step address a).1
            spans := [.server delivery address] } } := by
  rw [run, List.map_cons, List.getElem?_cons_succ, List.getElem?_map, getElem?_events,
    Option.map_map]
  rfl

theorem length_events (s : AcceptLoop) (script : List Accept) :
    (events address s script).length = script.length := by
  induction script generalizing s with
  | nil => rfl
  | cons a script ih => rw [events, List.length_cons, ih, List.length_cons]

theorem length_run (delivery : Delivery) (script : List Accept) :
    (run delivery address script).length = script.length + 1 := by
  rw [run, List.length_map, List.length_cons, length_events]

theorem events_append (s : AcceptLoop) (script script' : List Accept) :
    events address s (script ++ script') =
      events address s script ++ events address (after address s script) script' := by
  induction script generalizing s with
  | nil => rfl
  | cons a script ih => exact congrArg (_ :: ·) (ih _)

end AcceptLoop

end TwinServers
