import TwinServers.Proofs.AcceptLoop.Runs

/-!
# What is logged of a streak

Every attempt to accept is logged, in the order of the attempts. A failure is logged with its place
in its streak, which the count of the loop gives (`event_of_failure`), and with the pause that
follows from this place. The first of a streak is a warning and no other is, however long the streak
may be: `countP_isWarning_events`. `every_attempt_is_logged` says all this of the log of a run.
-/

namespace TwinServers.AcceptLoop

/-- Whether an event is a warning. -/
def isWarning (e : Event) : Bool := e.level == .warn

variable {address : SocketAddress}

/-! ## One failure -/

/-- The event of the `j`th failure of a streak at an address: the count is `j` as far as a word can
hold it. -/
def failureEvent (address : SocketAddress) (e : IoError) (j : Nat) : Event :=
  .acceptFailed (.accept address e) (.ofNat (min j (2 ^ 32 - 1))) (min (10 * 2 ^ (j - 1)) 1000)

theorem toNat_ofNat_min (j : Nat) :
    (UInt32.ofNat (min j (2 ^ 32 - 1))).toNat = min j (2 ^ 32 - 1) :=
  UInt32.toNat_ofNat_of_lt' (Nat.lt_of_le_of_lt (Nat.min_le_right ..) (by decide))

theorem ofNat_min_eq_one_iff (j : Nat) : UInt32.ofNat (min j (2 ^ 32 - 1)) = 1 ↔ j = 1 := by
  rw [← UInt32.toNat_inj, toNat_ofNat_min, UInt32.toNat_one]
  omega

theorem level_failureEvent (e : IoError) (j : Nat) :
    (failureEvent address e j).level = if j = 1 then .warn else .debug := by
  simp only [failureEvent, Event.level, ofNat_min_eq_one_iff]

theorem fields_failureEvent (e : IoError) (j : Nat) (style : AddressStyle) :
    (failureEvent address e j).fields style =
      ("error", Value.text ("Failed to accept on " ++ style.server address ++ ": " ++ e.text)) ::
        (if j = 1 then [] else [("failures", Value.number (min j (2 ^ 32 - 1)))]) ++
        [("backoff", Value.text (Backoff.text (min (10 * 2 ^ (j - 1)) 1000)))] := by
  simp only [failureEvent, Event.fields, ofNat_min_eq_one_iff, toNat_ofNat_min]
  rfl

/-- **The loop logs a failure with its place in its streak.** -/
theorem event_of_failure (attempts : List Accept) (e : IoError) :
    ((after address {} attempts).step address (.failure e)).1 =
      failureEvent address e (streak (attempts ++ [.failure e])) := by
  have hcount : Backoff.countFailure (after address {} attempts).failures =
      .ofNat (min (streak attempts + 1) (2 ^ 32 - 1)) := by
    rw [← UInt32.toNat_inj, Backoff.toNat_countFailure, toNat_failures_after, toNat_ofNat_min]
    omega
  rw [step, pause_countFailure_after, hcount, streak_concat_failure]
  rfl

/-! ## Warnings -/

theorem isWarning_step_failure (s : AcceptLoop) (e : IoError) :
    isWarning (s.step address (.failure e)).1 = decide (s.failures = 0) := by
  have hcount : Backoff.countFailure s.failures = 1 ↔ s.failures = 0 := by
    rw [← UInt32.toNat_inj, ← UInt32.toNat_inj, Backoff.toNat_countFailure, UInt32.toNat_one,
      UInt32.toNat_zero]
    omega
  rw [isWarning, step, Event.level]
  simp only [hcount]
  split <;> simp [*]

/-- Once a failure is counted, the failures that follow it are no warnings. -/
theorem countP_isWarning_events_of_counted {failures : List Accept}
    (hall : ∀ a ∈ failures, a.failed) {s : AcceptLoop} (hs : s.failures ≠ 0) :
    ((events address s failures).map Prod.snd).countP isWarning = 0 := by
  induction failures generalizing s with
  | nil => rfl
  | cons a failures ih =>
    cases a with
    | client client => exact absurd (hall _ List.mem_cons_self) (by simp [Accept.failed])
    | failure e =>
      have counted : Backoff.countFailure s.failures ≠ 0 := by
        rw [Ne, ← UInt32.toNat_inj, Backoff.toNat_countFailure, UInt32.toNat_zero]
        omega
      rw [events, List.map_cons, List.countP_cons_of_neg (by simp [isWarning_step_failure, hs])]
      exact ih (fun b hb => hall b (List.mem_cons_of_mem _ hb)) counted

/-- **A streak brings one warning.** -/
theorem countP_isWarning_events {failures : List Accept} (hne : failures ≠ [])
    (hall : ∀ a ∈ failures, a.failed) {s : AcceptLoop} (hs : s.failures = 0) :
    ((events address s failures).map Prod.snd).countP isWarning = 1 := by
  cases failures with
  | nil => exact absurd rfl hne
  | cons a failures =>
    cases a with
    | client client => exact absurd (hall _ List.mem_cons_self) (by simp [Accept.failed])
    | failure e =>
      have counted : Backoff.countFailure s.failures ≠ 0 := by
        rw [hs]
        decide
      rw [events, List.map_cons, List.countP_cons_of_pos (by simp [isWarning_step_failure, hs]),
        countP_isWarning_events_of_counted (fun b hb => hall b (List.mem_cons_of_mem _ hb)) counted]

/-- The part of the log that tells of a part of the script. -/
theorem events_of_run (delivery : Delivery) (before middle later : List Accept) :
    (((run delivery address (before ++ middle ++ later)).map fun e => e.entry.event).drop
        (before.length + 1)).take middle.length =
      (events address (after address {} before) middle).map Prod.snd := by
  have hbefore : before.length = (events address {} before).length := (length_events ..).symm
  have hmiddle : middle.length = (events address (after address {} before) middle).length :=
    (length_events ..).symm
  rw [run, List.map_map, List.append_assoc, events_append, events_append, ← List.map_drop,
    List.drop_succ_cons, List.drop_left' hbefore.symm, ← List.map_take,
    List.take_left' hmiddle.symm]
  rfl

/-! ## Runs -/

/-- **Every attempt is logged, in order**: after the first entry there is one for each attempt. A
failure is logged with the server's address, its error, and the pause that its place in the streak
gives; it is a warning if it is the first of its streak, and otherwise its entry shows the count,
which stops at the greatest 32-bit number. So a streak brings one warning, whatever its length. -/
theorem every_attempt_is_logged (delivery : Delivery) (address : SocketAddress)
    (script : List Accept) (style : AddressStyle) :
    let log := (run delivery address script).map TimedEntry.entry
    log.length = script.length + 1 ∧
    (∀ entry ∈ log, entry.spans = [.server delivery address]) ∧
    log.head?.map Entry.event = some .acceptingRequests ∧
    (∀ i client, script[i]? = some (.client client) →
      ∃ entry : Entry, log[i + 1]? = some entry ∧ entry.event = .acceptedConnection client ∧
        entry.event.level = .debug ∧ entry.event.message = "Accepted connection" ∧
        entry.event.fields style = [("peer", Value.text (style.client client))]) ∧
    (∀ i e, script[i]? = some (.failure e) →
      let j := streak (script.take (i + 1))
      1 ≤ j ∧ ∃ entry : Entry, log[i + 1]? = some entry ∧
        entry.event = .acceptFailed (.accept address e) (.ofNat (min j (2 ^ 32 - 1)))
          (min (10 * 2 ^ (j - 1)) 1000) ∧
        entry.event.level = (if j = 1 then .warn else .debug) ∧
        entry.event.message = "Accept failed" ∧
        entry.event.fields style =
          ("error",
            Value.text ("Failed to accept on " ++ style.server address ++ ": " ++ e.text)) ::
            (if j = 1 then [] else [("failures", Value.number (min j (2 ^ 32 - 1)))]) ++
            [("backoff", Value.text (Backoff.text (min (10 * 2 ^ (j - 1)) 1000)))]) ∧
    ∀ before failures later, script = before ++ failures ++ later → streak before = 0 →
      failures ≠ [] → (∀ a ∈ failures, a.failed) →
      (((log.map Entry.event).drop (before.length + 1)).take failures.length).countP isWarning =
        1 := by
  intro log
  refine ⟨?_, ?_, rfl, ?_, ?_, ?_⟩
  · rw [List.length_map, length_run]
  · intro entry hentry
    obtain ⟨timed, htimed, rfl⟩ := List.mem_map.1 hentry
    obtain ⟨_, _, rfl⟩ := List.mem_map.1 htimed
    rfl
  · intro i client hi
    have hentry : log[i + 1]? =
        some { event := .acceptedConnection client, spans := [.server delivery address] } := by
      rw [List.getElem?_map, getElem?_run, hi]
      rfl
    exact ⟨_, hentry, rfl, rfl, rfl, rfl⟩
  · intro i e hi
    have htake : script.take (i + 1) = script.take i ++ [.failure e] := by
      rw [List.take_add_one, hi]
      rfl
    have hentry : log[i + 1]? =
        some { event := failureEvent address e (streak (script.take (i + 1)))
               spans := [.server delivery address] } := by
      rw [htake, ← event_of_failure, List.getElem?_map, getElem?_run, hi]
      rfl
    refine ⟨?_, _, hentry, rfl, level_failureEvent .., rfl, fields_failureEvent ..⟩
    rw [htake, streak_concat_failure]
    exact Nat.le_add_left ..
  · rintro before failures later rfl hbefore hne hall
    have hstart : (after address {} before).failures = 0 := by
      rw [← UInt32.toNat_inj, toNat_failures_after, hbefore]
      rfl
    rw [List.map_map]
    exact (congrArg (List.countP isWarning) (events_of_run ..)).trans
      (countP_isWarning_events hne hall hstart)

theorem every_attempt_is_logged_of_second_failure :
    let script : List Accept := [.client (.v4 .localhost), .failure (.os 24), .failure (.os 4)]
    let log := (run .bulk (.v4 .localhost 9001) script).map TimedEntry.entry
    script[2]? = some (.failure (.os 4)) ∧
    (∃ entry : Entry, log[3]? = some entry ∧ entry.event.level = .debug ∧
      entry.event.fields { client := IpAddress.text } =
        [("error", Value.text
            "Failed to accept on 127.0.0.1:9001: Interrupted system call (os error 4)"),
          ("failures", Value.number 2), ("backoff", Value.text "20ms")]) ∧
    streak [.client (.v4 .localhost)] = 0 ∧
    (((log.map Entry.event).drop 2).take 2).countP isWarning = 1 := by
  intro script log
  obtain ⟨-, -, -, -, hfailure, hstreak⟩ :=
    every_attempt_is_logged .bulk (.v4 .localhost 9001) script { client := IpAddress.text }
  obtain ⟨-, entry, hentry, -, hlevel, -, hfields⟩ := hfailure 2 (.os 4) rfl
  refine ⟨rfl, ⟨entry, hentry, hlevel, hfields.trans (by decide +kernel)⟩, rfl, ?_⟩
  exact hstreak [.client (.v4 .localhost)] [.failure (.os 24), .failure (.os 4)] [] rfl rfl
    (by simp) (by decide)

end TwinServers.AcceptLoop
