import Mathlib.Algebra.Group.Nat.Defs
import TwinServers.Payload
import TwinServers.Proofs.Numbers

/-!
# Repetitions

A text written over and over starts again at every multiple of its length, so each byte is the byte
of the text that is left when whole copies are taken off (`Bytes.getElem?_copies`), and copies of
copies are copies of the first text (`Bytes.copies_copies`).

A repetition is that or nothing, and the length it would have decides which
(`repetition_eq_ok_iff`). Repeating a repetition comes to the same length as repeating its template
by the product of the counts, so the two have one outcome (`repetition_repetition`). Two limits stay
apart from this one: the first round has to fit even if the second count is zero, and the product
has to be a count even if the template is empty.
-/

namespace TwinServers

namespace Bytes

theorem copies_add (t : Bytes) (m n : Nat) : t.copies (m + n) = t.copies m ++ t.copies n := by
  rw [copies_eq_flatten, ← List.replicate_append_replicate, List.flatten_append,
    copies_eq_flatten, copies_eq_flatten]

/-- Copies of copies are copies of the first. -/
theorem copies_copies (t : Bytes) (m n : Nat) : (t.copies m).copies n = t.copies (m * n) := by
  induction n with
  | zero => simp
  | succ n ih => rw [copies_succ, ih, Nat.mul_succ, Nat.add_comm, copies_add]

/-- Copies start again at every multiple of the length of the first. -/
theorem getElem?_copies (t : Bytes) {n i : Nat} (h : i < t.length * n) :
    (t.copies n)[i]? = t[i % t.length]? := by
  induction n generalizing i with
  | zero => exact absurd h (Nat.not_lt_zero i)
  | succ n ih =>
    rw [copies_succ]
    obtain hfirst | hlater := Nat.lt_or_ge i t.length
    · rw [List.getElem?_append_left hfirst, Nat.mod_eq_of_lt hfirst]
    · -- past the first copy it is the same byte of `t`, one copy earlier
      have hrest : i - t.length < t.length * n := by
        rw [Nat.mul_succ] at h
        omega
      rw [List.getElem?_append_right hlater, ih hrest, ← Nat.mod_eq_sub_mod hlater]

end Bytes

section Repetition

variable {template unit s : Bytes} {n r w : UInt64}

theorem repetition_of_lt (h : template.length * n.toNat < textLimit) :
    repetition template n = .ok (template.copies n.toNat) := by
  rw [repetition, if_pos h]

theorem repetition_of_le (h : textLimit ≤ template.length * n.toNat) :
    repetition template n = .error .capacity := by
  rw [repetition, if_neg (Nat.not_lt.2 h)]

theorem repetition_eq_ok_iff :
    repetition template n = .ok s ↔
      template.length * n.toNat < textLimit ∧ s = template.copies n.toNat := by
  obtain hlt | hle := Nat.lt_or_ge (template.length * n.toNat) textLimit
  · rw [repetition_of_lt hlt]
    exact ⟨fun h => ⟨hlt, (Except.ok.inj h).symm⟩, fun h => congrArg _ h.2.symm⟩
  · rw [repetition_of_le hle]
    exact ⟨nofun, fun h => absurd h.1 (Nat.not_lt.2 hle)⟩

theorem exists_repetition_iff :
    (∃ s, repetition template n = .ok s) ↔ template.length * n.toNat < textLimit := by
  constructor
  · rintro ⟨s, hs⟩
    exact (repetition_eq_ok_iff.1 hs).1
  · intro h
    exact ⟨_, repetition_of_lt h⟩

/-- Repeating a repetition comes to the same as repeating its template by the product of the counts,
an error included. -/
theorem repetition_repetition (hunit : repetition template r = .ok unit)
    (h : r.toNat * w.toNat < UInt64.size) :
    repetition unit w = repetition template (r * w) := by
  obtain ⟨-, rfl⟩ := repetition_eq_ok_iff.1 hunit
  have hproduct := Word.toNat_mul_of_lt h
  have hlength :
      (template.copies r.toNat).length * w.toNat = template.length * (r * w).toNat := by
    rw [Bytes.length_copies, hproduct, Nat.mul_assoc]
  obtain hlt | hle := Nat.lt_or_ge (template.length * (r * w).toNat) textLimit
  · rw [repetition_of_lt hlt, repetition_of_lt (hlength ▸ hlt), Bytes.copies_copies, hproduct]
  · rw [repetition_of_le hle, repetition_of_le (hlength ▸ hle)]

/-- **Repetitions go round their template, and nest.** There is a repetition exactly if the length
it would have is below the limit; then it has this length, and at each position the byte that the
template has there modulo its own length. As long as the product of the counts is a count, repeating
a repetition and repeating its template by the product succeed together and give the same text. -/
theorem repetitions_cycle_and_nest :
    (∀ (template : Bytes) (n : UInt64),
      let t := template.length
      ((∃ s, repetition template n = .ok s) ↔ t * n.toNat < 2 ^ 63) ∧
      ∀ s, repetition template n = .ok s →
        s.length = t * n.toNat ∧
        ∀ i, i < t * n.toNat → ∃ (_ : i < s.length) (_ : i % t < t), s[i] = template[i % t]) ∧
    ∀ (template unit : Bytes) (r w : UInt64),
      repetition template r = .ok unit → r.toNat * w.toNat < 2 ^ 64 →
      ((∃ s, repetition unit w = .ok s) ↔ ∃ s, repetition template (r * w) = .ok s) ∧
      ∀ s, repetition unit w = .ok s ↔ repetition template (r * w) = .ok s := by
  constructor
  · intro template n t
    refine ⟨exists_repetition_iff, fun s hs => ?_⟩
    obtain ⟨-, rfl⟩ := repetition_eq_ok_iff.1 hs
    have hlength : (template.copies n.toNat).length = t * n.toNat := Bytes.length_copies ..
    refine ⟨hlength, fun i hi => ?_⟩
    have hmod : i % t < t := Nat.mod_lt _ (Nat.pos_of_lt_mul_right hi)
    refine ⟨hlength ▸ hi, hmod, ?_⟩
    rw [List.getElem_eq_iff, Bytes.getElem?_copies template hi, List.getElem?_eq_getElem hmod]
  · intro template unit r w hunit hproduct
    rw [repetition_repetition hunit hproduct]
    exact ⟨Iff.rfl, fun s => Iff.rfl⟩

theorem repetitions_cycle_and_nest_of_two_rounds :
    (∃ s, repetition [0x61, 0x62] 3 = .ok s ∧ s.length = 6 ∧ (5 : Nat) < 2 * 3 ∧
      s[5]? = some 0x62) ∧
    (∃ unit s, repetition [0x61, 0x62] 3 = .ok unit ∧ 3 * 2 < 2 ^ 64 ∧
      repetition unit 2 = .ok s ∧ repetition [0x61, 0x62] 6 = .ok s) ∧
    ∃ unit, repetition [0x61] 0x100000000 = .ok unit ∧ 0x100000000 * 0x80000000 < 2 ^ 64 ∧
      ¬∃ s, repetition unit 0x80000000 = .ok s := by
  obtain ⟨hcycle, hnest⟩ := repetitions_cycle_and_nest
  refine ⟨?_, ?_, ?_⟩
  · obtain ⟨s, hs⟩ := (hcycle [0x61, 0x62] 3).1.2 (by decide)
    obtain ⟨hlength, hbytes⟩ := (hcycle [0x61, 0x62] 3).2 s hs
    obtain ⟨hi, _, hbyte⟩ := hbytes 5 (by decide)
    exact ⟨s, hs, hlength, by decide, (List.getElem_eq_iff hi).1 hbyte⟩
  · have hunit : repetition [0x61, 0x62] 3 = .ok [0x61, 0x62, 0x61, 0x62, 0x61, 0x62] := rfl
    have hnested := (hnest _ _ 3 2 hunit (by decide)).2
    exact ⟨_, _, hunit, by decide, rfl, (hnested _).1 rfl⟩
  · -- the unit has 2 ^ 32 bytes, and both ways would come to exactly 2 ^ 63
    obtain ⟨unit, hunit⟩ := (hcycle [0x61] 0x100000000).1.2 (by decide)
    refine ⟨unit, hunit, by decide, fun hnested => ?_⟩
    have hflat := (hnest _ _ _ 0x80000000 hunit (by decide)).1.1 hnested
    exact absurd ((hcycle [0x61] _).1.1 hflat) (by decide)

end Repetition

end TwinServers
