import Mathlib.Algebra.Group.Nat.Defs
import TwinServers.Proofs.Payload.Build

/-!
# The limits on a payload

A payload can be built exactly within its three limits (`exists_build_iff`), and
`first_limit_is_reported` is the outcome for every template and all counts. The limits are not
independent: a template that is not empty takes at least a byte for each time it is written, so what
bounds the length of the whole bounds the number of templates in it (`product_lt_of_whole_lt`). An
empty template takes no room at all and leaves only their number to check.
-/

namespace TwinServers

namespace Payload

variable {template closing : Bytes} {copies units : UInt64}

theorem exists_build_iff :
    (∃ p, build template closing copies units = .ok p) ↔
      template.length * copies.toNat < textLimit ∧ copies.toNat * units.toNat < UInt64.size ∧
        template.length * (copies.toNat * units.toNat) < textLimit := by
  constructor
  · rintro ⟨p, hp⟩
    obtain ⟨-, -, -, -, hunit, hproduct, hwhole⟩ := build_eq_ok_iff.1 hp
    exact ⟨hunit, hproduct, hwhole⟩
  · rintro ⟨hunit, hproduct, hwhole⟩
    exact ⟨_, build_of_lt hunit hproduct hwhole⟩

/-- Templates that are not empty take at least a byte each. -/
theorem product_lt_of_whole_lt (ht : template ≠ [])
    (h : template.length * (copies.toNat * units.toNat) < textLimit) :
    copies.toNat * units.toNat < UInt64.size := by
  have hpos : 0 < template.length := List.length_pos_iff.2 ht
  calc
    copies.toNat * units.toNat ≤ template.length * (copies.toNat * units.toNat) :=
      Nat.le_mul_of_pos_left _ hpos
    _ < textLimit := h
    _ < UInt64.size := by decide

/-- **Building a payload reports the first limit that is passed**, and builds it if none is. For a
template that is not empty the limits are those on the two lengths; for an empty one, which gives an
empty unit and an empty whole, it is that on the number of templates. -/
theorem first_limit_is_reported :
    (∀ (template closing : Bytes) (copies units : UInt64),
      let t := template.length
      let r := copies.toNat
      let w := units.toNat
      (build template closing copies units).mapError SizeError.message =
        if 2 ^ 63 ≤ t * r then .error "capacity overflow"
        else if 2 ^ 64 ≤ r * w then .error "attempt to multiply with overflow"
        else if 2 ^ 63 ≤ t * r * w then .error "capacity overflow"
        else .ok { unit := (List.replicate r template).flatten
                   whole := (List.replicate (r * w) template).flatten
                   closing
                   units }) ∧
    (∀ (template closing : Bytes) (copies units : UInt64), template ≠ [] →
      let t := template.length
      let r := copies.toNat
      let w := units.toNat
      ((∃ p, build template closing copies units = .ok p) ↔ t * r < 2 ^ 63 ∧ t * r * w < 2 ^ 63) ∧
      (t * r * w < 2 ^ 63 → r * w < 2 ^ 64)) ∧
    ∀ (closing : Bytes) (copies units : UInt64),
      ((∃ p, build [] closing copies units = .ok p) ↔ copies.toNat * units.toNat < 2 ^ 64) ∧
      ∀ p, build [] closing copies units = .ok p → p.unit = [] ∧ p.whole = [] := by
  refine ⟨?_, ?_, ?_⟩
  · intro template closing copies units t r w
    rw [Nat.mul_assoc, ← Bytes.copies_eq_flatten, ← Bytes.copies_eq_flatten]
    split
    · next hunit => rw [build_of_unit_le hunit]; rfl
    · next hunit =>
      have hunit : t * r < textLimit := Nat.not_le.1 hunit
      split
      · next hproduct => rw [build_of_product_le hunit hproduct]; rfl
      · next hproduct =>
        have hproduct : r * w < UInt64.size := Nat.not_le.1 hproduct
        split
        · next hwhole => rw [build_of_whole_le hunit hproduct hwhole]; rfl
        · next hwhole => rw [build_of_lt hunit hproduct (Nat.not_le.1 hwhole)]; rfl
  · intro template closing copies units ht t r w
    rw [exists_build_iff, Nat.mul_assoc]
    have implied : t * (r * w) < 2 ^ 63 → r * w < 2 ^ 64 := product_lt_of_whole_lt ht
    exact ⟨⟨fun ⟨hunit, _, hwhole⟩ => ⟨hunit, hwhole⟩,
      fun ⟨hunit, hwhole⟩ => ⟨hunit, implied hwhole, hwhole⟩⟩, implied⟩
  · intro closing copies units
    constructor
    · rw [exists_build_iff, List.length_nil, Nat.zero_mul, Nat.zero_mul]
      exact ⟨fun h => h.2.1, fun h => ⟨by decide, h, by decide⟩⟩
    · intro p hp
      have built := build_eq_ok_iff.1 hp
      exact ⟨built.unit_eq, built.whole_eq⟩

theorem first_limit_is_reported_of_long_whole :
    (build [0x61] [] 0x100000000 0x80000000).mapError SizeError.message =
      .error "capacity overflow" ∧
    (build [] [] 0x100000000 0x100000000).mapError SizeError.message =
      .error "attempt to multiply with overflow" ∧
    ([0x61] : Bytes) ≠ [] ∧ (∃ p, build [0x61] [] 0x100000000 0x7fffffff = .ok p) ∧
    ∃ p, build [] [0x21] 0xffffffff 0xffffffff = .ok p ∧ p.whole = [] := by
  obtain ⟨houtcome, hnonempty, hempty⟩ := first_limit_is_reported
  have ht : ([0x61] : Bytes) ≠ [] := by decide
  refine ⟨houtcome [0x61] [] _ _, houtcome [] [] _ _, ht, ?_, ?_⟩
  · exact (hnonempty [0x61] [] 0x100000000 0x7fffffff ht).1.2 (by decide)
  · obtain ⟨hbuilds, hparts⟩ := hempty [0x21] 0xffffffff 0xffffffff
    obtain ⟨p, hp⟩ := hbuilds.2 (by decide)
    exact ⟨p, hp, (hparts p hp).2⟩

end Payload

end TwinServers
