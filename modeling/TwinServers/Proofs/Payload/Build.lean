import TwinServers.Proofs.Payload.Repetition

/-!
# What building a payload comes to

Building a payload meets three limits, one after the other: on the length of the unit, on the number
of templates in the whole, and on the length of the whole. The first one that is passed is the error
(`build_of_unit_le` and the lemmas after it), and within all three there is a payload. It is one
template written over and over: `Payload.BuiltFrom` says what its parts are and which limits their
sizes keep, and `build_eq_ok_iff` that this is all there is to it. The unit and the whole are made
by two repetitions of the template, but repeating the unit would have given the whole as well
(`BuiltFrom.repetition_unit`).
-/

namespace TwinServers

/-- What a payload consists of when it was built, and the limits that its sizes keep. -/
structure Payload.BuiltFrom (template closing : Bytes) (copies units : UInt64) (p : Payload) :
    Prop where
  unit_eq : p.unit = template.copies copies.toNat
  whole_eq : p.whole = template.copies (copies.toNat * units.toNat)
  closing_eq : p.closing = closing
  units_eq : p.units = units
  unit_lt : template.length * copies.toNat < textLimit
  product_lt : copies.toNat * units.toNat < UInt64.size
  whole_lt : template.length * (copies.toNat * units.toNat) < textLimit

namespace Payload

variable {template closing : Bytes} {copies units : UInt64} {p : Payload}

/-! ## Building, limit by limit -/

theorem build_of_unit_le (h : textLimit ≤ template.length * copies.toNat) :
    build template closing copies units = .error .capacity := by
  rw [build, repetition_of_le h]
  rfl

theorem build_of_unit_lt (h : template.length * copies.toNat < textLimit) :
    build template closing copies units =
      if copies.toNat * units.toNat < UInt64.size then
        (repetition template (copies * units)).map fun whole =>
          { unit := template.copies copies.toNat, whole, closing, units }
      else .error .product := by
  rw [build, repetition_of_lt h]
  change (if _ then _ else _) = _
  split
  · cases repetition template (copies * units) <;> rfl
  · rfl

theorem build_of_product_le (hunit : template.length * copies.toNat < textLimit)
    (h : UInt64.size ≤ copies.toNat * units.toNat) :
    build template closing copies units = .error .product := by
  rw [build_of_unit_lt hunit, if_neg (Nat.not_lt.2 h)]

theorem build_of_whole_le (hunit : template.length * copies.toNat < textLimit)
    (hproduct : copies.toNat * units.toNat < UInt64.size)
    (h : textLimit ≤ template.length * (copies.toNat * units.toNat)) :
    build template closing copies units = .error .capacity := by
  rw [← Word.toNat_mul_of_lt hproduct] at h
  rw [build_of_unit_lt hunit, if_pos hproduct, repetition_of_le h]
  rfl

theorem build_of_lt (hunit : template.length * copies.toNat < textLimit)
    (hproduct : copies.toNat * units.toNat < UInt64.size)
    (hwhole : template.length * (copies.toNat * units.toNat) < textLimit) :
    build template closing copies units =
      .ok { unit := template.copies copies.toNat
            whole := template.copies (copies.toNat * units.toNat)
            closing
            units } := by
  rw [← Word.toNat_mul_of_lt hproduct] at hwhole ⊢
  rw [build_of_unit_lt hunit, if_pos hproduct, repetition_of_lt hwhole]
  rfl

/-! ## Payloads that were built -/

theorem build_eq_ok_iff :
    build template closing copies units = .ok p ↔ BuiltFrom template closing copies units p := by
  constructor
  · intro h
    -- a limit that is passed would have been the outcome
    have hunit : template.length * copies.toNat < textLimit := by
      refine Nat.lt_of_not_le fun hle => ?_
      rw [build_of_unit_le hle] at h
      exact nomatch h
    have hproduct : copies.toNat * units.toNat < UInt64.size := by
      refine Nat.lt_of_not_le fun hle => ?_
      rw [build_of_product_le hunit hle] at h
      exact nomatch h
    have hwhole : template.length * (copies.toNat * units.toNat) < textLimit := by
      refine Nat.lt_of_not_le fun hle => ?_
      rw [build_of_whole_le hunit hproduct hle] at h
      exact nomatch h
    rw [build_of_lt hunit hproduct hwhole] at h
    obtain rfl := Except.ok.inj h
    exact ⟨rfl, rfl, rfl, rfl, hunit, hproduct, hwhole⟩
  · intro h
    rw [build_of_lt h.unit_lt h.product_lt h.whole_lt, ← h.unit_eq, ← h.whole_eq, ← h.closing_eq,
      ← h.units_eq]

namespace BuiltFrom

variable (h : BuiltFrom template closing copies units p)

include h

/-- The whole is what the unit gives when it is repeated in its turn. -/
theorem repetition_unit : repetition p.unit p.units = .ok p.whole := by
  have hunit : repetition template copies = .ok p.unit :=
    repetition_eq_ok_iff.2 ⟨h.unit_lt, h.unit_eq⟩
  rw [h.units_eq, repetition_repetition hunit h.product_lt, repetition_eq_ok_iff,
    Word.toNat_mul_of_lt h.product_lt]
  exact ⟨h.whole_lt, h.whole_eq⟩

/-- The units in a row are the whole. -/
theorem copies_unit : p.unit.copies p.units.toNat = p.whole :=
  (repetition_eq_ok_iff.1 h.repetition_unit).2.symm

theorem units_mul_length_unit : p.units.toNat * p.unit.length = p.whole.length := by
  rw [← h.copies_unit, Bytes.length_copies, Nat.mul_comm]

/-- The length of the body, which is reckoned from the units, is that of the whole and the
closing line. -/
theorem bodyLength_eq : p.bodyLength = p.whole.length + p.closing.length := by
  rw [bodyLength, h.units_mul_length_unit]

theorem length_unit_lt : p.unit.length < textLimit := by
  rw [h.unit_eq, Bytes.length_copies]
  exact h.unit_lt

theorem length_whole_lt : p.whole.length < textLimit := by
  rw [h.whole_eq, Bytes.length_copies]
  exact h.whole_lt

end BuiltFrom

end Payload

end TwinServers
