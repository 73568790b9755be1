import Mathlib.Algebra.Group.Nat.Defs
import TwinServers.Proofs.Numbers
import TwinServers.Proofs.Payload.Build
import TwinServers.Proofs.Server.Pair

/-!
# Lengths in machine words

A payload tells the length of its body in plain numbers. A machine reckons it in words of 64 bits,
where a product or a sum that takes more is an error: `Payload.bodyLengthWord?` is the reckoning
from the units, and `Payload.wholeCapacityWord?` the one that makes room for the whole and the
closing line.

No limit that was checked when the payload was built is on the product that is taken here. But this
product is the length of the whole, whatever the units are (`BuiltFrom.units_mul_length_unit`), so
the limit on the whole bounds it, and leaves room for a closing line: `lengths_fit_in_words`.
-/

namespace TwinServers

/-- The length of a byte string as a word. -/
def Bytes.lengthWord (b : Bytes) : UInt64 := .ofNat b.length

theorem Bytes.toNat_lengthWord {b : Bytes} (h : b.length < textLimit) :
    b.lengthWord.toNat = b.length :=
  UInt64.toNat_ofNat_of_lt' (Nat.lt_trans h (by decide))

namespace Payload

/-! ## Reckoning with words -/

/-- The length of the body, reckoned from the units in words. -/
def bodyLengthWord? (p : Payload) : Option UInt64 := do
  let units ← Word.mul? p.units p.unit.lengthWord
  Word.add? units p.closing.lengthWord

/-- The room for the whole and the closing line, reckoned in words. -/
def wholeCapacityWord? (p : Payload) : Option UInt64 :=
  Word.add? p.whole.lengthWord p.closing.lengthWord

variable {template closing : Bytes} {copies units : UInt64} {p : Payload} {n : UInt64}

/-- The reckoning in words gives the length of the body if that is a word, and else nothing. -/
theorem bodyLengthWord?_eq_some_iff (hunit : p.unit.length < textLimit)
    (hclosing : p.closing.length < textLimit) :
    p.bodyLengthWord? = some n ↔ n.toNat = p.bodyLength := by
  have steps : p.bodyLengthWord? = some n ↔ ∃ product : UInt64,
      product.toNat = p.units.toNat * p.unit.length ∧
        n.toNat = product.toNat + p.closing.length := by
    unfold bodyLengthWord?
    rw [Option.bind_eq_bind, Option.bind_eq_some_iff]
    simp only [Word.mul?_eq_some_iff, Word.add?_eq_some_iff, Bytes.toNat_lengthWord hunit,
      Bytes.toNat_lengthWord hclosing]
  rw [steps, bodyLength]
  constructor
  · rintro ⟨product, hproduct, hn⟩
    rw [hn, hproduct]
  · intro hn
    -- the product is a word, since the sum is one
    have hlt : p.units.toNat * p.unit.length < UInt64.size := by
      have := n.toNat_lt_size
      omega
    have hproduct := UInt64.toNat_ofNat_of_lt' hlt
    exact ⟨.ofNat (p.units.toNat * p.unit.length), hproduct, by rw [hn, hproduct]⟩

/-- A reckoning that comes to an end has not wrapped around. -/
theorem word_eq_of_bodyLengthWord? (h : p.bodyLengthWord? = some n) :
    p.units * p.unit.lengthWord + p.closing.lengthWord = n := by
  obtain ⟨product, hproduct, hsum⟩ := Option.bind_eq_some_iff.1 h
  rw [Word.eq_of_checked hproduct, Word.eq_of_checked hsum]

theorem wholeCapacityWord?_eq_some_iff (hwhole : p.whole.length < textLimit)
    (hclosing : p.closing.length < textLimit) :
    p.wholeCapacityWord? = some n ↔ n.toNat = p.whole.length + p.closing.length := by
  rw [wholeCapacityWord?, Word.add?_eq_some_iff, Bytes.toNat_lengthWord hwhole,
    Bytes.toNat_lengthWord hclosing]

/-! ## Payloads that were built -/

namespace BuiltFrom

variable (h : BuiltFrom template closing copies units p) (hclosing : closing.length < textLimit)

include h hclosing

theorem length_closing_lt : p.closing.length < textLimit := by
  rw [h.closing_eq]
  exact hclosing

theorem bodyLength_lt : p.bodyLength < UInt64.size := by
  have hwhole := h.length_whole_lt
  have hclosing := h.length_closing_lt hclosing
  have hlimit : textLimit + textLimit = UInt64.size := rfl
  rw [h.bodyLength_eq]
  omega

theorem toNat_ofNat_bodyLength : (UInt64.ofNat p.bodyLength).toNat = p.bodyLength :=
  UInt64.toNat_ofNat_of_lt' (h.bodyLength_lt hclosing)

theorem bodyLengthWord?_eq : p.bodyLengthWord? = some (.ofNat p.bodyLength) :=
  (bodyLengthWord?_eq_some_iff h.length_unit_lt (h.length_closing_lt hclosing)).2
    (h.toNat_ofNat_bodyLength hclosing)

theorem wholeCapacityWord?_eq : p.wholeCapacityWord? = some (.ofNat p.bodyLength) := by
  rw [wholeCapacityWord?_eq_some_iff h.length_whole_lt (h.length_closing_lt hclosing),
    h.toNat_ofNat_bodyLength hclosing]
  exact h.bodyLength_eq

end BuiltFrom

/-- **The lengths of a payload that was built fit in words**, so reckoning in words gives the length
of the body exactly, from the units as well as from the whole. No reckoning wraps around, and
the length that a response declares or a pair of servers logs is the word so reckoned. -/
theorem lengths_fit_in_words :
    (∀ (template closing : Bytes) (copies units : UInt64) (p : Payload),
      build template closing copies units = .ok p → closing.length < 2 ^ 63 →
      p.units.toNat * p.unit.length < 2 ^ 64 ∧
      p.units.toNat * p.unit.length + p.closing.length < 2 ^ 64 ∧
      p.whole.length + p.closing.length < 2 ^ 64 ∧
      p.bodyLength = p.whole.length + p.closing.length ∧
      ∃ n : UInt64, n.toNat = p.bodyLength ∧
        p.bodyLengthWord? = some n ∧ p.units * p.unit.lengthWord + p.closing.lengthWord = n ∧
        p.wholeCapacityWord? = some n ∧ p.whole.lengthWord + p.closing.lengthWord = n ∧
        ∀ (d : Delivery) (request : Http.Request),
          ((Handler.mk d p true).respond request).declared = some n.toNat) ∧
    ∀ (s : Settings) (p : Payload), s.payload = .ok p →
      ∃ n : UInt64, n.toNat = p.bodyLength ∧ p.bodyLengthWord? = some n ∧
        ∀ net : Network, ServerPair.bind net s = (do
          Kernel.record (.builtPayload p.unit.lengthWord.toNat p.units.toNat n.toNat)
          Kernel.explaining .server
            (ServerPair.bindHandlers net p s.declares s.chunkedAddress s.bulkAddress)) := by
  constructor
  · intro template closing copies units p hbuild hclosing
    have built := build_eq_ok_iff.1 hbuild
    have hbody := built.bodyLength_lt hclosing
    have hexact := built.toNat_ofNat_bodyLength hclosing
    have hlength := built.bodyLengthWord?_eq hclosing
    have hcapacity := built.wholeCapacityWord?_eq hclosing
    refine ⟨Nat.lt_of_le_of_lt (Nat.le_add_right ..) hbody, hbody, ?_, built.bodyLength_eq,
      .ofNat p.bodyLength, hexact, hlength, word_eq_of_bodyLengthWord? hlength, hcapacity,
      Word.eq_of_checked hcapacity, fun d request => ?_⟩
    · rw [← built.bodyLength_eq]
      exact hbody
    · rw [hexact]
      rfl
  · intro s p hpayload
    have built := build_eq_ok_iff.1 hpayload
    have hclosing : standardClosing.length < textLimit := by decide
    have hexact := built.toNat_ofNat_bodyLength hclosing
    refine ⟨.ofNat p.bodyLength, hexact, built.bodyLengthWord?_eq hclosing, fun net => ?_⟩
    rw [hexact, Bytes.toNat_lengthWord built.length_unit_lt]
    exact ServerPair.bind_of_payload net hpayload

theorem lengths_fit_in_words_of_empty_template :
    (∃ p, build [] [0x21] 1 0xffffffffffffffff = .ok p ∧ ([0x21] : Bytes).length < 2 ^ 63 ∧
      p.units.toNat * p.unit.length + p.closing.length < 2 ^ 64 ∧
      p.bodyLengthWord? = some 1) ∧
    ∃ p, ({ copies := 0, units := 0xffffffffffffffff } : Settings).payload = .ok p ∧
      p.bodyLengthWord? = some 41 := by
  constructor
  · obtain ⟨-, hbody, -, -, n, hn, hword, -⟩ :=
      lengths_fit_in_words.1 [] [0x21] 1 0xffffffffffffffff _ rfl (by decide)
    obtain rfl : n = 1 := UInt64.toNat_inj.1 hn
    exact ⟨_, rfl, by decide, hbody, hword⟩
  · obtain ⟨n, hn, hword, -⟩ :=
      lengths_fit_in_words.2 { copies := 0, units := 0xffffffffffffffff } _ rfl
    obtain rfl : n = 41 := UInt64.toNat_inj.1 hn
    exact ⟨_, rfl, hword⟩

end Payload

end TwinServers
