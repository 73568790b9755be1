import TwinServers.Address.Parser
import TwinServers.Address.Printer
import TwinServers.Proofs.Numbers

/-!
# Numbers in addresses

The parts, groups, ports and scopes of an address are read back as they were written: a number below
the limit of a numeral is written in few enough digits, with no zero in front, and what follows is
left where no further digit comes (`read?_toDigits`). Where no digit comes at all, nothing is read
(`read?_eq_none`).
-/

namespace TwinServers

namespace Numeral

/-- Whether the digits of a numeral are those that numbers are written in, and those it may have are
enough for every number below its limit. -/
structure Suffices (form : Numeral) : Prop where
  one_lt_radix : 1 < form.radix
  radix_le : form.radix ≤ 16
  room : form.maxDigits.all fun k => 0 < k ∧ form.limit ≤ form.radix ^ k

theorem suffices_octet : octet.Suffices := ⟨by decide, by decide, by decide⟩

theorem suffices_group : group.Suffices := ⟨by decide, by decide, by decide⟩

theorem suffices_port : port.Suffices := ⟨by decide, by decide, by decide⟩

theorem suffices_scope : scope.Suffices := ⟨by decide, by decide, by decide⟩

/-- Whether a text does not begin with a digit of the numeral. -/
def Absent (form : Numeral) (s : List Char) : Prop := s.head?.all (!form.isDigit ·)

variable {form : Numeral} {s rest : List Char} {n : Nat}

/-! ## Texts without digits -/

theorem absent_nil (form : Numeral) : form.Absent [] := rfl

theorem Absent.takeWhile_eq (h : form.Absent s) : s.takeWhile form.isDigit = [] := by
  cases s with
  | nil => rfl
  | cons c s => rw [List.takeWhile_cons, if_neg (by simpa [Absent] using h)]

theorem Absent.dropWhile_eq (h : form.Absent s) : s.dropWhile form.isDigit = s := by
  cases s with
  | nil => rfl
  | cons c s => rw [List.dropWhile_cons, if_neg (by simpa [Absent] using h)]

/-- Nothing is read where there is no digit. -/
theorem read?_eq_none (h : form.Absent s) : form.read? s = none := by
  rw [read?, h.takeWhile_eq]
  rfl

/-- Where there is no digit, there is none in a smaller radix either. -/
theorem Absent.of_radix_le {form' : Numeral} (h : form.Absent s) (hle : form'.radix ≤ form.radix) :
    form'.Absent s := by
  cases s with
  | nil => rfl
  | cons c s =>
    simp only [Absent, isDigit, List.head?_cons, Option.all_some, Bool.not_eq_true',
      decide_eq_false_iff_not] at h ⊢
    omega

/-! ## Written numbers -/

theorem digitValue_digitChar : ∀ d < 16, digitValue (Nat.digitChar d) = d := by decide

namespace Suffices

theorem value_toDigits (h : form.Suffices) (n : Nat) :
    form.value (Nat.toDigits form.radix n) = n :=
  foldl_toDigits h.one_lt_radix (fun d hd => digitValue_digitChar d (hd.trans_le h.radix_le)) n

theorem isDigit_of_mem_toDigits (h : form.Suffices) (n : Nat) :
    ∀ c ∈ Nat.toDigits form.radix n, form.isDigit c := by
  refine forall_mem_toDigits h.one_lt_radix (fun d hd => ?_) n
  rw [isDigit, digitValue_digitChar d (hd.trans_le h.radix_le), decide_eq_true hd]

theorem admits_toDigits (h : form.Suffices) (hn : n < form.limit) :
    form.admits (Nat.toDigits form.radix n) := by
  have short : form.maxDigits.all ((Nat.toDigits form.radix n).length ≤ ·) := by
    have room := h.room
    cases hmax : form.maxDigits with
    | none => rfl
    | some k =>
      simp only [hmax, Option.all_some, decide_eq_true_eq] at room ⊢
      exact (Nat.length_toDigits_le_iff h.one_lt_radix room.1).2 (by omega)
  have lead : (Nat.toDigits form.radix n).head? ≠ some '0' ∨
      (Nat.toDigits form.radix n).length = 1 := by
    obtain rfl | hne := eq_or_ne n 0
    · exact .inr (by rw [Nat.toDigits_zero]; rfl)
    · exact .inl (head?_toDigits h.one_lt_radix h.radix_le hne)
  rw [admits, h.value_toDigits]
  simpa [short, hn, Nat.toDigits_ne_nil, or_assoc] using .inr lead

/-- **A number is read back from its digits**, and what follows them is left. -/
theorem read?_toDigits (h : form.Suffices) (hn : n < form.limit) (hrest : form.Absent rest) :
    form.read? (Nat.toDigits form.radix n ++ rest) = some (n, rest) := by
  have digits := h.isDigit_of_mem_toDigits n
  rw [read?, List.takeWhile_append_of_pos digits, List.dropWhile_append_of_pos digits,
    hrest.takeWhile_eq, hrest.dropWhile_eq, List.append_nil, if_pos (h.admits_toDigits hn),
    h.value_toDigits]

end Suffices

end Numeral

end TwinServers
