import TwinServers.Proofs.Address.Numerals

/-!
# Rows of groups

An IPv4 address is read back from its dotted form (`Ipv4.read?_chars`). A row of groups with colons
between them is read back as it was written, as far as there is room for it and something follows
that cannot belong to it (`Ipv6.readGroups_joinGroups`): no group is taken for the beginning of a
dotted form, since a colon follows it or something else that is not a dot.
-/

namespace TwinServers

theorem readChar?_eq_none {c : Char} {s : List Char} (h : s.head? ≠ some c) :
    readChar? c s = none := by
  cases s with
  | nil => rfl
  | cons d s =>
    rw [readChar?, if_neg]
    rintro rfl
    exact h rfl

theorem Numeral.rest_of_read? {form : Numeral} {s rest : List Char} {n : Nat}
    (h : form.read? s = some (n, rest)) : rest = s.dropWhile form.isDigit := by
  obtain ⟨-, h⟩ := Option.ite_none_right_eq_some.1 h
  cases h
  rfl

/-! ## Dotted forms -/

namespace Ipv4

variable {s rest : List Char}

theorem read?_decimal (x : UInt8) (h : Numeral.octet.Absent rest) :
    Numeral.octet.read? (decimal x.toNat ++ rest) = some (x.toNat, rest) :=
  Numeral.suffices_octet.read?_toDigits x.toNat_lt h

/-- **An IPv4 address is read back from its dotted form.** -/
theorem read?_chars (ip : Ipv4) (h : Numeral.octet.Absent rest) :
    read? (ip.chars ++ rest) = some (ip, rest) := by
  have dot (s : List Char) : Numeral.octet.Absent ('.' :: s) := rfl
  unfold chars read?
  simp only [List.append_assoc, List.cons_append]
  simp [read?_decimal, dot, readChar?, h]

/-- A text in which no dot follows the first digits is not in dotted form. -/
theorem read?_eq_none (h : (s.dropWhile Numeral.octet.isDigit).head? ≠ some '.') :
    read? s = none := by
  unfold read?
  cases hread : Numeral.octet.read? s with
  | none => rfl
  | some r =>
    obtain ⟨a, rest⟩ := r
    have hrest : readChar? '.' rest = none := by
      rw [Numeral.rest_of_read? hread]
      exact readChar?_eq_none h
    simp [hrest]

theorem read?_eq_none_of_absent (h : Numeral.octet.Absent s) : read? s = none := by
  unfold read?
  rw [Numeral.read?_eq_none h]
  rfl

end Ipv4

/-! ## Groups -/

namespace Ipv6

variable {s rest : List Char}

/-- Whether a text goes on with neither a digit of a group nor a dot. -/
structure Ends (s : List Char) : Prop where
  absent : Numeral.group.Absent s
  not_dot : s.head? ≠ some '.'

/-- Whether no further group follows. -/
structure Closes (s : List Char) : Prop extends Ends s where
  absent_of_colon : ∀ s', s = ':' :: s' → Numeral.group.Absent s'

theorem ends_colon (s : List Char) : Ends (':' :: s) := ⟨rfl, nofun⟩

theorem closes_nil : Closes [] := ⟨⟨rfl, nofun⟩, nofun⟩

theorem closes_colons (s : List Char) : Closes (':' :: ':' :: s) where
  toEnds := ends_colon _
  absent_of_colon s' h := by
    cases h
    rfl

theorem read?_groupChars (g : UInt16) (h : Ends rest) :
    Numeral.group.read? (groupChars g ++ rest) = some (g.toNat, rest) :=
  Numeral.suffices_group.read?_toDigits g.toNat_lt h.absent

/-- A group is no dotted form, though it may begin like one. -/
theorem ipv4_read?_groupChars (g : UInt16) (h : Ends rest) :
    Ipv4.read? (groupChars g ++ rest) = none := by
  apply Ipv4.read?_eq_none
  rw [List.dropWhile_append]
  -- after the decimal digits comes what follows the group, or a letter of the group itself
  split
  · rw [(h.absent.of_radix_le (by decide)).dropWhile_eq]
    exact h.not_dot
  · next left =>
    rw [List.head?_append, Option.or_of_isSome (by simpa using left)]
    intro hdot
    have hmem : '.' ∈ groupChars g :=
      (List.dropWhile_sublist _).subset (List.mem_of_mem_head? hdot)
    exact absurd (Numeral.suffices_group.isDigit_of_mem_toDigits _ _ hmem) (by decide)

variable {first : Bool} {room : Nat}

/-- Where a group can be read, it is read and then the rest of the row. -/
theorem readGroups_succ {g : UInt16} (hs : readSeparator? first s = some (groupChars g ++ rest))
    (h : Ends rest) :
    readGroups first (room + 1) s =
      let (row, rest) := readGroups false room rest
      ({ row with groups := g :: row.groups }, rest) := by
  rw [readGroups, hs]
  simp [ipv4_read?_groupChars g h, read?_groupChars g h]

/-- Where a dotted form can be read, it is read and ends the row. -/
theorem readGroups_of_dotted {ip : Ipv4}
    (hs : readSeparator? first s = some (ip.chars ++ rest)) (h : Numeral.octet.Absent rest) :
    readGroups first (room + 2) s = ({ groups := ip.groups, dotted := true }, rest) := by
  rw [readGroups, hs]
  simp [Ipv4.read?_chars ip h]

/-- Where no group follows, none is read. -/
theorem readGroups_eq_nil (h : ∀ s', readSeparator? first s = some s' → Numeral.group.Absent s') :
    readGroups first room s = ({}, s) := by
  cases room with
  | zero => rfl
  | succ room =>
    rw [readGroups]
    cases hs : readSeparator? first s with
    | none => simp
    | some s' =>
      have absent := h s' hs
      have octet : Numeral.octet.Absent s' := absent.of_radix_le (by decide)
      simp [Ipv4.read?_eq_none_of_absent octet, Numeral.read?_eq_none absent]

theorem readGroups_of_closes (h : Closes s) : readGroups first room s = ({}, s) := by
  refine readGroups_eq_nil fun s' hs => ?_
  cases first with
  | true =>
    cases hs
    exact h.absent
  | false =>
    cases s with
    | nil => exact nomatch hs
    | cons c s =>
      obtain ⟨rfl, rfl⟩ : c = ':' ∧ s = s' := by simpa [readSeparator?, readChar?] using hs
      exact h.absent_of_colon s rfl

/-! ## Rows -/

/-- The groups of a row after the first, each with the colon in front of it. -/
def moreGroups (gs : List UInt16) : List Char := gs.flatMap fun g => ':' :: groupChars g

theorem joinGroups_cons (g : UInt16) (gs : List UInt16) :
    joinGroups (g :: gs) = groupChars g ++ moreGroups gs := by
  induction gs generalizing g with
  | nil => rw [joinGroups, moreGroups, List.flatMap_nil, List.append_nil]
  | cons g' gs ih =>
    rw [joinGroups, ih, moreGroups, moreGroups, List.flatMap_cons, List.cons_append]
    exact nofun

theorem Closes.ends_moreGroups (h : Closes rest) (gs : List UInt16) :
    Ends (moreGroups gs ++ rest) := by
  cases gs with
  | nil => exact h.toEnds
  | cons g gs => exact ends_colon _

theorem readGroups_moreGroups (h : Closes rest) (gs : List UInt16) (hroom : gs.length ≤ room) :
    readGroups false room (moreGroups gs ++ rest) = ({ groups := gs }, rest) := by
  induction gs generalizing room with
  | nil => exact readGroups_of_closes h
  | cons g gs ih =>
    cases room with
    | zero => exact absurd hroom (Nat.not_succ_le_zero _)
    | succ room =>
      have hs : readSeparator? false (moreGroups (g :: gs) ++ rest) =
          some (groupChars g ++ (moreGroups gs ++ rest)) := by
        rw [moreGroups, List.flatMap_cons, List.append_assoc, List.cons_append]
        rfl
      rw [readGroups_succ hs (h.ends_moreGroups gs), ih (Nat.le_of_succ_le_succ hroom)]

/-- **A row of groups is read back as it was written.** -/
theorem readGroups_joinGroups (h : Closes rest) (gs : List UInt16) (hroom : gs.length ≤ room) :
    readGroups true room (joinGroups gs ++ rest) = ({ groups := gs }, rest) := by
  cases gs with
  | nil => exact readGroups_of_closes h
  | cons g gs =>
    cases room with
    | zero => exact absurd hroom (Nat.not_succ_le_zero _)
    | succ room =>
      have hs : readSeparator? true (joinGroups (g :: gs) ++ rest) =
          some (groupChars g ++ (moreGroups gs ++ rest)) := by
        rw [joinGroups_cons, List.append_assoc]
        rfl
      rw [readGroups_succ hs (h.ends_moreGroups gs),
        readGroups_moreGroups h gs (Nat.le_of_succ_le_succ hroom)]

/-- No row of groups is a dotted form. -/
theorem ipv4_read?_joinGroups (h : Closes rest) (gs : List UInt16) :
    Ipv4.read? (joinGroups gs ++ rest) = none := by
  cases gs with
  | nil => exact Ipv4.read?_eq_none_of_absent (h.absent.of_radix_le (by decide))
  | cons g gs =>
    rw [joinGroups_cons, List.append_assoc]
    exact ipv4_read?_groupChars g (h.ends_moreGroups gs)

end Ipv6

end TwinServers
