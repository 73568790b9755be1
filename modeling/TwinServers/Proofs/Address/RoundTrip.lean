import TwinServers.Proofs.Address.Groups

/-!
# Written addresses

Every address is read back from its text: `IpAddress.parse_text` and `SocketAddress.parse_text`. It
is also read back from a longer text, as long as what follows cannot belong to it, so a text that
begins with an address tells which one (`SocketAddress.read?_text`).
-/

namespace TwinServers

/-! ## Mapped addresses -/

theorem Ipv4.groups_ofGroups (hi lo : UInt16) : (ofGroups hi lo).groups = [hi, lo] := by
  have joined (x : UInt16) : (x >>> 8).toUInt8.toUInt16 <<< 8 ||| x.toUInt8.toUInt16 = x := by
    have hx := x.toNat_lt
    have high : x.toNat / 256 < 256 := by omega
    have shifted : (x.toNat / 256) <<< 8 < 65536 := by rw [Nat.shiftLeft_eq]; omega
    have bytes : ((x >>> 8).toUInt8.toUInt16 <<< 8 ||| x.toUInt8.toUInt16).toNat =
        (x.toNat / 256) <<< 8 ||| x.toNat % 256 := by
      simp [Nat.shiftRight_eq_div_pow, Nat.mod_eq_of_lt high, Nat.mod_eq_of_lt shifted]
    rw [← UInt16.toNat_inj, bytes, ← Nat.shiftLeft_add_eq_or_of_lt (Nat.mod_lt _ (by decide)),
      Nat.shiftLeft_eq, Nat.div_add_mod']
  rw [groups, ofGroups, joined, joined]

namespace Ipv6

theorem groups_of_mapped? {ip : Ipv6} {v4 : Ipv4} (h : ip.mapped? = some v4) :
    ip.groups = mappedLead ++ v4.groups := by
  unfold mapped? at h
  split at h
  · next a b c d e f hi lo hgroups =>
    obtain ⟨lead, hv4⟩ := Option.ite_none_right_eq_some.1 h
    cases hv4
    rw [hgroups, Ipv4.groups_ofGroups, ← lead]
    rfl
  · exact nomatch h

/-! ## Blocks of zeros -/

theorem replicate_leadingZeros_append_drop (gs : List UInt16) :
    List.replicate (leadingZeros gs) 0 ++ gs.drop (leadingZeros gs) = gs := by
  induction gs with
  | nil => rfl
  | cons g gs ih =>
    unfold leadingZeros at ih ⊢
    rw [List.takeWhile_cons]
    split
    · next hzero =>
      rw [List.length_cons, List.replicate_succ, List.drop_succ_cons, List.cons_append, ih,
        beq_iff_eq.1 hzero]
    · rfl

/-- What is left out of a row of groups is a block of zeros. -/
theorem take_append_zeros_append_drop {gs : List UInt16} {start length : Nat}
    (h : longestZeros gs = (start, length)) :
    gs.take start ++ (List.replicate length 0 ++ gs.drop (start + length)) = gs := by
  induction gs generalizing start with
  | nil =>
    cases h
    rfl
  | cons g gs ih =>
    rw [longestZeros] at h
    cases hrest : longestZeros gs with
    | mk start' length' =>
    simp only [hrest] at h
    split at h
    · cases h
      rw [List.take_zero, List.nil_append, Nat.zero_add]
      exact replicate_leadingZeros_append_drop (g :: gs)
    · cases h
      rw [List.take_succ_cons, Nat.add_right_comm, List.drop_succ_cons, List.cons_append, ih hrest]

/-! ## IPv6 addresses -/

variable {ip : Ipv6} {rest : List Char}

theorem ofEnds?_eq_some {front back : List UInt16} {k : Nat}
    (hk : 8 - front.length - back.length = k)
    (h : front ++ (List.replicate k 0 ++ back) = ip.groups) : ofEnds? front back = some ip := by
  unfold ofEnds?
  subst hk
  rw [List.append_assoc, h]
  exact dif_pos ip.length_groups

/-- A full row of groups is the whole address. -/
theorem read?_of_full {s : List Char} (h : readGroups true 8 s = ({ groups := ip.groups }, rest)) :
    read? s = some (ip, rest) := by
  have whole : ofEnds? ip.groups [] = some ip :=
    ofEnds?_eq_some (k := 0) (by rw [ip.length_groups]; rfl) (by simp)
  simp [read?, h, ip.length_groups, whole]

/-- What stands before and after two colons are the ends of the address. -/
theorem read?_of_ends {s s' : List Char} {front : List UInt16} {back : GroupRow}
    (hfront : readGroups true 8 s = ({ groups := front }, ':' :: ':' :: s'))
    (hlength : front.length ≠ 8)
    (hback : readGroups true (7 - front.length) s' = (back, rest))
    (hends : ofEnds? front back.groups = some ip) : read? s = some (ip, rest) := by
  simp [read?, hfront, hlength, readChar?, hback, hends]

theorem read?_mapped {v4 : Ipv4} (hip : ip.groups = mappedLead ++ v4.groups)
    (h : Numeral.octet.Absent rest) :
    read? ("::ffff:".toList ++ v4.chars ++ rest) = some (ip, rest) := by
  have text : "::ffff:".toList ++ v4.chars ++ rest =
      ':' :: ':' :: (groupChars 0xffff ++ ':' :: (v4.chars ++ rest)) := List.append_assoc ..
  have back : readGroups true 7 (groupChars 0xffff ++ ':' :: (v4.chars ++ rest)) =
      ({ groups := 0xffff :: v4.groups, dotted := true }, rest) := by
    rw [readGroups_succ rfl (ends_colon _), readGroups_of_dotted rfl h]
  rw [text]
  exact read?_of_ends (readGroups_of_closes (closes_colons _)) (by decide) back
    (ofEnds?_eq_some rfl hip.symm)

/-- **An IPv6 address is read back from its text.** -/
theorem read?_chars (ip : Ipv6) (h : Closes rest) : read? (ip.chars ++ rest) = some (ip, rest) := by
  unfold chars
  cases hmapped : ip.mapped? with
  | some v4 =>
    exact read?_mapped (groups_of_mapped? hmapped) (h.absent.of_radix_le (by decide))
  | none =>
    cases hzeros : longestZeros ip.groups with
    | mk start length =>
    have ends := take_append_zeros_append_drop hzeros
    simp only
    split
    · next hlong =>
      -- since more than one group is left out, there is room for both ends
      have lengths := congrArg List.length ends
      simp only [List.length_append, List.length_take, List.length_drop, List.length_replicate,
        ip.length_groups] at lengths
      have front : (ip.groups.take start).length = start := by
        rw [List.length_take, ip.length_groups]
        omega
      have back : (ip.groups.drop (start + length)).length = 8 - (start + length) := by
        rw [List.length_drop, ip.length_groups]
      rw [List.append_assoc]
      refine read?_of_ends (readGroups_joinGroups (closes_colons _) _ (by omega)) (by omega)
        (readGroups_joinGroups h _ (by omega)) (ofEnds?_eq_some (k := length) ?_ ends)
      rw [front, back]
      omega
    · exact read?_of_full (readGroups_joinGroups h ip.groups ip.length_groups.le)

end Ipv6

/-! ## Addresses of either family -/

namespace Ipv6

/-- No text of an IPv6 address is a dotted form. -/
theorem ipv4_read?_chars (ip : Ipv6) (h : Closes rest) : Ipv4.read? (ip.chars ++ rest) = none := by
  unfold chars
  split
  · exact Ipv4.read?_eq_none_of_absent rfl
  · simp only
    split
    · rw [List.append_assoc]
      exact ipv4_read?_joinGroups (closes_colons _) _
    · exact ipv4_read?_joinGroups h _

end Ipv6

namespace IpAddress

/-- **An address is read back from its text.** -/
theorem parse_text (ip : IpAddress) : parse ip.text = .ok ip := by
  have read : read? ip.chars = some (ip, []) := by
    cases ip with
    | v4 ip =>
      have hread := Ipv4.read?_chars ip (Numeral.absent_nil _)
      rw [List.append_nil] at hread
      rw [read?, chars, hread]
    | v6 ip =>
      have hv4 := Ipv6.ipv4_read?_chars ip Ipv6.closes_nil
      have hread := Ipv6.read?_chars ip Ipv6.closes_nil
      rw [List.append_nil] at hv4 hread
      rw [read?, chars, hv4, hread]
      rfl
  unfold parse
  rw [text, String.toList_ofList, read]
  rfl

end IpAddress

/-! ## Socket addresses -/

namespace SocketAddress

variable {rest : List Char}

theorem readPort?_decimal (port : UInt16) (h : Numeral.port.Absent rest) :
    readPort? (':' :: (decimal port.toNat ++ rest)) = some (port, rest) := by
  have hport : Numeral.port.read? (decimal port.toNat ++ rest) = some (port.toNat, rest) :=
    Numeral.suffices_port.read?_toDigits port.toNat_lt h
  simp [readPort?, readChar?, hport]

/-- A scope as it stands before the closing bracket, which is not at all if it is 0. -/
def scopeChars (scope : UInt32) : List Char :=
  if scope = 0 then [] else '%' :: decimal scope.toNat

theorem readScope_scopeChars (scope : UInt32) (s : List Char) :
    readScope (scopeChars scope ++ ']' :: s) = (scope, ']' :: s) := by
  unfold scopeChars
  split
  · next hzero => simp [readScope, readChar?, hzero]
  · have hscope : Numeral.scope.read? (decimal scope.toNat ++ ']' :: s) =
        some (scope.toNat, ']' :: s) :=
      Numeral.suffices_scope.read?_toDigits scope.toNat_lt rfl
    simp [readScope, readChar?, hscope]

theorem closes_scopeChars (scope : UInt32) (s : List Char) :
    Ipv6.Closes (scopeChars scope ++ ']' :: s) := by
  unfold scopeChars
  split
  · exact ⟨⟨rfl, nofun⟩, nofun⟩
  · exact ⟨⟨rfl, nofun⟩, nofun⟩

theorem readIpv4?_chars (ip : Ipv4) (port : UInt16) (h : Numeral.port.Absent rest) :
    readIpv4? (ip.chars ++ ':' :: (decimal port.toNat ++ rest)) = some (.v4 ip port, rest) := by
  have absent : Numeral.octet.Absent (':' :: (decimal port.toNat ++ rest)) := rfl
  simp [readIpv4?, Ipv4.read?_chars ip absent, readPort?_decimal port h]

theorem readIpv4?_bracket (s : List Char) : readIpv4? ('[' :: s) = none := by
  have absent : Numeral.octet.Absent ('[' :: s) := rfl
  rw [readIpv4?, Ipv4.read?_eq_none_of_absent absent]
  rfl

theorem readIpv6?_chars (ip : Ipv6) (port : UInt16) (scope : UInt32)
    (h : Numeral.port.Absent rest) :
    readIpv6? ('[' :: (ip.chars ++ (scopeChars scope ++
      ']' :: ':' :: (decimal port.toNat ++ rest)))) = some (.v6 ip port scope, rest) := by
  have hip := Ipv6.read?_chars ip (closes_scopeChars scope (':' :: (decimal port.toNat ++ rest)))
  simp [readIpv6?, readChar?, hip, readScope_scopeChars, readPort?_decimal port h]

/-- **A text that begins with a socket address tells which one it is**, as long as no digit follows
its port. -/
theorem read?_text (a : SocketAddress) (h : Numeral.port.Absent rest) :
    read? (a.text.toList ++ rest) = some (a, rest) := by
  rw [text, textWith, String.toList_ofList, List.append_assoc, List.cons_append, read?]
  cases a with
  | v4 ip port =>
    rw [hostChars, SocketAddress.port, readIpv4?_chars ip port h]
    rfl
  | v6 ip port scope =>
    have bracketed : hostChars (.v6 ip port scope) ++ ':' :: (decimal port.toNat ++ rest) =
        '[' :: (ip.chars ++ (scopeChars scope ++ ']' :: ':' :: (decimal port.toNat ++ rest))) := by
      simp [hostChars, scopeChars]
    rw [SocketAddress.port, bracketed, readIpv4?_bracket, readIpv6?_chars ip port scope h]
    rfl

/-- **A socket address is read back from its text.** -/
theorem parse_text (a : SocketAddress) : parse a.text = .ok a := by
  have read := a.read?_text (Numeral.absent_nil _)
  rw [List.append_nil] at read
  unfold parse
  rw [read]
  rfl

end SocketAddress

end TwinServers
