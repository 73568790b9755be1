/-!
# Byte strings

Bodies, heads and everything else that crosses a connection is a list of bytes, so that the
lemmas on lists apply as they stand. `copies t n` is the one operation the payload needs that lists
do not bring along; `copies_eq_flatten` is its meaning.
-/

namespace TwinServers

/-- A byte string. -/
abbrev Bytes := List UInt8

namespace Bytes

/-- The UTF-8 form of a text. -/
def utf8 (s : String) : Bytes := s.toUTF8.data.toList

/-- The bytes of a text whose characters are all below U+0100, one byte a character. -/
def latin (s : String) : Bytes := s.toList.map fun c => c.toNat.toUInt8

/-- The text with one character below U+0100 for each byte. -/
def toLatin (b : Bytes) : String := String.ofList (b.map fun x => Char.ofNat x.toNat)

/-- `t` written `n` times in a row. The empty string is not walked through, whatever `n` is. -/
def copies (t : Bytes) (n : Nat) : Bytes :=
  if t.isEmpty then [] else (List.replicate n t).flatten

theorem copies_eq_flatten (t : Bytes) (n : Nat) : t.copies n = (List.replicate n t).flatten := by
  cases t with
  | nil => simp [copies]
  | cons b t => simp [copies]

@[simp] theorem copies_zero (t : Bytes) : t.copies 0 = [] := by
  simp [copies_eq_flatten]

theorem copies_succ (t : Bytes) (n : Nat) : t.copies (n + 1) = t ++ t.copies n := by
  simp [copies_eq_flatten, List.replicate_succ]

@[simp] theorem length_copies (t : Bytes) (n : Nat) : (t.copies n).length = t.length * n := by
  simp [copies_eq_flatten, Nat.mul_comm]

/-- The lower-case form of an ASCII letter; every other byte is kept. -/
def lowerByte (b : UInt8) : UInt8 := if 0x41 ≤ b ∧ b ≤ 0x5a then b + 0x20 else b

/-- The byte string with its ASCII letters in lower case. -/
def lower (b : Bytes) : Bytes := b.map lowerByte

end Bytes

end TwinServers
