import TwinServers.Bytes
import TwinServers.Http.Request

/-!
# Reading from a connection

A reader looks at what has arrived so far. It is done and leaves a rest, or it needs more, or it has
met a byte that cannot be part of what it reads; in the last case nothing that may still arrive can
change its mind. `Reader.Advances` says of a reader that it uses up at least one byte whenever it is
done, which is why a connection gets through what has arrived.
-/

namespace TwinServers.Http

/-- A carriage return. -/
def cr : UInt8 := 0x0d

/-- A line feed. -/
def lf : UInt8 := 0x0a

/-- A space. -/
def sp : UInt8 := 0x20

/-- The end of a line as it is written. -/
def crlf : Bytes := [cr, lf]

/-- Whether the byte is a space or a tab. -/
def isBlank (b : UInt8) : Bool := b == sp || b == 0x09

/-- Without the blanks at both ends. -/
def trim (s : Bytes) : Bytes := ((s.dropWhile isBlank).reverse.dropWhile isBlank).reverse

/-- What a reader comes to. -/
inductive Scan (α : Type)
  | done (a : α) (rest : Bytes)
  | more
  | bad (fault : Fault)
  deriving DecidableEq

/-- A function of what has arrived. -/
def Reader (α : Type) : Type := Bytes → Scan α

namespace Reader

variable {α β : Type}

/-- Reads nothing. -/
def pure (a : α) : Reader α := fun s => .done a s

/-- Reads one thing after another. -/
def bind (r : Reader α) (f : α → Reader β) : Reader β := fun s =>
  match r s with
  | .done a rest => f a rest
  | .more => .more
  | .bad e => .bad e

instance : Monad Reader where
  pure := pure
  bind := bind

/-- Finds fault with what was read. -/
def fail (e : Fault) : Reader α := fun _ => .bad e

/-- Reads a word of the given bytes, which is not empty, and the byte that ends it. -/
def wordTo (inWord : UInt8 → Bool) (stop : UInt8) (fault : Fault) : Reader Bytes := fun s =>
  let word := s.takeWhile inWord
  match s.dropWhile inWord with
  | [] => .more
  | b :: rest => if b = stop ∧ word ≠ [] then .done word rest else .bad fault

/-- Reads the end of a line, which may do without its carriage return. -/
def lineEnd : Reader Unit
  | [] => .more
  | b :: rest =>
    if b = lf then .done () rest
    else if b = cr then
      match rest with
      | [] => .more
      | c :: rest => if c = lf then .done () rest else .bad .header
    else .bad .header

/-- The same reader, which has to be done within so many bytes. -/
def limited (n : Nat) (r : Reader α) : Reader α := fun s =>
  match r (s.take n) with
  | .done a rest => .done a (rest ++ s.drop n)
  | .more => if s.length < n then .more else .bad .tooLarge
  | .bad e => .bad e

/-- Whether the reader uses up at least one byte whenever it is done. -/
def Advances (r : Reader α) : Prop :=
  ∀ s a rest, r s = .done a rest → rest.length < s.length

/-- Whether the reader never adds to what has arrived. -/
def Keeps (r : Reader α) : Prop :=
  ∀ s a rest, r s = .done a rest → rest.length ≤ s.length

theorem Advances.keeps {r : Reader α} (h : r.Advances) : r.Keeps :=
  fun s a rest hr => Nat.le_of_lt (h s a rest hr)

theorem bind_eq_done {r : Reader α} {f : α → Reader β} {s : Bytes} {b : β} {rest : Bytes} :
    (r >>= f) s = .done b rest ↔ ∃ a mid, r s = .done a mid ∧ f a mid = .done b rest := by
  change bind r f s = .done b rest ↔ _
  unfold bind
  cases r s with
  | done a mid =>
    simp only [Scan.done.injEq]
    constructor
    · intro h
      exact ⟨a, mid, ⟨rfl, rfl⟩, h⟩
    · rintro ⟨_, _, ⟨rfl, rfl⟩, h⟩
      exact h
  | more => simp
  | bad e => simp

theorem keeps_pure (a : α) : (Pure.pure a : Reader α).Keeps := by
  intro s b rest h
  change Scan.done a s = _ at h
  simp_all

theorem keeps_fail (e : Fault) : (fail e : Reader α).Keeps := by
  intro s b rest h
  simp [fail] at h

theorem Keeps.bind {r : Reader α} {f : α → Reader β} (hr : r.Keeps) (hf : ∀ a, (f a).Keeps) :
    (r >>= f).Keeps := by
  intro s b rest h
  obtain ⟨a, mid, h₁, h₂⟩ := bind_eq_done.1 h
  exact Nat.le_trans (hf a _ _ _ h₂) (hr _ _ _ h₁)

theorem Advances.bind {r : Reader α} {f : α → Reader β} (hr : r.Advances)
    (hf : ∀ a, (f a).Keeps) : (r >>= f).Advances := by
  intro s b rest h
  obtain ⟨a, mid, h₁, h₂⟩ := bind_eq_done.1 h
  exact Nat.lt_of_le_of_lt (hf a _ _ _ h₂) (hr _ _ _ h₁)

theorem limited_eq_done {r : Reader α} {n : Nat} {s rest : Bytes} {a : α} :
    r.limited n s = .done a rest ↔ ∃ mid, r (s.take n) = .done a mid ∧ mid ++ s.drop n = rest := by
  unfold limited
  cases r (s.take n) with
  | done b mid =>
    simp only [Scan.done.injEq]
    constructor
    · rintro ⟨rfl, rfl⟩
      exact ⟨mid, ⟨rfl, rfl⟩, rfl⟩
    · rintro ⟨_, ⟨rfl, rfl⟩, rfl⟩
      exact ⟨rfl, rfl⟩
  | more =>
    simp only [reduceCtorEq, false_and, exists_false, iff_false]
    split <;> exact nofun
  | bad e => simp

theorem Advances.limited {r : Reader α} (h : r.Advances) (n : Nat) : (r.limited n).Advances := by
  intro s a rest hs
  obtain ⟨mid, hr, rfl⟩ := limited_eq_done.1 hs
  have shorter := h _ _ _ hr
  have whole := congrArg List.length (List.take_append_drop n s)
  rw [List.length_append] at whole ⊢
  omega

theorem advances_wordTo (inWord : UInt8 → Bool) (stop : UInt8) (fault : Fault) :
    (wordTo inWord stop fault).Advances := by
  intro s a rest h
  simp only [wordTo] at h
  split at h
  · simp at h
  · next b r hd =>
    split at h
    · obtain ⟨rfl, rfl⟩ := by simpa using h
      have := (List.dropWhile_suffix inWord (l := s)).length_le
      rw [hd] at this
      simp at this
      omega
    · simp at h

theorem advances_lineEnd : lineEnd.Advances := by
  intro s a rest h
  unfold lineEnd at h
  split at h
  · exact nomatch h
  · split at h
    · obtain ⟨-, rfl⟩ := Scan.done.inj h
      exact Nat.lt_succ_self _
    · split at h
      · split at h
        · exact nomatch h
        · split at h
          · obtain ⟨-, rfl⟩ := Scan.done.inj h
            exact Nat.lt_succ_of_lt (Nat.lt_succ_self _)
          · exact nomatch h
      · exact nomatch h

end Reader

end TwinServers.Http
