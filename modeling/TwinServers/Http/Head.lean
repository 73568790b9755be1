import TwinServers.Http.Reader
import TwinServers.Http.Target

/-!
# Reading the head of a request

`head` reads a request line and header lines up to the empty line that ends them, after any empty
lines in front. Faults are found at the first byte that cannot be part of a head, also in a head
that is still incomplete; the target as a whole is judged when the head is complete. A head has to
be complete within `maxHead` bytes. `advances_head`: a head that is done has used up some of what
had arrived.
-/

namespace TwinServers.Http

/-- Whether the byte can stand in a method or in the name of a header. The grave accent is written
by its number. -/
def isToken (b : UInt8) : Bool :=
  Target.isAlphanumeric b || Target.isOneOf "!#$%&'*+-.^_|~\x60" b

/-- Whether the byte can stand in the value of a header. -/
def isValueByte (b : UInt8) : Bool := b == 0x09 || (0x20 ≤ b && b != 0x7f)

/-- The greatest number of header lines. -/
def maxHeaders : Nat := 100

/-- The greatest length of a target. -/
def maxTarget : Nat := 65534

/-- The greatest length of a head: what a connection keeps of an unread message. -/
def maxHead : Nat := 8192 + 4096 * 100

namespace Reader

/-- Reads all the bytes of a kind that come next. -/
def spanOf (p : UInt8 → Bool) : Reader Bytes := fun s => .done (s.takeWhile p) (s.dropWhile p)

/-- Passes over empty lines. -/
def skipEmptyLines : Bytes → Scan Unit
  | [] => .more
  | [b] => if b = lf ∨ b = cr then .more else .done () [b]
  | b :: c :: rest =>
    if b = lf then skipEmptyLines (c :: rest)
    else if b = cr then
      if c = lf then skipEmptyLines rest else .bad .header
    else .done () (b :: c :: rest)

/-- Passes the empty lines in front of a head. -/
def emptyLines : Reader Unit := fun s => skipEmptyLines s

/-- Finds fault with a target that is too long or is none. -/
def judge (target : Bytes) : Reader Unit :=
  if maxTarget < target.length then fail .targetTooLong
  else if Target.valid target then return () else fail .target

/-- Reads a version. -/
def version : Reader Version := fun s =>
  let http11 := Bytes.latin Version.http11.text
  let http10 := Bytes.latin Version.http10.text
  if http11.isPrefixOf s then .done .http11 (s.drop http11.length)
  else if http10.isPrefixOf s then .done .http10 (s.drop http10.length)
  else if s.isPrefixOf http11 || s.isPrefixOf http10 then .more
  else .bad .version

/-- Reads a header line. -/
def headerLine : Reader Header := do
  let name ← wordTo isToken 0x3a .header
  let value ← spanOf isValueByte
  lineEnd
  return { name, value := trim value }

/-- Reads the empty line that ends a head, or goes on with `lines` where a header line begins. -/
def untilEmptyLine (lines : Reader (List Header)) : Reader (List Header) := fun s =>
  match s with
  | [] => .more
  | b :: _ =>
    if b = cr ∨ b = lf then (do lineEnd; return [] : Reader (List Header)) s
    else if isToken b then lines s
    else .bad .header

/-- Reads at most so many header lines, and the empty line after them. -/
def headers : Nat → Reader (List Header)
  | 0 => untilEmptyLine (fail .tooLarge)
  | n + 1 => untilEmptyLine do
    let h ← headerLine
    let hs ← headers n
    return h :: hs

/-- Reads the first line of a request, with its end. -/
def requestLine : Reader Request := do
  let method ← wordTo isToken sp .method
  let target ← wordTo Target.isByte sp .target
  let version ← version
  lineEnd
  return { method, target, version, headers := [] }

/-- Reads the head of a request, whatever its length. -/
def headOfAnyLength : Reader Request := do
  emptyLines
  let request ← requestLine
  let headers ← headers maxHeaders
  judge request.target
  return { request with headers }

/-- Reads the head of a request. -/
def head : Reader Request := headOfAnyLength.limited maxHead

theorem keeps_spanOf (p : UInt8 → Bool) : (spanOf p).Keeps := by
  intro s a rest h
  obtain ⟨-, rfl⟩ := by simpa [spanOf] using h
  exact (List.dropWhile_suffix p (l := s)).length_le

theorem keeps_emptyLines : emptyLines.Keeps := by
  intro s a rest h
  change skipEmptyLines s = _ at h
  fun_induction skipEmptyLines s <;> simp_all <;> omega

theorem keeps_judge (target : Bytes) : (judge target).Keeps := by
  unfold judge
  split
  · exact keeps_fail _
  · split
    · exact keeps_pure _
    · exact keeps_fail _

theorem keeps_version : version.Keeps := by
  intro s a rest h
  simp only [version] at h
  split at h
  · obtain ⟨-, rfl⟩ := by simpa using h
    simp
  · split at h
    · obtain ⟨-, rfl⟩ := by simpa using h
      simp
    · split at h <;> simp at h

theorem advances_headerLine : headerLine.Advances :=
  (advances_wordTo _ _ _).bind fun _ => (keeps_spanOf _).bind fun _ =>
    advances_lineEnd.keeps.bind fun _ => keeps_pure _

theorem keeps_untilEmptyLine {lines : Reader (List Header)} (h : lines.Keeps) :
    (untilEmptyLine lines).Keeps := by
  intro s a rest hs
  simp only [untilEmptyLine] at hs
  split at hs
  · simp at hs
  · split at hs
    · exact (advances_lineEnd.keeps.bind fun _ => keeps_pure _) _ _ _ hs
    · split at hs
      · exact h _ _ _ hs
      · simp at hs

theorem keeps_headers : ∀ n, (headers n).Keeps
  | 0 => keeps_untilEmptyLine (keeps_fail _)
  | n + 1 => keeps_untilEmptyLine (advances_headerLine.keeps.bind fun _ =>
      (keeps_headers n).bind fun _ => keeps_pure _)

theorem advances_requestLine : requestLine.Advances :=
  (advances_wordTo _ _ _).bind fun _ => (advances_wordTo _ _ _).keeps.bind fun _ =>
    keeps_version.bind fun _ => advances_lineEnd.keeps.bind fun _ => keeps_pure _

theorem advances_headOfAnyLength : headOfAnyLength.Advances := by
  intro s r rest h
  obtain ⟨_, mid, h₁, h₂⟩ := bind_eq_done.1 h
  refine Nat.lt_of_lt_of_le ?_ (keeps_emptyLines _ _ _ h₁)
  exact (advances_requestLine.bind fun _ => (keeps_headers _).bind fun _ =>
    (keeps_judge _).bind fun _ => keeps_pure _) _ _ _ h₂

theorem advances_head : head.Advances := advances_headOfAnyLength.limited _

end Reader

end TwinServers.Http
