import TwinServers.Http.Intake

/-!
# Reading responses

The other end of a connection: what a client makes of the bytes that a server sends, when none of
its requests was a `HEAD` or a `CONNECT`. `Reader.message` reads one response, with the body put
together again, and `messages?` splits all that was received into responses with nothing left over.
The body ends where the transfer coding says so, else after the length, else with the connection.
-/

namespace TwinServers.Http

/-- A response as a client reads it. -/
structure Message where
  status : Nat
  headers : List Header
  body : Bytes
  deriving DecidableEq, Repr

/-- The value of a hexadecimal digit of either case. -/
def hexValue? (b : UInt8) : Option Nat :=
  if 0x30 ≤ b ∧ b ≤ 0x39 then some (b.toNat - 0x30)
  else if 0x41 ≤ b ∧ b ≤ 0x46 then some (b.toNat - 0x41 + 10)
  else if 0x61 ≤ b ∧ b ≤ 0x66 then some (b.toNat - 0x61 + 10)
  else none

/-- The number that a row of hexadecimal digits stands for. -/
def hexNumber (digits : Bytes) : Nat :=
  digits.foldl (fun n b => n * 16 + (hexValue? b).getD 0) 0

namespace Reader

/-- Reads the given number of bytes. -/
def exactly (n : Nat) : Reader Bytes := fun s =>
  if n ≤ s.length then .done (s.take n) (s.drop n) else .more

/-- Reads all there is. -/
def toEnd : Reader Bytes := fun s => .done s []

/-- Reads a status line and gives the status. -/
def statusLine : Reader Nat := do
  let _version ← wordTo (· != sp) sp .header
  let digits ← wordTo (· != sp) sp .header
  let _reason ← spanOf isValueByte
  lineEnd
  match decimalNumber? digits with
  | some status => return status
  | none => fail .header

/-- Reads the line in front of a chunk and gives the length of the chunk. Extensions are passed
over. -/
def chunkLength : Reader Nat := do
  let digits ← spanOf fun b => (hexValue? b).isSome
  let _extensions ← spanOf isValueByte
  lineEnd
  if digits = [] then fail .header else return hexNumber digits

/-- Reads a chunk: its content, or nothing for the last one. -/
def chunk : Reader (Option Bytes) := do
  let n ← chunkLength
  if n = 0 then
    let _trailers ← headers maxHeaders
    return none
  else
    let content ← exactly n
    lineEnd
    return some content

theorem keeps_exactly (n : Nat) : (exactly n).Keeps := by
  intro s a rest h
  simp only [exactly] at h
  split at h
  · obtain ⟨-, rfl⟩ := Scan.done.inj h
    simp only [List.length_drop]
    omega
  · exact nomatch h

theorem advances_chunkLength : chunkLength.Advances := by
  intro s n rest h
  obtain ⟨digits, mid, h₁, h₂⟩ := bind_eq_done.1 h
  refine Nat.lt_of_lt_of_le ?_ (keeps_spanOf _ _ _ _ h₁)
  obtain ⟨_, mid', h₃, h₄⟩ := bind_eq_done.1 h₂
  refine Nat.lt_of_lt_of_le ?_ (keeps_spanOf _ _ _ _ h₃)
  refine (advances_lineEnd.bind fun _ => ?_) _ _ _ h₄
  split
  · exact keeps_fail _
  · exact keeps_pure _

theorem advances_chunk : chunk.Advances :=
  advances_chunkLength.bind fun n => by
    split
    · exact (keeps_headers _).bind fun _ => keeps_pure _
    · exact (keeps_exactly _).bind fun _ => advances_lineEnd.keeps.bind fun _ => keeps_pure _

/-- Reads chunks up to the last one and gives their contents in a row. -/
def readChunks (s : Bytes) : Scan Bytes :=
  match h : chunk s with
  | .more => .more
  | .bad e => .bad e
  | .done none rest => .done [] rest
  | .done (some content) rest =>
    have := advances_chunk _ _ _ h
    match readChunks rest with
    | .done body rest => .done (content ++ body) rest
    | .more => .more
    | .bad e => .bad e
termination_by s.length

/-- Reads a chunked body. -/
def chunkedBody : Reader Bytes := fun s => readChunks s

/-- Reads the body that comes after header lines. -/
def bodyAfter (headers : List Header) : Reader Bytes :=
  match headers.filter (·.named "transfer-encoding") with
  | [] =>
    match headers.filter (·.named "content-length") with
    | [] => toEnd
    | h :: others =>
      match decimalNumber? h.value with
      | some n => if others.all (·.value == h.value) then exactly n else fail .length
      | none => fail .length
  | h :: others =>
    if endsWithItem ((h :: others).getLast (by simp)).value "chunked" then chunkedBody else toEnd

/-- Reads a response. -/
def message : Reader Message := do
  let status ← statusLine
  let headers ← headers maxHeaders
  let body ← bodyAfter headers
  return { status, headers, body }

theorem keeps_toEnd : toEnd.Keeps := by
  intro s a rest h
  obtain ⟨-, rfl⟩ := Scan.done.inj h
  exact Nat.zero_le _

theorem keeps_chunkedBody : chunkedBody.Keeps := by
  intro s body rest h
  change readChunks s = _ at h
  induction hn : s.length using Nat.strongRecOn generalizing s body with
  | ind n ih =>
    rw [readChunks] at h
    split at h
    · exact nomatch h
    · exact nomatch h
    · next mid hc =>
      obtain ⟨-, rfl⟩ := Scan.done.inj h
      exact hn ▸ advances_chunk.keeps _ _ _ hc
    · next content mid hc =>
      have hlt := advances_chunk _ _ _ hc
      split at h
      · next body' rest' hb =>
        obtain ⟨-, rfl⟩ := Scan.done.inj h
        exact Nat.le_trans (ih _ (hn ▸ hlt) _ _ hb rfl) (hn ▸ Nat.le_of_lt hlt)
      · exact nomatch h
      · exact nomatch h

theorem keeps_bodyAfter (headers : List Header) : (bodyAfter headers).Keeps := by
  unfold bodyAfter
  split
  · split
    · exact keeps_toEnd
    · split
      · split
        · exact keeps_exactly _
        · exact keeps_fail _
      · exact keeps_fail _
  · split
    · exact keeps_chunkedBody
    · exact keeps_toEnd

theorem advances_statusLine : statusLine.Advances :=
  (advances_wordTo _ _ _).bind fun _ => (advances_wordTo _ _ _).keeps.bind fun _ =>
    (keeps_spanOf _).bind fun _ => advances_lineEnd.keeps.bind fun _ => by
      split
      · exact keeps_pure _
      · exact keeps_fail _

theorem advances_message : message.Advances :=
  advances_statusLine.bind fun _ => (keeps_headers _).bind fun _ =>
    (keeps_bodyAfter _).bind fun _ => keeps_pure _

end Reader

/-- The responses that a byte string consists of. -/
def messages? (s : Bytes) : Option (List Message) :=
  if s = [] then some []
  else
    match h : Reader.message s with
    | .done m rest =>
      have := Reader.advances_message _ _ _ h
      (messages? rest).map (m :: ·)
    | _ => none
termination_by s.length

end TwinServers.Http
