import TwinServers.Http.Head
import TwinServers.Http.Rules

/-!
# How requests come in

From the header lines of a request follows how its body is delimited and whether the connection
stays open. The servers never read a body. If all of it has arrived with the head, and is not too
long for that, it is passed over; if not, the connection cannot be used for another request.
`Intake.standard` reads one request after the other in this way. A client that has nothing more to
send still gets the reply to a request if more has arrived behind it, but not to the last one: the
end of what it sends is found first, and the connection is given up.
-/

namespace TwinServers.Http

/-- The parts between the commas of a list. -/
def splitCommas : Bytes → List Bytes
  | [] => [[]]
  | b :: s =>
    if b = 0x2c then [] :: splitCommas s
    else
      match splitCommas s with
      | [] => [[b]]
      | part :: parts => (b :: part) :: parts

/-- The parts of a list with commas, without the blanks around them. -/
def items (s : Bytes) : List Bytes := (splitCommas s).map trim

/-- Whether a value is plain text. The items of any other are not looked at. -/
def isPlainText (s : Bytes) : Bool := s.all fun b => b == 0x09 || (0x20 ≤ b && b < 0x7f)

/-- Whether one of the parts of a list with commas is the given word, in any case. -/
def hasItem (s : Bytes) (word : String) : Bool :=
  isPlainText s && (items s).any fun i => i.lower == Bytes.latin word

/-- Whether the last part of a list with commas is the given word, in any case. -/
def endsWithItem (s : Bytes) (word : String) : Bool :=
  isPlainText s && (items s).getLast?.any fun i => i.lower == Bytes.latin word

/-- The number that a row of decimal digits stands for. -/
def decimalNumber? (s : Bytes) : Option Nat :=
  if s ≠ [] ∧ s.all (fun b => 0x30 ≤ b && b ≤ 0x39) then
    some (s.foldl (fun n b => n * 10 + (b.toNat - 0x30)) 0)
  else none

/-- The same, if it is below `2 ^ 64`. -/
def decimalValue? (s : Bytes) : Option Nat := (decimalNumber? s).filter (· < UInt64.size)

/-- What the header lines read so far say about the body. -/
structure BodyHeaders where
  /-- Whether the last transfer coding is the one that delimits the body, if there is any. -/
  delimited : Option Bool := none
  length : Option Nat := none
  deriving DecidableEq, Repr

/-- The next header line. A length after a transfer coding is passed over. -/
def BodyHeaders.add (version : Version) (b : BodyHeaders) (h : Header) :
    Except Fault BodyHeaders :=
  if h.named "transfer-encoding" then
    if version = .http10 then .error .unexpectedCoding
    else .ok { b with delimited := some (endsWithItem h.value "chunked") }
  else if h.named "content-length" ∧ b.delimited.isNone then
    match decimalValue? h.value with
    | none => .error .length
    | some n =>
      match b.length with
      | some m => if m = n then .ok b else .error .length
      | none => if n < UInt64.size - 2 then .ok { b with length := some n } else .error .tooLarge
  else .ok b

/-- How the body of a request is delimited. -/
inductive RequestBody
  | none
  | ofLength (n : Nat)
  | chunked
  deriving DecidableEq, Repr

/-- The end of a chunked body without content. -/
def lastChunk : Bytes := Bytes.latin "0\r\n\r\n"

/-- The longest body that is passed over: what a connection takes in at once. -/
def maxPassedOver : Nat := 8192

/-- What comes after a body, if all of it has arrived and it can be passed over. A chunked body
counts as arrived only if its first chunk is its last. -/
def RequestBody.after? (arrived : Bytes) : RequestBody → Option Bytes
  | .none => some arrived
  | .ofLength n =>
    if n ≤ arrived.length ∧ n ≤ maxPassedOver then some (arrived.drop n) else Option.none
  | .chunked =>
    if lastChunk.isPrefixOf arrived then some (arrived.drop lastChunk.length) else Option.none

namespace Request

/-- The body that the header lines announce. -/
def body (r : Request) : Except Fault RequestBody := do
  let b ← r.headers.foldlM (BodyHeaders.add r.version) {}
  match b.delimited, b.length with
  | some true, _ => return .chunked
  | some false, _ => throw .unknownCoding
  | none, some (n + 1) => return .ofLength (n + 1)
  | none, _ => return .none

/-- Whether the request has a header line of a name. -/
def hasHeader (r : Request) (name : String) : Bool := r.headers.any (·.named name)

/-- Whether the connection stays open as far as a further header line is concerned, if so far it
does or does not. -/
def keepsAliveAfter (keepAlive : Bool) (h : Header) : Bool :=
  if h.named "connection" then
    if keepAlive then !hasItem h.value "close" else hasItem h.value "keep-alive"
  else keepAlive

/-- Whether the request leaves the connection open. A request with both a transfer coding and a
length is not trusted with another one after it. -/
def keepsAlive (r : Request) : Bool :=
  r.headers.foldl keepsAliveAfter (r.version == .http11) &&
    !(r.hasHeader "transfer-encoding" && r.hasHeader "content-length")

end Request

theorem RequestBody.length_after?_le {body : RequestBody} {arrived rest : Bytes}
    (h : body.after? arrived = some rest) : rest.length ≤ arrived.length := by
  cases body with
  | none => simp [after?] at h; simp [h]
  | ofLength n =>
    obtain ⟨-, rfl⟩ := by simpa [after?] using h
    simp
  | chunked =>
    obtain ⟨-, rfl⟩ := by simpa [after?] using h
    simp

/-! ## Requests one after the other -/

/-- What has arrived on a connection and is not used yet. -/
structure Inbox where
  arrived : Bytes := []
  /-- Whether the client has nothing more to send. -/
  clientDone : Bool := false
  deriving DecidableEq, Repr

/-- What a client of the second version of the protocol begins with. -/
def secondVersionPreface : Bytes := Bytes.latin "PRI * HTTP/2.0\r\n\r\nSM\r\n\r\n"

/-- What has arrived, without the ends of lines in front. -/
def withoutLineEnds (arrived : Bytes) : Bytes := arrived.dropWhile fun b => b == cr || b == lf

/-- The fault of a head: a version that cannot be read may be the second version of the protocol. -/
def faultOfHead (arrived : Bytes) : Fault → Fault
  | .version =>
    if secondVersionPreface.isPrefixOf (withoutLineEnds arrived) then .preface else .version
  | fault => fault

namespace Inbox

/-- What is done about a request, given what has arrived after its head. -/
def turnFor (request : Request) (clientDone : Bool) (arrived : Bytes) : Turn Inbox :=
  match request.body with
  | .error fault => .ends (some fault)
  | .ok body =>
    match body.after? arrived with
    | none => .asks request false {}
    | some later =>
      if clientDone && later.isEmpty then .ends (some .incomplete)
      else .asks request request.keepsAlive { arrived := later, clientDone }

/-- What is done next. A client that leaves in the middle of a head does so before its time. -/
def next (i : Inbox) : Turn Inbox :=
  match Reader.head i.arrived with
  | .more =>
    if !i.clientDone then .waits
    else if withoutLineEnds i.arrived = [] then .ends none
    else .ends (some .incomplete)
  | .bad fault => .ends (some (faultOfHead i.arrived fault))
  | .done request rest => turnFor request i.clientDone rest

/-- What is left after a request is no more than has arrived after its head. -/
theorem length_le_of_turnFor {request request' : Request} {clientDone keepAlive : Bool}
    {arrived : Bytes} {rest : Inbox}
    (h : turnFor request clientDone arrived = .asks request' keepAlive rest) :
    rest.arrived.length ≤ arrived.length := by
  unfold turnFor at h
  split at h
  · exact nomatch h
  · split at h
    · cases h
      exact Nat.zero_le _
    · next hafter =>
      split at h
      · exact nomatch h
      · cases h
        exact RequestBody.length_after?_le hafter

theorem length_lt_of_next {i rest : Inbox} {request : Request} {keepAlive : Bool}
    (h : i.next = .asks request keepAlive rest) : rest.arrived.length < i.arrived.length := by
  unfold next at h
  split at h
  · split at h
    · exact nomatch h
    · split at h <;> exact nomatch h
  · exact nomatch h
  · next hread =>
    exact Nat.lt_of_le_of_lt (length_le_of_turnFor h) (Reader.advances_head _ _ _ hread)

end Inbox

/-- Requests are read from what has arrived, one after the other. -/
abbrev Intake.standard : Intake where
  State := Inbox
  start := {}
  receive i sent done := { arrived := i.arrived ++ sent, clientDone := i.clientDone || done }
  next := Inbox.next
  size i := i.arrived.length
  size_lt := Inbox.length_lt_of_next

end TwinServers.Http
