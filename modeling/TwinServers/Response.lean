import TwinServers.Http.Request
import TwinServers.Payload

/-!
# Responses

A handler answers every request with the same payload, in the way of its delivery: unit by unit, or
as one piece. It looks at nothing in the request. When told to, it declares the length of the body.

A body is read frame by frame. What is left of it is either a run of units with a closing piece, or
one piece of known length. `Body.next?` takes the next frame, and no frame it gives is empty: an
empty frame would be taken for the end of a chunked message. `Body.frames` reads to the end, and
`frames_eq_cons` with `frames_eq_nil` is how it goes on from each state.
-/

namespace TwinServers

/-! ## Bodies -/

/-- What is left to read of a response body. -/
inductive Body
  /-- `left` copies of `unit` and then `closing`, with no length announced. -/
  | units (unit : Bytes) (left : Nat) (closing : Bytes)
  /-- One piece, whose length is known. -/
  | whole (content : Bytes)
  deriving DecidableEq, Repr

/-- What a body says about its length before it is read: bounds on the bytes left, and whether it
is known to be at its end. -/
structure Hint where
  lower : Nat
  upper : Option Nat
  atEnd : Bool
  deriving DecidableEq, Repr

namespace Body

/-- The next frame and what is left after it. Empty pieces are passed over. -/
def next? : Body → Option (Bytes × Body)
  | .units unit left closing =>
    match unit, left with
    | b :: unit, left + 1 => some (b :: unit, .units (b :: unit) left closing)
    | unit, _ => if closing.isEmpty then none else some (closing, .units unit 0 [])
  | .whole content => if content.isEmpty then none else some (content, .whole [])

/-- Bounds the number of frames that are left. -/
def bound : Body → Nat
  | .units _ left closing => left + closing.length
  | .whole content => content.length

theorem bound_lt_of_next? {b b' : Body} {frame : Bytes} (h : b.next? = some (frame, b')) :
    b'.bound < b.bound := by
  match b, h with
  | .units (c :: unit) (left + 1) closing, h =>
    obtain ⟨-, rfl⟩ := by simpa [next?] using h
    simp only [bound]
    omega
  | .units [] left (c :: closing), h =>
    obtain ⟨-, rfl⟩ := by simpa [next?] using h
    simp only [bound, List.length_nil, List.length_cons]
    omega
  | .units (d :: unit) 0 (c :: closing), h =>
    obtain ⟨-, rfl⟩ := by simpa [next?] using h
    simp only [bound, List.length_nil, List.length_cons]
    omega
  | .whole (c :: content), h =>
    obtain ⟨-, rfl⟩ := by simpa [next?] using h
    simp only [bound, List.length_nil, List.length_cons]
    omega

/-- Reads to the end: the frames that are left, put behind those read so far, which are kept newest
first, and the body after them. -/
def drainAfter (read : List Bytes) (b : Body) : List Bytes × Body :=
  match h : b.next? with
  | none => (read.reverse, b)
  | some (frame, rest) =>
    have := bound_lt_of_next? h
    drainAfter (frame :: read) rest
termination_by b.bound

/-- All the frames that are left. -/
def frames (b : Body) : List Bytes := (drainAfter [] b).1

/-- The body when all its frames are read. -/
def drained (b : Body) : Body := (drainAfter [] b).2

/-- Everything that is left, as one byte string. -/
def content (b : Body) : Bytes := b.frames.flatten

/-- A run of units never announces its length, not even at its end. A whole knows it exactly. -/
def hint : Body → Hint
  | .units .. => ⟨0, none, false⟩
  | .whole content => ⟨content.length, some content.length, content.isEmpty⟩

theorem drainAfter_eq (read : List Bytes) (b : Body) :
    drainAfter read b = (read.reverse ++ b.frames, b.drained) := by
  induction h : b.bound using Nat.strongRecOn generalizing read b with
  | ind n ih =>
    rw [frames, drained, drainAfter, drainAfter]
    split
    · simp
    · next frame rest hn =>
      have hlt := bound_lt_of_next? hn
      rw [ih _ (h ▸ hlt) _ _ rfl, ih _ (h ▸ hlt) _ _ rfl]
      simp

theorem frames_eq_nil {b : Body} (h : b.next? = none) : b.frames = [] := by
  rw [frames, drainAfter]
  split <;> simp_all

theorem frames_eq_cons {b b' : Body} {frame : Bytes} (h : b.next? = some (frame, b')) :
    b.frames = frame :: b'.frames := by
  rw [frames, drainAfter]
  split
  · simp_all
  · next frame' rest h' =>
    obtain ⟨rfl, rfl⟩ : frame' = frame ∧ rest = b' := by simp_all
    simp [drainAfter_eq]

end Body

/-! ## Handlers -/

/-- How a payload is handed to the connection. -/
inductive Delivery
  /-- Unit by unit and then the closing line, each a frame of its own. -/
  | chunked
  /-- All in one frame. -/
  | bulk
  deriving DecidableEq, Repr

/-- The name of a delivery in logs and answers. -/
def Delivery.text : Delivery → String
  | .chunked => "chunked"
  | .bulk => "bulk"

/-- The body that delivers a payload. -/
def Payload.body (p : Payload) : Delivery → Body
  | .chunked => .units p.unit p.units.toNat p.closing
  | .bulk => .whole (p.whole ++ p.closing)

/-- A response with status 200. -/
structure Response where
  /-- The declared length of the body. -/
  declared : Option Nat
  body : Body
  deriving DecidableEq, Repr

namespace Response

/-- The status of every response. -/
def status : Nat := 200

/-- The header lines that the response itself carries. -/
def headers (r : Response) : List (String × String) :=
  r.declared.toList.map fun n => ("content-length", toString n)

end Response

/-- One of the two ways to answer, with what it answers. -/
structure Handler where
  delivery : Delivery
  payload : Payload
  declares : Bool := false
  deriving DecidableEq, Repr

namespace Handler

/-- The handler with the declaration of the length switched on or off. -/
def declare (h : Handler) (value : Bool) : Handler := { h with declares := value }

/-- The response to a request, whatever it asks. -/
def respond (h : Handler) (_request : Http.Request) : Response where
  declared := if h.declares then some h.payload.bodyLength else none
  body := h.payload.body h.delivery

end Handler

end TwinServers
