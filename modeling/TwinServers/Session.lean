import TwinServers.Registry
import TwinServers.Response

/-!
# Sessions

Payloads, handlers and bodies under names, and what can be done with them one step at a time.
Whatever is made from a named thing takes a copy of it, so that handlers outlive their payload and
bodies their handler, and what is done under one name never shows under another. A step that fails
changes nothing.
-/

namespace TwinServers

/-- Everything that has a name. The three kinds of names are kept apart. -/
structure Session where
  payloads : Registry Payload := {}
  handlers : Registry Handler := {}
  bodies : Registry Body := {}

namespace Session

/-- One step of a session. -/
inductive Op
  /-- Builds a payload and names it. -/
  | build (name : String) (template closing : Bytes) (copies units : UInt64)
  /-- Names a new handler for a payload. -/
  | handler (name payload : String) (delivery : Delivery)
  /-- Sets whether a handler declares the length. -/
  | declare (name : String) (value : Bool)
  /-- Names a copy of a handler. -/
  | clone (source name : String)
  /-- Asks whether two handlers have the same delivery. -/
  | compare (name other : String)
  /-- Answers a request and names the body of the response. -/
  | respond (name body : String) (request : Http.Request)
  /-- Reads a frame of a body. -/
  | frame (name : String)
  /-- Reads a body to its end and forgets it. -/
  | collect (name : String)
  /-- Forgets a name of every kind. -/
  | drop (name : String)
  deriving DecidableEq

/-- What a step answers. -/
inductive Answer
  /-- The length of the body that a payload makes. -/
  | bodyLength (n : Nat)
  | delivery (d : Delivery)
  | done
  | flag (b : Bool)
  | response (r : Response)
  /-- A frame, if there was one, and what the body then says about its length. -/
  | frame (frame : Option Bytes) (hint : Hint)
  | content (b : Bytes)
  deriving DecidableEq, Repr

/-- Why a step fails. -/
inductive Failure
  | size (e : SizeError)
  | unknownName
  deriving DecidableEq, Repr

/-- The value under a name that has to be known. -/
def find {α : Type} (r : Registry α) (name : String) : Except Failure α :=
  match r.get? name with
  | some a => .ok a
  | none => .error .unknownName

/-- The answer to a step that succeeds, and the session after it. -/
def advance (s : Session) : Op → Except Failure (Answer × Session)
  | .build name template closing copies units =>
    match Payload.build template closing copies units with
    | .error e => .error (.size e)
    | .ok p => .ok (.bodyLength p.bodyLength, { s with payloads := s.payloads.insert name p })
  | .handler name payload delivery => do
    let payload ← find s.payloads payload
    return (.delivery delivery,
      { s with handlers := s.handlers.insert name { delivery, payload } })
  | .declare name value => do
    let h ← find s.handlers name
    return (.done, { s with handlers := s.handlers.insert name (h.declare value) })
  | .clone source name => do
    let h ← find s.handlers source
    return (.delivery h.delivery, { s with handlers := s.handlers.insert name h })
  | .compare name other => do
    let h ← find s.handlers name
    let h' ← find s.handlers other
    return (.flag (h.delivery == h'.delivery), s)
  | .respond name body request => do
    let h ← find s.handlers name
    let r := h.respond request
    return (.response r, { s with bodies := s.bodies.insert body r.body })
  | .frame name => do
    let b ← find s.bodies name
    match b.next? with
    | some (frame, rest) =>
      return (.frame (some frame) rest.hint, { s with bodies := s.bodies.insert name rest })
    | none => return (.frame none b.hint, s)
  | .collect name => do
    let b ← find s.bodies name
    return (.content b.content, { s with bodies := s.bodies.erase name })
  | .drop name =>
    .ok (.flag (s.payloads.contains name || s.handlers.contains name || s.bodies.contains name),
      { payloads := s.payloads.erase name
        handlers := s.handlers.erase name
        bodies := s.bodies.erase name })

/-- One step: its answer or failure, and the session after it. -/
def step (s : Session) (op : Op) : Except Failure Answer × Session :=
  match s.advance op with
  | .ok (answer, s') => (.ok answer, s')
  | .error e => (.error e, s)

/-- The answers to a list of steps. -/
def run (s : Session) : List Op → List (Except Failure Answer)
  | [] => []
  | op :: ops => (s.step op).1 :: (s.step op).2.run ops

/-- The session after a list of steps. -/
def after (s : Session) (ops : List Op) : Session := ops.foldl (fun s op => (s.step op).2) s

end Session

end TwinServers
