import TwinServers.Bytes

/-!
# The payload

Both servers send one body: a template, written many times, and a closing line. `Payload.build`
prepares it twice over, once as the unit that is written again and again and once as the whole,
under the limits of 64-bit counts: a text has fewer than `2 ^ 63` bytes and a count is below
`2 ^ 64`. The limits are on exact products, and the first one that is passed is reported.
-/

namespace TwinServers

/-- Why a payload cannot be built. -/
inductive SizeError
  /-- A repetition would need `2 ^ 63` bytes or more. -/
  | capacity
  /-- The number of template copies in the whole body is `2 ^ 64` or more. -/
  | product
  deriving DecidableEq, Repr

/-- The text of a size error. -/
def SizeError.message : SizeError → String
  | .capacity => "capacity overflow"
  | .product => "attempt to multiply with overflow"

/-- A text is shorter than `2 ^ 63` bytes. -/
def textLimit : Nat := UInt64.size / 2

/-- The template written `n` times, if that fits. -/
def repetition (template : Bytes) (n : UInt64) : Except SizeError Bytes :=
  if template.length * n.toNat < textLimit then .ok (template.copies n.toNat) else .error .capacity

/-- The parts of a body, prepared once and shared by every response. -/
structure Payload where
  /-- The piece that is written `units` times when the body is sent in pieces. -/
  unit : Bytes
  /-- All the units in a row. -/
  whole : Bytes
  /-- The closing line. -/
  closing : Bytes
  /-- The number of units in a body. -/
  units : UInt64
  deriving DecidableEq, Repr

namespace Payload

/-- The template of the standard payload. -/
def standardTemplate : Bytes :=
  Bytes.latin "This is the first part before we finish. A string te repeated soo man times\n"

/-- The closing line of the standard payload. -/
def standardClosing : Bytes := Bytes.latin "This is the finish line of the response.\n"

/-- A unit of `copies` templates, the whole of `copies * units` templates and the closing line. The
unit is made first, then the product, then the whole. -/
def build (template closing : Bytes) (copies units : UInt64) : Except SizeError Payload := do
  let unit ← repetition template copies
  if copies.toNat * units.toNat < UInt64.size then
    let whole ← repetition template (copies * units)
    return { unit, whole, closing, units }
  else
    throw .product

/-- The length of the body, by whichever way it is delivered. -/
def bodyLength (p : Payload) : Nat := p.units.toNat * p.unit.length + p.closing.length

end Payload

end TwinServers
