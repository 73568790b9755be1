import Mathlib.Logic.Function.Iterate
import TwinServers.Proofs.Payload.Build
import TwinServers.Response

/-!
# The frames of a body

The frames of a body are the pieces of its delivery in order, less the empty ones: `frames_body`.
Reading passes over a piece only when it is empty, so both deliveries of a payload that was built
carry the same bytes, the template over and over and then the closing line (`content_body`), and as
many as the payload says (`length_content_body`).

`Body.rest` is a body after one more read. The frame that a read gives is the first of those that
are left (`map_fst_next?`), and what is left after any number of reads are the frames without as
many in front (`frames_iterate_rest`), so reads give the frames one after the other and then nothing
any more (`map_fst_next?_iterate_rest`). Reads at the end change nothing. What holds of a read holds
of all of them by `readInduction`; above all no frame is empty (`ne_nil_of_mem_frames`).
-/

namespace TwinServers

namespace Body

/-! ## Reads -/

/-- What is left of a body after its next frame is read. At its end it stays as it is. -/
def rest (b : Body) : Body := (b.next?.map Prod.snd).getD b

theorem map_fst_next? (b : Body) : b.next?.map Prod.fst = b.frames.head? := by
  cases h : b.next? with
  | none => rw [frames_eq_nil h]; rfl
  | some next => rw [frames_eq_cons h]; rfl

theorem frames_rest (b : Body) : b.rest.frames = b.frames.tail := by
  rw [rest]
  cases h : b.next? with
  | none => rw [Option.map_none, Option.getD_none, frames_eq_nil h]; rfl
  | some next => rw [frames_eq_cons h]; rfl

/-- **Any number of reads take as many frames from the front.** -/
theorem frames_iterate_rest (b : Body) (n : Nat) : (rest^[n] b).frames = b.frames.drop n := by
  induction n with
  | zero => rfl
  | succ n ih => rw [Function.iterate_succ_apply', frames_rest, ih, List.tail_drop]

/-- Each read gives the frame of its turn, and every read after the last frame gives nothing. -/
theorem map_fst_next?_iterate_rest (b : Body) (n : Nat) :
    (rest^[n] b).next?.map Prod.fst = b.frames[n]? := by
  rw [map_fst_next?, frames_iterate_rest, List.head?_drop]

/-! ## From a read to all reads -/

/-- Induction along the reads: a body is at its end, or a read gives a frame and leaves a body. -/
@[elab_as_elim]
theorem readInduction {motive : Body → Prop} (atEnd : ∀ b, b.next? = none → motive b)
    (read : ∀ b frame b', b.next? = some (frame, b') → motive b' → motive b) (b : Body) :
    motive b := by
  induction hn : b.bound using Nat.strongRecOn generalizing b with
  | ind n ih =>
    cases h : b.next? with
    | none => exact atEnd b h
    | some next => exact read b _ _ h (ih _ (hn ▸ bound_lt_of_next? h) _ rfl)

/-- A read never gives an empty frame. -/
theorem ne_nil_of_next? {b b' : Body} {frame : Bytes} (h : b.next? = some (frame, b')) :
    frame ≠ [] := by
  match b, h with
  | .units (c :: unit) (left + 1) closing, h =>
    obtain ⟨rfl, -⟩ := by simpa [next?] using h
    exact List.cons_ne_nil _ _
  | .units [] left (c :: closing), h =>
    obtain ⟨rfl, -⟩ := by simpa [next?] using h
    exact List.cons_ne_nil _ _
  | .units (d :: unit) 0 (c :: closing), h =>
    obtain ⟨rfl, -⟩ := by simpa [next?] using h
    exact List.cons_ne_nil _ _
  | .whole (c :: content), h =>
    obtain ⟨rfl, -⟩ := by simpa [next?] using h
    exact List.cons_ne_nil _ _

/-- **No frame of a body is empty.** -/
theorem ne_nil_of_mem_frames (b : Body) : ∀ frame ∈ b.frames, frame ≠ [] := by
  induction b using readInduction with
  | atEnd b h =>
    rw [frames_eq_nil h]
    exact fun _ hframe => absurd hframe List.not_mem_nil
  | read b first b' h ih =>
    rw [frames_eq_cons h]
    exact List.forall_mem_cons.2 ⟨ne_nil_of_next? h, ih⟩

/-! ## Each delivery -/

theorem frames_whole (content : Bytes) :
    (whole content).frames = [content].filter fun piece => !piece.isEmpty := by
  cases content with
  | nil => exact frames_eq_nil rfl
  | cons b content =>
    have first : (whole (b :: content)).next? = some (b :: content, whole []) := rfl
    rw [frames_eq_cons first, frames_eq_nil rfl]
    rfl

theorem content_whole (content : Bytes) : (whole content).content = content := by
  rw [Body.content, frames_whole, List.flatten_filter_not_isEmpty, List.flatten_singleton]

private theorem frames_closing (unit closing : Bytes) :
    (units unit 0 closing).frames = [closing].filter fun piece => !piece.isEmpty := by
  cases closing with
  | nil => exact frames_eq_nil (by cases unit <;> rfl)
  | cons b closing =>
    have first : (units unit 0 (b :: closing)).next? = some (b :: closing, units unit 0 []) := by
      cases unit <;> rfl
    rw [frames_eq_cons first, frames_eq_nil (by cases unit <;> rfl)]
    rfl

/-- A run of units gives every unit and then the closing piece, less the empty ones. -/
theorem frames_units (unit : Bytes) (left : Nat) (closing : Bytes) :
    (units unit left closing).frames =
      (List.replicate left unit ++ [closing]).filter fun piece => !piece.isEmpty := by
  cases unit with
  | nil =>
    -- a unit that is empty is never read, however many are left
    have skip : (units [] left closing).next? = (units [] 0 closing).next? := by
      cases left <;> rfl
    have same : (units [] left closing).frames = (units [] 0 closing).frames := by
      cases h : (units [] 0 closing).next? with
      | none => rw [frames_eq_nil h, frames_eq_nil (skip.trans h)]
      | some next => rw [frames_eq_cons h, frames_eq_cons (skip.trans h)]
    rw [same, frames_closing, List.filter_append, List.filter_replicate_of_neg (by simp),
      List.nil_append]
  | cons b unit =>
    induction left with
    | zero => exact frames_closing (b :: unit) closing
    | succ left ih =>
      have first : (units (b :: unit) (left + 1) closing).next? =
          some (b :: unit, units (b :: unit) left closing) := rfl
      rw [frames_eq_cons first, ih, List.replicate_succ, List.cons_append,
        List.filter_cons_of_pos (by simp)]

end Body

namespace Payload

/-- The pieces that a delivery hands over. -/
def pieces (p : Payload) : Delivery → List Bytes
  | .chunked => List.replicate p.units.toNat p.unit ++ [p.closing]
  | .bulk => [p.whole ++ p.closing]

theorem frames_body (p : Payload) (d : Delivery) :
    (p.body d).frames = (p.pieces d).filter fun piece => !piece.isEmpty := by
  cases d with
  | chunked => exact Body.frames_units ..
  | bulk => exact Body.frames_whole _

theorem content_body_eq_flatten (p : Payload) (d : Delivery) :
    (p.body d).content = (p.pieces d).flatten := by
  rw [Body.content, frames_body, List.flatten_filter_not_isEmpty]

variable {template closing : Bytes} {copies units : UInt64} {p : Payload}

/-- **Both deliveries carry the same bytes.** -/
theorem content_body (h : p.BuiltFrom template closing copies units) (d : Delivery) :
    (p.body d).content = template.copies (copies.toNat * units.toNat) ++ closing := by
  rw [content_body_eq_flatten, ← h.whole_eq, ← h.closing_eq]
  cases d with
  | chunked =>
    rw [pieces, List.flatten_append, ← Bytes.copies_eq_flatten, h.copies_unit,
      List.flatten_singleton]
  | bulk => exact List.flatten_singleton

theorem length_content_body (h : p.BuiltFrom template closing copies units) (d : Delivery) :
    (p.body d).content.length = p.bodyLength := by
  rw [content_body h, ← h.whole_eq, ← h.closing_eq, List.length_append, h.bodyLength_eq]

end Payload

end TwinServers
