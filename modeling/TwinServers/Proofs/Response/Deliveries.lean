import TwinServers.Proofs.Response.Frames
import TwinServers.Proofs.Server.Pair

/-!
# The two deliveries

Whatever is asked and whether or not the length is declared, a handler that delivers unit by unit
and one that delivers all at once send the same bytes. `same_body` says which bytes these are and
how many, for every payload that can be built, and that a pair of servers sends those of its
settings.

A delivery hands over pieces and passes over the empty ones, so which frames there are depends on
which of the unit, the whole and the closing line are empty: `frames_body_chunked` and
`frames_body_bulk`. Unit by unit there is a frame more than there are units only if no piece is
empty (`length_frames_body_chunked_eq_iff`). `pieces_are_sent_in_turn` says all this of the body of
every response, with the reads that give the frames.
-/

namespace TwinServers

/-! ## The same bytes -/

/-- **Both deliveries send the same body**: all the copies of the template and then the closing
line, as many bytes as the payload says. So do both servers of a pair. -/
theorem same_body :
    (∀ (template closing : Bytes) (copies units : UInt64) (p : Payload),
      Payload.build template closing copies units = .ok p →
      ∀ (declares declares' : Bool) (request request' : Http.Request),
        let chunked := (Handler.mk .chunked p declares).respond request
        let bulk := (Handler.mk .bulk p declares').respond request'
        chunked.body.frames.flatten = bulk.body.frames.flatten ∧
        chunked.body.frames.flatten =
          (List.replicate (copies.toNat * units.toNat) template).flatten ++ closing ∧
        chunked.body.frames.flatten.length = p.bodyLength) ∧
    ∀ (net : Network) (s : Settings) (k k' : Kernel) (pair : ServerPair),
      (ServerPair.bind net s).run k = .ok pair k' →
      ∃ p, s.payload = .ok p ∧ ∀ (d : Delivery) (request : Http.Request),
        let body := ((pair.server d).handler.respond request).body
        (pair.server d).handler.delivery = d ∧
        body.frames.flatten =
          (List.replicate (s.copies.toNat * s.units.toNat) Payload.standardTemplate).flatten ++
            Payload.standardClosing ∧
        body.frames.flatten.length = p.bodyLength := by
  constructor
  · intro template closing copies units p hbuild declares declares' request request'
    have hp := Payload.build_eq_ok_iff.1 hbuild
    have hchunked : (p.body .chunked).frames.flatten = _ := Payload.content_body hp .chunked
    have hbulk : (p.body .bulk).frames.flatten = _ := Payload.content_body hp .bulk
    refine ⟨hchunked.trans hbulk.symm, ?_, Payload.length_content_body hp .chunked⟩
    rw [← Bytes.copies_eq_flatten]
    exact hchunked
  · intro net s k k' pair hbind
    obtain ⟨p, hpayload, hhandler⟩ := ServerPair.payload_of_bind hbind
    have hp := Payload.build_eq_ok_iff.1 hpayload
    refine ⟨p, hpayload, fun d request => ?_⟩
    rw [hhandler d]
    refine ⟨rfl, ?_, Payload.length_content_body hp d⟩
    rw [← Bytes.copies_eq_flatten]
    exact Payload.content_body hp d

theorem same_body_of_small_payload :
    (∃ p, Payload.build [0x68, 0x6f] [0x21] 2 3 = .ok p ∧
      ((Handler.mk .chunked p true).respond ⟨[], [], .http11, []⟩).body.frames.flatten =
        [0x68, 0x6f, 0x68, 0x6f, 0x68, 0x6f, 0x68, 0x6f, 0x68, 0x6f, 0x68, 0x6f, 0x21]) ∧
    ∃ pair k p, (ServerPair.bind .loopback { copies := 0, units := 7 }).run {} = .ok pair k ∧
      Settings.payload { copies := 0, units := 7 } = .ok p ∧
      ((pair.server .bulk).handler.respond ⟨[], [], .http10, []⟩).body.frames.flatten =
        Payload.standardClosing := by
  constructor
  · have bodies := same_body.1 [0x68, 0x6f] [0x21] 2 3 _ rfl true false
    exact ⟨_, rfl, (bodies _ ⟨[], [], .http11, []⟩).2.1⟩
  · obtain ⟨p, hp, hbody⟩ :=
      same_body.2 .loopback { copies := 0, units := 7 } {} _ _ rfl
    exact ⟨_, _, p, rfl, hp, (hbody .bulk _).2.1⟩

/-! ## Piece by piece -/

theorem Bytes.filter_not_isEmpty_replicate (n : Nat) (b : Bytes) :
    (List.replicate n b).filter (fun piece => !piece.isEmpty) =
      if b = [] then [] else List.replicate n b := by
  cases b with
  | nil => exact List.filter_replicate_of_neg (by simp)
  | cons x b => exact List.filter_replicate_of_pos (by simp)

theorem Bytes.filter_not_isEmpty_singleton (b : Bytes) :
    [b].filter (fun piece => !piece.isEmpty) = if b = [] then [] else [b] :=
  filter_not_isEmpty_replicate 1 b

namespace Payload

theorem frames_body_chunked (p : Payload) :
    (p.body .chunked).frames =
      (if p.unit = [] then [] else List.replicate p.units.toNat p.unit) ++
        if p.closing = [] then [] else [p.closing] := by
  rw [frames_body, pieces, List.filter_append, Bytes.filter_not_isEmpty_replicate,
    Bytes.filter_not_isEmpty_singleton]

theorem frames_body_bulk (p : Payload) :
    (p.body .bulk).frames =
      if p.whole = [] ∧ p.closing = [] then [] else [p.whole ++ p.closing] := by
  rw [frames_body, pieces, Bytes.filter_not_isEmpty_singleton]
  simp only [List.append_eq_nil_iff]

/-- There is a frame for each unit and one more only if none of them is passed over. -/
theorem length_frames_body_chunked_eq_iff (p : Payload) :
    (p.body .chunked).frames.length = p.units.toNat + 1 ↔
      p.closing ≠ [] ∧ (p.unit ≠ [] ∨ p.units = 0) := by
  have hzero : p.units = 0 ↔ p.units.toNat = 0 := by
    rw [← UInt64.toNat_inj]
    rfl
  rw [frames_body_chunked, List.length_append, hzero]
  by_cases hunit : p.unit = [] <;> by_cases hclosing : p.closing = [] <;>
    simp [hunit, hclosing]

/-- **The pieces of a payload are sent in turn, and no empty one.** A body that is read unit by unit
gives every unit and then the closing line, one that is read at once gives them together, and after
that a body gives nothing any more. -/
theorem pieces_are_sent_in_turn :
    (∀ (p : Payload) (declares : Bool) (request : Http.Request),
      let chunked := ((Handler.mk .chunked p declares).respond request).body
      let bulk := ((Handler.mk .bulk p declares).respond request).body
      chunked.frames =
        (if p.unit = [] then [] else List.replicate p.units.toNat p.unit) ++
          (if p.closing = [] then [] else [p.closing]) ∧
      bulk.frames = (if p.whole = [] ∧ p.closing = [] then [] else [p.whole ++ p.closing]) ∧
      (chunked.frames.length = p.units.toNat + 1 ↔
        p.closing ≠ [] ∧ (p.unit ≠ [] ∨ p.units = 0))) ∧
    ∀ body : Body, (∀ frame ∈ body.frames, frame ≠ []) ∧
      ∀ read : Nat, (Body.rest^[read] body).next?.map Prod.fst = body.frames[read]? := by
  constructor
  · intro p declares request
    exact ⟨p.frames_body_chunked, p.frames_body_bulk, p.length_frames_body_chunked_eq_iff⟩
  · intro body
    exact ⟨body.ne_nil_of_mem_frames, body.map_fst_next?_iterate_rest⟩

theorem pieces_are_sent_in_turn_of_empty_unit :
    let request : Http.Request := { method := [], target := [], version := .http11, headers := [] }
    let p : Payload := { unit := [], whole := [], closing := [0x21], units := 0xffffffffffffffff }
    let body := ((Handler.mk .chunked p false).respond request).body
    body.frames = [[0x21]] ∧ body.frames.length ≠ p.units.toNat + 1 ∧
      ([0x21] ∈ body.frames ∧ ([0x21] : Bytes) ≠ []) ∧
      body.next?.map Prod.fst = some [0x21] ∧ (Body.rest body).next?.map Prod.fst = none := by
  intro request p body
  obtain ⟨hframes, -, hcount⟩ := pieces_are_sent_in_turn.1 p false request
  obtain ⟨hne, hreads⟩ := pieces_are_sent_in_turn.2 body
  have hbody : body.frames = [[0x21]] := hframes
  have hmem : [0x21] ∈ body.frames := by rw [hbody]; exact List.mem_singleton_self _
  refine ⟨hbody, fun h => absurd (hcount.1 h) (by decide), ⟨hmem, hne _ hmem⟩, ?_, ?_⟩
  · exact (hreads 0).trans (by rw [hbody]; rfl)
  · exact (hreads 1).trans (by rw [hbody]; rfl)

end Payload

end TwinServers
