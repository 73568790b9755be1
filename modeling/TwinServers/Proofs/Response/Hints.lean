import TwinServers.Proofs.Response.Frames

/-!
# What a body says of its length

A body that is asked for its length while it is read answers with a hint. `Hint.SoundFor` says of a
hint that it is right about the frames that are left, and every body gives such a hint of itself
(`Body.soundFor_hint`). A read changes what is left but not the kind of the body (`isWhole_rest`),
so a body that is read at once tells its length exactly at every point, and one that is read unit by
unit never tells anything. `hints_are_sound_at_every_read` says so of the body of every response.
-/

namespace TwinServers

/-- Whether a hint is right about the frames that are left: their bytes are within its bounds, and
it tells of the end only when there are none. -/
structure Hint.SoundFor (h : Hint) (left : List Bytes) : Prop where
  lower_le : h.lower ≤ left.flatten.length
  le_upper : ∀ n, h.upper = some n → left.flatten.length ≤ n
  eq_nil_of_atEnd : h.atEnd = true → left = []

namespace Body

/-- Whether a body is one piece, whose length is known. -/
def isWhole : Body → Bool
  | .units .. => false
  | .whole _ => true

theorem hint_of_not_isWhole {b : Body} (h : b.isWhole = false) : b.hint = ⟨0, none, false⟩ := by
  cases b with
  | units unit left closing => rfl
  | whole content => exact nomatch h

/-- A body of one piece knows exactly what is left of it. -/
theorem hint_of_isWhole {b : Body} (h : b.isWhole) :
    b.hint = ⟨b.content.length, some b.content.length, b.content.isEmpty⟩ := by
  cases b with
  | units unit left closing => exact nomatch h
  | whole content => rw [content_whole]; rfl

/-- There is nothing to read exactly when there are no frames, since none of them is empty. -/
theorem frames_eq_nil_of_content {b : Body} (h : b.content = []) : b.frames = [] := by
  refine List.eq_nil_iff_forall_not_mem.2 fun frame hframe => ?_
  exact b.ne_nil_of_mem_frames frame hframe (List.flatten_eq_nil_iff.1 h frame hframe)

/-- **The hint of a body is right about what is left of it.** -/
theorem soundFor_hint (b : Body) : b.hint.SoundFor b.frames := by
  cases h : b.isWhole with
  | false =>
    rw [hint_of_not_isWhole h]
    exact ⟨Nat.zero_le _, nofun, nofun⟩
  | true =>
    rw [hint_of_isWhole h]
    refine ⟨Nat.le_refl _, fun n hn => ?_, fun hend => ?_⟩
    · exact Nat.le_of_eq (Option.some.inj hn)
    · exact frames_eq_nil_of_content (List.isEmpty_iff.1 hend)

theorem content_eq_nil_of_atEnd {b : Body} (h : b.hint.atEnd) : b.content = [] :=
  congrArg List.flatten (b.soundFor_hint.eq_nil_of_atEnd h)

/-! ## Reads -/

/-- A read leaves a body of the same kind. -/
theorem isWhole_of_next? {b b' : Body} {frame : Bytes} (h : b.next? = some (frame, b')) :
    b'.isWhole = b.isWhole := by
  match b, h with
  | .units (c :: unit) (left + 1) closing, h =>
    obtain ⟨-, rfl⟩ := by simpa [next?] using h
    rfl
  | .units [] left (c :: closing), h =>
    obtain ⟨-, rfl⟩ := by simpa [next?] using h
    rfl
  | .units (d :: unit) 0 (c :: closing), h =>
    obtain ⟨-, rfl⟩ := by simpa [next?] using h
    rfl
  | .whole (c :: content), h =>
    obtain ⟨-, rfl⟩ := by simpa [next?] using h
    rfl

theorem rest_of_next?_eq_none {b : Body} (h : b.next? = none) : b.rest = b := by
  rw [rest, h]
  rfl

theorem isWhole_rest (b : Body) : b.rest.isWhole = b.isWhole := by
  cases h : b.next? with
  | none => rw [rest_of_next?_eq_none h]
  | some next =>
    rw [rest, h]
    exact isWhole_of_next? h

theorem isWhole_iterate_rest (b : Body) (n : Nat) : (rest^[n] b).isWhole = b.isWhole := by
  induction n with
  | zero => rfl
  | succ n ih => rw [Function.iterate_succ_apply', isWhole_rest, ih]

/-- A body that is at its end stays as it is, however often it is read. -/
theorem iterate_rest_of_next?_eq_none {b : Body} (h : b.next? = none) (n : Nat) :
    rest^[n] b = b :=
  Function.iterate_fixed (rest_of_next?_eq_none h) n

/-- After any number of reads, a body of one piece knows how many bytes its last frames have. -/
theorem hint_iterate_rest {b : Body} (h : b.isWhole) (n : Nat) :
    (rest^[n] b).hint =
      let left := (b.frames.drop n).flatten
      ⟨left.length, some left.length, left.isEmpty⟩ := by
  rw [hint_of_isWhole (by rw [isWhole_iterate_rest, h]), Body.content, frames_iterate_rest]

end Body

namespace Payload

theorem isWhole_body (p : Payload) (d : Delivery) : (p.body d).isWhole = (d == .bulk) := by
  cases d <;> rfl

/-- **The hint of a response body is right at every point of its reading**, and after its end. Unit
by unit it tells nothing; at once it tells exactly how many bytes are left, which is the length of
the body to begin with. A body that has come to its end gives nothing any more, and its hint stays
what it was. -/
theorem hints_are_sound_at_every_read (template closing : Bytes) (copies units : UInt64)
    (p : Payload) (hbuild : build template closing copies units = .ok p) (declares : Bool)
    (request : Http.Request) :
    (∀ (d : Delivery) (read : Nat),
      let body := ((Handler.mk d p declares).respond request).body
      let now := Body.rest^[read] body
      now.hint.SoundFor (body.frames.drop read) ∧
      (now.next? = none ↔ body.frames.length ≤ read) ∧
      (now.next? = none → ∀ more : Nat,
        (Body.rest^[read + more] body).next? = none ∧
        (Body.rest^[read + more] body).hint = now.hint)) ∧
    (∀ read : Nat,
      let body := ((Handler.mk .chunked p declares).respond request).body
      (Body.rest^[read] body).hint = ⟨0, none, false⟩) ∧
    let body := ((Handler.mk .bulk p declares).respond request).body
    body.hint.lower = p.bodyLength ∧
    ∀ read : Nat,
      let hint := (Body.rest^[read] body).hint
      let left := (body.frames.drop read).flatten.length
      hint.lower = left ∧ hint.upper = some left ∧ (hint.atEnd = true ↔ left = 0) := by
  refine ⟨fun d read => ?_, fun read => ?_, ?_⟩
  · intro body now
    have frames : now.frames = body.frames.drop read := body.frames_iterate_rest read
    refine ⟨?_, ?_, fun hend more => ?_⟩
    · rw [← frames]
      exact now.soundFor_hint
    · rw [← Option.map_eq_none_iff (f := Prod.fst), body.map_fst_next?_iterate_rest,
        List.getElem?_eq_none_iff]
    · rw [Nat.add_comm, Function.iterate_add_apply, Body.iterate_rest_of_next?_eq_none hend]
      exact ⟨hend, rfl⟩
  · intro body
    apply Body.hint_of_not_isWhole
    rw [Body.isWhole_iterate_rest]
    exact p.isWhole_body .chunked
  · intro body
    have isWhole : body.isWhole := p.isWhole_body .bulk
    constructor
    · rw [Body.hint_of_isWhole isWhole]
      exact length_content_body (build_eq_ok_iff.1 hbuild) .bulk
    · intro read hint left
      have exact_hint : hint = _ := Body.hint_iterate_rest isWhole read
      rw [exact_hint]
      exact ⟨rfl, rfl, List.isEmpty_iff_length_eq_zero⟩

theorem hints_are_sound_at_every_read_of_two_units :
    let request : Http.Request := { method := [], target := [], version := .http11, headers := [] }
    ∃ p, build [0x68, 0x6f] [0x21] 1 2 = .ok p ∧
      let chunked := ((Handler.mk .chunked p false).respond request).body
      let bulk := ((Handler.mk .bulk p false).respond request).body
      chunked.frames = [[0x68, 0x6f], [0x68, 0x6f], [0x21]] ∧
      (Body.rest chunked).hint.SoundFor [[0x68, 0x6f], [0x21]] ∧
      (Body.rest chunked).hint = ⟨0, none, false⟩ ∧
      bulk.hint.lower = 5 ∧
      (Body.rest^[1] bulk).next? = none ∧ (Body.rest^[1 + 7] bulk).next? = none ∧
      (Body.rest^[8] bulk).hint.upper = some 0 := by
  intro request
  refine ⟨_, rfl, ?_⟩
  intro chunked bulk
  obtain ⟨hsound, hchunked, hlength, hbulk⟩ :=
    hints_are_sound_at_every_read [0x68, 0x6f] [0x21] 1 2 _ rfl false request
  have hframes : chunked.frames = [[0x68, 0x6f], [0x68, 0x6f], [0x21]] :=
    frames_body _ .chunked
  have hwhole : bulk.frames = [[0x68, 0x6f, 0x68, 0x6f, 0x21]] := frames_body _ .bulk
  have hleft : (Body.rest chunked).hint.SoundFor (chunked.frames.drop 1) := (hsound .chunked 1).1
  have hupper : (Body.rest^[8] bulk).hint.upper = some (bulk.frames.drop 8).flatten.length :=
    (hbulk 8).2.1
  obtain ⟨-, hend, hstays⟩ := hsound .bulk 1
  have atEnd : (Body.rest^[1] bulk).next? = none :=
    hend.2 (Nat.le_of_eq (congrArg List.length hwhole))
  rw [hframes] at hleft
  rw [hwhole] at hupper
  exact ⟨hframes, hleft, hchunked 1, hlength, atEnd, (hstays atEnd 7).1, hupper⟩

end Payload

end TwinServers
