import TwinServers.Proofs.Http.Decoding
import TwinServers.Proofs.Response.Frames

/-!
# Declared lengths

A response that declares its length is sent by someone who then owes that many bytes and pays them
off frame by frame (`Http.owedAfter?`). The sender comes out even if and only if the frames add up
to what was declared (`foldlM_owedAfter?_eq_some_iff`), and since no frame is empty, it owes
something until the last frame is sent (`length_flatten_lt_of_prefix`).
`declared_length_is_paid_off` says that this is how it goes for every payload that was built, by
whichever way it is delivered.
-/

namespace TwinServers

namespace Http

/-- What a sender that has declared a length still owes after a frame. A frame that is longer than
what is owed would have to be cut. -/
def owedAfter? (owed : Nat) (frame : Bytes) : Option Nat :=
  if frame.length ≤ owed then some (owed - frame.length) else none

theorem owedAfter?_eq_some_iff {owed left : Nat} {frame : Bytes} :
    owedAfter? owed frame = some left ↔ frame.length + left = owed := by
  unfold owedAfter?
  split
  · next h =>
    rw [Option.some.injEq]
    omega
  · next h =>
    constructor
    · exact nofun
    · intro howed
      omega

/-- **A sender gets through its frames uncut if and only if they are no more than it owes**, and
what it then still owes is the rest. -/
theorem foldlM_owedAfter?_eq_some_iff {owed left : Nat} {frames : List Bytes} :
    frames.foldlM owedAfter? owed = some left ↔ frames.flatten.length + left = owed := by
  induction frames generalizing owed with
  | nil =>
    rw [List.foldlM_nil, Option.pure_def, Option.some.injEq, List.flatten_nil, List.length_nil,
      Nat.zero_add, eq_comm]
  | cons frame frames ih =>
    rw [List.foldlM_cons, Option.bind_eq_bind, Option.bind_eq_some_iff, List.flatten_cons,
      List.length_append, Nat.add_assoc]
    simp only [owedAfter?_eq_some_iff, ih]
    constructor
    · rintro ⟨rest, hframe, rfl⟩
      exact hframe
    · intro howed
      exact ⟨_, howed, rfl⟩

/-- Frames that are not empty leave something to send until the last of them is sent. -/
theorem length_flatten_lt_of_prefix {sent frames : List Bytes}
    (hne : ∀ frame ∈ frames, frame ≠ []) (h : sent <+: frames) (hsent : sent ≠ frames) :
    sent.flatten.length < frames.flatten.length := by
  obtain ⟨left, rfl⟩ := h
  cases left with
  | nil => exact absurd (List.append_nil sent).symm hsent
  | cons next left =>
    have hnext : 0 < next.length :=
      List.length_pos_iff.2 (hne next (List.mem_append_right _ List.mem_cons_self))
    rw [List.flatten_append, List.flatten_cons, List.length_append, List.length_append]
    omega

end Http

namespace Handler

/-- **A declared length is paid off exactly, and not before the last frame.** The responses with a
payload that was built declare one length, whatever is asked and however it is delivered, and
besides the declaration nothing about them changes. A sender that starts from what the declaration
reads as never has to cut a frame, owes something as long as frames are left, and owes nothing at
the end. -/
theorem declared_length_is_paid_off (template closing : Bytes) (copies units : UInt64)
    (p : Payload) (hbuild : Payload.build template closing copies units = .ok p) :
    ∃ (value : String) (length : Nat), Http.decimalNumber? (Bytes.latin value) = some length ∧
      ∀ (d : Delivery) (request : Http.Request),
        let handler : Handler := { delivery := d, payload := p }
        let plain := handler.respond request
        let declared := (handler.declare true).respond request
        let frames := declared.body.frames
        declared.headers = [("content-length", value)] ∧ plain.headers = [] ∧
        frames = plain.body.frames ∧ frames.flatten.length = length ∧
        ∀ sent : List Bytes, sent <+: frames →
          (sent ≠ frames → sent.flatten.length < length) ∧
          sent.foldlM Http.owedAfter? length = some (length - sent.flatten.length) := by
  have built := Payload.build_eq_ok_iff.1 hbuild
  refine ⟨toString p.bodyLength, p.bodyLength, Http.decimalNumber?_decimalText _,
    fun d request => ?_⟩
  intro handler plain declared frames
  have hlength : frames.flatten.length = p.bodyLength := Payload.length_content_body built d
  refine ⟨rfl, rfl, rfl, hlength, fun sent hsent => ⟨fun hne => ?_, ?_⟩⟩
  · rw [← hlength]
    exact Http.length_flatten_lt_of_prefix declared.body.ne_nil_of_mem_frames hsent hne
  · have hle : sent.flatten.length ≤ frames.flatten.length := by
      obtain ⟨left, hleft⟩ := hsent
      rw [← hleft, List.flatten_append, List.length_append]
      exact Nat.le_add_right ..
    rw [Http.foldlM_owedAfter?_eq_some_iff, ← hlength]
    exact Nat.add_sub_cancel' hle

theorem declared_length_is_paid_off_of_three_units :
    let request : Http.Request := { method := [], target := [], version := .http11, headers := [] }
    ∃ p, Payload.build [0x68, 0x6f] [0x21] 2 3 = .ok p ∧
      let handler : Handler := { delivery := .chunked, payload := p }
      let declared := (handler.declare true).respond request
      let sent : List Bytes := [[0x68, 0x6f, 0x68, 0x6f], [0x68, 0x6f, 0x68, 0x6f]]
      (∃ value, declared.headers = [("content-length", value)] ∧
        Http.decimalNumber? (Bytes.latin value) = some 13) ∧
      sent <+: declared.body.frames ∧ sent ≠ declared.body.frames ∧
      sent.foldlM Http.owedAfter? 13 = some 5 := by
  intro request
  refine ⟨_, rfl, ?_⟩
  intro handler declared sent
  obtain ⟨value, length, hvalue, hresponses⟩ :=
    declared_length_is_paid_off [0x68, 0x6f] [0x21] 2 3 _ rfl
  obtain ⟨hheaders, -, -, hlength, hsent⟩ := hresponses .chunked request
  have hframes : declared.body.frames = sent ++ [[0x68, 0x6f, 0x68, 0x6f], [0x21]] :=
    Payload.frames_body _ .chunked
  obtain rfl : length = 13 := by
    rw [← hlength]
    exact congrArg (fun frames => frames.flatten.length) hframes
  have hprefix : sent <+: declared.body.frames := ⟨_, hframes.symm⟩
  refine ⟨⟨value, hheaders, hvalue⟩, hprefix, ?_, (hsent sent hprefix).2⟩
  rw [hframes]
  decide

end Handler

end TwinServers
