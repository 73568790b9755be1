import TwinServers.Http.Connection
import TwinServers.Proofs.Http.Decoding
import TwinServers.Proofs.Response.Hints

/-!
# Requests one after the other

A plain request asks for a body, brings none and says nothing about its connection. The reply to it
is the response as it is, with one line about its length (`reply_of_plain`), and the connection
stays open for the next request; so whatever the number of plain requests that have arrived, as many
responses go out, in a row and nothing else (`serveInbox_of_plain`). A response that is truthful
about its length is read as it went out (`Response.Truthful.reads_text`), and every payload that was
built makes for such responses.
-/

namespace TwinServers

/-! ## Plain requests -/

namespace Http

/-- The names of the header lines that may change what a request means for its connection. -/
def specialNames : List String :=
  ["connection", "content-length", "transfer-encoding", "expect", "upgrade"]

/-- Whether a request is one of the plain ones, which are answered with a body, bring none and leave
the connection as it is. -/
structure Request.Plain (r : Request) : Prop where
  version : r.version = .http11
  notHead : r.isMethod "HEAD" = false
  notConnect : r.isMethod "CONNECT" = false
  lacks : ∀ name ∈ specialNames, r.hasHeader name = false

/-- Whether a text is a complete plain request and nothing else. -/
def IsPlain (text : Bytes) : Prop :=
  ∃ request, Reader.head text = .done request [] ∧ request.Plain

/-- Any method but two, any target and any header lines but those with a special name make a plain
request, if they are not too long. -/
theorem isPlain_requestText {method text : Bytes} {lines : List (String × Bytes)}
    (hmethod : method ≠ []) (htokens : method.all isToken)
    (hother : method ≠ Bytes.latin "HEAD" ∧ method ≠ Bytes.latin "CONNECT") (hne : text ≠ [])
    (hbytes : text.all Target.isByte) (htarget : text.length ≤ maxTarget)
    (hvalid : Target.valid text) (hcount : lines.length ≤ maxHeaders)
    (hlines : ∀ line ∈ lines, IsLine line)
    (hnames : ∀ line ∈ lines, ∀ name ∈ specialNames, (readLine line).named name = false)
    (hlength : (requestText method text lines).length ≤ maxHead) :
    IsPlain (requestText method text lines) := by
  have reads := Reader.reads_head hmethod htokens hne hbytes htarget hvalid hcount hlines hlength
  refine ⟨_, reads.eq_done, rfl, beq_eq_false_iff_ne.2 hother.1, beq_eq_false_iff_ne.2 hother.2,
    fun name hname => ?_⟩
  rw [Request.hasHeader, List.any_map, List.any_eq_false]
  intro line hline
  simp [hnames line hline name hname]

namespace Request.Plain

variable {r : Request}

theorem named_eq_false (h : r.Plain) {name : String} (hname : name ∈ specialNames) {line : Header}
    (hline : line ∈ r.headers) : line.named name = false := by
  have lacks : ∀ line ∈ r.headers, line.named name = false := by
    simpa [hasHeader] using h.lacks name hname
  exact lacks line hline

theorem body_eq (h : r.Plain) : r.body = .ok .none := by
  -- no header line adds anything, so nothing is known at any point of the list
  have none : ∀ lines : List Header, (∀ line ∈ lines, line ∈ r.headers) →
      lines.foldlM (BodyHeaders.add r.version) {} = .ok {} := by
    intro lines
    induction lines with
    | nil => exact fun _ => rfl
    | cons line lines ih =>
      intro hmem
      have hline := hmem line List.mem_cons_self
      have hcoding := h.named_eq_false (by decide : "transfer-encoding" ∈ specialNames) hline
      have hlength := h.named_eq_false (by decide : "content-length" ∈ specialNames) hline
      have hadd : BodyHeaders.add r.version {} line = .ok {} := by
        simp [BodyHeaders.add, hcoding, hlength]
      rw [List.foldlM_cons, hadd]
      exact ih fun l hl => hmem l (List.mem_cons_of_mem _ hl)
  rw [body, none r.headers fun _ hl => hl]
  rfl

theorem keepsAlive_eq (h : r.Plain) : r.keepsAlive = true := by
  -- no header line changes anything about it
  have same : ∀ lines : List Header, (∀ line ∈ lines, line ∈ r.headers) →
      lines.foldl keepsAliveAfter true = true := by
    intro lines
    induction lines with
    | nil => exact fun _ => rfl
    | cons line lines ih =>
      intro hmem
      have hname := h.named_eq_false (by decide : "connection" ∈ specialNames)
        (hmem line List.mem_cons_self)
      have hline : keepsAliveAfter true line = true := by simp [keepsAliveAfter, hname]
      rw [List.foldl_cons, hline]
      exact ih fun l hl => hmem l (List.mem_cons_of_mem _ hl)
  have hversion : (r.version == .http11) = true := beq_iff_eq.2 h.version
  rw [keepsAlive, hversion, same r.headers fun _ hl => hl,
    h.lacks "transfer-encoding" (by decide)]
  rfl

end Request.Plain

end Http

/-! ## Truthful responses -/

namespace Response

/-- Whether a response tells the truth about its length, if it tells anything, and has no frame that
would be taken for the end. -/
structure Truthful (r : Response) : Prop where
  declared : ∀ n ∈ r.declared, n = r.body.content.length
  known : ∀ n ∈ r.body.hint.upper, n = r.body.content.length
  ended : r.body.hint.atEnd → r.body.content = []
  frames : ∀ frame ∈ r.body.frames, frame ≠ []

/-- The length that is announced before the body, if there is one. -/
def announced (r : Response) : Option Nat := r.declared.or r.body.hint.upper

/-- The header line about the length. -/
def sizeLine (r : Response) : String × Bytes :=
  match r.announced with
  | some n => Http.lengthLine n
  | none => Http.chunkedLine

/-- The body as it goes out. -/
def coded (r : Response) : Bytes :=
  match r.announced with
  | some _ => r.body.content
  | none => Http.chunkedText r.body.frames

/-- The response as it goes out. -/
def text (date : Bytes) (r : Response) : Bytes :=
  Http.messageText [r.sizeLine, Http.dateLine date] r.coded

/-- The response as it is read. -/
def message (date : Bytes) (r : Response) : Http.Message where
  status := Response.status
  headers := [Http.readLine r.sizeLine, Http.readLine (Http.dateLine date)]
  body := r.body.content

theorem Truthful.announced_eq {r : Response} (h : r.Truthful) {n : Nat}
    (hn : r.announced = some n) : n = r.body.content.length := by
  obtain hn | ⟨-, hn⟩ := Option.or_eq_some_iff.1 hn
  · exact h.declared n hn
  · exact h.known n hn

/-- **A truthful response is read as it went out.** -/
theorem Truthful.reads_text {r : Response} (h : r.Truthful) {date : Bytes}
    (hdate : date.all Http.isValueByte) :
    Http.Reader.message.Reads (r.text date) (r.message date) := by
  have hlines : ∀ line ∈ [r.sizeLine, Http.dateLine date], Http.IsLine line := by
    intro line hline
    obtain rfl | hline := List.mem_cons.1 hline
    · unfold sizeLine
      split
      · exact Http.isLine_lengthLine _
      · exact Http.isLine_chunkedLine
    · rw [List.mem_singleton.1 hline]
      exact Http.isLine_dateLine hdate
  refine Http.Reader.reads_message (by simp [Http.maxHeaders]) hlines ?_
  unfold coded sizeLine
  cases hn : r.announced with
  | some n =>
    rw [h.announced_eq hn]
    exact Http.Reader.reads_bodyAfter_length date r.body.content
  | none => exact Http.Reader.reads_bodyAfter_chunked date h.frames

end Response

/-- A handler that answers with a payload that was built is truthful. -/
theorem Handler.truthful_respond {template closing : Bytes} {copies units : UInt64} {h : Handler}
    (hp : h.payload.BuiltFrom template closing copies units) (request : Http.Request) :
    (h.respond request).Truthful where
  declared n hn := by
    unfold respond at hn ⊢
    split at hn
    · obtain rfl := Option.some.inj hn
      exact (Payload.length_content_body hp _).symm
    · exact nomatch hn
  known n hn := by
    unfold respond at hn ⊢
    cases hd : h.delivery with
    | chunked =>
      rw [hd] at hn
      exact nomatch hn
    | bulk =>
      rw [hd] at hn
      obtain rfl := Option.some.inj hn
      exact congrArg List.length (Body.content_whole _).symm
  ended hend := Body.content_eq_nil_of_atEnd hend
  frames := Body.ne_nil_of_mem_frames _

/-! ## Replies -/

namespace Http

variable {date : Bytes} {request : Request}

/-- **The reply to a plain request is the response as it is**, and the connection stays open. -/
theorem reply_of_plain (h : request.Plain) {r : Response} (hr : r.Truthful) :
    Output.standard.reply date request true r = { wire := r.text date, staysOpen := true } := by
  have status : textLine (Bytes.latin (Version.http11.text ++ " 200 OK")) =
      textLine (Bytes.latin "HTTP/1.1 200 OK") := by decide
  have noLine : connectionLine .http11 true = [] := rfl
  unfold Output.reply Output.standard replyHead Framing.of Response.text Response.sizeLine
    Response.coded Response.announced messageText linesText dateLine
  simp only [h.notConnect, h.notHead, h.version, status, noLine]
  cases hdeclared : r.declared with
  | some n =>
    cases hend : r.body.hint.atEnd with
    | true =>
      -- the length is found out to be 0, which is what was declared
      obtain rfl : n = 0 := (hr.declared n hdeclared).trans (by rw [hr.ended hend]; rfl)
      simp [Framing.firstLine, Framing.laterLine, Framing.encode, lengthLine, Body.content]
    | false => simp [Framing.firstLine, Framing.laterLine, Framing.encode, lengthLine, Body.content]
  | none =>
    cases r.body.hint.upper with
    | some n =>
      simp [Framing.firstLine, Framing.laterLine, Framing.encode, lengthLine, Body.content]
    | none => simp [Framing.firstLine, Framing.laterLine, Framing.encode, chunkedLine]

/-! ## Connections -/

variable {h : Handler} {r : Response}

/-- A plain request is answered, and then what has arrived after it. -/
theorem serveInbox_plain_append (hr : ∀ request, h.respond request = r) (htruthful : r.Truthful)
    {text : Bytes} (htext : IsPlain text) (later : Bytes) :
    serveInbox .standard date h { arrived := text ++ later } =
      .after { wire := r.text date, staysOpen := true }
        (serveInbox .standard date h { arrived := later }) := by
  obtain ⟨request, hread, hplain⟩ := htext
  have hhead : Reader.head (text ++ later) = .done request later :=
    Reader.stable_head.reads hread later
  have hturn : Rules.standard.intake.next { arrived := text ++ later } =
      .asks request true { arrived := later } := by
    change Inbox.next _ = _
    unfold Inbox.next
    simp only [hhead, Inbox.turnFor, hplain.body_eq, RequestBody.after?, hplain.keepsAlive_eq,
      Bool.false_and, Bool.false_eq_true, if_false]
  have hreply : Rules.standard.output.reply date request true (h.respond request) =
      { wire := r.text date, staysOpen := true } := by
    rw [hr request]
    exact reply_of_plain hplain htruthful
  rw [serveInbox_eq, hturn]
  simp only [hreply, if_true]

/-- **Plain requests are answered one after the other**, however many have arrived, and the
connection then waits for more. -/
theorem serveInbox_of_plain (hr : ∀ request, h.respond request = r) (htruthful : r.Truthful)
    {texts : List Bytes} (htexts : ∀ text ∈ texts, IsPlain text) :
    serveInbox .standard date h { arrived := texts.flatten } =
      { wire := texts.flatMap fun _ => r.text date, connection := {} } := by
  induction texts with
  | nil =>
    rw [List.flatten_nil, serveInbox_eq]
    rfl
  | cons text texts ih =>
    rw [List.flatten_cons,
      serveInbox_plain_append hr htruthful (htexts text List.mem_cons_self),
      ih fun t ht => htexts t (List.mem_cons_of_mem _ ht)]
    rfl

end Http

end TwinServers
