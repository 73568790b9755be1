import TwinServers.Http.Decoder
import TwinServers.Http.Reply
import TwinServers.Proofs.Http.Reads
import TwinServers.Proofs.Numbers

/-!
# What is written is read

A length is written in decimal digits, and the length of a chunk in hexadecimal ones. Either is read
back as it was written (`decimalNumber?_decimalText`, `hexNumber_hexText`). So is every part of a
request or a response, and not a byte further: header lines (`reads_headers`), a chunk
(`reads_chunk`), a body in chunks (`reads_chunkedBody`) and one of known length
(`reads_bodyAfter_length`), whatever bytes they hold. `reads_head` and `reads_message` put the parts
together, and `messages?_flatMap` splits a row of responses where one ends and the next begins.
-/

namespace TwinServers.Http

/-! ## Decimal digits -/

theorem decimalText_eq (n : Nat) :
    decimalText n = (Nat.toDigits 10 n).map fun c => c.toNat.toUInt8 := by
  rw [decimalText, Bytes.latin, Nat.toString_eq_ofList_toDigits, String.toList_ofList]

theorem decimalText_ne_nil (n : Nat) : decimalText n ≠ [] := by
  rw [decimalText_eq]
  exact fun h => Nat.toDigits_ne_nil (List.map_eq_nil_iff.1 h)

theorem all_decimalText {p : UInt8 → Bool} (h : ∀ d < 10, p (Nat.digitChar d).toNat.toUInt8)
    (n : Nat) : (decimalText n).all p := by
  rw [decimalText_eq, List.all_map, List.all_eq_true]
  exact forall_mem_toDigits (P := fun c => p c.toNat.toUInt8) (by decide) h n

/-- **A number is read back from its decimal digits.** -/
theorem decimalNumber?_decimalText (n : Nat) : decimalNumber? (decimalText n) = some n := by
  have digits : (decimalText n).all (fun b => 0x30 ≤ b && b ≤ 0x39) :=
    all_decimalText (by decide) n
  have value : (decimalText n).foldl (fun n b => n * 10 + (b.toNat - 0x30)) 0 = n := by
    rw [decimalText_eq, List.foldl_map]
    exact foldl_toDigits (v := fun c => c.toNat.toUInt8.toNat - 0x30) (by decide) (by decide) n
  rw [decimalNumber?, value, if_pos ⟨decimalText_ne_nil n, digits⟩]

/-! ## Hexadecimal digits -/

theorem hexText_ne_nil (n : Nat) : hexText n ≠ [] :=
  fun h => Nat.toDigits_ne_nil (List.map_eq_nil_iff.1 h)

theorem all_hexText (n : Nat) : (hexText n).all fun b => (hexValue? b).isSome := by
  rw [hexText, List.all_map, List.all_eq_true]
  exact forall_mem_toDigits (P := fun c => (hexValue? c.toUpper.toNat.toUInt8).isSome)
    (by decide) (by decide) n

/-- **A number is read back from its hexadecimal digits.** -/
theorem hexNumber_hexText (n : Nat) : hexNumber (hexText n) = n := by
  rw [hexNumber, hexText, List.foldl_map]
  exact foldl_toDigits (v := fun c => (hexValue? c.toUpper.toNat.toUInt8).getD 0)
    (by decide) (by decide) n

/-! ## Header lines -/

/-- The text of header lines. -/
def linesText (lines : List (String × Bytes)) : Bytes := lines.flatMap fun l => headerText l.1 l.2

/-- A header line as it is read. -/
def readLine (line : String × Bytes) : Header where
  name := Bytes.latin line.1
  value := trim (sp :: line.2)

/-- Whether a header line can be read: it has a name, and every byte may stand where it does. -/
structure IsLine (line : String × Bytes) : Prop where
  named : Bytes.latin line.1 ≠ []
  name : (Bytes.latin line.1).all isToken
  value : line.2.all isValueByte

theorem headerText_eq (name : String) (value : Bytes) :
    headerText name value = Bytes.latin name ++ [0x3a] ++ (sp :: value ++ crlf) := by
  have colon : Bytes.latin ": " = [0x3a, sp] := by decide
  rw [headerText, textLine, colon]
  simp only [List.append_assoc, List.cons_append, List.nil_append]

theorem trim_sp_cons {value : Bytes} (hvalue : value.all (!isBlank ·)) :
    trim (sp :: value) = value := by
  have h : ∀ b ∈ value, !isBlank b := List.all_eq_true.1 hvalue
  have unchanged : ∀ {v : Bytes}, (∀ b ∈ v, !isBlank b) → v.dropWhile isBlank = v := by
    intro v hv
    cases v with
    | nil => rfl
    | cons b v => exact List.dropWhile_cons_of_neg (by simpa using hv b List.mem_cons_self)
  rw [trim, List.dropWhile_cons_of_pos (by decide), unchanged h,
    unchanged fun b hb => h b (List.mem_reverse.1 hb), List.reverse_reverse]

/-- The header line that announces the length of a body. -/
def lengthLine (n : Nat) : String × Bytes := ("content-length", decimalText n)

/-- The header line that announces a body in chunks. -/
def chunkedLine : String × Bytes := ("transfer-encoding", Bytes.latin "chunked")

/-- The header line with the date. -/
def dateLine (date : Bytes) : String × Bytes := ("date", date)

theorem isLine_lengthLine (n : Nat) : IsLine (lengthLine n) where
  named := (by decide : Bytes.latin "content-length" ≠ [])
  name := (by decide : (Bytes.latin "content-length").all isToken)
  value := all_decimalText (by decide) n

theorem isLine_chunkedLine : IsLine chunkedLine where
  named := by decide
  name := by decide
  value := by decide

theorem isLine_dateLine {date : Bytes} (h : date.all isValueByte) : IsLine (dateLine date) where
  named := (by decide : Bytes.latin "date" ≠ [])
  name := (by decide : (Bytes.latin "date").all isToken)
  value := h

/-- A response as it goes out. -/
def messageText (lines : List (String × Bytes)) (body : Bytes) : Bytes :=
  textLine (Bytes.latin "HTTP/1.1 200 OK") ++ (linesText lines ++ crlf ++ body)

/-- The head of a request as it is sent. -/
def requestText (method target : Bytes) (lines : List (String × Bytes)) : Bytes :=
  method ++ [sp] ++ (target ++ [sp] ++
    (Bytes.latin Version.http11.text ++ (crlf ++ (linesText lines ++ crlf))))

namespace Reader

variable {α : Type}

theorem reads_headerLine {line : String × Bytes} (h : IsLine line) :
    headerLine.Reads (headerText line.1 line.2) (readLine line) := by
  rw [headerText_eq]
  have blank : (sp :: line.2).all isValueByte := h.value
  refine (reads_wordTo h.named h.name (by decide) _).bind (Reads.spanOf ?_ blank (by decide))
  exact reads_lineEnd.map _

theorem reads_untilEmptyLine_crlf (lines : Reader (List Header)) :
    (untilEmptyLine lines).Reads crlf [] :=
  fun _ => rfl

theorem Reads.untilEmptyLine {lines : Reader (List Header)} {text : Bytes} {hs : List Header}
    (h : lines.Reads text hs) (hne : text ≠ []) (htoken : ∀ b ∈ text.head?, isToken b) :
    (untilEmptyLine lines).Reads text hs := by
  intro rest
  cases text with
  | nil => exact absurd rfl hne
  | cons b text =>
    have hb : isToken b := htoken b rfl
    have hend : ¬ (b = cr ∨ b = lf) := by
      rintro (rfl | rfl) <;> exact nomatch hb
    simp only [Reader.untilEmptyLine, List.cons_append, if_neg hend, if_pos hb]
    exact h rest

/-- **Header lines are read as they were written**, if there are not too many. -/
theorem reads_headers {lines : List (String × Bytes)} {n : Nat} (hn : lines.length ≤ n)
    (h : ∀ line ∈ lines, IsLine line) :
    (headers n).Reads (linesText lines ++ crlf) (lines.map readLine) := by
  induction lines generalizing n with
  | nil => cases n <;> exact reads_untilEmptyLine_crlf _
  | cons line lines ih =>
    cases n with
    | zero => exact absurd hn (Nat.not_succ_le_zero _)
    | succ n =>
      have hline : IsLine line := h line List.mem_cons_self
      have rest := ih (Nat.le_of_succ_le_succ hn) fun l hl => h l (List.mem_cons_of_mem _ hl)
      have text : linesText (line :: lines) ++ crlf =
          headerText line.1 line.2 ++ (linesText lines ++ crlf) := List.append_assoc ..
      have first : (headerText line.1 line.2 ++ (linesText lines ++ crlf)).head? =
          (Bytes.latin line.1).head? := by
        rw [headerText_eq]
        cases hname : Bytes.latin line.1 with
        | nil => exact absurd hname hline.named
        | cons b name => rfl
      rw [text]
      refine Reads.untilEmptyLine ((reads_headerLine hline).bind (rest.map _)) ?_ ?_
      · rw [headerText_eq]
        simp
      · rw [first]
        exact fun b hb => List.all_eq_true.1 hline.name b (List.mem_of_mem_head? hb)

/-! ## Requests -/

theorem Reads.emptyLines {f : Unit → Reader α} {text : Bytes} {a : α} {b c : UInt8}
    (h : (f ()).Reads (b :: c :: text) a) (hb : isToken b) :
    (emptyLines >>= f).Reads (b :: c :: text) a := by
  intro rest
  have hlf : b ≠ lf := by rintro rfl; exact nomatch hb
  have hcr : b ≠ cr := by rintro rfl; exact nomatch hb
  refine bind_eq_done.2 ⟨(), b :: c :: (text ++ rest), ?_, h rest⟩
  simp only [Reader.emptyLines, List.cons_append, skipEmptyLines, if_neg hlf, if_neg hcr]

theorem reads_judge {target : Bytes} (hlength : target.length ≤ maxTarget)
    (hvalid : Target.valid target) : (judge target).Reads [] () := by
  rw [judge, if_neg (Nat.not_lt.2 hlength), if_pos hvalid]
  exact reads_pure ()

theorem reads_requestLine {method target : Bytes} (hmethod : method ≠ [])
    (htokens : method.all isToken) (hne : target ≠ []) (hbytes : target.all Target.isByte) :
    requestLine.Reads
      (method ++ [sp] ++ (target ++ [sp] ++ (Bytes.latin Version.http11.text ++ crlf)))
      { method, target, version := .http11, headers := [] } :=
  (reads_wordTo hmethod htokens (by decide) _).bind <|
    (reads_wordTo hne hbytes (by decide) _).bind <|
      Reads.bind version_http11 (reads_lineEnd.map _)

/-- **The head of a request is read as it was sent**, if its parts are what they should be and it is
not too long. -/
theorem reads_head {method text : Bytes} {lines : List (String × Bytes)} (hmethod : method ≠ [])
    (htokens : method.all isToken) (hne : text ≠ []) (hbytes : text.all Target.isByte)
    (htarget : text.length ≤ maxTarget) (hvalid : Target.valid text)
    (hcount : lines.length ≤ maxHeaders) (hlines : ∀ line ∈ lines, IsLine line)
    (hlength : (requestText method text lines).length ≤ maxHead) :
    head.Reads (requestText method text lines)
      { method, target := text, version := .http11, headers := lines.map readLine } := by
  refine Reads.limited ?_ hlength
  have parts : requestText method text lines =
      method ++ [sp] ++ (text ++ [sp] ++ (Bytes.latin Version.http11.text ++ crlf)) ++
        (linesText lines ++ crlf ++ []) := by
    simp only [requestText, List.append_assoc, List.append_nil]
  have line := (reads_requestLine hmethod htokens hne hbytes).bind
    (f := fun request => do
      let headers ← Reader.headers maxHeaders
      judge request.target
      return ({ request with headers } : Request))
    ((reads_headers hcount hlines).bind ((reads_judge htarget hvalid).map _))
  rw [← parts] at line
  cases method with
  | nil => exact absurd rfl hmethod
  | cons b method =>
    have hb : isToken b := List.all_eq_true.1 htokens b List.mem_cons_self
    cases method <;> exact line.emptyLines hb

/-! ## Chunks -/

theorem reads_exactly (s : Bytes) : (exactly s.length).Reads s s := by
  intro rest
  rw [exactly, if_pos (by simp), List.take_left, List.drop_left]

theorem reads_chunkLength (n : Nat) : chunkLength.Reads (textLine (hexText n)) n := by
  refine Reads.spanOf ?_ (all_hexText n) (by decide)
  refine Reads.spanOf_empty ?_ (by decide)
  rw [if_neg (hexText_ne_nil n), hexNumber_hexText]
  exact reads_lineEnd.map fun _ => n

theorem reads_chunk {frame : Bytes} (hne : frame ≠ []) :
    chunk.Reads (Http.chunk frame) (some frame) := by
  refine (reads_chunkLength frame.length).bind ?_
  rw [if_neg fun h => hne (List.length_eq_zero_iff.1 h)]
  exact (reads_exactly frame).bind (reads_lineEnd.map _)

theorem reads_chunk_lastChunk : chunk.Reads lastChunk none :=
  fun _ => rfl

theorem readChunks_of_last {s rest : Bytes} (h : chunk s = .done none rest) :
    readChunks s = .done [] rest := by
  rw [readChunks]
  split <;> simp_all

theorem readChunks_of_chunk {s mid rest content body : Bytes}
    (h : chunk s = .done (some content) mid) (hrest : readChunks mid = .done body rest) :
    readChunks s = .done (content ++ body) rest := by
  rw [readChunks]
  split <;> simp_all

/-- **A body in chunks is read as it was written**, whatever its frames hold, if none is empty. -/
theorem reads_chunkedBody {frames : List Bytes} (hne : ∀ frame ∈ frames, frame ≠ []) :
    chunkedBody.Reads (chunkedText frames) frames.flatten := by
  intro rest
  induction frames with
  | nil => exact readChunks_of_last (reads_chunk_lastChunk rest)
  | cons frame frames ih =>
    have text : chunkedText (frame :: frames) ++ rest =
        Http.chunk frame ++ (chunkedText frames ++ rest) := by
      simp only [chunkedText, List.flatMap_cons, List.append_assoc]
    rw [text, List.flatten_cons]
    exact readChunks_of_chunk (reads_chunk (hne frame List.mem_cons_self) _)
      (ih fun f hf => hne f (List.mem_cons_of_mem _ hf))

/-! ## Responses -/

theorem bodyAfter_length {value : Bytes} {n : Nat} (h : decimalNumber? value = some n)
    (date : Bytes) :
    bodyAfter [⟨Bytes.latin "content-length", value⟩, ⟨Bytes.latin "date", date⟩] = exactly n := by
  have coding : [⟨Bytes.latin "content-length", value⟩, ⟨Bytes.latin "date", date⟩].filter
      (Header.named · "transfer-encoding") = [] := by
    simp +decide only [List.filter_cons, List.filter_nil, Header.named, if_false]
  have length : [⟨Bytes.latin "content-length", value⟩, ⟨Bytes.latin "date", date⟩].filter
      (Header.named · "content-length") = [⟨Bytes.latin "content-length", value⟩] := by
    simp +decide only [List.filter_cons, List.filter_nil, Header.named, if_true, if_false]
  simp only [bodyAfter, coding, length, h, List.all_nil, if_true]

theorem bodyAfter_chunked {value : Bytes} (h : endsWithItem value "chunked") (date : Bytes) :
    bodyAfter [⟨Bytes.latin "transfer-encoding", value⟩, ⟨Bytes.latin "date", date⟩] =
      chunkedBody := by
  have coding : [⟨Bytes.latin "transfer-encoding", value⟩, ⟨Bytes.latin "date", date⟩].filter
      (Header.named · "transfer-encoding") = [⟨Bytes.latin "transfer-encoding", value⟩] := by
    simp +decide only [List.filter_cons, List.filter_nil, Header.named, if_true, if_false]
  simp only [bodyAfter, coding, List.getLast_singleton, h, if_true]

theorem reads_bodyAfter_length (date body : Bytes) :
    (bodyAfter [readLine (lengthLine body.length), readLine (dateLine date)]).Reads body body := by
  have value : trim (sp :: decimalText body.length) = decimalText body.length :=
    trim_sp_cons (all_decimalText (by decide) _)
  simp only [readLine, lengthLine, dateLine, value]
  rw [bodyAfter_length (decimalNumber?_decimalText _)]
  exact reads_exactly body

theorem reads_bodyAfter_chunked (date : Bytes) {frames : List Bytes}
    (hne : ∀ frame ∈ frames, frame ≠ []) :
    (bodyAfter [readLine chunkedLine, readLine (dateLine date)]).Reads (chunkedText frames)
      frames.flatten := by
  simp only [readLine, chunkedLine, dateLine]
  rw [bodyAfter_chunked (by decide)]
  exact reads_chunkedBody hne

theorem reads_statusLine : statusLine.Reads (textLine (Bytes.latin "HTTP/1.1 200 OK")) 200 :=
  fun _ => rfl

/-- **A response is read as it was written**, if its header lines tell where its body ends. -/
theorem reads_message {lines : List (String × Bytes)} {text body : Bytes}
    (hlength : lines.length ≤ maxHeaders) (h : ∀ line ∈ lines, IsLine line)
    (hbody : (bodyAfter (lines.map readLine)).Reads text body) :
    message.Reads (messageText lines text)
      { status := 200, headers := lines.map readLine, body } := by
  refine reads_statusLine.bind ((reads_headers hlength h).bind ?_)
  exact hbody.map _

end Reader

/-! ## Rows of responses -/

theorem messages?_of_message {s rest : Bytes} {m : Message} (h : Reader.message s = .done m rest) :
    messages? s = (messages? rest).map (m :: ·) := by
  have hne : s ≠ [] := by
    rintro rfl
    exact nomatch h
  rw [messages?, if_neg hne]
  split <;> simp_all

/-- **A row of responses is split where each of them ends**, with nothing left over. -/
theorem messages?_flatMap {γ : Type} {text : γ → Bytes} {m : γ → Message} {row : List γ}
    (h : ∀ x ∈ row, Reader.message.Reads (text x) (m x)) :
    messages? (row.flatMap text) = some (row.map m) := by
  induction row with
  | nil => simp [messages?]
  | cons x row ih =>
    rw [List.flatMap_cons, messages?_of_message (h x List.mem_cons_self _),
      ih fun y hy => h y (List.mem_cons_of_mem _ hy)]
    rfl

end TwinServers.Http
