import TwinServers.Http.Head

/-!
# What comes later

Two things can be said of a reader about the bytes that have arrived after those it uses. It is
`Stable` if they make no difference once it is done; it `Reads` a text if it is done with exactly
that text whatever comes after. Both pass through sequencing, except that a span of bytes ends only
where the next reader begins (`Stable.spanOf`, `Reads.spanOf`). So the head of a request is the same
however much has arrived after it: `stable_head`.
-/

namespace TwinServers.Http.Reader

variable {α β : Type} {r : Reader α} {f : α → Reader β}

/-- Whether more bytes make no difference to a reader that is done. -/
def Stable (r : Reader α) : Prop :=
  ∀ s a rest later, r s = .done a rest → r (s ++ later) = .done a (rest ++ later)

/-- Whether the reader is done with just this text, whatever comes after it. -/
def Reads (r : Reader α) (text : Bytes) (a : α) : Prop :=
  ∀ rest, r (text ++ rest) = .done a rest

theorem Stable.reads (h : r.Stable) {text : Bytes} {a : α} (hr : r text = .done a []) :
    r.Reads text a :=
  fun rest => h text a [] rest hr

theorem Reads.eq_done {text : Bytes} {a : α} (h : r.Reads text a) : r text = .done a [] := by
  have := h []
  rwa [List.append_nil] at this

/-! ## Sequencing -/

theorem stable_pure (a : α) : (Pure.pure a : Reader α).Stable := by
  intro s b rest later h
  obtain ⟨rfl, rfl⟩ := Scan.done.inj h
  rfl

theorem stable_fail (e : Fault) : (fail e : Reader α).Stable :=
  fun _ _ _ _ h => nomatch h

theorem Stable.bind (hr : r.Stable) (hf : ∀ a, (f a).Stable) : (r >>= f).Stable := by
  intro s b rest later h
  obtain ⟨a, mid, h₁, h₂⟩ := bind_eq_done.1 h
  exact bind_eq_done.2 ⟨a, mid ++ later, hr _ _ _ _ h₁, hf a _ _ _ _ h₂⟩

theorem reads_pure (a : α) : (Pure.pure a : Reader α).Reads [] a :=
  fun _ => rfl

theorem Reads.bind {text text' : Bytes} {a : α} {b : β} (hr : r.Reads text a)
    (hf : (f a).Reads text' b) : (r >>= f).Reads (text ++ text') b := by
  intro rest
  refine bind_eq_done.2 ⟨a, text' ++ rest, ?_, hf rest⟩
  rw [List.append_assoc]
  exact hr (text' ++ rest)

/-- Nothing is read for a value that is only computed. -/
theorem Reads.map {text : Bytes} {a : α} (hr : r.Reads text a) (g : α → β) :
    (do let a ← r; return g a : Reader β).Reads text (g a) := by
  have h := hr.bind (f := fun a => Pure.pure (g a)) (reads_pure (g a))
  rwa [List.append_nil] at h

/-! ## Limits -/

theorem Stable.limited (h : r.Stable) (n : Nat) : (r.limited n).Stable := by
  intro s a rest later hs
  obtain ⟨mid, hr, rfl⟩ := limited_eq_done.1 hs
  -- what comes later first fills up what the limit leaves room for
  refine limited_eq_done.2 ⟨mid ++ later.take (n - s.length), ?_, ?_⟩
  · rw [List.take_append]
    exact h _ _ _ _ hr
  · rw [List.drop_append, List.append_assoc, List.append_assoc, List.append_right_inj]
    obtain hfull | hroom := Nat.le_total n s.length
    · rw [Nat.sub_eq_zero_of_le hfull, List.take_zero, List.drop_zero, List.nil_append]
    · rw [List.drop_eq_nil_of_le hroom, List.nil_append, List.take_append_drop, List.nil_append]

theorem Reads.limited {text : Bytes} {a : α} (h : r.Reads text a) {n : Nat}
    (hn : text.length ≤ n) : (r.limited n).Reads text a := by
  intro rest
  refine limited_eq_done.2 ⟨rest.take (n - text.length), ?_, ?_⟩
  · rw [List.take_append, List.take_of_length_le hn]
    exact h _
  · rw [List.drop_append, List.drop_eq_nil_of_le hn, List.nil_append, List.take_append_drop]

/-! ## Words and spans -/

theorem takeWhile_append_of_dropWhile {p : UInt8 → Bool} {s rest : Bytes} {b : UInt8}
    (h : s.dropWhile p = b :: rest) (later : Bytes) :
    (s ++ later).takeWhile p = s.takeWhile p := by
  rw [List.takeWhile_append, if_neg]
  intro hlength
  have := congrArg List.length (List.takeWhile_append_dropWhile (p := p) (l := s))
  rw [List.length_append, h, List.length_cons] at this
  omega

theorem dropWhile_append_of_dropWhile {p : UInt8 → Bool} {s rest : Bytes} {b : UInt8}
    (h : s.dropWhile p = b :: rest) (later : Bytes) :
    (s ++ later).dropWhile p = b :: rest ++ later := by
  rw [List.dropWhile_append, h, List.isEmpty_cons, if_neg Bool.false_ne_true]

theorem stable_wordTo (inWord : UInt8 → Bool) (stop : UInt8) (fault : Fault) :
    (wordTo inWord stop fault).Stable := by
  intro s a rest later h
  simp only [wordTo] at h ⊢
  cases hd : s.dropWhile inWord with
  | nil =>
    rw [hd] at h
    cases h
  | cons b tail =>
    rw [hd] at h
    rw [takeWhile_append_of_dropWhile hd, dropWhile_append_of_dropWhile hd]
    simp only [List.cons_append] at h ⊢
    split at h
    · next hstop =>
      obtain ⟨rfl, rfl⟩ := Scan.done.inj h
      rw [if_pos hstop]
    · cases h

/-- A span is settled when what comes after it is done with at least one byte. -/
theorem Stable.spanOf {p : UInt8 → Bool} {f : Bytes → Reader β} (hf : ∀ a, (f a).Stable)
    (hwaits : ∀ a b rest, f a [] ≠ .done b rest) : (spanOf p >>= f).Stable := by
  intro s b rest later h
  change f (s.takeWhile p) (s.dropWhile p) = _ at h
  change f ((s ++ later).takeWhile p) ((s ++ later).dropWhile p) = _
  cases hd : s.dropWhile p with
  | nil =>
    rw [hd] at h
    exact absurd h (hwaits _ _ _)
  | cons c tail =>
    rw [hd] at h
    rw [takeWhile_append_of_dropWhile hd, dropWhile_append_of_dropWhile hd]
    exact hf _ _ _ _ _ h

variable {p : UInt8 → Bool} {word : Bytes} {stop : UInt8}

theorem takeWhile_word (hword : word.all p) (hstop : p stop = false) (rest : Bytes) :
    (word ++ stop :: rest).takeWhile p = word := by
  rw [List.takeWhile_append_of_pos (List.all_eq_true.1 hword),
    List.takeWhile_cons_of_neg (by simp [hstop]), List.append_nil]

theorem dropWhile_word (hword : word.all p) (hstop : p stop = false) (rest : Bytes) :
    (word ++ stop :: rest).dropWhile p = stop :: rest := by
  rw [List.dropWhile_append_of_pos (List.all_eq_true.1 hword),
    List.dropWhile_cons_of_neg (by simp [hstop])]

theorem reads_wordTo (hne : word ≠ []) (hword : word.all p) (hstop : p stop = false)
    (fault : Fault) : (wordTo p stop fault).Reads (word ++ [stop]) word := by
  intro rest
  rw [List.append_assoc, List.singleton_append]
  simp only [wordTo, takeWhile_word hword hstop, dropWhile_word hword hstop]
  exact if_pos ⟨trivial, hne⟩

/-- A span ends at the first byte of what is read next, if that byte cannot belong to it. -/
theorem Reads.spanOf {f : Bytes → Reader β} {text : Bytes} {b : β}
    (hnext : (f word).Reads (stop :: text) b) (hword : word.all p) (hstop : p stop = false) :
    (spanOf p >>= f).Reads (word ++ stop :: text) b := by
  intro rest
  rw [List.append_assoc, List.cons_append]
  change f ((word ++ stop :: (text ++ rest)).takeWhile p)
    ((word ++ stop :: (text ++ rest)).dropWhile p) = _
  rw [takeWhile_word hword hstop, dropWhile_word hword hstop]
  exact hnext rest

theorem Reads.spanOf_empty {f : Bytes → Reader β} {text : Bytes} {b : β}
    (hnext : (f []).Reads (stop :: text) b) (hstop : p stop = false) :
    (Reader.spanOf p >>= f).Reads (stop :: text) b :=
  Reads.spanOf hnext rfl hstop

theorem stable_lineEnd : lineEnd.Stable := by
  intro s a rest later h
  unfold lineEnd at h
  split at h
  · cases h
  · split at h
    · next hlf =>
      obtain ⟨-, rfl⟩ := Scan.done.inj h
      exact if_pos hlf
    · next hlf =>
      split at h
      · next hcr =>
        split at h
        · cases h
        · split at h
          · next hlf' =>
            obtain ⟨-, rfl⟩ := Scan.done.inj h
            simp only [lineEnd, List.cons_append, if_neg hlf, if_pos hcr, if_pos hlf']
          · cases h
      · cases h

theorem reads_lineEnd : lineEnd.Reads crlf () :=
  fun _ => rfl

/-! ## The head of a request -/

theorem stable_emptyLines : emptyLines.Stable := by
  intro s a rest later h
  change skipEmptyLines s = _ at h
  change skipEmptyLines (s ++ later) = _
  fun_induction skipEmptyLines s with
  | case1 => cases h
  | case2 b => cases h
  | case3 b hb =>
    obtain ⟨-, rfl⟩ := Scan.done.inj h
    obtain ⟨hlf, hcr⟩ := not_or.1 hb
    cases later with
    | nil => exact if_neg hb
    | cons c later => simp only [List.cons_append, List.nil_append, skipEmptyLines, if_neg hlf,
        if_neg hcr]
  | case4 c s ih =>
    rw [List.cons_append, List.cons_append, skipEmptyLines, if_pos rfl]
    exact ih h
  | case5 s hlf ih =>
    rw [List.cons_append, List.cons_append, skipEmptyLines, if_neg hlf, if_pos rfl, if_pos rfl]
    exact ih h
  | case6 c s => cases h
  | case7 b c s hlf hcr =>
    obtain ⟨-, rfl⟩ := Scan.done.inj h
    rw [List.cons_append, List.cons_append, skipEmptyLines, if_neg hlf, if_neg hcr]

theorem stable_judge (target : Bytes) : (judge target).Stable := by
  unfold judge
  split
  · exact stable_fail _
  · split
    · exact stable_pure _
    · exact stable_fail _

theorem version_http11 (s : Bytes) :
    version (Bytes.latin Version.http11.text ++ s) = .done .http11 s := rfl

theorem version_http10 (s : Bytes) :
    version (Bytes.latin Version.http10.text ++ s) = .done .http10 s := rfl

theorem stable_version : version.Stable := by
  intro s v rest later h
  have same : ∀ v : Version, (Bytes.latin v.text).isPrefixOf s →
      ∃ t, s = Bytes.latin v.text ++ t := by
    intro v hv
    obtain ⟨t, ht⟩ := List.isPrefixOf_iff_prefix.1 hv
    exact ⟨t, ht.symm⟩
  simp only [version] at h
  split at h
  · next hv =>
    obtain ⟨t, rfl⟩ := same .http11 hv
    rw [List.drop_left] at h
    obtain ⟨rfl, rfl⟩ := Scan.done.inj h
    rw [List.append_assoc, version_http11]
  · split at h
    · next hv =>
      obtain ⟨t, rfl⟩ := same .http10 hv
      rw [List.drop_left] at h
      obtain ⟨rfl, rfl⟩ := Scan.done.inj h
      rw [List.append_assoc, version_http10]
    · split at h <;> cases h

theorem stable_headerLine : headerLine.Stable :=
  (stable_wordTo _ _ _).bind fun _ => Stable.spanOf
    (fun _ => stable_lineEnd.bind fun _ => stable_pure _) fun _ _ _ h => nomatch h

theorem stable_untilEmptyLine {lines : Reader (List Header)} (h : lines.Stable) :
    (untilEmptyLine lines).Stable := by
  intro s a rest later hs
  cases s with
  | nil => cases hs
  | cons b s =>
    simp only [untilEmptyLine, List.cons_append] at hs ⊢
    split at hs
    · next hb =>
      rw [if_pos hb]
      exact (stable_lineEnd.bind fun _ => stable_pure _) _ _ _ later hs
    · next hb =>
      rw [if_neg hb]
      split at hs
      · next htoken =>
        rw [if_pos htoken]
        exact h _ _ _ later hs
      · cases hs

theorem stable_headers : ∀ n, (headers n).Stable
  | 0 => stable_untilEmptyLine (stable_fail _)
  | n + 1 => stable_untilEmptyLine (stable_headerLine.bind fun _ =>
      (stable_headers n).bind fun _ => stable_pure _)

theorem stable_requestLine : requestLine.Stable :=
  (stable_wordTo _ _ _).bind fun _ => (stable_wordTo _ _ _).bind fun _ =>
    stable_version.bind fun _ => stable_lineEnd.bind fun _ => stable_pure _

theorem stable_headOfAnyLength : headOfAnyLength.Stable :=
  stable_emptyLines.bind fun _ => stable_requestLine.bind fun _ => (stable_headers _).bind fun _ =>
    (stable_judge _).bind fun _ => stable_pure _

/-- **A head that is complete does not depend on what has arrived after it.** -/
theorem stable_head : head.Stable :=
  stable_headOfAnyLength.limited _

end TwinServers.Http.Reader
