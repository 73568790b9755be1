import TwinServers.Error
import TwinServers.Proofs.Address.RoundTrip

/-!
# What the text of an error tells

The message of an error begins with what was attempted and at which address, and no other attempt or
address has the same beginning (`eq_of_beginning`); the rest is the text of the source. In a report
that text stands twice, the second time with its lines moved to the right. Nothing marks where it
ends, and it may contain whatever stands between the two, but no longer text makes up the same
whole (`eq_of_written_twice`). So `texts_tell_errors_apart`.
-/

namespace TwinServers.ServerError

variable {e e' : ServerError}

/-- Whether two errors are of the same attempt at the same address, with sources of one text. -/
inductive Matches : ServerError → ServerError → Prop
  | bind {a : SocketAddress} {s s' : IoError} (h : s.text = s'.text) :
    Matches (.bind a s) (.bind a s')
  | accept {a : SocketAddress} {s s' : IoError} (h : s.text = s'.text) :
    Matches (.accept a s) (.accept a s')

theorem bind_ne_accept : "Failed to bind " ≠ "Failed to accept on " := by decide

theorem matches_iff : e.Matches e' ↔
    e.attempt = e'.attempt ∧ e.address = e'.address ∧ e.source.text = e'.source.text := by
  constructor
  · rintro (h | h) <;> exact ⟨rfl, rfl, h⟩
  · rintro ⟨hattempt, haddress, hsource⟩
    obtain ⟨a, s⟩ | ⟨a, s⟩ := e <;> obtain ⟨a', s'⟩ | ⟨a', s'⟩ := e'
    case bind.bind =>
      obtain rfl : a = a' := haddress
      exact .bind hsource
    case bind.accept => exact absurd hattempt bind_ne_accept
    case accept.bind => exact absurd hattempt.symm bind_ne_accept
    case accept.accept =>
      obtain rfl : a = a' := haddress
      exact .accept hsource

/-! ## The beginning of a message -/

variable {rest rest' : List Char}

theorem attempt_eq_of_append
    (h : e.attempt.toList ++ rest = e'.attempt.toList ++ rest') : e.attempt = e'.attempt := by
  -- the two attempts differ in the eleventh character
  have differs {s s' : List Char}
      (h : "Failed to bind ".toList ++ s = "Failed to accept on ".toList ++ s') : False :=
    absurd (List.cons.inj (congrArg (List.drop 10) h)).1 (by decide)
  cases e <;> cases e'
  case bind.bind => rfl
  case bind.accept => exact (differs h).elim
  case accept.bind => exact (differs h.symm).elim
  case accept.accept => rfl

/-- What a message begins with tells the attempt and the address. -/
theorem eq_of_beginning
    (h : e.attempt.toList ++ (e.address.text.toList ++ ':' :: rest) =
      e'.attempt.toList ++ (e'.address.text.toList ++ ':' :: rest')) :
    e.attempt = e'.attempt ∧ e.address = e'.address ∧ rest = rest' := by
  have attempts := attempt_eq_of_append h
  rw [attempts] at h
  have colon (s : List Char) : Numeral.port.Absent (':' :: s) := rfl
  have read := congrArg SocketAddress.read? (List.append_cancel_left h)
  rw [SocketAddress.read?_text _ (colon _), SocketAddress.read?_text _ (colon _)] at read
  obtain ⟨addresses, rests⟩ := Prod.mk.inj (Option.some.inj read)
  exact ⟨attempts, addresses, List.tail_eq_of_cons_eq rests⟩

theorem toList_message (e : ServerError) :
    e.message.toList =
      e.attempt.toList ++ (e.address.text.toList ++ ':' :: ' ' :: e.source.text.toList) := by
  simp [message, messageWith]

/-! ## The rest of a report -/

/-- A text that is written twice, the second time each character as `shown` writes it, is known from
the whole, whatever stands between the two. -/
theorem eq_of_written_twice {between s s' : List Char} {shown : Char → List Char}
    (h : s ++ (between ++ s.flatMap shown) = s' ++ (between ++ s'.flatMap shown)) : s = s' := by
  -- one of them begins the other, and what it would lack makes the whole longer
  have lacks_nothing {s t : List Char}
      (h : s ++ (between ++ s.flatMap shown) = s ++ t ++ (between ++ (s ++ t).flatMap shown)) :
      t = [] := by
    have lengths := congrArg List.length h
    rw [List.flatMap_append] at lengths
    simp only [List.length_append] at lengths
    exact List.eq_nil_of_length_eq_zero (by omega)
  obtain ⟨t, rfl⟩ | ⟨t, rfl⟩ :=
    List.prefix_or_prefix_of_prefix (List.prefix_append s _) (h ▸ List.prefix_append s' _)
  · rw [lacks_nothing h, List.append_nil]
  · rw [lacks_nothing h.symm, List.append_nil]

theorem toList_report (e : ServerError) :
    e.report.toList = "Error: ".toList ++ (e.attempt.toList ++ (e.address.text.toList ++
      ':' :: ' ' :: (e.source.text.toList ++ ("\n\nCaused by:\n    ".toList ++
        e.source.text.toList.flatMap fun c => if c = '\n' then "\n    ".toList else [c])))) := by
  simp [report, toList_message, indent]

/-- **Errors are told apart by their messages, and by the reports about them**: either is the same
for two errors exactly if these are of the same attempt at the same address, with sources of one
text, whatever that text may contain. -/
theorem texts_tell_errors_apart (e e' : ServerError) :
    (e.message = e'.message ↔ e.Matches e') ∧ (e.report = e'.report ↔ e.Matches e') := by
  constructor
  case left =>
    constructor
    case mp =>
      intro h
      rw [← String.toList_inj, toList_message, toList_message] at h
      obtain ⟨attempts, addresses, sources⟩ := eq_of_beginning h
      exact matches_iff.2
        ⟨attempts, addresses, String.toList_inj.1 (List.tail_eq_of_cons_eq sources)⟩
    case mpr =>
      intro h
      obtain ⟨attempts, addresses, sources⟩ := matches_iff.1 h
      unfold message messageWith
      rw [attempts, addresses, sources]
  case right =>
    constructor
    case mp =>
      intro h
      rw [← String.toList_inj, toList_report, toList_report] at h
      obtain ⟨attempts, addresses, written⟩ := eq_of_beginning (List.append_cancel_left h)
      have sources := eq_of_written_twice (List.tail_eq_of_cons_eq written)
      exact matches_iff.2 ⟨attempts, addresses, String.toList_inj.1 sources⟩
    case mpr =>
      intro h
      obtain ⟨attempts, addresses, sources⟩ := matches_iff.1 h
      unfold report message messageWith
      rw [attempts, addresses, sources]

end TwinServers.ServerError
