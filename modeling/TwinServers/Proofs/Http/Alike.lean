import TwinServers.Http.Connection
import TwinServers.Http.Reply
import TwinServers.Proofs.Response.Hints

/-!
# Handlers that cannot be told apart

What a connection makes of a handler is decided request by request: handlers whose replies agree
serve every connection alike, whatever arrives on it and by whatever rules (`serve_of_alike`). Under
rules that honour declared lengths, a response that declares the length of a body that is not empty
goes out as a head that knows only that length and a body that is one byte string, so it does not
show how the body is delivered: `alike_of_declares`. The standard rules are of this kind
(`honoursLengths_standard`).
-/

namespace TwinServers

/-- Whether two handlers have the same reply to every request. -/
def Handler.Alike (output : Http.Output) (h h' : Handler) : Prop :=
  ∀ (date : Bytes) (request : Http.Request) (keepAlive : Bool),
    output.reply date request keepAlive (h.respond request) =
      output.reply date request keepAlive (h'.respond request)

namespace Http

/-! ## Declared lengths -/

theorem Output.honoursLengths_standard : Output.standard.HonoursLengths where
  framing_declared request n hint hend := by
    change Framing.of request (some n) hint = .declared n
    simp [Framing.of, hend]
  body_declared request n frames := by
    change (if _ then [] else frames.flatten) = if _ then [] else [frames.flatten].flatten
    rw [List.flatten_singleton]

/-- The reply with a response of declared length depends on the length and the bytes alone. -/
theorem Output.HonoursLengths.reply_eq {o : Output} (ho : o.HonoursLengths) (date : Bytes)
    (request : Request) (keepAlive : Bool) {r r' : Response} {n : Nat} (hr : r.declared = some n)
    (hr' : r'.declared = some n) (hcontent : r.body.content = r'.body.content)
    (hne : r.body.content ≠ []) :
    o.reply date request keepAlive r = o.reply date request keepAlive r' := by
  have goesOn : ∀ body : Body, body.content ≠ [] → body.hint.atEnd = false := fun body hbody =>
    Bool.eq_false_iff.2 fun hend => hbody (Body.content_eq_nil_of_atEnd hend)
  have framing := ho.framing_declared request n r.body.hint (goesOn _ hne)
  have framing' := ho.framing_declared request n r'.body.hint (goesOn _ (hcontent ▸ hne))
  have body : o.body request (.declared n) r.body.frames =
      o.body request (.declared n) r'.body.frames := by
    rw [ho.body_declared request n r.body.frames, ho.body_declared request n r'.body.frames]
    exact congrArg (fun content => o.body request (.declared n) [content]) hcontent
  simp only [reply, hr, hr', framing, framing', body]

/-! ## Connections -/

variable {rules : Rules} {h h' : Handler}

theorem serveInbox_of_alike (alike : h.Alike rules.output h') (date : Bytes)
    (s : rules.intake.State) : serveInbox rules date h s = serveInbox rules date h' s := by
  -- the induction is on what is left to answer, of which every request takes something
  induction hn : rules.intake.size s using Nat.strongRecOn generalizing s with
  | ind n ih =>
    rw [serveInbox_eq, serveInbox_eq]
    cases hs : rules.intake.next s with
    | waits => rfl
    | ends fault => rfl
    | asks request keepAlive rest =>
      have less : rules.intake.size rest < n := hn ▸ rules.intake.size_lt hs
      simp only [alike date request keepAlive, ih _ less rest rfl]

/-- **Handlers with the same replies serve every connection alike.** -/
theorem Connection.serve_of_alike (alike : h.Alike rules.output h') (date : Bytes)
    (c : Connection rules.intake) : c.serve date h = c.serve date h' := by
  unfold Connection.serve
  rw [serveInbox_of_alike alike]

end Http

/-- **With the length declared, the deliveries of a payload cannot be told apart**, if there is
anything to deliver. -/
theorem Handler.alike_of_declares {output : Http.Output} (honours : output.HonoursLengths)
    {template closing : Bytes} {copies units : UInt64} {p : Payload}
    (hp : p.BuiltFrom template closing copies units) {d : Delivery}
    (hne : (p.body d).content ≠ []) (d' : Delivery) :
    Handler.Alike output { delivery := d, payload := p, declares := true }
      { delivery := d', payload := p, declares := true } := by
  intro date request keepAlive
  refine honours.reply_eq date request keepAlive rfl rfl ?_ hne
  exact (Payload.content_body hp d).trans (Payload.content_body hp d').symm

end TwinServers
