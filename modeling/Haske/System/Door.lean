import Haske.Client.AccessPass
import Haske.Server.Authorisation
import Haske.System.Final

/-!
# The pass at the door

A pass that a page shows is one that the offline verifier accepts, until the session expires:
the code that came with it, and the code that the page would draw itself.  The seconds that
the page counts down are those that are left (`door_opens`).
-/

namespace Haske

open Json Js Serde Signing Machine

variable {srv : Server} {clock : UInt64} {w : World} {i : ℕ}

/-- The verifier with the server's key accepts the text before this time. -/
def Server.Opens (srv : Server) (text : String) (deadline : UInt64) : Prop :=
  ∀ (host : Host srv.scheme) (args : Args),
    loadPublicKey host args.publicKey = .ok (srv.scheme.verifyingKey srv.signingKey) →
    args.readToken host = .ok text →
    ∀ now now', run host args now now' = .ok (decide (now < deadline))

/-- The pass that is stored in a session was issued for it. -/
lemma Served.issued (h : Served srv clock w) {id : String} {live : SessionRecord} {text : String}
    (hlive : w.server.sessions.lookup id = some live) (htext : live.accessToken = some text) :
    ∃ token : AccessToken, token.expiresAt = live.expiresAt ∧
      text = signedTokenToJson (signToken srv.scheme token srv.signingKey) ∧
      ∃ png, live.accessQrPng = some png ∧ renderPngDataUrl srv.qr text 320 = some png := by
  obtain ⟨t, hrun, hmemos, -⟩ := h.reached
  obtain ⟨artifact, hholds, rfl⟩ := (h.session hlive).2.holds_of_accessToken htext
  obtain ⟨-, session, horder, payment, nonce, -, hissue⟩ :=
    paidBy_of_holds hrun hmemos hlive hholds
  have htoken := (issueToken_eq_some hissue).1
  refine ⟨issuedToken payment session.eventId session.expiresAt nonce,
    congrArg Order.expiresAt horder, htoken, _, hholds.accessQrPng, ?_⟩
  exact qrPng_of_issueToken hissue

/-- The pass as the page gets it: the value of its text. -/
lemma pass_of_accessToken {live : SessionRecord} {signed : SignedAccessToken}
    (htext : live.accessToken = some (signedTokenToJson signed)) :
    ∃ v, fromStr (readValue recursionLimit) (signedTokenToJson signed) = some v ∧
      signed.Represents v ∧ live.pass = reread v := by
  obtain ⟨v, hread, hrep⟩ := signed.exists_readValue
  refine ⟨v, hread, hrep, ?_⟩
  simp only [SessionRecord.pass, toStatusResponse, htext, Option.map_some, ofOption, hread,
    Option.getD_some]

section

variable {token : AccessToken} {text : String}

lemma opens_of_rendering (hS : srv.scheme.Correct)
    (htext : Rendering (signedTokenToJson (signToken srv.scheme token srv.signingKey)) text) :
    srv.Opens text token.expiresAt :=
  fun _ _ hkey hinput now now' => run_rendering (hS _ _) htext hkey hinput now now'

/-- What the page makes of a pass: it is drawn, and opens as long as it is valid. -/
lemma opens_qrValue (hS : srv.scheme.Correct) {live : SessionRecord}
    (htext : live.accessToken =
      some (signedTokenToJson (signToken srv.scheme token srv.signingKey)))
    (hexpires : token.expiresAt.toNat < 2 ^ 53) (large : ℕ → String) :
    srv.Opens (qrValue large live.pass) token.expiresAt := by
  obtain ⟨v, hread, hrep, hpass⟩ := pass_of_accessToken htext
  rw [hpass]
  exact opens_of_rendering hS (rendering_qrValue hread hrep hexpires large)

lemma truthy_pass {live : SessionRecord} {signed : SignedAccessToken}
    (htext : live.accessToken = some (signedTokenToJson signed)) (engine : Engine) :
    engine.truthy (some live.pass) = true := by
  obtain ⟨v, -, ⟨tms, ms, -, -, rfl⟩, hpass⟩ := pass_of_accessToken htext
  rw [hpass]
  rfl

end

/-- The code that comes with a pass is an image. -/
lemma truthy_png {qr : QrLibrary} {text png : String} {size : ℕ}
    (h : renderPngDataUrl qr text size = some png) (engine : Engine) :
    engine.truthy (some (.str png)) = true := by
  simp only [renderPngDataUrl, Option.bind_eq_bind, Option.bind_eq_some_iff,
    Option.some.injEq] at h
  obtain ⟨-, -, buf, -, rfl⟩ := h
  rw [Engine.truthy, bne_iff_ne]
  intro hempty
  have hlength := congrArg String.length hempty
  rw [String.length_append] at hlength
  exact absurd hlength (by simp)

/-- **The pass at the door.**  In every run of the server and of any number of pages, in which
the answers that arrive were sent, a page that shows its payment as confirmed draws the code
that the server made of the pass of the session; the verifier with the server's key accepts
this pass until the session expires, and the code that the page would draw itself as well,
and the page counts down to that time, if the time is one that a script reads as it is. -/
theorem door_opens {t : World.Trace} (hrun : Run (World.step srv) (.init clock) t w)
    (hhonest : ∀ e ∈ t, e.1.Honest e.2) (hS : srv.scheme.Correct)
    (hconfirmed : (w.pages i).store.status = .confirmed) (engine : Engine)
    (large : ℕ → String) :
    ∃ id live text png view, (w.pages i).store.sessionId = some id ∧
      w.server.sessions.lookup id = some live ∧ live.accessToken = some text ∧
      renderPngDataUrl srv.qr text 320 = some png ∧
      accessPass engine large (w.pages i).store = some view ∧ view.image = some (.str png) ∧
      srv.Opens text live.expiresAt ∧
      (live.expiresAt.toNat < 2 ^ 53 → srv.Opens view.qrValue live.expiresAt ∧
        ∀ ms, countdown engine (w.pages i).store.expiresAt ms =
          some (live.expiresAt.toNat - ms / 1000)) := by
  have hsound := sound_of_run hrun hhonest i
  obtain ⟨id, live, hid, hlive, hsome, hpass, -, hpng, hexpiry⟩ :=
    hsound.informed.store.confirmed hconfirmed
  obtain ⟨text, htext⟩ := Option.isSome_iff_exists.1 hsome
  obtain ⟨token, hexpires, rfl, png, himage, hrender⟩ := hsound.served.issued hlive htext
  have htruthy : engine.truthy (some (w.pages i).store.accessToken) = true := by
    rw [hpass]
    exact truthy_pass htext engine
  obtain ⟨view, hview, hvalue, hdraws⟩ := accessPass_of_truthy htruthy large
  refine ⟨id, live, _, png, view, hid, hlive, htext, hrender, hview, ?_, ?_, ?_⟩
  · refine hdraws _ ?_ (truthy_png hrender engine)
    rw [hpng, himage]
    rfl
  · rw [← hexpires]
    exact opens_of_rendering hS (Rendering.refl _)
  · intro hlt
    refine ⟨?_, fun ms => ?_⟩
    · rw [hvalue, hpass, ← hexpires]
      rw [← hexpires] at hlt
      exact opens_qrValue hS htext hlt large
    · rw [hexpiry, toDouble_of_lt hlt, countdown]

/-- Nothing but natural numbers has a length of time. -/
def plainEngine : Engine where
  truthyLiteral _ := true
  secondsLeft _ _ := none

theorem door_opens_demo :
    ∃ t w, Run (World.step (demoServer 300)) (.init 0) t w ∧
      (w.pages 0).store.status = .confirmed ∧
      ∃ id live text png view, (w.pages 0).store.sessionId = some id ∧
        w.server.sessions.lookup id = some live ∧ live.accessToken = some text ∧
        renderPngDataUrl (demoServer 300).qr text 320 = some png ∧
        accessPass plainEngine toString (w.pages 0).store = some view ∧
        view.image = some (.str png) ∧ (demoServer 300).Opens text live.expiresAt ∧
        (live.expiresAt.toNat < 2 ^ 53 → (demoServer 300).Opens view.qrValue live.expiresAt ∧
          ∀ ms, countdown plainEngine (w.pages 0).store.expiresAt ms =
            some (live.expiresAt.toNat - ms / 1000)) := by
  obtain ⟨t, hrun, hhonest⟩ := run_demoConfirmed
  have hconfirmed : (demoConfirmed.pages 0).store.status = .confirmed := by decide +kernel
  exact ⟨t, _, hrun, hconfirmed,
    door_opens hrun hhonest Scheme.constant_correct hconfirmed plainEngine toString⟩

end Haske
