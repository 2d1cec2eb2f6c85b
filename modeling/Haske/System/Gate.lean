import Haske.Server.Authorisation
import Haske.Verifier.Soundness

/-!
# What opens the door

The server and the verifier together: under a scheme in which the server's key accepts only
what the server signed, a text that the verifier accepts goes back to a session of the server
and to a record that paid for it (`gate_secure`).  The text need not be one that the server
handed out, and it may be in either format, but it carries the payment, and it is accepted at
most until the time that was fixed when the session was created.
-/

namespace Haske

open Json Serde Signing Machine

variable {srv : Server} {clock : UInt64} {t : Trace} {s : State}

/-- The tokens that were signed in the run: one each time the watcher issues a pass, also when
the pass cannot be drawn. -/
def signedTokens (t : Trace) : Set AccessToken :=
  {token | ∃ s nonce payment session rest, (s, .watchIssue nonce) ∈ t ∧
    s.watcher = .found payment session rest ∧
    token = issuedToken payment session.eventId session.expiresAt nonce}

/-- What a signed token rests on: a session that was asked for, and a record that pays for it. -/
structure PaidFor (srv : Server) (t : Trace) (token : AccessToken) (order : Order)
    (record : PaymentRecord) : Prop where
  asked : ∃ now, StampedAt srv t order now ∧ order.expiresAt = now + srv.tokenTtlSecs
  returned : ReturnedFor t order record
  backs : record.Backs order.paymentRequest
  carries : token.Carries record order

/-- Only what was paid for is signed. -/
lemma paidFor_of_signed (hrun : Run (step srv) (.init clock) t s) {token : AccessToken}
    (h : token ∈ signedTokens t) : ∃ order record, PaidFor srv t token order record := by
  obtain ⟨s₁, nonce, payment, session, rest, hmem, hw, rfl⟩ := h
  obtain ⟨t₁, t₂, s₂, rfl, hrun₁, -, -⟩ := hrun.of_mem hmem
  have hfrom := provenance_of_run hrun₁
  have hlooked := hfrom.watcher
  rw [hw] at hlooked
  have hsub : t₁ ⊆ t₁ ++ (s₁, .watchIssue nonce) :: t₂ := fun e he => List.mem_append_left _ he
  obtain ⟨record, hreturned, hbacks, rfl⟩ := looked_spec hrun (hlooked.mono hsub)
  obtain ⟨now, hstamped⟩ := hfrom.queue session (by rw [hw]; exact List.mem_cons_self)
  have hstamped' := hstamped.mono hsub
  have hbacks' : record.Backs session.order.paymentRequest := hbacks
  refine ⟨session.order, record, ⟨now, hstamped', ?_⟩, hreturned, hbacks',
    carries_issuedToken hbacks' nonce⟩
  obtain ⟨s₀, i, request, memo, -, -, -, hmade⟩ := hstamped
  exact hmade.expiresAt_eq

/-- The text is the JSON of the signed token, or it is a compact pass of its bytes, and it is
not too late. -/
inductive Presents (text : String) (token : AccessToken) (now now' : UInt64) : Prop
  | json {signed : SignedAccessToken} : fromStr SignedAccessToken.ofDoc text = some signed →
      signed.token = token → now < token.expiresAt → Presents text token now now'
  | compact {signature : Signature} : SplitsInto text token.toVec signature →
      now' ≤ token.expiresAt → Presents text token now now'

/-- **The door opens only for what was paid.**  In every run of the server, under a scheme in
which the server's key accepts only what the server signed in the run, whatever the verifier
with this key is given and whenever, if it answers `true`, then what it was given is the JSON
or the compact form of a token that was signed for a session which had been asked for, and for
which a record was returned that pays for it; the token carries this record; and the time that
was fixed when the session was created is not over. -/
theorem gate_secure (hrun : Run (step srv) (.init clock) t s)
    (hideal : srv.scheme.Unforgeable (srv.scheme.verifyingKey srv.signingKey)
      (signedMessages (signedTokens t) ∅))
    {host : Host srv.scheme} {args : Args} {now now' : UInt64}
    (hkey : loadPublicKey host args.publicKey = .ok (srv.scheme.verifyingKey srv.signingKey))
    (hopen : run host args now now' = .ok true) :
    ∃ input token order record, args.readToken host = .ok input ∧
      PaidFor srv t token order record ∧ Presents (Utf8.trim input) token now now' := by
  obtain ⟨input, hinput⟩ := readToken_of_run hopen
  rcases (run_eq_ok_true hkey hinput).1 hopen with ⟨signed, hread, hverified⟩ |
    ⟨p, hcompact, hnow⟩
  · obtain ⟨hmem, hnow⟩ := token_mem_of_verified hideal hverified
    obtain ⟨order, record, hpaid⟩ := paidFor_of_signed hrun hmem
    exact ⟨input, _, order, record, hinput, hpaid, .json hread rfl hnow⟩
  · obtain ⟨payload, signature, hsplit, hverify, hread⟩ := verifyCompactToken_eq_ok.1 hcompact
    rcases compact_of_signed (hideal _ _ hverify) hread with ⟨token, hmem, rfl, rfl⟩ | ⟨hp, -⟩
    · obtain ⟨order, record, hpaid⟩ := paidFor_of_signed hrun hmem
      exact ⟨input, token, order, record, hinput, hpaid, .compact hsplit hnow⟩
    · exact absurd hp (Set.notMem_empty p)

/-! ### An example

The server of the example, whose key accepts only the pass for the payment of the example. -/

def gateToken : AccessToken :=
  issuedToken (parsePayment demoRecord) "demo-event" 300 demoNonce

abbrev gateScheme : Scheme := Scheme.constant fun msg => msg = gateToken.toVec

abbrev gateServer : Server :=
  { demoServer 300 with
    scheme := gateScheme
    signingKey := () }

/-- The step signs the token of the example. -/
def signs (s : State) : Action → Bool
  | .watchIssue nonce =>
      match s.watcher with
      | .found payment session _ =>
          issuedToken payment session.eventId session.expiresAt nonce = gateToken
      | _ => false
  | _ => false

lemma gateToken_of_signs (h : t.any (fun e => signs e.1 e.2) = true) :
    gateToken ∈ signedTokens t := by
  obtain ⟨⟨s, a⟩, hmem, hsigns⟩ := List.any_eq_true.1 h
  cases a with
  | watchIssue nonce =>
      cases hw : s.watcher with
      | found payment session rest =>
          simp only [signs, hw] at hsigns
          exact ⟨s, nonce, payment, session, rest, hmem, hw, (of_decide_eq_true hsigns).symm⟩
      | _ => simp [signs, hw] at hsigns
  | _ => cases hsigns

theorem gate_secure_demo :
    ∃ t s input token order record, Run (step gateServer) (.init 0) t s ∧
      (demoArgs (signedTokenToJson (signToken gateScheme gateToken ()))).readToken
        (Host.withKey (S := gateScheme) ()) = .ok input ∧
      PaidFor gateServer t token order record ∧ Presents (Utf8.trim input) token 299 299 := by
  obtain ⟨t, s, hrun, -, hsigns⟩ : ∃ t s, Run (step gateServer) (.init 0) t s ∧
      t.map Prod.snd = demoCreate ++ [demoSnapshot 300 0, .watchLookup (some [demoRecord]),
        .watchIssue demoNonce] ∧ t.any (fun e => signs e.1 e.2) = true :=
    exists_run_of_check _ (by decide +kernel)
  have hideal : gateScheme.Unforgeable () (signedMessages (signedTokens t) ∅) := by
    intro msg signature h
    exact Or.inl ⟨gateToken, gateToken_of_signs hsigns, of_decide_eq_true h⟩
  have hverify : gateScheme.verify (gateScheme.verifyingKey ()) gateToken.toVec
      (gateScheme.sign () gateToken.toVec) = true := by
    simp only [decide_true]
  have hopen : run (Host.withKey (S := gateScheme) ())
      (demoArgs (signedTokenToJson (signToken gateScheme gateToken ()))) 299 299 = .ok true :=
    run_rendering hverify (Rendering.refl _) (loadPublicKey_withKey _ _)
      (Args.readToken_of_token rfl) 299 299
  obtain ⟨input, token, order, record, hinput, hpaid, hpresents⟩ :=
    gate_secure hrun hideal (loadPublicKey_withKey _ _) hopen
  exact ⟨t, s, input, token, order, record, hrun, hinput, hpaid, hpresents⟩

end Haske
