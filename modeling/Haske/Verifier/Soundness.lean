import Haske.Verifier.Rendering

/-!
# Soundness of the offline verifier

What a gate learns from `VALID`, under a signature scheme in which a key accepts only
the messages its owner signed, when the owner signs through `signToken` and
`signCompactPayload` only.

The two formats do not behave alike here.  The JSON reader returns tokens, and the
bytes of a token determine it and are those of no compact payload, so a JSON pass that
is accepted shows a token the issuer signed, in all its fields (`run_sound`).  The
compact reader also takes the bytes of a token: a JSON pass can be handed in again as a
compact one, and is then accepted with the fields the two have in common
(`verifyCompactToken_sound`).
-/

namespace Haske

open Json Serde Signing Result

variable {S : Scheme} {tokens : Set AccessToken} {payloads : Set CompactAccessPayload}

/-- A JSON pass that is accepted shows a token that was signed. -/
lemma token_mem_of_verified {publicKey : S.VerifyingKey} {signed : SignedAccessToken}
    {now : UInt64} (hideal : S.Unforgeable publicKey (signedMessages tokens payloads))
    (h : verifySignedTokenAt S signed publicKey now = .ok ()) :
    signed.token ∈ tokens ∧ now < signed.token.expiresAt := by
  obtain ⟨signature, -, hverify, hnow⟩ := verifySignedTokenAt_eq_ok.1 h
  exact ⟨mem_tokens_of_signed (hideal _ _ hverify), hnow⟩

/-- **Soundness of the verifier.**  Under a scheme in which the key accepts only what
its owner signed, a pass for which the tool answers `true` is the JSON of a token that
was passed to `signToken` and has not expired, or splits into a payload and a
signature, where the fields of the payload are those of a signed token or of a payload
passed to `signCompactPayload` and it has not expired. -/
theorem run_sound {host : Host S} {args : Args} {publicKey : S.VerifyingKey} {now now' : UInt64}
    (hkey : loadPublicKey host args.publicKey = .ok publicKey)
    (hideal : S.Unforgeable publicKey (signedMessages tokens payloads))
    (hrun : run host args now now' = .ok true) :
    ∃ input, args.readToken host = .ok input ∧
      ((∃ signed, fromStr SignedAccessToken.ofDoc (Utf8.trim input) = some signed ∧
          signed.token ∈ tokens ∧ now < signed.token.expiresAt) ∨
        ∃ payload signature p, SplitsInto (Utf8.trim input) payload signature ∧
          fromSlice CompactAccessPayload.ofDoc payload = some p ∧
          ((∃ t ∈ tokens, p = t.compactView) ∨ p ∈ payloads) ∧ now' ≤ p.expiresAt) := by
  obtain ⟨input, hinput⟩ := readToken_of_run hrun
  refine ⟨input, hinput, ?_⟩
  rcases (run_eq_ok_true hkey hinput).1 hrun with ⟨signed, hread, hverified⟩ | ⟨p, hcompact, hnow⟩
  · obtain ⟨hmem, hnow⟩ := token_mem_of_verified hideal hverified
    exact Or.inl ⟨signed, hread, hmem, hnow⟩
  · obtain ⟨payload, signature, hsplit, hverify, hread⟩ := verifyCompactToken_eq_ok.1 hcompact
    refine Or.inr ⟨payload, signature, p, hsplit, hread, ?_, hnow⟩
    rcases compact_of_signed (hideal _ _ hverify) hread with ⟨t, ht, heq, -⟩ | ⟨hp, -⟩
    · exact Or.inl ⟨t, ht, heq⟩
    · exact Or.inr hp

/-- A pass issued for a payment of 10 XLM. -/
def demoToken : AccessToken :=
  .newStellar 1 "demo-event" "3389e9f0" "GBUYER" "10.0000000" "XLM" "k3Jd82LmQw0Z" 51203 300
    "p1o9i8u7y6t5r4e3"

/-- A scheme whose only key has signed the demo token and nothing else. -/
abbrev demoScheme : Scheme := Scheme.constant fun msg => msg = demoToken.toVec

lemma demoScheme_unforgeable :
    demoScheme.Unforgeable () (signedMessages {demoToken} ∅) := by
  intro msg signature h
  exact Or.inl ⟨demoToken, rfl, of_decide_eq_true h⟩

def demoHost : Host demoScheme := .withKey ()

lemma demoScheme_verify (signature : Signature) :
    demoScheme.verify () demoToken.toVec signature = true := by
  simp only [decide_true]

/-- The JSON of the demo pass. -/
def demoPass : String := signedTokenToJson (signToken demoScheme demoToken ())

lemma loadPublicKey_demo : loadPublicKey demoHost (demoArgs demoPass).publicKey = .ok () :=
  loadPublicKey_withKey _ _

lemma run_demo : run demoHost (demoArgs demoPass) 299 299 = .ok true :=
  run_rendering (demoScheme_verify _) (Rendering.refl _) loadPublicKey_demo
    (Args.readToken_of_token rfl) 299 299

theorem run_sound_demo :
    ∃ input, (demoArgs demoPass).readToken demoHost = .ok input ∧
      ((∃ signed, fromStr SignedAccessToken.ofDoc (Utf8.trim input) = some signed ∧
          signed.token ∈ ({demoToken} : Set AccessToken) ∧ 299 < signed.token.expiresAt) ∨
        ∃ payload signature p, SplitsInto (Utf8.trim input) payload signature ∧
          fromSlice CompactAccessPayload.ofDoc payload = some p ∧
          ((∃ t ∈ ({demoToken} : Set AccessToken), p = t.compactView) ∨
            p ∈ (∅ : Set CompactAccessPayload)) ∧ 299 ≤ p.expiresAt) :=
  run_sound loadPublicKey_demo demoScheme_unforgeable run_demo

/-! ### One format handed in as the other -/

/-- The bytes and the signature of a JSON pass in the compact format. -/
def repackaged (S : Scheme) (t : AccessToken) (signingKey : S.SigningKey) : String :=
  compactString t.toVec (S.sign signingKey t.toVec)

/-- **What an accepted compact pass shows.**  A JSON pass handed in as a compact one is
accepted, with the payload hash, the event and the expiry of its token.  Under a scheme
in which the key accepts only what its owner signed, every compact pass that is
accepted carries the bytes of a payload passed to `signCompactPayload` or those of a
token passed to `signToken`, and its fields are those of that payload or token. -/
theorem verifyCompactToken_sound (S : Scheme) :
    (S.Correct → ∀ (t : AccessToken) (signingKey : S.SigningKey),
      verifyCompactToken S (repackaged S t signingKey) (S.verifyingKey signingKey) =
        .ok t.compactView) ∧
    ∀ (tokens : Set AccessToken) (payloads : Set CompactAccessPayload)
      (publicKey : S.VerifyingKey), S.Unforgeable publicKey (signedMessages tokens payloads) →
      ∀ (text : String) (p : CompactAccessPayload), verifyCompactToken S text publicKey = .ok p →
        ∃ payload signature, SplitsInto text payload signature ∧
          ((∃ t ∈ tokens, p = t.compactView ∧ payload = t.toVec) ∨
            (p ∈ payloads ∧ payload = p.toVec)) := by
  constructor
  · intro hS t signingKey
    rw [verifyCompactToken_eq_ok]
    exact ⟨t.toVec, S.sign signingKey t.toVec, splitsInto_compactString _ _, hS _ _,
      CompactAccessPayload.ofSlice_token t⟩
  · intro tokens payloads publicKey hideal text p h
    obtain ⟨payload, signature, hsplit, hverify, hread⟩ := verifyCompactToken_eq_ok.1 h
    exact ⟨payload, signature, hsplit, compact_of_signed (hideal _ _ hverify) hread⟩

/-- The demo pass handed in as a compact one is accepted, although its issuer has signed no
compact payload. -/
theorem repackaged_demo :
    demoScheme.Unforgeable () (signedMessages {demoToken} ∅) ∧
      (∀ p : CompactAccessPayload, demoToken.toVec ≠ p.toVec) ∧
      verifyCompactToken demoScheme (repackaged demoScheme demoToken ()) () =
        .ok { paymentHash := "", expiresAt := 300, eventId := "demo-event" } := by
  refine ⟨demoScheme_unforgeable, demoToken.toVec_ne_compact, ?_⟩
  rw [verifyCompactToken_eq_ok]
  exact ⟨demoToken.toVec, demoScheme.sign () demoToken.toVec, splitsInto_compactString _ _,
    demoScheme_verify _, CompactAccessPayload.ofSlice_token demoToken⟩

/-- Both halves of `verifyCompactToken_sound` on the demo token: the scheme that accepts
everything verifies its own signatures, and the demo scheme accepts only what was signed. -/
theorem verifyCompactToken_sound_demo :
    verifyCompactToken (Scheme.constant fun _ => true)
        (repackaged (Scheme.constant fun _ => true) demoToken ()) () =
      .ok demoToken.compactView ∧
    ∃ payload signature, SplitsInto (repackaged demoScheme demoToken ()) payload signature ∧
      ((∃ t ∈ ({demoToken} : Set AccessToken), demoToken.compactView = t.compactView ∧
          payload = t.toVec) ∨
        (demoToken.compactView ∈ (∅ : Set CompactAccessPayload) ∧
          payload = demoToken.compactView.toVec)) := by
  refine ⟨(verifyCompactToken_sound (Scheme.constant fun _ => true)).1 Scheme.constant_correct
    demoToken (), ?_⟩
  refine (verifyCompactToken_sound demoScheme).2 {demoToken} ∅ () demoScheme_unforgeable _ _ ?_
  rw [verifyCompactToken_eq_ok]
  exact ⟨demoToken.toVec, demoScheme.sign () demoToken.toVec, splitsInto_compactString _ _,
    demoScheme_verify _, CompactAccessPayload.ofSlice_token demoToken⟩

end Haske
