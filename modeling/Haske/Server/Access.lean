import Haske.AccessToken.Sign
import Haske.Qr
import Haske.Shared.Types

/-!
# Issuing passes

A pass is issued for a payment: a token with the fields of the payment event, the event
the session asked for and the expiry of the session, signed and drawn as a QR code.
-/

namespace Haske

open Signing

structure AccessArtifact where
  token : String
  qrPng : String
  qrAscii : String
  txHash : String
deriving DecidableEq

section

variable (S : Scheme) (qr : QrLibrary) (signingKey : S.SigningKey)

/-- The token issued for an event. -/
def issuedToken (event : PaymentEvent) (eventId : String) (expiresAt : UInt64)
    (nonce : Alphanumeric 16) : AccessToken :=
  AccessToken.newStellar 1 eventId event.txHash event.sourceAccount event.amount event.asset
    event.memo event.ledgerSequence expiresAt nonce.text

/-- `nonce` is what the random generator returns. -/
def issueToken (event : PaymentEvent) (eventId : String) (expiresAt : UInt64)
    (nonce : Alphanumeric 16) : Option AccessArtifact := do
  let token := issuedToken event eventId expiresAt nonce
  let signed := signToken S token signingKey
  let token := signedTokenToJson signed
  let qrPng ← renderPngDataUrl qr token 320
  let qrAscii ← renderAsciiQr qr token
  some { token := token, qrPng := qrPng, qrAscii := qrAscii, txHash := event.txHash }

variable {S qr signingKey}

/-- What an artifact that was issued holds. -/
lemma issueToken_eq_some {event : PaymentEvent} {eventId : String} {expiresAt : UInt64}
    {nonce : Alphanumeric 16} {artifact : AccessArtifact}
    (h : issueToken S qr signingKey event eventId expiresAt nonce = some artifact) :
    artifact.token =
        signedTokenToJson (signToken S (issuedToken event eventId expiresAt nonce) signingKey) ∧
      artifact.txHash = event.txHash := by
  simp only [issueToken, Option.bind_eq_bind, Option.bind_eq_some_iff, Option.some.injEq] at h
  obtain ⟨-, -, -, -, rfl⟩ := h
  exact ⟨rfl, rfl⟩

/-- The code in an artifact is one of its token. -/
lemma qrPng_of_issueToken {event : PaymentEvent} {eventId : String} {expiresAt : UInt64}
    {nonce : Alphanumeric 16} {artifact : AccessArtifact}
    (h : issueToken S qr signingKey event eventId expiresAt nonce = some artifact) :
    renderPngDataUrl qr artifact.token 320 = some artifact.qrPng := by
  simp only [issueToken, Option.bind_eq_bind, Option.bind_eq_some_iff, Option.some.injEq] at h
  obtain ⟨png, hpng, -, -, rfl⟩ := h
  exact hpng

end

def demoNonce : Alphanumeric 16 where
  text := "p1o9i8u7y6t5r4e3"
  length_eq := by decide
  alphanum := by decide

end Haske
