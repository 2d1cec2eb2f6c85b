import Haske.Lib.Base64
import Haske.Lib.Result
import Haske.Lib.Signing
import Haske.AccessToken.Token

/-!
# Signed access tokens

A pass is a token together with a signature of its compact JSON, and is handed out as
the JSON of that pair.  Whoever checks a pass reads the pair, writes the token again
and compares the signature with these bytes, not with the ones that were received.

`verifySignedTokenAt_eq_ok` says what a check that succeeds has established.
-/

namespace Haske

open Json Serde Signing Result

structure SignedAccessToken where
  token : AccessToken
  signature : String

namespace SignedAccessToken

/-- The members of the serialised pair, in the order of the fields. -/
def members (signed : SignedAccessToken) : List (String × Value) :=
  [("token", signed.token.toValue), ("signature", .str signed.signature)]

def toValue (signed : SignedAccessToken) : Value := .obj signed.members

/-- The derived reader. -/
def ofDoc : Doc → Option SignedAccessToken
  | .obj ms => do
      let ms ← readMembers ms
      let token ← required AccessToken.ofDoc "token" ms
      let signature ← required asStr "signature" ms
      some ⟨token, signature⟩
  | .arr [token, signature] => do
      let token ← AccessToken.ofDoc token
      let signature ← asStr signature
      some ⟨token, signature⟩
  | _ => none

end SignedAccessToken

section

variable (S : Scheme)

/-- Serialising a token does not fail, so neither does signing it. -/
def signToken (token : AccessToken) (signingKey : S.SigningKey) : SignedAccessToken :=
  let payload := token.toVec
  let signature := S.sign signingKey payload
  let signatureB64 := Base64.encode Base64.standard true signature.bytes
  { token := token
    signature := signatureB64 }

def signedTokenToJson (signed : SignedAccessToken) : String := signed.toValue.toText

/-! ### Verification -/

inductive VerificationStatus where
  | valid
  | invalid
deriving DecidableEq

inductive VerifyError where
  | decode
  | invalidSignatureLength
  | invalidSignature
  | invalidToken
  | expired (now expiresAt : UInt64)
deriving DecidableEq

def signedTokenFromJson (input : String) : Except VerifyError SignedAccessToken :=
  okOr (fromStr SignedAccessToken.ofDoc input) .invalidToken

def verifySignedTokenAt (signed : SignedAccessToken) (publicKey : S.VerifyingKey)
    (nowSecs : UInt64) : Except VerifyError Unit := do
  let payload := signed.token.toVec
  let signatureBytes ←
    okOr (Base64.decode Base64.standard true (Utf8.asBytes signed.signature)) .decode
  let signature ← okOr (Signature.fromBytes signatureBytes) .invalidSignatureLength
  if S.verify publicKey payload signature then
    -- the signature is checked first: a forged token is never reported as expired
    if signed.token.expiresAt ≤ nowSecs then
      .error (.expired nowSecs signed.token.expiresAt)
    else .ok ()
  else .error .invalidSignature

/-- `nowSecs` is the reading of the clock that `verify_signed_token` takes. -/
def verifyTokenString (input : String) (publicKey : S.VerifyingKey) (nowSecs : UInt64) :
    VerificationStatus :=
  match signedTokenFromJson input with
  | .ok signed =>
      match verifySignedTokenAt S signed publicKey nowSecs with
      | .ok _ => .valid
      | .error _ => .invalid
  | .error _ => .invalid

variable {S}

/-- **What verification establishes.**  A signed token is accepted exactly when its
signature field is the base64 of a signature of the token's bytes and it has not
expired. -/
theorem verifySignedTokenAt_eq_ok {signed : SignedAccessToken} {publicKey : S.VerifyingKey}
    {nowSecs : UInt64} :
    verifySignedTokenAt S signed publicKey nowSecs = .ok () ↔
      ∃ signature : Signature,
        Base64.decode Base64.standard true (Utf8.asBytes signed.signature) = some signature.bytes ∧
        S.verify publicKey signed.token.toVec signature = true ∧
        nowSecs < signed.token.expiresAt := by
  simp only [verifySignedTokenAt, bind_eq_ok, okOr_eq_ok]
  constructor
  · rintro ⟨bytes, hdecode, signature, hbytes, h⟩
    refine ⟨signature, ?_, ?_⟩
    · rw [hdecode, Signature.bytes_of_fromBytes hbytes]
    · by_cases hverify : S.verify publicKey signed.token.toVec signature = true
      · rw [if_pos hverify] at h
        by_cases hexpired : signed.token.expiresAt ≤ nowSecs
        · rw [if_pos hexpired] at h
          exact absurd h (by simp)
        · exact ⟨hverify, UInt64.not_le.1 hexpired⟩
      · rw [if_neg hverify] at h
        exact absurd h (by simp)
  · rintro ⟨signature, hdecode, hverify, hnow⟩
    refine ⟨signature.bytes, hdecode, signature, Signature.fromBytes_bytes _, ?_⟩
    rw [if_pos hverify, if_neg (UInt64.not_le.2 hnow)]

lemma verifyTokenString_eq_valid {input : String} {publicKey : S.VerifyingKey}
    {nowSecs : UInt64} :
    verifyTokenString S input publicKey nowSecs = .valid ↔
      ∃ signed, fromStr SignedAccessToken.ofDoc input = some signed ∧
        verifySignedTokenAt S signed publicKey nowSecs = .ok () := by
  simp only [verifyTokenString, signedTokenFromJson]
  cases hread : fromStr SignedAccessToken.ofDoc input with
  | none => simp
  | some signed =>
      simp only [okOr_some, Option.some.injEq, exists_eq_left']
      cases verifySignedTokenAt S signed publicKey nowSecs with
      | error e => simp
      | ok u => simp

/-- A token whose signature verifies is accepted until it expires. -/
lemma verifySignedTokenAt_signToken {token : AccessToken} {signingKey : S.SigningKey}
    {nowSecs : UInt64}
    (hS : S.verify (S.verifyingKey signingKey) token.toVec (S.sign signingKey token.toVec) = true) :
    verifySignedTokenAt S (signToken S token signingKey) (S.verifyingKey signingKey) nowSecs =
      .ok () ↔ nowSecs < token.expiresAt := by
  rw [verifySignedTokenAt_eq_ok]
  constructor
  · rintro ⟨-, -, -, hnow⟩
    exact hnow
  · intro hnow
    exact ⟨S.sign signingKey token.toVec, Base64.decode_encode _, hS, hnow⟩

/-! ### Round trip -/

namespace SignedAccessToken

lemma toValue_noLiteral (signed : SignedAccessToken) : signed.toValue.NoLiteral := by
  simp [toValue, members, Value.NoLiteral, NoLiteralMembers, AccessToken.toValue_noLiteral]

/-- The reader gives the pair back from its members in any order, those of the token
in any order too. -/
lemma ofDoc_of_perm {signed : SignedAccessToken} {tms ms : List (String × Value)}
    (htoken : tms.Perm signed.token.members)
    (h : ms.Perm [("token", .obj tms), ("signature", .str signed.signature)]) :
    ofDoc (Value.obj ms).toDoc = some signed := by
  have hnodup := nodup_keys_of_perm h (by simp)
  have htok := mem_of_perm h (m := ("token", .obj tms)) (by simp)
  have hsig := mem_of_perm h (m := ("signature", .str signed.signature)) (by simp)
  simp only [Value.toDoc, ofDoc, readMembers_toDocMembers, Option.bind_eq_bind, Option.bind_some,
    required_of_mem hnodup htok, required_of_mem hnodup hsig]
  have hread := AccessToken.ofDoc_of_perm htoken
  rw [Value.toDoc] at hread
  rw [hread]
  simp [asStr]

/-- Reading the JSON of a signed token gives it back. -/
theorem fromStr_toJson (signed : SignedAccessToken) :
    fromStr ofDoc (signedTokenToJson signed) = some signed := by
  rw [signedTokenToJson, fromStr_toText _ signed.toValue_noLiteral, toValue]
  exact ofDoc_of_perm (List.Perm.refl _) (List.Perm.refl _)

end SignedAccessToken

end

end Haske
