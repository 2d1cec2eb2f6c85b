import Haske.AccessToken.Sign

/-!
# Tokens of the Lightning shape

Before the payments moved to Stellar a token had five fields, and what was signed was the
JSON of these five.  The reader of `AccessToken` still takes such a token: the fields that
are missing get their defaults.  The verifier then writes the token it has read and checks
the signature against these bytes.  They have eleven members, the signed ones have five,
so the pass is read and refused (`legacy_rejected`).
-/

namespace Haske

open Json Serde Signing Result

structure LegacyToken where
  version : UInt8
  eventId : String
  paymentHash : String
  expiresAt : UInt64
  nonce : String

namespace LegacyToken

/-- The members of the serialised token, in the order of the fields. -/
def members (t : LegacyToken) : List (String × Value) :=
  [("version", .nat t.version.toNat), ("event_id", .str t.eventId),
    ("payment_hash", .str t.paymentHash), ("expires_at", .nat t.expiresAt.toNat),
    ("nonce", .str t.nonce)]

def toValue (t : LegacyToken) : Value := .obj t.members

/-- The bytes that were signed. -/
def toVec (t : LegacyToken) : List UInt8 := t.toValue.toBytes

/-- The same token with the fields of today. -/
def toToken (t : LegacyToken) : AccessToken :=
  .new t.version t.eventId t.paymentHash t.expiresAt t.nonce

/-! ### The documents of a legacy pass -/

/-- An object of the five members, in any order, which read as the fields. -/
inductive IsToken (t : LegacyToken) : Doc → Prop
  | obj {raw : List (List UInt8 × Doc)} {ms : List (String × Doc)}
      {version eventId paymentHash expiresAt nonce : Doc} :
      readMembers raw = some ms →
      ms.Perm [("version", version), ("event_id", eventId), ("payment_hash", paymentHash),
        ("expires_at", expiresAt), ("nonce", nonce)] →
      asU8 version = some t.version → asStr eventId = some t.eventId →
      asStr paymentHash = some t.paymentHash → asU64 expiresAt = some t.expiresAt →
      asStr nonce = some t.nonce → IsToken t (.obj raw)

/-- An object of the token and the signature, in any order. -/
inductive IsPass (t : LegacyToken) (signature : String) : Doc → Prop
  | obj {raw : List (List UInt8 × Doc)} {ms : List (String × Doc)} {token sig : Doc} :
      readMembers raw = some ms → ms.Perm [("token", token), ("signature", sig)] →
      t.IsToken token → asStr sig = some signature → IsPass t signature (.obj raw)

/-- The JSON of the pair, as `signedTokenToJson` writes it. -/
def pass (t : LegacyToken) (signature : String) : Value :=
  .obj [("token", t.toValue), ("signature", .str signature)]

lemma isToken_toDoc (t : LegacyToken) : t.IsToken t.toValue.toDoc :=
  .obj (readMembers_toDocMembers _) (List.Perm.refl _) (asU8_toDoc _) (asStr_toDoc _)
    (asStr_toDoc _) (asU64_toDoc _) (asStr_toDoc _)

lemma isPass_toDoc (t : LegacyToken) (signature : String) :
    t.IsPass signature (t.pass signature).toDoc :=
  .obj (readMembers_toDocMembers _) (List.Perm.refl _) t.isToken_toDoc (asStr_toDoc _)

lemma toValue_noLiteral (t : LegacyToken) : t.toValue.NoLiteral := by
  simp [toValue, members, Value.NoLiteral, NoLiteralMembers]

lemma pass_noLiteral (t : LegacyToken) (signature : String) :
    (t.pass signature).NoLiteral := by
  simp [pass, Value.NoLiteral, NoLiteralMembers, t.toValue_noLiteral]

/-! ### Reading -/

/-- The reader of tokens fills in the defaults. -/
lemma ofDoc_of_isToken {t : LegacyToken} {d : Doc} (h : t.IsToken d) :
    AccessToken.ofDoc d = some t.toToken := by
  obtain @⟨raw, ms, version, eventId, paymentHash, expiresAt, nonce, hraw, hperm, hversion,
    heventId, hpaymentHash, hexpiresAt, hnonce⟩ := h
  have hkeys : (ms.map Prod.fst).Perm
      ["version", "event_id", "payment_hash", "expires_at", "nonce"] := hperm.map Prod.fst
  have hnodup : (ms.map Prod.fst).Nodup := hkeys.nodup_iff.2 (by decide)
  have hmem := fun m hm => (hperm.mem_iff (a := m)).2 hm
  simp only [List.forall_mem_cons] at hmem
  obtain ⟨h₁, h₂, h₃, h₄, h₅, -⟩ := hmem
  have hmissing : ∀ name, name ∉ ["version", "event_id", "payment_hash", "expires_at", "nonce"] →
      name ∉ ms.map Prod.fst := fun name hname => mt hkeys.mem_iff.1 hname
  exact AccessToken.ofDoc_of_fields hraw
    ((required_of_mem hnodup h₁).trans hversion)
    ((required_of_mem hnodup h₂).trans heventId)
    ((withDefault_of_mem hnodup h₃).trans hpaymentHash)
    (withDefault_of_notMem (hmissing "tx_hash" (by decide)))
    (withDefault_of_notMem (hmissing "source" (by decide)))
    (withDefault_of_notMem (hmissing "amount" (by decide)))
    (withDefault_of_notMem (hmissing "asset" (by decide)))
    (withDefault_of_notMem (hmissing "memo" (by decide)))
    (withDefault_of_notMem (hmissing "ledger" (by decide)))
    ((required_of_mem hnodup h₄).trans hexpiresAt)
    ((required_of_mem hnodup h₅).trans hnonce)

lemma ofDoc_of_isPass {t : LegacyToken} {signature : String} {d : Doc}
    (h : t.IsPass signature d) :
    SignedAccessToken.ofDoc d = some ⟨t.toToken, signature⟩ := by
  obtain @⟨raw, ms, token, sig, hraw, hperm, htoken, hsig⟩ := h
  have hnodup : (ms.map Prod.fst).Nodup :=
    (hperm.map Prod.fst).nodup_iff.2 (by simp)
  have h₁ : ("token", token) ∈ ms := hperm.mem_iff.2 (by simp)
  have h₂ : ("signature", sig) ∈ ms := hperm.mem_iff.2 (by simp)
  simp only [SignedAccessToken.ofDoc, hraw, Option.bind_eq_bind, Option.bind_some,
    required_of_mem hnodup h₁, required_of_mem hnodup h₂, ofDoc_of_isToken htoken, hsig]

/-! ### The bytes that are verified -/

/-- The bytes of a token are never those of a legacy token. -/
theorem toVec_ne (t : LegacyToken) (u : AccessToken) : u.toVec ≠ t.toVec := by
  intro h
  have hdoc : u.toValue.toDoc = t.toValue.toDoc := by
    rw [← Option.some_inj, ← parse_toBytes u.toValue_noLiteral, ← parse_toBytes t.toValue_noLiteral]
    exact congrArg parse h
  have hmembers : toDocMembers u.members = toDocMembers t.members := by
    rw [AccessToken.toValue, toValue, Value.toDoc, Value.toDoc] at hdoc
    exact Doc.obj.inj hdoc
  -- eleven members against five
  have hlength := congrArg List.length hmembers
  simp [AccessToken.members, members, toDocMembers] at hlength

end LegacyToken

variable {S : Scheme}

/-- A signature of the bytes of a legacy token, and of no others, verifies no token. -/
lemma verifySignedTokenAt_legacy {legacy : LegacyToken} {signed : SignedAccessToken}
    {publicKey : S.VerifyingKey} {signature : Signature}
    (hideal : ∀ msg, S.verify publicKey msg signature = true → msg = legacy.toVec)
    (hsigned : signed.signature = Base64.encode Base64.standard true signature.bytes)
    (nowSecs : UInt64) :
    verifySignedTokenAt S signed publicKey nowSecs = .error .invalidSignature := by
  -- what is verified are the bytes of the token as it was read, not those that were received
  have hverify : ¬ S.verify publicKey signed.token.toVec signature = true :=
    fun h => legacy.toVec_ne signed.token (hideal _ h)
  simp only [verifySignedTokenAt, hsigned, Base64.decode_encode, okOr_some, bind_ok,
    Signature.fromBytes_bytes, if_neg hverify]

/-- **Legacy tokens are read and refused.**  For every token of the five fields and every
document of the token and the issuer's signature of its bytes, if that signature verifies
these bytes only, then the document is read as the token with the defaults filled in, and
verification with the issuer's key answers `invalidSignature` at every time. -/
theorem legacy_rejected {legacy : LegacyToken} {signingKey : S.SigningKey} {input : String}
    {d : Doc}
    (hideal : ∀ msg, S.verify (S.verifyingKey signingKey) msg
      (S.sign signingKey legacy.toVec) = true → msg = legacy.toVec)
    (hparse : parse (Utf8.asBytes input) = some d)
    (hpass : legacy.IsPass (Base64.encode Base64.standard true
      (S.sign signingKey legacy.toVec).bytes) d) (nowSecs : UInt64) :
    ∃ signed, signedTokenFromJson input = .ok signed ∧ signed.token = legacy.toToken ∧
      verifySignedTokenAt S signed (S.verifyingKey signingKey) nowSecs =
        .error .invalidSignature := by
  have hread : signedTokenFromJson input = .ok ⟨legacy.toToken, Base64.encode Base64.standard true
      (S.sign signingKey legacy.toVec).bytes⟩ := by
    rw [signedTokenFromJson, fromStr, fromSlice, hparse, Option.bind_some,
      LegacyToken.ofDoc_of_isPass hpass, okOr_some]
  exact ⟨_, hread, rfl, verifySignedTokenAt_legacy hideal rfl nowSecs⟩

/-! A pass of the old shape, and a scheme whose only key has signed it and nothing else. -/

def legacyToken : LegacyToken where
  version := 1
  eventId := "demo-event"
  paymentHash := "5d41402a"
  expiresAt := 300
  nonce := "p1o9i8u7y6t5r4e3"

abbrev legacyScheme : Scheme := Scheme.constant fun msg => msg = legacyToken.toVec

lemma legacyScheme_ideal (msg : List UInt8)
    (h : legacyScheme.verify () msg (legacyScheme.sign () legacyToken.toVec) = true) :
    msg = legacyToken.toVec :=
  of_decide_eq_true h

/-- The signature field of the pass. -/
def legacySignature : String :=
  Base64.encode Base64.standard true (legacyScheme.sign () legacyToken.toVec).bytes

theorem legacy_rejected_at_299 :
    ∃ signed, signedTokenFromJson (legacyToken.pass legacySignature).toText = .ok signed ∧
      signed.token = legacyToken.toToken ∧
      verifySignedTokenAt legacyScheme signed () 299 = .error .invalidSignature :=
  legacy_rejected (S := legacyScheme) legacyScheme_ideal
    (parse_toBytes (legacyToken.pass_noLiteral _)) (legacyToken.isPass_toDoc _) 299

/-- The key accepts the bytes that were signed, and yet the pass is refused a second before
it expires. -/
theorem legacy_pass_refused :
    legacyScheme.verify () legacyToken.toVec (legacyScheme.sign () legacyToken.toVec) = true ∧
      299 < legacyToken.expiresAt ∧
      signedTokenFromJson (legacyToken.pass legacySignature).toText =
        .ok ⟨legacyToken.toToken, legacySignature⟩ ∧
      verifySignedTokenAt legacyScheme ⟨legacyToken.toToken, legacySignature⟩ () 299 =
        .error .invalidSignature := by
  refine ⟨by simp only [decide_true], by decide, ?_, ?_⟩
  · rw [signedTokenFromJson, fromStr_toText _ (legacyToken.pass_noLiteral _),
      LegacyToken.ofDoc_of_isPass (legacyToken.isPass_toDoc _), okOr_some]
  · exact verifySignedTokenAt_legacy legacyScheme_ideal rfl 299

end Haske
