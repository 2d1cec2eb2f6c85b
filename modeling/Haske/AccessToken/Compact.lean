import Haske.AccessToken.Sign

/-!
# Compact passes

The second pass format: `payload.signature`, both parts in unpadded URL-safe base64,
where the payload is the JSON of a `CompactAccessPayload` and the signature is of the
payload's bytes as they are.  The verifier checks the received bytes and reads the
payload afterwards, with a reader that ignores members it does not know.

Nothing in the signed bytes tells the two formats apart.  The bytes of a token are
never those of a compact payload (`AccessToken.toVec_ne_compact`), but the compact
reader accepts them all the same and finds the fields the two have in common
(`CompactAccessPayload.ofSlice_token`).
-/

namespace Haske

open Json Serde Signing Result

structure CompactAccessPayload where
  paymentHash : String
  expiresAt : UInt64
  eventId : String
deriving DecidableEq

namespace CompactAccessPayload

/-- The members of the serialised payload, in the order of the fields. -/
def members (p : CompactAccessPayload) : List (String × Value) :=
  [("payment_hash", .str p.paymentHash), ("expires_at", .nat p.expiresAt.toNat),
    ("event_id", .str p.eventId)]

def toValue (p : CompactAccessPayload) : Value := .obj p.members

/-- `serde_json::to_vec`. -/
def toVec (p : CompactAccessPayload) : List UInt8 := p.toValue.toBytes

/-- The derived reader. -/
def ofDoc : Doc → Option CompactAccessPayload
  | .obj ms => do
      let ms ← readMembers ms
      let paymentHash ← required asStr "payment_hash" ms
      let expiresAt ← required asU64 "expires_at" ms
      let eventId ← required asStr "event_id" ms
      some ⟨paymentHash, expiresAt, eventId⟩
  | .arr [paymentHash, expiresAt, eventId] => do
      let paymentHash ← asStr paymentHash
      let expiresAt ← asU64 expiresAt
      let eventId ← asStr eventId
      some ⟨paymentHash, expiresAt, eventId⟩
  | _ => none

end CompactAccessPayload

inductive CompactVerifyError where
  | invalidFormat
  | invalidPayload
  | invalidSignature
  | invalidSignatureLength
  | base64
deriving DecidableEq

section

variable (S : Scheme)

/-- `payload.signature`, both parts encoded. -/
def compactString (payload : List UInt8) (signature : Signature) : String :=
  Base64.encode Base64.urlSafe false payload ++ "." ++
    Base64.encode Base64.urlSafe false signature.bytes

def signCompactPayload (payload : CompactAccessPayload) (signingKey : S.SigningKey) : String :=
  let payloadJson := payload.toVec
  let signature := S.sign signingKey payloadJson
  compactString payloadJson signature

def verifyCompactToken (token : String) (publicKey : S.VerifyingKey) :
    Except CompactVerifyError CompactAccessPayload := do
  let parts := Utf8.splitn2 token '.'
  let payloadB64 := parts.1
  let sigB64 ← okOr parts.2 .invalidFormat
  let payloadBytes ←
    okOr (Base64.decode Base64.urlSafe false (Utf8.asBytes payloadB64)) .base64
  let signatureBytes ←
    okOr (Base64.decode Base64.urlSafe false (Utf8.asBytes sigB64)) .base64
  let signature ← okOr (Signature.fromBytes signatureBytes) .invalidSignatureLength
  if S.verify publicKey payloadBytes signature then
    okOr (fromSlice CompactAccessPayload.ofDoc payloadBytes) .invalidPayload
  else .error .invalidSignature

/-- The text splits at its first dot into the encodings of these two parts. -/
def SplitsInto (token : String) (payload : List UInt8) (signature : Signature) : Prop :=
  ∃ payloadB64 sigB64, Utf8.splitn2 token '.' = (payloadB64, some sigB64) ∧
    Base64.decode Base64.urlSafe false (Utf8.asBytes payloadB64) = some payload ∧
    Base64.decode Base64.urlSafe false (Utf8.asBytes sigB64) = some signature.bytes

variable {S}

/-- **What compact verification establishes.**  A text is accepted exactly when it
splits into a payload and a signature of the payload's bytes; what is returned is
what the reader makes of these bytes. -/
theorem verifyCompactToken_eq_ok {token : String} {publicKey : S.VerifyingKey}
    {p : CompactAccessPayload} :
    verifyCompactToken S token publicKey = .ok p ↔
      ∃ payload signature, SplitsInto token payload signature ∧
        S.verify publicKey payload signature = true ∧
        fromSlice CompactAccessPayload.ofDoc payload = some p := by
  simp only [verifyCompactToken, bind_eq_ok, okOr_eq_ok]
  constructor
  · rintro ⟨sigB64, hsplit, payload, hpayload, bytes, hdecode, signature, hbytes, h⟩
    by_cases hverify : S.verify publicKey payload signature = true
    · rw [if_pos hverify, okOr_eq_ok] at h
      refine ⟨payload, signature, ⟨_, sigB64, ?_, hpayload, ?_⟩, hverify, h⟩
      · rw [← hsplit]
      · rw [hdecode, Signature.bytes_of_fromBytes hbytes]
    · rw [if_neg hverify] at h
      exact absurd h (by simp)
  · rintro ⟨payload, signature, ⟨payloadB64, sigB64, hsplit, hpayload, hdecode⟩, hverify, hread⟩
    refine ⟨sigB64, by rw [hsplit], payload, by rw [hsplit]; exact hpayload, signature.bytes,
      hdecode, signature, Signature.fromBytes_bytes _, ?_⟩
    rw [if_pos hverify, okOr_eq_ok]
    exact hread

/-! ### The text of a compact pass -/

lemma dot_not_mem_encode (bs : List UInt8) :
    '.' ∉ (Base64.encode Base64.urlSafe false bs).toList := by
  intro h
  rw [Base64.encode, Utf8.toList_ofAscii, List.mem_map] at h
  obtain ⟨b, hb, hdot⟩ := h
  obtain rfl : b = 0x2E := by
    rw [← UInt8.toNat_inj, ← Utf8.toNat_ofNat_byte b, hdot]
    rfl
  rcases Base64.mem_encodeBytes hb with ⟨v, hv⟩ | ⟨hpad, -⟩
  · have hnone : Base64.urlSafe.value 0x2E = none := by decide
    rw [hv, Base64.Alphabet.value_symbol] at hnone
    exact absurd hnone (by simp)
  · exact absurd hpad (by decide)

lemma splitsInto_compactString (payload : List UInt8) (signature : Signature) :
    SplitsInto (compactString payload signature) payload signature := by
  refine ⟨Base64.encode Base64.urlSafe false payload,
    Base64.encode Base64.urlSafe false signature.bytes, ?_, Base64.decode_encode _,
    Base64.decode_encode _⟩
  -- the dot between the parts is the first one
  have hlist : compactString payload signature =
      String.ofList ((Base64.encode Base64.urlSafe false payload).toList ++ '.' ::
        (Base64.encode Base64.urlSafe false signature.bytes).toList) := by
    rw [← String.toList_inj]
    simp [compactString]
  rw [hlist, Utf8.splitn2_append (dot_not_mem_encode payload), String.ofList_toList,
    String.ofList_toList]

/-- A text that starts with no letter of the alphabet is no compact pass. -/
lemma not_splitsInto_of_head {token : String} {c : Char} {cs : List Char}
    (htoken : token.toList = c :: cs) (hc : c.toNat < 0x80) (hdot : c ≠ '.')
    (hletter : Base64.urlSafe.value (UInt8.ofNat c.toNat) = none) {payload : List UInt8}
    {signature : Signature} : ¬ SplitsInto token payload signature := by
  rintro ⟨payloadB64, sigB64, hsplit, hpayload, -⟩
  obtain ⟨ds, hds⟩ := Utf8.splitn2_fst_cons htoken hdot
  rw [hsplit] at hds
  rw [Utf8.asBytes, hds, Utf8.encode_cons_ascii hc] at hpayload
  have hhead := Base64.head_of_decode_eq_some hpayload
  rw [hletter] at hhead
  exact absurd hhead (by simp)

/-! ### The two readers -/

namespace CompactAccessPayload

lemma toValue_noLiteral (p : CompactAccessPayload) : p.toValue.NoLiteral := by
  simp [toValue, members, Value.NoLiteral, NoLiteralMembers]

lemma ofDoc_of_mem {p : CompactAccessPayload} {ms : List (String × Value)}
    (hnodup : (ms.map Prod.fst).Nodup) (h : ∀ m ∈ p.members, m ∈ ms) :
    ofDoc (Value.obj ms).toDoc = some p := by
  have hkeys := nodup_keys_of_perm (List.Perm.refl ms) hnodup
  have hmem : ∀ m ∈ p.members, (m.1, m.2.toDoc) ∈ ms.map fun m => (m.1, m.2.toDoc) :=
    fun m hm => mem_of_perm (List.Perm.refl ms) (h m hm)
  simp only [members, List.forall_mem_cons] at hmem
  obtain ⟨h₁, h₂, h₃, -⟩ := hmem
  simp only [Value.toDoc, ofDoc, readMembers_toDocMembers, Option.bind_eq_bind, Option.bind_some]
  simp only [required_of_mem hkeys h₁, required_of_mem hkeys h₂, required_of_mem hkeys h₃,
    asStr_toDoc, asU64_toDoc, Option.bind_some]

/-- Reading the bytes of a compact payload gives it back. -/
theorem ofSlice_toVec (p : CompactAccessPayload) : fromSlice ofDoc p.toVec = some p := by
  rw [toVec, fromSlice_toBytes _ p.toValue_noLiteral]
  exact ofDoc_of_mem (by simp [members]) fun _ hm => hm

end CompactAccessPayload

/-- The fields of a token that a compact payload has too. -/
def AccessToken.compactView (t : AccessToken) : CompactAccessPayload where
  paymentHash := t.paymentHash
  expiresAt := t.expiresAt
  eventId := t.eventId

/-- The compact reader takes the bytes of every token. -/
theorem CompactAccessPayload.ofSlice_token (t : AccessToken) :
    fromSlice CompactAccessPayload.ofDoc t.toVec = some t.compactView := by
  rw [AccessToken.toVec, fromSlice_toBytes _ t.toValue_noLiteral]
  refine CompactAccessPayload.ofDoc_of_mem t.members_nodup ?_
  intro m hm
  simp only [CompactAccessPayload.members, AccessToken.compactView, List.mem_cons,
    List.not_mem_nil, or_false] at hm
  rcases hm with rfl | rfl | rfl <;>
    simp only [AccessToken.members, List.mem_cons, true_or, or_true]

/-- The token reader takes the bytes of no compact payload: `version` is missing. -/
lemma AccessToken.ofSlice_compact (p : CompactAccessPayload) :
    fromSlice AccessToken.ofDoc p.toVec = none := by
  rw [CompactAccessPayload.toVec, fromSlice_toBytes _ p.toValue_noLiteral]
  have hmissing : "version" ∉ (p.members.map fun m => (m.1, m.2.toDoc)).map Prod.fst := by
    simp [CompactAccessPayload.members]
  exact AccessToken.ofDoc_of_no_version (readMembers_toDocMembers p.members)
    (required_of_notMem hmissing)

/-- **The bytes of a token are never those of a compact payload.** -/
theorem AccessToken.toVec_ne_compact (t : AccessToken) (p : CompactAccessPayload) :
    t.toVec ≠ p.toVec := by
  intro h
  have hread := AccessToken.ofSlice_toVec t
  -- the token reader tells them apart: it takes the one and refuses the other
  rw [h, AccessToken.ofSlice_compact] at hread
  exact absurd hread (by simp)

theorem CompactAccessPayload.toVec_injective : Function.Injective CompactAccessPayload.toVec := by
  intro p q h
  have hread := CompactAccessPayload.ofSlice_toVec p
  rw [h, CompactAccessPayload.ofSlice_toVec, Option.some.injEq] at hread
  exact hread.symm

/-- **Signed bytes determine what was signed.**  Two tokens with the same bytes are the
same, two compact payloads with the same bytes are the same, and a token and a compact
payload never have the same bytes. -/
theorem toVec_determines :
    (∀ t₁ t₂ : AccessToken, t₁.toVec = t₂.toVec → t₁ = t₂) ∧
      (∀ p₁ p₂ : CompactAccessPayload, p₁.toVec = p₂.toVec → p₁ = p₂) ∧
      ∀ (t : AccessToken) (p : CompactAccessPayload), t.toVec ≠ p.toVec :=
  ⟨fun _ _ h => AccessToken.toVec_injective h,
    fun _ _ h => CompactAccessPayload.toVec_injective h, AccessToken.toVec_ne_compact⟩

/-! ### The messages of an issuer -/

/-- The messages signed by an issuer who passed these tokens to `signToken` and these
payloads to `signCompactPayload`, and signed nothing else. -/
def signedMessages (tokens : Set AccessToken) (payloads : Set CompactAccessPayload) :
    Set (List UInt8) :=
  {msg | (∃ t ∈ tokens, msg = t.toVec) ∨ ∃ p ∈ payloads, msg = p.toVec}

/-- A token whose bytes were signed was signed as a token. -/
lemma mem_tokens_of_signed {tokens : Set AccessToken} {payloads : Set CompactAccessPayload}
    {t : AccessToken} (h : t.toVec ∈ signedMessages tokens payloads) : t ∈ tokens := by
  rcases h with ⟨u, hu, heq⟩ | ⟨p, -, heq⟩
  · rwa [AccessToken.toVec_injective heq]
  · exact absurd heq (t.toVec_ne_compact p)

/-- What the compact reader finds in signed bytes is part of a token, if the bytes are
a token's, and otherwise what was signed. -/
lemma compact_of_signed {tokens : Set AccessToken} {payloads : Set CompactAccessPayload}
    {msg : List UInt8} {p : CompactAccessPayload} (h : msg ∈ signedMessages tokens payloads)
    (hread : fromSlice CompactAccessPayload.ofDoc msg = some p) :
    (∃ t ∈ tokens, p = t.compactView ∧ msg = t.toVec) ∨ (p ∈ payloads ∧ msg = p.toVec) := by
  rcases h with ⟨t, ht, heq⟩ | ⟨q, hq, heq⟩
  · rw [heq, CompactAccessPayload.ofSlice_token] at hread
    exact Or.inl ⟨t, ht, (Option.some.inj hread).symm, heq⟩
  · rw [heq, CompactAccessPayload.ofSlice_toVec] at hread
    obtain rfl := Option.some.inj hread
    exact Or.inr ⟨hq, heq⟩

end

end Haske
