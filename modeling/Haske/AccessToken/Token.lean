import Haske.Lib.Serde

/-!
# Access tokens

The payload of a pass, `AccessToken`, with the serialiser and the reader that serde
derives for it.  All its fields are written, in the order of the declaration; when
reading, the fields marked `#[serde(default)]` may be absent.

What is signed is the compact JSON of the token.  Reading these bytes gives the token
back (`ofSlice_toVec`), so they determine it (`toVec_injective`).
-/

namespace Haske

open Json Serde

structure AccessToken where
  version : UInt8
  eventId : String
  paymentHash : String
  txHash : String
  source : String
  amount : String
  asset : String
  memo : String
  ledger : UInt32
  expiresAt : UInt64
  nonce : String
deriving DecidableEq

namespace AccessToken

def new (version : UInt8) (eventId paymentHash : String) (expiresAt : UInt64) (nonce : String) :
    AccessToken where
  version := version
  eventId := eventId
  paymentHash := paymentHash
  txHash := ""
  source := ""
  amount := ""
  asset := ""
  memo := ""
  ledger := 0
  expiresAt := expiresAt
  nonce := nonce

def newStellar (version : UInt8) (eventId txHash source amount asset memo : String)
    (ledger : UInt32) (expiresAt : UInt64) (nonce : String) : AccessToken where
  version := version
  eventId := eventId
  paymentHash := ""
  txHash := txHash
  source := source
  amount := amount
  asset := asset
  memo := memo
  ledger := ledger
  expiresAt := expiresAt
  nonce := nonce

/-- The members of the serialised token, in the order of the fields. -/
def members (t : AccessToken) : List (String × Value) :=
  [("version", .nat t.version.toNat), ("event_id", .str t.eventId),
    ("payment_hash", .str t.paymentHash), ("tx_hash", .str t.txHash), ("source", .str t.source),
    ("amount", .str t.amount), ("asset", .str t.asset), ("memo", .str t.memo),
    ("ledger", .nat t.ledger.toNat), ("expires_at", .nat t.expiresAt.toNat),
    ("nonce", .str t.nonce)]

def toValue (t : AccessToken) : Value := .obj t.members

/-- `serde_json::to_vec`. -/
def toVec (t : AccessToken) : List UInt8 := t.toValue.toBytes

/-- The derived reader. -/
def ofDoc : Doc → Option AccessToken
  | .obj ms => do
      let ms ← readMembers ms
      let version ← required asU8 "version" ms
      let eventId ← required asStr "event_id" ms
      let paymentHash ← withDefault asStr "" "payment_hash" ms
      let txHash ← withDefault asStr "" "tx_hash" ms
      let source ← withDefault asStr "" "source" ms
      let amount ← withDefault asStr "" "amount" ms
      let asset ← withDefault asStr "" "asset" ms
      let memo ← withDefault asStr "" "memo" ms
      let ledger ← withDefault asU32 0 "ledger" ms
      let expiresAt ← required asU64 "expires_at" ms
      let nonce ← required asStr "nonce" ms
      some ⟨version, eventId, paymentHash, txHash, source, amount, asset, memo, ledger, expiresAt,
        nonce⟩
  | .arr [version, eventId, paymentHash, txHash, source, amount, asset, memo, ledger, expiresAt,
      nonce] => do
      -- the array form has no defaults: `nonce`, the last field, is required
      let version ← asU8 version
      let eventId ← asStr eventId
      let paymentHash ← asStr paymentHash
      let txHash ← asStr txHash
      let source ← asStr source
      let amount ← asStr amount
      let asset ← asStr asset
      let memo ← asStr memo
      let ledger ← asU32 ledger
      let expiresAt ← asU64 expiresAt
      let nonce ← asStr nonce
      some ⟨version, eventId, paymentHash, txHash, source, amount, asset, memo, ledger, expiresAt,
        nonce⟩
  | _ => none

/-! ### Round trip -/

lemma members_nodup (t : AccessToken) : (t.members.map Prod.fst).Nodup := by
  simp [members]

lemma members_noLiteral (t : AccessToken) : NoLiteralMembers t.members := by
  simp [members, NoLiteralMembers, Value.NoLiteral]

lemma toValue_noLiteral (t : AccessToken) : t.toValue.NoLiteral := t.members_noLiteral

/-- An object is read field by field. -/
lemma ofDoc_of_fields {t : AccessToken} {raw : List (List UInt8 × Doc)}
    {ms : List (String × Doc)} (hraw : readMembers raw = some ms)
    (hversion : required asU8 "version" ms = some t.version)
    (heventId : required asStr "event_id" ms = some t.eventId)
    (hpaymentHash : withDefault asStr "" "payment_hash" ms = some t.paymentHash)
    (htxHash : withDefault asStr "" "tx_hash" ms = some t.txHash)
    (hsource : withDefault asStr "" "source" ms = some t.source)
    (hamount : withDefault asStr "" "amount" ms = some t.amount)
    (hasset : withDefault asStr "" "asset" ms = some t.asset)
    (hmemo : withDefault asStr "" "memo" ms = some t.memo)
    (hledger : withDefault asU32 0 "ledger" ms = some t.ledger)
    (hexpiresAt : required asU64 "expires_at" ms = some t.expiresAt)
    (hnonce : required asStr "nonce" ms = some t.nonce) : ofDoc (.obj raw) = some t := by
  rw [ofDoc, hraw]
  refine Option.bind_eq_some_iff.2 ⟨ms, rfl, ?_⟩
  refine Option.bind_eq_some_iff.2 ⟨t.version, hversion, ?_⟩
  refine Option.bind_eq_some_iff.2 ⟨t.eventId, heventId, ?_⟩
  refine Option.bind_eq_some_iff.2 ⟨t.paymentHash, hpaymentHash, ?_⟩
  refine Option.bind_eq_some_iff.2 ⟨t.txHash, htxHash, ?_⟩
  refine Option.bind_eq_some_iff.2 ⟨t.source, hsource, ?_⟩
  refine Option.bind_eq_some_iff.2 ⟨t.amount, hamount, ?_⟩
  refine Option.bind_eq_some_iff.2 ⟨t.asset, hasset, ?_⟩
  refine Option.bind_eq_some_iff.2 ⟨t.memo, hmemo, ?_⟩
  refine Option.bind_eq_some_iff.2 ⟨t.ledger, hledger, ?_⟩
  refine Option.bind_eq_some_iff.2 ⟨t.expiresAt, hexpiresAt, ?_⟩
  exact Option.bind_eq_some_iff.2 ⟨t.nonce, hnonce, rfl⟩

/-- The first field is required. -/
lemma ofDoc_of_no_version {raw : List (List UInt8 × Doc)} {ms : List (String × Doc)}
    (hraw : readMembers raw = some ms) (hversion : required asU8 "version" ms = none) :
    ofDoc (.obj raw) = none := by
  cases h : ofDoc (.obj raw) with
  | none => rfl
  | some t =>
      rw [ofDoc, hraw] at h
      obtain ⟨ms', hms, h⟩ := Option.bind_eq_some_iff.1 h
      obtain rfl := Option.some.inj hms
      obtain ⟨version, hsome, -⟩ := Option.bind_eq_some_iff.1 h
      cases hversion.symm.trans hsome

/-- The reader gives the token back from its members in any order. -/
lemma ofDoc_of_perm {t : AccessToken} {ms : List (String × Value)} (h : ms.Perm t.members) :
    ofDoc (Value.obj ms).toDoc = some t := by
  have hnodup := nodup_keys_of_perm h t.members_nodup
  have hmem : ∀ m ∈ t.members, (m.1, m.2.toDoc) ∈ ms.map fun m => (m.1, m.2.toDoc) :=
    fun _ hm => mem_of_perm h hm
  simp only [members, List.forall_mem_cons] at hmem
  obtain ⟨h₁, h₂, h₃, h₄, h₅, h₆, h₇, h₈, h₉, h₁₀, h₁₁, -⟩ := hmem
  exact ofDoc_of_fields (readMembers_toDocMembers ms)
    ((required_of_mem hnodup h₁).trans (asU8_toDoc _))
    ((required_of_mem hnodup h₂).trans (asStr_toDoc _))
    ((withDefault_of_mem hnodup h₃).trans (asStr_toDoc _))
    ((withDefault_of_mem hnodup h₄).trans (asStr_toDoc _))
    ((withDefault_of_mem hnodup h₅).trans (asStr_toDoc _))
    ((withDefault_of_mem hnodup h₆).trans (asStr_toDoc _))
    ((withDefault_of_mem hnodup h₇).trans (asStr_toDoc _))
    ((withDefault_of_mem hnodup h₈).trans (asStr_toDoc _))
    ((withDefault_of_mem hnodup h₉).trans (asU32_toDoc _))
    ((required_of_mem hnodup h₁₀).trans (asU64_toDoc _))
    ((required_of_mem hnodup h₁₁).trans (asStr_toDoc _))

@[simp] lemma ofDoc_toDoc (t : AccessToken) : ofDoc t.toValue.toDoc = some t :=
  ofDoc_of_perm (List.Perm.refl _)

/-- Reading the signed bytes of a token gives the token. -/
theorem ofSlice_toVec (t : AccessToken) : fromSlice ofDoc t.toVec = some t := by
  rw [toVec, fromSlice_toBytes _ t.toValue_noLiteral, ofDoc_toDoc]

theorem toVec_injective : Function.Injective toVec := by
  intro t u h
  have hread := congrArg (fromSlice ofDoc) h
  simpa [ofSlice_toVec] using hread

end AccessToken

end Haske
