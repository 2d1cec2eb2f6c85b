import Mathlib.Data.Finmap
import Haske.Server.Access
import Haske.Stellar.Provider

/-!
# Sessions

The payment service: the map from session ids to session records and the operations on
it.  A record is made when a payment is asked for, with two deadlines counted from the
same reading of the clock, that of the payment request and that of the pass.  It is
changed once, when the payment is found, and is never removed.

A record has two parts: its `Order`, which is fixed when it is made, and what is stored
when it is paid.  The second part is all unset or all set, to the fields of one
artifact (`Consistent`).
-/

namespace Haske

open Json Serde

structure SessionRecord where
  paymentRequest : PaymentRequest
  eventId : String
  paid : Bool
  expiresAt : UInt64
  txHash : Option String
  accessToken : Option String
  accessQrPng : Option String
  accessQrAscii : Option String
deriving DecidableEq

abbrev Sessions := Finmap fun _ : String => SessionRecord

/-- The body of a request for payment. -/
structure CreatePaymentBody where
  amount : Option String
  asset : Option String
  eventId : Option String
deriving DecidableEq

def CreatePaymentBody.toRequest (body : CreatePaymentBody) : CreatePaymentRequest where
  amount := body.amount.getD "10"
  asset := body.asset.getD "XLM"
  eventId := body.eventId.getD "demo-event"

/-- The expiry of payment requests that the route passes to `insert_session`. -/
def requestExpirySecs : UInt64 := 15 * 60

/-- The sum does not fit. -/
def Overflows (a b : UInt64) : Prop := UInt64.size ≤ a.toNat + b.toNat

instance (a b : UInt64) : Decidable (Overflows a b) := Nat.decLe _ _

/-- The first half of `insert_session`: the record for a request, with its deadlines
counted from `now`.  A sum that overflows panics or wraps, as the program was compiled. -/
def newSession (overflowChecks : Bool) (tokenTtlSecs : UInt64) (paymentRequest : PaymentRequest)
    (eventId : String) (now : UInt64) : Option SessionRecord :=
  if overflowChecks ∧ (Overflows now requestExpirySecs ∨ Overflows now tokenTtlSecs) then none
  else some
    { paymentRequest := { paymentRequest with expiresAt := now + requestExpirySecs }
      eventId := eventId
      paid := false
      expiresAt := now + tokenTtlSecs
      txHash := none
      accessToken := none
      accessQrPng := none
      accessQrAscii := none }

/-- The second half of `insert_session`. -/
def insertSession (sessions : Sessions) (record : SessionRecord) : Sessions :=
  sessions.insert record.paymentRequest.sessionId record

/-- What `pending_sessions` keeps of a record, `now` being the reading of the clock for
it. -/
def isPending (record : SessionRecord) (now : UInt64) : Bool :=
  !record.paid && now < record.paymentRequest.expiresAt

/-- The record once it is paid. -/
def SessionRecord.pay (session : SessionRecord) (artifact : AccessArtifact) : SessionRecord :=
  { session with
    paid := true
    txHash := some artifact.txHash
    accessToken := some artifact.token
    accessQrPng := some artifact.qrPng
    accessQrAscii := some artifact.qrAscii }

/-- Fails for an unknown session. -/
def markPaid (sessions : Sessions) (sessionId : String) (artifact : AccessArtifact) :
    Option Sessions :=
  (sessions.lookup sessionId).map fun session =>
    sessions.insert sessionId (session.pay artifact)

def statusOf (session : SessionRecord) (now : UInt64) : String :=
  if session.accessToken.isSome then "confirmed"
  else if session.paid || session.txHash.isSome then "detected"
  else if session.paymentRequest.expiresAt ≤ now then "expired"
  else "waiting"

def toStatusResponse (session : SessionRecord) (now : UInt64) : PaymentStatusResponse where
  sessionId := session.paymentRequest.sessionId
  status := statusOf session now
  paid := session.paid
  requestExpiresAt := session.paymentRequest.expiresAt
  expiresAt := session.expiresAt
  paymentRequest := session.paymentRequest
  txHash := session.txHash
  accessToken := session.accessToken.map fun token =>
    (fromStr (readValue recursionLimit) token).getD (.str token)
  accessQrPng := session.accessQrPng
  accessQrAscii := session.accessQrAscii

/-! ### The two parts of a record -/

/-- What is fixed when a session is made. -/
structure Order where
  paymentRequest : PaymentRequest
  eventId : String
  expiresAt : UInt64
deriving DecidableEq

namespace SessionRecord

def order (session : SessionRecord) : Order where
  paymentRequest := session.paymentRequest
  eventId := session.eventId
  expiresAt := session.expiresAt

/-- Nothing is stored yet. -/
structure Unset (session : SessionRecord) : Prop where
  paid : session.paid = false
  txHash : session.txHash = none
  accessToken : session.accessToken = none
  accessQrPng : session.accessQrPng = none
  accessQrAscii : session.accessQrAscii = none

/-- The artifact is stored. -/
structure Holds (session : SessionRecord) (artifact : AccessArtifact) : Prop where
  paid : session.paid = true
  txHash : session.txHash = some artifact.txHash
  accessToken : session.accessToken = some artifact.token
  accessQrPng : session.accessQrPng = some artifact.qrPng
  accessQrAscii : session.accessQrAscii = some artifact.qrAscii

/-- Never half paid. -/
def Consistent (session : SessionRecord) : Prop :=
  session.Unset ∨ ∃ artifact, session.Holds artifact

/-- The artifact that is stored. -/
def receipt (session : SessionRecord) : Option AccessArtifact := do
  let txHash ← session.txHash
  let token ← session.accessToken
  let qrPng ← session.accessQrPng
  let qrAscii ← session.accessQrAscii
  some { token := token, qrPng := qrPng, qrAscii := qrAscii, txHash := txHash }

variable {session : SessionRecord} {artifact : AccessArtifact}

lemma pay_holds (session : SessionRecord) (artifact : AccessArtifact) :
    (session.pay artifact).Holds artifact := ⟨rfl, rfl, rfl, rfl, rfl⟩

lemma Unset.receipt (h : session.Unset) : session.receipt = none := by
  simp [SessionRecord.receipt, h.txHash]

lemma Holds.receipt (h : session.Holds artifact) : session.receipt = some artifact := by
  simp [SessionRecord.receipt, h.txHash, h.accessToken, h.accessQrPng, h.accessQrAscii]

/-- A consistent record that is paid, has a token, or a hash, holds an artifact. -/
lemma Consistent.holds_of_paid (h : session.Consistent) (hpaid : session.paid = true) :
    ∃ artifact, session.Holds artifact := by
  rcases h with hunset | hholds
  · rw [hunset.paid] at hpaid
    exact absurd hpaid (by simp)
  · exact hholds

lemma Consistent.unset_of_unpaid (h : session.Consistent) (hpaid : session.paid = false) :
    session.Unset := by
  rcases h with hunset | ⟨artifact, hholds⟩
  · exact hunset
  · rw [hholds.paid] at hpaid
    exact absurd hpaid (by simp)

lemma Consistent.holds_of_accessToken (h : session.Consistent) {token : String}
    (htoken : session.accessToken = some token) :
    ∃ artifact, session.Holds artifact ∧ artifact.token = token := by
  rcases h with hunset | ⟨artifact, hholds⟩
  · rw [hunset.accessToken] at htoken
    exact absurd htoken (by simp)
  · refine ⟨artifact, hholds, ?_⟩
    rwa [hholds.accessToken, Option.some.injEq] at htoken

lemma Consistent.holds_of_txHash (h : session.Consistent) {txHash : String}
    (htxHash : session.txHash = some txHash) :
    ∃ artifact, session.Holds artifact ∧ artifact.txHash = txHash := by
  rcases h with hunset | ⟨artifact, hholds⟩
  · rw [hunset.txHash] at htxHash
    exact absurd htxHash (by simp)
  · refine ⟨artifact, hholds, ?_⟩
    rwa [hholds.txHash, Option.some.injEq] at htxHash

end SessionRecord

/-! ### Making a record -/

/-- A request with its deadline, as it is kept in a session. -/
structure Order.MadeFrom (order : Order) (tokenTtlSecs : UInt64) (paymentRequest : PaymentRequest)
    (eventId : String) (now : UInt64) : Prop where
  paymentRequest_eq :
    order.paymentRequest = { paymentRequest with expiresAt := now + requestExpirySecs }
  eventId_eq : order.eventId = eventId
  expiresAt_eq : order.expiresAt = now + tokenTtlSecs

lemma newSession_eq_some {overflowChecks : Bool} {tokenTtlSecs now : UInt64}
    {paymentRequest : PaymentRequest} {eventId : String} {record : SessionRecord}
    (h : newSession overflowChecks tokenTtlSecs paymentRequest eventId now = some record) :
    record.Unset ∧ record.order.MadeFrom tokenTtlSecs paymentRequest eventId now := by
  rw [newSession] at h
  split at h
  · exact absurd h (by simp)
  · obtain rfl := Option.some.inj h
    exact ⟨⟨rfl, rfl, rfl, rfl, rfl⟩, ⟨rfl, rfl, rfl⟩⟩

/-! ### Status -/

lemma statusOf_eq_expired {session : SessionRecord} {now : UInt64} :
    statusOf session now = "expired" ↔
      session.accessToken = none ∧ session.paid = false ∧ session.txHash = none ∧
        session.paymentRequest.expiresAt ≤ now := by
  rw [statusOf]
  by_cases htoken : session.accessToken.isSome = true
  · have hne : session.accessToken ≠ none := Option.isSome_iff_ne_none.1 htoken
    simp [htoken, hne]
  · have hnone : session.accessToken = none := by simpa using htoken
    by_cases hdetected : (session.paid || session.txHash.isSome) = true
    · rw [if_neg htoken, if_pos hdetected]
      refine iff_of_false (by decide) ?_
      rintro ⟨-, hpaid, hhash, -⟩
      simp [hpaid, hhash] at hdetected
    · have hboth : session.paid = false ∧ session.txHash = none := by simpa using hdetected
      rw [if_neg htoken, if_neg hdetected]
      by_cases hdeadline : session.paymentRequest.expiresAt ≤ now
      · rw [if_pos hdeadline]
        exact iff_of_true rfl ⟨hnone, hboth.1, hboth.2, hdeadline⟩
      · rw [if_neg hdeadline]
        exact iff_of_false (by decide) fun h => hdeadline h.2.2.2

end Haske
