import Haske.Lib.Json.Value

/-!
# Shared types

The requests, events and responses that the provider of payments, the server and its
clients exchange, and the random strings the server draws.
-/

namespace Haske

structure CreatePaymentRequest where
  amount : String
  asset : String
  eventId : String
deriving DecidableEq

structure PaymentRequest where
  sessionId : String
  destination : String
  amount : String
  asset : String
  memo : String
  qrPayload : String
  expiresAt : UInt64
deriving DecidableEq

structure PaymentEvent where
  txHash : String
  sourceAccount : String
  destinationAccount : String
  amount : String
  asset : String
  memo : String
  ledgerSequence : UInt32
  confirmedAt : UInt64
deriving DecidableEq

structure PaymentStatusResponse where
  sessionId : String
  status : String
  paid : Bool
  requestExpiresAt : UInt64
  expiresAt : UInt64
  paymentRequest : PaymentRequest
  txHash : Option String
  accessToken : Option Json.Value
  accessQrPng : Option String
  accessQrAscii : Option String

/-! ### Serialisers -/

open Json

/-- The members of the serialised request, in the order of the fields. -/
def PaymentRequest.members (request : PaymentRequest) : List (String × Value) :=
  [("session_id", .str request.sessionId), ("destination", .str request.destination),
    ("amount", .str request.amount), ("asset", .str request.asset), ("memo", .str request.memo),
    ("qr_payload", .str request.qrPayload), ("expires_at", .nat request.expiresAt.toNat)]

/-- A field that may be `None`. -/
def ofOption (field : Option Value) : Value := field.getD .null

/-- The members of the serialised response, in the order of the fields. -/
def PaymentStatusResponse.members (response : PaymentStatusResponse) : List (String × Value) :=
  [("session_id", .str response.sessionId), ("status", .str response.status),
    ("paid", .bool response.paid), ("request_expires_at", .nat response.requestExpiresAt.toNat),
    ("expires_at", .nat response.expiresAt.toNat),
    ("payment_request", .obj response.paymentRequest.members),
    ("tx_hash", ofOption (response.txHash.map .str)),
    ("access_token", ofOption response.accessToken),
    ("access_qr_png", ofOption (response.accessQrPng.map .str)),
    ("access_qr_ascii", ofOption (response.accessQrAscii.map .str))]

/-- The body of the status routes' answers. -/
def PaymentStatusResponse.toText (response : PaymentStatusResponse) : String :=
  (Value.obj response.members).toText

/-! ### Random strings -/

/-- A string of `n` random letters and digits. -/
structure Alphanumeric (n : ℕ) where
  text : String
  length_eq : text.toList.length = n
  alphanum : text.toList.all Char.isAlphanum = true

lemma Alphanumeric.text_ne_empty {n : ℕ} (hn : n ≠ 0) (s : Alphanumeric n) : s.text ≠ "" := by
  intro h
  have hlen := s.length_eq
  rw [h] at hlen
  exact hn hlen.symm

end Haske
