import Haske.Client.Api

/-!
# The store of the checkout

What the checkout shows: the state of the payment, the session, and the data that the last
answer brought.  An answer about a session is turned into a snapshot and stored as a
whole.

The fields have the types that the store declares for them; a number or null, and what is
only passed on, is a JSON value.
-/

namespace Haske

open Json Js

inductive PaymentStatus where
  | init
  | waiting
  | detected
  | confirmed
  | expired
  | error
deriving DecidableEq

structure PaymentState where
  status : PaymentStatus
  sessionId : Option String
  paymentData : Value
  accessToken : Value
  accessData : Value
  requestExpiresAt : Value
  expiresAt : Value
  error : Option String

structure StatusSnapshot where
  sessionId : Option String
  paymentData : Value
  accessData : Value
  accessToken : Value
  requestExpiresAt : Value
  expiresAt : Value
  status : Option String

def initialState : PaymentState where
  status := .init
  sessionId := none
  paymentData := .null
  accessToken := .null
  accessData := .null
  requestExpiresAt := .null
  expiresAt := .null
  error := none

def mapStatus (status : Option String) : PaymentStatus :=
  if status = some "detected" then .detected
  else if status = some "confirmed" then .confirmed
  else if status = some "expired" then .expired
  else .waiting

namespace PaymentState

/-- `requestExpiresAt` is `undefined` if it is not given. -/
def setSession (state : PaymentState) (sessionId : Option String) (paymentData : Value)
    (requestExpiresAt : Option Value) : PaymentState :=
  { state with
    status := .waiting
    sessionId := sessionId
    paymentData := paymentData
    accessToken := .null
    accessData := .null
    requestExpiresAt :=
      match orNull requestExpiresAt with
      | .null => orNull (prop paymentData "request_expires_at")
      | value => value
    expiresAt := .null
    error := none }

def applyStatus (state : PaymentState) (snapshot : StatusSnapshot) : PaymentState :=
  { state with
    status := mapStatus snapshot.status
    sessionId := snapshot.sessionId
    paymentData := snapshot.paymentData
    accessData := snapshot.accessData
    accessToken := snapshot.accessToken
    requestExpiresAt := snapshot.requestExpiresAt
    expiresAt := snapshot.expiresAt
    error := none }

def setError (state : PaymentState) (message : String) : PaymentState :=
  { state with
    status := .error
    error := some message }

def setRecoverableError (state : PaymentState) (message : String) : PaymentState :=
  { state with error := some message }

def clearError (state : PaymentState) : PaymentState := { state with error := none }

end PaymentState

/-! ### From an answer to a snapshot -/

/-- The properties of the payment request, with one more. -/
def toPaymentData : Option Value → Value
  | some (.obj members) =>
      .obj (setMember "request_expires_at" (orNull (prop (.obj members) "expires_at")) members)
  | _ => .null

def toSnapshot (response : Value) : StatusSnapshot where
  sessionId := asString (prop response "session_id")
  paymentData := toPaymentData (prop response "payment_request")
  accessData := response
  accessToken := orNull (prop response "access_token")
  requestExpiresAt := orNull (prop response "request_expires_at")
  expiresAt := orNull (prop response "expires_at")
  status := asString (prop response "status")

end Haske
