import Haske.Client.Agreement
import Haske.Server.Capacity

/-!
# The exchange that creates a session

The client sends what is to be paid for as JSON, and the server answers with the session that
it made.  Neither side loses anything on the way: the server reads the request that the client
wrote, and the store shows the session that the server made (`creation_agrees`).

The client sends the amount `10` if it is not told another one, and so does the page.
-/

namespace Haske

open Json Js Serde

/-! ### What is sent -/

/-- The payload of `createPayment`, if there is no other. -/
def defaultPayload : CreatePaymentRequest where
  amount := "10"
  asset := "XLM"
  eventId := "haske-demo-event"

def CreatePaymentRequest.members (request : CreatePaymentRequest) : List (String × Value) :=
  [("amount", .str request.amount), ("asset", .str request.asset),
    ("event_id", .str request.eventId)]

/-- The body of the request. -/
def CreatePaymentRequest.toText (request : CreatePaymentRequest) : String :=
  (Value.obj request.members).toText

/-- The derived reader: a field that is missing is `None`, but the array form has to have
them all. -/
def CreatePaymentBody.ofDoc : Doc → Option CreatePaymentBody
  | .obj ms => do
      let ms ← readMembers ms
      let amount ← withDefault (asOption asStr) none "amount" ms
      let asset ← withDefault (asOption asStr) none "asset" ms
      let eventId ← withDefault (asOption asStr) none "event_id" ms
      some ⟨amount, asset, eventId⟩
  | .arr [amount, asset, eventId] => do
      let amount ← asOption asStr amount
      let asset ← asOption asStr asset
      let eventId ← asOption asStr eventId
      some ⟨amount, asset, eventId⟩
  | _ => none

/-- The body that the server gets for a request. -/
def CreatePaymentRequest.toBody (request : CreatePaymentRequest) : CreatePaymentBody where
  amount := some request.amount
  asset := some request.asset
  eventId := some request.eventId

/-- The server reads what the client was told to send. -/
lemma read_request (request : CreatePaymentRequest) :
    fromStr CreatePaymentBody.ofDoc request.toText = some request.toBody := by
  rw [CreatePaymentRequest.toText, fromStr_toText _ (by
    simp [CreatePaymentRequest.members, Value.NoLiteral, NoLiteralMembers])]
  have hread := readMembers_toDocMembers request.members
  have hnodup : ((request.members.map fun m => (m.1, m.2.toDoc)).map Prod.fst).Nodup := by
    simp [CreatePaymentRequest.members]
  have hfield : ∀ name text, (name, Value.str text) ∈ request.members →
      withDefault (asOption asStr) none name (request.members.map fun m => (m.1, m.2.toDoc)) =
        some (some text) := by
    intro name text hmem
    have hmem' := List.mem_map_of_mem (f := fun m => (m.1, m.2.toDoc)) hmem
    exact (withDefault_of_mem hnodup hmem').trans (asOption_str text)
  rw [Value.toDoc, CreatePaymentBody.ofDoc, hread]
  simp only [Option.bind_eq_bind, Option.bind_some,
    hfield "amount" request.amount (by simp [CreatePaymentRequest.members]),
    hfield "asset" request.asset (by simp [CreatePaymentRequest.members]),
    hfield "event_id" request.eventId (by simp [CreatePaymentRequest.members])]
  rfl

/-! ### What is answered -/

/-- The members of the serialised response, in the order of the fields. -/
def CreatePaymentResponse.members (response : CreatePaymentResponse) : List (String × Value) :=
  [("session_id", .str response.sessionId), ("destination", .str response.destination),
    ("amount", .str response.amount), ("asset", .str response.asset),
    ("memo", .str response.memo), ("qr_payload", .str response.qrPayload),
    ("qr_png", .str response.qrPng),
    ("request_expires_at", .nat response.requestExpiresAt.toNat)]

/-- The body of the answer. -/
def CreatePaymentResponse.toText (response : CreatePaymentResponse) : String :=
  (Value.obj response.members).toText

/-- The value that the client reads an answer as. -/
def readCreated (response : CreatePaymentResponse) : Value :=
  .obj [("session_id", .str response.sessionId), ("destination", .str response.destination),
    ("amount", .str response.amount), ("asset", .str response.asset),
    ("memo", .str response.memo), ("qr_payload", .str response.qrPayload),
    ("qr_png", .str response.qrPng),
    ("request_expires_at", .nat (toDouble response.requestExpiresAt.toNat))]

lemma parse_created (response : CreatePaymentResponse) :
    Js.parse response.toText = some (readCreated response) := by
  rw [CreatePaymentResponse.toText, Js.parse_toText (by
    simp [CreatePaymentResponse.members, Value.NoLiteral, NoLiteralMembers])]
  simp [reread, rereadMembers, CreatePaymentResponse.members, setMember, readCreated]

lemma guard_created (response : CreatePaymentResponse) :
    isCreatePaymentResponse (readCreated response) = true := by
  simp [isCreatePaymentResponse, hasProps, isRecord, prop, typeOf, readCreated]

/-- The answer describes the session. -/
lemma createResponse_eq_some {qr : QrLibrary} {session : SessionRecord}
    {response : CreatePaymentResponse} (h : session.createResponse qr = some response) :
    ∃ qrPng, renderPngDataUrl qr session.paymentRequest.qrPayload 320 = some qrPng ∧
      response =
        { sessionId := session.paymentRequest.sessionId
          destination := session.paymentRequest.destination
          amount := session.paymentRequest.amount
          asset := session.paymentRequest.asset
          memo := session.paymentRequest.memo
          qrPayload := session.paymentRequest.qrPayload
          qrPng := qrPng
          requestExpiresAt := session.paymentRequest.expiresAt } := by
  simp only [SessionRecord.createResponse, Option.bind_eq_bind, Option.bind_eq_some_iff,
    Option.some.injEq] at h
  obtain ⟨qrPng, hqrPng, rfl⟩ := h
  exact ⟨qrPng, hqrPng, rfl⟩

/-! ### What is shown -/

/-- What is shown of a payment is this request; a deadline is shown as the double nearest to
it. -/
structure PaymentRequest.ShownAs (request : PaymentRequest) (paymentData : Value) : Prop where
  sessionId : prop paymentData "session_id" = some (.str request.sessionId)
  destination : prop paymentData "destination" = some (.str request.destination)
  amount : prop paymentData "amount" = some (.str request.amount)
  asset : prop paymentData "asset" = some (.str request.asset)
  memo : prop paymentData "memo" = some (.str request.memo)
  qrPayload : prop paymentData "qr_payload" = some (.str request.qrPayload)
  requestExpiresAt : prop paymentData "request_expires_at" =
    some (.nat (toDouble request.expiresAt.toNat))

/-- An answer to a creation describes the request of the session. -/
lemma shownAs_created {qr : QrLibrary} {session : SessionRecord}
    {response : CreatePaymentResponse} (h : session.createResponse qr = some response) :
    session.paymentRequest.ShownAs (readCreated response) := by
  obtain ⟨qrPng, -, rfl⟩ := createResponse_eq_some h
  constructor
  all_goals rfl

/-- So does what is made of a status response. -/
lemma shownAs_request (request : PaymentRequest) :
    request.ShownAs (toPaymentData (some (readRequest request))) := by
  constructor
  case requestExpiresAt => exact paymentData_deadline request
  all_goals rfl

/-- The store after the answer `payment` to a creation. -/
def PaymentState.created (state : PaymentState) (payment : Value) : PaymentState :=
  state.setSession (asString (prop payment "session_id")) payment
    (prop payment "request_expires_at")

lemma created_requestExpiresAt {state : PaymentState} {payment : Value} {n : ℕ}
    (h : prop payment "request_expires_at" = some (.nat n)) :
    (state.created payment).requestExpiresAt = .nat n := by
  simp [PaymentState.created, PaymentState.setSession, h, orNull]

/-- **Both sides agree on a session that is created.**  For every payload, the server reads
the request that the client writes; and whenever it answers with a session made for what it
read, the client reads the answer, the guard accepts it, and the store shows a session that
waits for this payment, with the server's id and deadline. -/
theorem creation_agrees (srv : Server) (payload : CreatePaymentRequest) (state : PaymentState) :
    ∃ body, fromStr CreatePaymentBody.ofDoc payload.toText = some body ∧
      ∀ (memo : Alphanumeric 12) now session response,
        srv.createPaymentRequest body memo now = some (session, response) →
        ∃ payment, Js.parse response.toText = some payment ∧
          isCreatePaymentResponse payment = true ∧ (state.created payment).status = .waiting ∧
          (state.created payment).sessionId = some memo.text ∧
          session.paymentRequest.ShownAs (state.created payment).paymentData ∧
          session.paymentRequest.amount = payload.amount ∧
          session.paymentRequest.asset = payload.asset ∧ session.eventId = payload.eventId ∧
          (session.paymentRequest.expiresAt.toNat < 2 ^ 53 →
            (state.created payment).requestExpiresAt =
              .nat session.paymentRequest.expiresAt.toNat) := by
  refine ⟨payload.toBody, read_request payload, fun memo now session response hcreate => ?_⟩
  simp only [Server.createPaymentRequest, Option.bind_eq_bind, Option.bind_eq_some_iff,
    Option.some.injEq, Prod.mk.injEq] at hcreate
  obtain ⟨made, hnew, answer, hanswer, rfl, rfl⟩ := hcreate
  have hmade := (newSession_eq_some hnew).2
  have hshown := shownAs_created hanswer
  have hkept : made.paymentRequest = _ := hmade.paymentRequest_eq
  refine ⟨_, parse_created answer, guard_created answer, rfl, ?_, hshown, ?_, ?_,
    hmade.eventId_eq, ?_⟩
  · show asString (prop (readCreated answer) "session_id") = _
    rw [hshown.sessionId, hkept]
    rfl
  · rw [hkept]
    rfl
  · rw [hkept]
    rfl
  · intro hsmall
    rw [created_requestExpiresAt hshown.requestExpiresAt, toDouble_of_lt hsmall]

/-- The session that both pages ask for is created at time 0. -/
theorem creation_agrees_demo :
    ∃ session response payment,
      (demoServer 300).createPaymentRequest defaultPayload.toBody demoMemo 0 =
        some (session, response) ∧
      Js.parse response.toText = some payment ∧ isCreatePaymentResponse payment = true ∧
      (initialState.created payment).sessionId = some demoMemo.text ∧
      session.paymentRequest.amount = "10" := by
  obtain ⟨⟨session, response⟩, hcreate⟩ : ∃ result,
      (demoServer 300).createPaymentRequest defaultPayload.toBody demoMemo 0 = some result :=
    ⟨_, rfl⟩
  obtain ⟨body, hread, hall⟩ := creation_agrees (demoServer 300) defaultPayload initialState
  obtain rfl := Option.some.inj ((read_request defaultPayload).symm.trans hread)
  obtain ⟨payment, hparse, hguard, -, hid, -, hamount, -⟩ := hall _ _ _ _ hcreate
  exact ⟨session, response, payment, hcreate, hparse, hguard, hid, hamount⟩

end Haske
