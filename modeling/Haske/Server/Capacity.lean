import Haske.Lib.Json.Length
import Haske.Server.Step

/-!
# Which sessions can be served

The create handler draws the wallet's URI as a QR code and answers with an error if that
fails, after it has inserted the session.  A pass is drawn too, and what is drawn there is
the JSON of the signed token, which has the event of the session in it and not only the
amount.  So that the first code can be drawn says nothing about the second: a pass is issued
if and only if its text fits (`issue_iff_fits`), and an event that is long enough does
not.
-/

namespace Haske

open Json Signing

/-- Codes are made of up to so many bytes, and no other encoder fails. -/
structure QrLibrary.HasCapacity (qr : QrLibrary) (capacity : ℕ) : Prop where
  new : ∀ bs, (qr.new bs).isSome ↔ bs.length ≤ capacity
  renderPng : ∀ code size, (qr.renderPng code size).isSome

structure CreatePaymentResponse where
  sessionId : String
  destination : String
  amount : String
  asset : String
  memo : String
  qrPayload : String
  qrPng : String
  requestExpiresAt : UInt64

/-- What the create handler answers once the session is inserted; `none` is
`INTERNAL_SERVER_ERROR`. -/
def SessionRecord.createResponse (qr : QrLibrary) (session : SessionRecord) :
    Option CreatePaymentResponse := do
  let qrPng ← renderPngDataUrl qr session.paymentRequest.qrPayload 320
  some
    { sessionId := session.paymentRequest.sessionId
      destination := session.paymentRequest.destination
      amount := session.paymentRequest.amount
      asset := session.paymentRequest.asset
      memo := session.paymentRequest.memo
      qrPayload := session.paymentRequest.qrPayload
      qrPng := qrPng
      requestExpiresAt := session.paymentRequest.expiresAt }

/-- The create handler from its request to its answer, with the session it inserts; `memo`
is what `generate_memo` returns and `now` the reading of the clock. -/
def Server.createPaymentRequest (srv : Server) (body : CreatePaymentBody)
    (memo : Alphanumeric 12) (now : UInt64) : Option (SessionRecord × CreatePaymentResponse) := do
  let request := body.toRequest
  let paymentRequest := Haske.createPaymentRequest srv.destinationAddress request memo
  let session ←
    newSession srv.overflowChecks srv.tokenTtlSecs paymentRequest request.eventId now
  let response ← session.createResponse srv.qr
  some (session, response)

/-! ### The length of a pass -/

/-- The bytes of the pass for a payment: what is the same in all passes, and the fields. -/
def passLength (eventId : String) (payment : PaymentEvent) (expiresAt : UInt64) : ℕ :=
  267 + jsonLength eventId + jsonLength payment.txHash + jsonLength payment.sourceAccount +
    jsonLength payment.amount + jsonLength payment.asset + jsonLength payment.memo +
    digitCount payment.ledgerSequence.toNat + digitCount expiresAt.toNat

lemma jsonLength_alphanumeric {n : ℕ} (s : Alphanumeric n) : jsonLength s.text = n := by
  have hplain : ∀ c ∈ s.text.toList, isPlain c = true :=
    fun c hc => isPlain_of_isAlphanum (List.all_eq_true.1 s.alphanum c hc)
  rw [jsonLength_of_plain hplain, s.length_eq]

/-- A signature is 88 bytes of base64 text. -/
lemma jsonLength_signature (signature : Signature) :
    jsonLength (Base64.encode Base64.standard true signature.bytes) = 88 := by
  have hplain : ∀ v, isPlain (Char.ofNat (Base64.standard.symbol v).toNat) = true := by decide
  rw [jsonLength_of_plain]
  · rw [Base64.encode, Utf8.toList_ofAscii, List.length_map, Base64.length_encodeBytes,
      signature.length_eq]
  · intro c hc
    rw [Base64.encode, Utf8.toList_ofAscii, List.mem_map] at hc
    obtain ⟨b, hb, rfl⟩ := hc
    rcases Base64.mem_encodeBytes hb with ⟨v, rfl⟩ | ⟨-, rfl⟩
    · exact hplain v
    · decide

/-- The names of the members, and what is the same in every pass. -/
lemma jsonLength_names :
    [jsonLength "token", jsonLength "signature", jsonLength "version", jsonLength "event_id",
      jsonLength "payment_hash", jsonLength "tx_hash", jsonLength "source", jsonLength "amount",
      jsonLength "asset", jsonLength "memo", jsonLength "ledger", jsonLength "expires_at",
      jsonLength "nonce", jsonLength "", digitCount 1] =
      [5, 9, 7, 8, 12, 7, 6, 6, 5, 4, 6, 10, 5, 0, 1] := by
  decide

lemma length_pass (S : Scheme) (signingKey : S.SigningKey) (eventId : String)
    (payment : PaymentEvent) (expiresAt : UInt64) (nonce : Alphanumeric 16) :
    (Utf8.asBytes (signedTokenToJson
      (signToken S (issuedToken payment eventId expiresAt nonce) signingKey))).length =
      passLength eventId payment expiresAt := by
  have hnames := jsonLength_names
  simp only [List.cons.injEq] at hnames
  obtain ⟨h₁, h₂, h₃, h₄, h₅, h₆, h₇, h₈, h₉, h₁₀, h₁₁, h₁₂, h₁₃, h₁₄, h₁₅, -⟩ := hnames
  have hversion : digitCount (1 : UInt8).toNat = 1 := h₁₅
  show (SignedAccessToken.toValue _).size = _
  simp only [SignedAccessToken.toValue, SignedAccessToken.members, AccessToken.toValue,
    AccessToken.members, Value.size_obj, membersSize, memberSize, Value.size_str, Value.size_nat,
    signToken, issuedToken, AccessToken.newStellar, jsonLength_signature, jsonLength_alphanumeric,
    List.length_cons, List.length_nil, h₁, h₂, h₃, h₄, h₅, h₆, h₇, h₈, h₉, h₁₀, h₁₁, h₁₂, h₁₃,
    h₁₄, hversion, passLength]
  omega

/-! ### When a pass is issued -/

variable {srv : Server} {capacity : ℕ}

lemma renderPngDataUrl_isSome {qr : QrLibrary} (hqr : qr.HasCapacity capacity) (payload : String)
    (size : ℕ) :
    (renderPngDataUrl qr payload size).isSome ↔ (Utf8.asBytes payload).length ≤ capacity := by
  rw [← hqr.new, renderPngDataUrl]
  cases hnew : qr.new (Utf8.asBytes payload) with
  | none => simp
  | some code =>
      obtain ⟨buf, hbuf⟩ := Option.isSome_iff_exists.1 (hqr.renderPng code size)
      simp [hbuf]

lemma renderAsciiQr_isSome {qr : QrLibrary} (hqr : qr.HasCapacity capacity) (payload : String) :
    (renderAsciiQr qr payload).isSome ↔ (Utf8.asBytes payload).length ≤ capacity := by
  rw [renderAsciiQr, Option.isSome_map, hqr.new]

/-- A pass is issued if and only if its text fits. -/
lemma issue_isSome (hqr : srv.qr.HasCapacity capacity) (session : SessionRecord)
    (payment : PaymentEvent) (nonce : Alphanumeric 16) :
    (srv.issue session payment nonce).isSome ↔
      passLength session.eventId payment session.expiresAt ≤ capacity := by
  rw [← length_pass srv.scheme srv.signingKey session.eventId payment session.expiresAt nonce,
    Server.issue, issueToken]
  have hpng := renderPngDataUrl_isSome hqr (signedTokenToJson (signToken srv.scheme
    (issuedToken payment session.eventId session.expiresAt nonce) srv.signingKey)) 320
  have hascii := renderAsciiQr_isSome hqr (signedTokenToJson (signToken srv.scheme
    (issuedToken payment session.eventId session.expiresAt nonce) srv.signingKey))
  rw [← hpng] at hascii ⊢
  cases hpng' : renderPngDataUrl srv.qr (signedTokenToJson (signToken srv.scheme
      (issuedToken payment session.eventId session.expiresAt nonce) srv.signingKey)) 320 with
  | none => simp
  | some qrPng =>
      -- both codes hold the same text, so the second is drawn if the first is
      rw [hpng'] at hascii
      obtain ⟨qrAscii, hqrAscii⟩ := Option.isSome_iff_exists.1 (hascii.2 rfl)
      simp [hqrAscii]

/-- What the create handler has inserted when it answers. -/
lemma newSession_of_createPaymentRequest {body : CreatePaymentBody} {memo : Alphanumeric 12}
    {now : UInt64} {session : SessionRecord} {response : CreatePaymentResponse}
    (h : srv.createPaymentRequest body memo now = some (session, response)) :
    newSession srv.overflowChecks srv.tokenTtlSecs
      (createPaymentRequest srv.destinationAddress body.toRequest memo) body.toRequest.eventId
      now = some session := by
  simp only [Server.createPaymentRequest, Option.bind_eq_bind, Option.bind_eq_some_iff,
    Option.some.injEq, Prod.mk.injEq] at h
  obtain ⟨made, hmade, -, -, rfl, -⟩ := h
  exact hmade

/-- The steps of a creation, taken one after the other, insert the session that is made. -/
lemma run_of_newSession {s : State} {i : ℕ} (hi : s.tasks i = none) {body : CreatePaymentBody}
    {memo : Alphanumeric 12} {session : SessionRecord}
    (hnew : newSession srv.overflowChecks srv.tokenTtlSecs
      (createPaymentRequest srv.destinationAddress body.toRequest memo) body.toRequest.eventId
      s.clock = some session) :
    ∃ t s', Machine.Run (step srv) s t s' ∧
      t.map Prod.snd =
        [.createRequest i body memo, .createClock i, .createInsert i, .createRespond i] ∧
      s'.sessions = insertSession s.sessions session ∧ s'.clock = s.clock ∧
      s'.watcher = s.watcher := by
  have htask : ∀ (s : State) task, (s.setTask i task).tasks i = task :=
    fun s task => Function.update_self _ _ _
  refine ⟨_, _, .cons (step_of_effect (.createRequest hi)) (.cons (step_of_effect
    (.createClock (htask _ _) hnew)) (.cons (step_of_effect (.createInsert (htask _ _)))
    (.single (step_of_effect (.createRespond (htask _ _)))))), rfl, rfl, rfl, rfl⟩

/-- The handler's steps insert that session. -/
theorem run_createPaymentRequest {s : State} {i : ℕ} (hi : s.tasks i = none)
    {body : CreatePaymentBody} {memo : Alphanumeric 12} {session : SessionRecord}
    {response : CreatePaymentResponse}
    (h : srv.createPaymentRequest body memo s.clock = some (session, response)) :
    ∃ t s', Machine.Run (step srv) s t s' ∧
      t.map Prod.snd =
        [.createRequest i body memo, .createClock i, .createInsert i, .createRespond i] ∧
      s'.sessions = insertSession s.sessions session := by
  obtain ⟨t, s', hrun, hactions, hsessions, -, -⟩ :=
    run_of_newSession hi (newSession_of_createPaymentRequest h)
  exact ⟨t, s', hrun, hactions, hsessions⟩

/-- **Which accepted sessions can be served.**  For every request that the create handler
has answered and every record that matches the session, a pass is issued if and only if its
text fits into a QR code.  Of the session its length depends on the event, the amount and
the asset that were asked for and on the expiry, of the record on its hash, source and
ledger. -/
theorem issue_iff_fits (hqr : srv.qr.HasCapacity capacity) {body : CreatePaymentBody}
    {memo : Alphanumeric 12} {now : UInt64} {session : SessionRecord}
    {response : CreatePaymentResponse}
    (haccept : srv.createPaymentRequest body memo now = some (session, response))
    {records : List PaymentRecord} {payment : PaymentEvent}
    (hfound : findPayment session records = some payment) (nonce : Alphanumeric 16) :
    (srv.issue session payment nonce).isSome ↔
      279 + jsonLength (body.eventId.getD "demo-event") + jsonLength (body.amount.getD "10") +
        jsonLength (body.asset.getD "XLM") + digitCount (now + srv.tokenTtlSecs).toNat +
        jsonLength payment.txHash + jsonLength payment.sourceAccount +
        digitCount payment.ledgerSequence.toNat ≤ capacity := by
  have hmade := (newSession_eq_some (newSession_of_createPaymentRequest haccept)).2
  have hrequest : session.paymentRequest = { createPaymentRequest srv.destinationAddress
      body.toRequest memo with expiresAt := now + requestExpirySecs } := hmade.paymentRequest_eq
  have hevent : session.eventId = body.eventId.getD "demo-event" := hmade.eventId_eq
  have hexpires : session.expiresAt = now + srv.tokenTtlSecs := hmade.expiresAt_eq
  rw [findPayment, hrequest] at hfound
  obtain ⟨record, -, ⟨⟨-, -, -, hmemo, hamount⟩, hasset⟩, rfl⟩ := exists_record_of_found hfound
  have hamount' : (parsePayment record).amount = body.amount.getD "10" := hamount
  have hmemo' : (parsePayment record).memo = memo.text := hmemo
  -- the asset matches up to case, which does not change the length
  have hasset' : jsonLength (parsePayment record).asset = jsonLength (body.asset.getD "XLM") :=
    jsonLength_of_toLower (of_decide_eq_true hasset)
  rw [issue_isSome hqr, passLength, hevent, hexpires, hamount', hmemo', hasset',
    jsonLength_alphanumeric]
  omega

/-! ### Examples

Codes are made with the error correction level M, and the largest of these holds 2331 bytes.  A
code for digits or capital letters alone holds more of them; the texts of the examples are
neither. -/

/-- A library that counts bytes. -/
def QrLibrary.limited (capacity : ℕ) : QrLibrary where
  Code := Unit
  new bs := if bs.length ≤ capacity then some () else none
  renderChar _ := ""
  renderPng _ _ := some []

lemma QrLibrary.limited_hasCapacity (capacity : ℕ) :
    (QrLibrary.limited capacity).HasCapacity capacity where
  new bs := by
    show (if bs.length ≤ capacity then some () else none).isSome = true ↔ bs.length ≤ capacity
    by_cases hle : bs.length ≤ capacity
    · simp [hle]
    · simp [hle]
  renderPng _ _ := rfl

abbrev capacityServer : Server := { demoServer 300 with qr := .limited 2331 }

/-- A request for the demo payment, for any event. -/
def eventBody (eventId : String) : CreatePaymentBody := { demoBody with eventId := some eventId }

/-- The event does not matter when the request is answered and when its payment is found. -/
lemma accepted_and_found (eventId : String) :
    ∃ session response, capacityServer.createPaymentRequest (eventBody eventId) demoMemo 0 =
        some (session, response) ∧ session.eventId = eventId ∧
      findPayment session [demoRecord] = some (parsePayment demoRecord) := by
  have hnew : newSession capacityServer.overflowChecks capacityServer.tokenTtlSecs
      (createPaymentRequest capacityServer.destinationAddress (eventBody eventId).toRequest
        demoMemo) eventId 0 = some { demoSession 300 with eventId := eventId } := rfl
  have hresponse : (SessionRecord.createResponse capacityServer.qr
      { demoSession 300 with eventId := eventId }).isSome := by
    have hpng : (renderPngDataUrl capacityServer.qr (demoSession 300).paymentRequest.qrPayload
        320).isSome :=
      (renderPngDataUrl_isSome (QrLibrary.limited_hasCapacity 2331) _ 320).2 (by decide +kernel)
    obtain ⟨qrPng, hqrPng⟩ := Option.isSome_iff_exists.1 hpng
    simp only [SessionRecord.createResponse, hqrPng, Option.bind_eq_bind, Option.bind_some,
      Option.isSome_some]
  obtain ⟨response, hresponse⟩ := Option.isSome_iff_exists.1 hresponse
  have hfound : findPayment (demoSession 300) [demoRecord] = some (parsePayment demoRecord) := by
    decide +kernel
  refine ⟨{ demoSession 300 with eventId := eventId }, response, ?_, rfl, hfound⟩
  have hevent : (eventBody eventId).toRequest.eventId = eventId := rfl
  simp only [Server.createPaymentRequest, hevent, hnew, Option.bind_eq_bind, Option.bind_some,
    hresponse]

theorem issue_iff_fits_demo :
    ∃ session response, capacityServer.createPaymentRequest (eventBody "demo-event") demoMemo 0 =
        some (session, response) ∧
      (capacityServer.issue session (parsePayment demoRecord) demoNonce).isSome := by
  obtain ⟨session, response, haccept, -, hfound⟩ := accepted_and_found "demo-event"
  refine ⟨session, response, haccept, ?_⟩
  exact (issue_iff_fits (QrLibrary.limited_hasCapacity 2331) haccept hfound demoNonce).2
    (by decide +kernel)

/-- An event of 3000 characters is accepted, and no pass is issued for its payment. -/
theorem accepted_not_served :
    ∃ session response,
      capacityServer.createPaymentRequest
        (eventBody (String.ofList (List.replicate 3000 'a'))) demoMemo 0 =
          some (session, response) ∧
      findPayment session [demoRecord] = some (parsePayment demoRecord) ∧
      ∀ nonce, capacityServer.issue session (parsePayment demoRecord) nonce = none := by
  obtain ⟨session, response, haccept, hevent, hfound⟩ :=
    accepted_and_found (String.ofList (List.replicate 3000 'a'))
  refine ⟨session, response, haccept, hfound, fun nonce => ?_⟩
  have hlong := length_le_jsonLength session.eventId
  rw [hevent, String.toList_ofList, List.length_replicate] at hlong
  rw [← Option.not_isSome_iff_eq_none, issue_isSome (QrLibrary.limited_hasCapacity 2331),
    passLength, hevent]
  omega

end Haske
