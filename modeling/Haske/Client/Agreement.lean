import Haske.Client.Store
import Haske.Server.Invariant
import Haske.Verifier.Rendering

/-!
# Server and client agree on a session

What the server reports about a session goes through three schemas before it is shown: the
response the server writes, the guard of the client, and the snapshot that the store keeps.
For every session the server can reach they line up (`client_agrees`): the guard accepts the
response, and the store shows the state that the session is in.

Two things about reachable sessions are used.  Nothing is half paid, so a session without
token is not reported as `detected`; and a token that is stored is the JSON of a signed
token, so that the client gets an object, or at worst a string, but never `null`.
-/

namespace Haske

open Json Js Serde Machine

variable {srv : Server} {clock : UInt64} {t : Trace} {s : State}

/-! ### The token that is sent -/

/-- The tokens in the map are the JSON of signed tokens. -/
lemma issued_of_run (hrun : Run (step srv) (.init clock) t s) :
    ∀ id session token, s.sessions.lookup id = some session →
      session.accessToken = some token → ∃ signed, token = signedTokenToJson signed := by
  refine Run.invariant (P := fun _ s => ∀ id session token, s.sessions.lookup id = some session →
    session.accessToken = some token → ∃ signed, token = signedTokenToJson signed) hrun ?_ ?_
  · intro id session token hid
    exact absurd hid (by simp [State.init])
  · intro t s a s' hrun ih hstep id session token hid htoken
    have hfrom := provenance_of_run hrun
    -- a session that a task is about to insert has no token yet
    have hstamped : ∀ {i}, s.tasks i = some (.stamped session) → session.accessToken = none :=
      fun hi => (hfrom.task _ _ hi).1.accessToken
    rcases lookup_of_step_inv hstep hid with ⟨old, hold, hrewrites⟩ | ⟨i, -, hi, -⟩
    · cases hrewrites with
      | kept => exact ih id session token hold htoken
      | replaced hi _ => exact absurd ((hstamped hi).symm.trans htoken) (by simp)
      | @paid artifact copied rest hw _ =>
          have hissued := hfrom.watcher
          rw [hw] at hissued
          obtain ⟨payment, nonce, -, hissue⟩ := hissued
          rw [(old.pay_holds artifact).accessToken, Option.some.injEq] at htoken
          exact ⟨_, htoken ▸ (issueToken_eq_some hissue).1⟩
    · exact absurd ((hstamped hi).symm.trans htoken) (by simp)

/-- What is sent for a signed token is an object. -/
lemma readToken_spec (signed : SignedAccessToken) :
    ∃ v, (fromStr (readValue recursionLimit) (signedTokenToJson signed)).getD
      (.str (signedTokenToJson signed)) = v ∧ v.NoLiteral ∧ reread v ≠ .null := by
  obtain ⟨v, hread, hrep⟩ := signed.exists_readValue
  refine ⟨v, by rw [hread, Option.getD_some], hrep.noLiteral, ?_⟩
  obtain ⟨tms, ms, -, -, rfl⟩ := hrep
  simp [reread]

/-- The token of a session, if there is one, is sent as an object. -/
lemma accessToken_sent (hrun : Run (step srv) (.init clock) t s) {id : String}
    {session : SessionRecord} (hid : s.sessions.lookup id = some session) (now : UInt64) :
    (ofOption (toStatusResponse session now).accessToken).NoLiteral ∧
      (session.accessToken.isSome →
        reread (ofOption (toStatusResponse session now).accessToken) ≠ .null) := by
  cases htext : session.accessToken with
  | none => simp [toStatusResponse, htext, ofOption, Value.NoLiteral]
  | some text =>
      obtain ⟨signed, rfl⟩ := issued_of_run hrun id session text hid htext
      obtain ⟨v, hv, hliteral, hnull⟩ := readToken_spec signed
      simp only [toStatusResponse, htext, ofOption, Option.map_some, Option.getD_some, hv]
      exact ⟨hliteral, fun _ => hnull⟩

/-! ### The response as the client reads it -/

/-- The value that the client reads a request as. -/
def readRequest (request : PaymentRequest) : Value :=
  .obj [("session_id", .str request.sessionId), ("destination", .str request.destination),
    ("amount", .str request.amount), ("asset", .str request.asset), ("memo", .str request.memo),
    ("qr_payload", .str request.qrPayload),
    ("expires_at", .nat (toDouble request.expiresAt.toNat))]

/-- The value that the client reads a response as. -/
def readResponse (response : PaymentStatusResponse) : Value :=
  .obj [("session_id", .str response.sessionId), ("status", .str response.status),
    ("paid", .bool response.paid),
    ("request_expires_at", .nat (toDouble response.requestExpiresAt.toNat)),
    ("expires_at", .nat (toDouble response.expiresAt.toNat)),
    ("payment_request", readRequest response.paymentRequest),
    ("tx_hash", ofOption (response.txHash.map .str)),
    ("access_token", reread (ofOption response.accessToken)),
    ("access_qr_png", ofOption (response.accessQrPng.map .str)),
    ("access_qr_ascii", ofOption (response.accessQrAscii.map .str))]

lemma reread_members (response : PaymentStatusResponse) :
    reread (.obj response.members) = readResponse response := by
  have hrequest : reread (.obj response.paymentRequest.members) =
      readRequest response.paymentRequest := by
    simp [reread, rereadMembers, PaymentRequest.members, setMember, readRequest]
  have hstr : ∀ field : Option String,
      reread (ofOption (field.map .str)) = ofOption (field.map .str) := by
    intro field
    cases field with
    | none => rfl
    | some text => rfl
  rw [PaymentStatusResponse.members, reread]
  simp only [rereadMembers, hrequest, hstr, readResponse]
  simp [reread, setMember]

/-- The client reads the text of a response as this value. -/
lemma parse_response {response : PaymentStatusResponse}
    (htoken : (ofOption response.accessToken).NoLiteral) :
    Js.parse response.toText = some (readResponse response) := by
  have hstr : ∀ field : Option String, (ofOption (field.map Value.str)).NoLiteral := by
    intro field
    cases field with
    | none => exact True.intro
    | some text => exact True.intro
  rw [PaymentStatusResponse.toText, Js.parse_toText, reread_members]
  simp [PaymentStatusResponse.members, PaymentRequest.members, Value.NoLiteral, NoLiteralMembers,
    hstr, htoken]

lemma guard_response (response : PaymentStatusResponse) :
    isPaymentStatusResponse (readResponse response) = true := by
  simp [isPaymentStatusResponse, isPaymentRequest, hasProps, isRecord, prop, typeOf, readResponse,
    readRequest]

lemma toSnapshot_response (response : PaymentStatusResponse) :
    toSnapshot (readResponse response) =
      { sessionId := some response.sessionId
        paymentData := toPaymentData (some (readRequest response.paymentRequest))
        accessData := readResponse response
        accessToken := reread (ofOption response.accessToken)
        requestExpiresAt := .nat (toDouble response.requestExpiresAt.toNat)
        expiresAt := .nat (toDouble response.expiresAt.toNat)
        status := some response.status } := by
  simp [toSnapshot, readResponse, prop, orNull, asString]

lemma paymentData_deadline (request : PaymentRequest) :
    prop (toPaymentData (some (readRequest request))) "request_expires_at" =
      some (.nat (toDouble request.expiresAt.toNat)) := by
  simp [readRequest, toPaymentData, prop, setMember, orNull]

/-! ### What the store shows -/

/-- The store shows the session as it is at this time. -/
structure Agrees (id : String) (session : SessionRecord) (now : UInt64) (state : PaymentState) :
    Prop where
  sessionId : state.sessionId = some id
  confirmed : state.status = .confirmed ↔ session.accessToken.isSome
  accessToken : state.status = .confirmed → state.accessToken ≠ .null
  expired : state.status = .expired ↔
    session.accessToken = none ∧ session.paymentRequest.expiresAt ≤ now
  waiting : state.status = .waiting ↔
    session.accessToken = none ∧ now < session.paymentRequest.expiresAt
  requestExpiresAt : state.requestExpiresAt = .nat session.paymentRequest.expiresAt.toNat
  paymentData : prop state.paymentData "request_expires_at" =
    some (.nat session.paymentRequest.expiresAt.toNat)
  expiresAt : state.expiresAt = .nat session.expiresAt.toNat

/-- The three states of a session that is not half paid. -/
lemma mapStatus_statusOf {session : SessionRecord} (hcons : session.Consistent) (now : UInt64) :
    mapStatus (some (statusOf session now)) =
      if session.accessToken.isSome then .confirmed
      else if session.paymentRequest.expiresAt ≤ now then .expired
      else .waiting := by
  rcases hcons with hunset | ⟨artifact, hholds⟩
  · rw [statusOf, hunset.accessToken, hunset.paid, hunset.txHash]
    by_cases hdeadline : session.paymentRequest.expiresAt ≤ now
    · simp [hdeadline, mapStatus]
    · simp [hdeadline, mapStatus]
  · rw [statusOf, hholds.accessToken]
    simp [mapStatus]

/-- **Server and client agree.**  For every session in a reachable state of the server and
every time, the client reads the text of the status response, the guard accepts what it
reads, and the store shows the session as it is, if its deadlines are below 2 ^ 53. -/
theorem client_agrees (hrun : Run (step srv) (.init clock) t s) {id : String}
    {session : SessionRecord} (hid : s.sessions.lookup id = some session) (now : UInt64)
    (hdeadline : session.paymentRequest.expiresAt.toNat < 2 ^ 53)
    (hexpires : session.expiresAt.toNat < 2 ^ 53) (state : PaymentState) :
    ∃ payload, Js.parse (toStatusResponse session now).toText = some payload ∧
      isPaymentStatusResponse payload = true ∧
      Agrees id session now (state.applyStatus (toSnapshot payload)) := by
  obtain ⟨hkey, hcons, -, -⟩ := (provenance_of_run hrun).session id session hid
  have htoken := accessToken_sent hrun hid now
  refine ⟨_, parse_response htoken.1, guard_response _, ?_⟩
  rw [toSnapshot_response]
  have hstatus := mapStatus_statusOf hcons now
  have hdeadline' := toDouble_of_lt hdeadline
  have hexpires' := toDouble_of_lt hexpires
  constructor
  case sessionId => exact congrArg some hkey
  case confirmed =>
    show mapStatus (some (statusOf session now)) = .confirmed ↔ _
    rw [hstatus]
    by_cases hsome : session.accessToken.isSome <;>
      by_cases hle : session.paymentRequest.expiresAt ≤ now <;> simp [hsome, hle]
  case accessToken =>
    show mapStatus (some (statusOf session now)) = .confirmed → _
    rw [hstatus]
    by_cases hsome : session.accessToken.isSome
    · exact fun _ => htoken.2 hsome
    · by_cases hle : session.paymentRequest.expiresAt ≤ now <;> simp [hsome, hle]
  case expired =>
    show mapStatus (some (statusOf session now)) = .expired ↔ _
    rw [hstatus, ← Option.not_isSome_iff_eq_none]
    by_cases hsome : session.accessToken.isSome <;>
      by_cases hle : session.paymentRequest.expiresAt ≤ now <;> simp [hsome, hle]
  case waiting =>
    show mapStatus (some (statusOf session now)) = .waiting ↔ _
    rw [hstatus, ← Option.not_isSome_iff_eq_none, ← UInt64.not_le]
    by_cases hsome : session.accessToken.isSome <;>
      by_cases hle : session.paymentRequest.expiresAt ≤ now <;> simp [hsome, hle]
  case requestExpiresAt => exact congrArg Value.nat hdeadline'
  case paymentData =>
    rw [← hdeadline']
    exact paymentData_deadline session.paymentRequest
  case expiresAt => exact congrArg Value.nat hexpires'

/-- A session that is paid is shown as confirmed. -/
theorem client_agrees_demo :
    ∃ t s session payload, Run (step (demoServer 300)) (.init 0) t s ∧
      s.sessions.lookup demoMemo.text = some session ∧
      Js.parse (toStatusResponse session 400).toText = some payload ∧
      isPaymentStatusResponse payload = true ∧
      (initialState.applyStatus (toSnapshot payload)).status = .confirmed ∧
      (initialState.applyStatus (toSnapshot payload)).accessToken ≠ .null := by
  obtain ⟨t, s, hrun, -, hcheck⟩ : ∃ t s, Run (step (demoServer 300)) (.init 0) t s ∧
      t.map Prod.snd = demoCreate ++ [demoSnapshot 300 0] ++ demoSettle ∧
      (s.sessions.lookup demoMemo.text).any (fun session => session.accessToken.isSome &&
        session.paymentRequest.expiresAt == 900 && session.expiresAt == 300) = true :=
    exists_run_of_check _ (by decide +kernel)
  rw [Option.any_eq_true] at hcheck
  obtain ⟨session, hid, hcheck⟩ := hcheck
  rw [Bool.and_eq_true, Bool.and_eq_true, beq_iff_eq, beq_iff_eq] at hcheck
  obtain ⟨⟨hsome, hdeadline⟩, hexpires⟩ := hcheck
  obtain ⟨payload, hparse, hguard, hagrees⟩ := client_agrees hrun hid 400
    (by rw [hdeadline]; decide) (by rw [hexpires]; decide) initialState
  have hconfirmed := hagrees.confirmed.2 hsome
  exact ⟨t, s, session, payload, hrun, hid, hparse, hguard, hconfirmed,
    hagrees.accessToken hconfirmed⟩

end Haske
