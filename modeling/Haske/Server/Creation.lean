import Haske.Server.Capacity
import Haske.Server.Invariant

/-!
# A creation that fails

The create handler can fail before it inserts the session, if the payment provider does, and
after it, if the wallet's URI cannot be drawn.  In the first case the sessions are what they
were.  In the second the session stays, although the client gets an error and never learns
its id, and the watcher asks Horizon for its payment until the deadline is over
(`failed_creation_polled`).  The amount in the URI is the client's, so that the client
decides whether the URI fits (`no_trace_iff`).
-/

namespace Haske

open Machine

/-- The errors of the create handler. -/
inductive StatusCode where
  | badGateway
  | internalServerError
deriving DecidableEq

/-- The create handler on the sessions: what it makes of them, and its answer.  `provider` is
`create_payment_request` of the payment provider, and `now` the reading of the clock; if the
handler panics there is neither. -/
def Server.createPaymentRequestRoute (srv : Server)
    (provider : CreatePaymentRequest → Option PaymentRequest) (sessions : Sessions)
    (body : CreatePaymentBody) (now : UInt64) :
    Option (Sessions × Except StatusCode CreatePaymentResponse) :=
  let request := body.toRequest
  match provider request with
  | none => some (sessions, .error .badGateway)
  | some paymentRequest =>
      match newSession srv.overflowChecks srv.tokenTtlSecs paymentRequest request.eventId now with
      | none => none
      | some session =>
          let sessions := insertSession sessions session
          match session.createResponse srv.qr with
          | none => some (sessions, .error .internalServerError)
          | some response => some (sessions, .ok response)

/-! ### Records and entries -/

/-- Nothing but the order of an unpaid record can differ. -/
lemma SessionRecord.eq_of_order_eq {record record' : SessionRecord}
    (horder : record.order = record'.order) (h : record.Unset) (h' : record'.Unset) :
    record = record' := by
  obtain ⟨paymentRequest, eventId, paid, expiresAt, txHash, token, qrPng, qrAscii⟩ := record
  obtain ⟨paymentRequest', eventId', paid', expiresAt', txHash', token', qrPng', qrAscii'⟩ :=
    record'
  obtain ⟨rfl, rfl, rfl, rfl, rfl⟩ := h
  obtain ⟨rfl, rfl, rfl, rfl, rfl⟩ := h'
  simp only [SessionRecord.order, Order.mk.injEq] at horder
  obtain ⟨rfl, rfl, rfl⟩ := horder
  rfl

lemma Order.MadeFrom.unique {order order' : Order} {tokenTtlSecs now : UInt64}
    {paymentRequest : PaymentRequest} {eventId : String}
    (h : order.MadeFrom tokenTtlSecs paymentRequest eventId now)
    (h' : order'.MadeFrom tokenTtlSecs paymentRequest eventId now) : order = order' := by
  obtain ⟨request, event, expires⟩ := order
  obtain ⟨request', event', expires'⟩ := order'
  obtain ⟨rfl, rfl, rfl⟩ := h
  obtain ⟨rfl, rfl, rfl⟩ := h'
  rfl

lemma newSession_eq_none {overflowChecks : Bool} {tokenTtlSecs now : UInt64}
    {paymentRequest : PaymentRequest} {eventId : String} :
    newSession overflowChecks tokenTtlSecs paymentRequest eventId now = none ↔
      overflowChecks ∧ (Overflows now requestExpirySecs ∨ Overflows now tokenTtlSecs) := by
  rw [newSession]
  split
  · exact iff_of_true rfl ‹_›
  · exact iff_of_false (by simp) ‹_›

/-- An insertion changes nothing only if the record is there already. -/
lemma insertSession_eq_self_iff {sessions : Sessions} {record : SessionRecord} :
    insertSession sessions record = sessions ↔
      sessions.lookup record.paymentRequest.sessionId = some record := by
  constructor
  · intro h
    rw [← h]
    exact Finmap.lookup_insert _
  · intro h
    refine Finmap.ext_lookup fun id => ?_
    by_cases hid : id = record.paymentRequest.sessionId
    · rw [hid, h]
      exact Finmap.lookup_insert _
    · exact Finmap.lookup_insert_of_ne _ hid

/-! ### What is left behind -/

section

variable {srv : Server} {capacity : ℕ} {provider : CreatePaymentRequest → Option PaymentRequest}
  {sessions : Sessions} {body : CreatePaymentBody} {now : UInt64}
  {paymentRequest : PaymentRequest} {eventId : String} {session : SessionRecord}

/-- The URI of the request can be drawn. -/
def PaymentRequest.Fits (paymentRequest : PaymentRequest) (capacity : ℕ) : Prop :=
  (Utf8.asBytes paymentRequest.qrPayload).length ≤ capacity

lemma createResponse_isSome (hqr : srv.qr.HasCapacity capacity) :
    (session.createResponse srv.qr).isSome ↔ session.paymentRequest.Fits capacity := by
  have hpng := renderPngDataUrl_isSome hqr session.paymentRequest.qrPayload 320
  rw [PaymentRequest.Fits, ← hpng, SessionRecord.createResponse]
  cases renderPngDataUrl srv.qr session.paymentRequest.qrPayload 320 with
  | none => simp
  | some qrPng => simp

/-- The request of a record is that it was made for, with another deadline. -/
lemma fits_of_newSession
    (h : newSession srv.overflowChecks srv.tokenTtlSecs paymentRequest eventId now =
      some session) :
    session.paymentRequest.Fits capacity ↔ paymentRequest.Fits capacity := by
  have hpayload : session.paymentRequest.qrPayload = paymentRequest.qrPayload := by
    show session.order.paymentRequest.qrPayload = paymentRequest.qrPayload
    rw [(newSession_eq_some h).2.paymentRequest_eq]
  rw [PaymentRequest.Fits, PaymentRequest.Fits, hpayload]

lemma sessionId_of_newSession
    (h : newSession srv.overflowChecks srv.tokenTtlSecs paymentRequest eventId now =
      some session) :
    session.paymentRequest.sessionId = paymentRequest.sessionId := by
  show session.order.paymentRequest.sessionId = paymentRequest.sessionId
  rw [(newSession_eq_some h).2.paymentRequest_eq]

/-- The handler fails with the session inserted. -/
lemma route_undrawn (hprovider : provider body.toRequest = some paymentRequest)
    (hnew : newSession srv.overflowChecks srv.tokenTtlSecs paymentRequest body.toRequest.eventId
      now = some session) (hresponse : session.createResponse srv.qr = none) :
    srv.createPaymentRequestRoute provider sessions body now =
      some (insertSession sessions session, .error .internalServerError) := by
  simp only [Server.createPaymentRequestRoute, hprovider, hnew, hresponse]

/-- An error after the provider has made a request. -/
lemma route_eq_error {sessions' : Sessions} {status : StatusCode}
    (hprovider : provider body.toRequest = some paymentRequest)
    (h : srv.createPaymentRequestRoute provider sessions body now =
      some (sessions', .error status)) :
    ∃ session, newSession srv.overflowChecks srv.tokenTtlSecs paymentRequest
        body.toRequest.eventId now = some session ∧ session.createResponse srv.qr = none ∧
      sessions' = insertSession sessions session := by
  simp only [Server.createPaymentRequestRoute, hprovider] at h
  cases hnew : newSession srv.overflowChecks srv.tokenTtlSecs paymentRequest
      body.toRequest.eventId now with
  | none => simp [hnew] at h
  | some session =>
      simp only [hnew] at h
      cases hresponse : session.createResponse srv.qr with
      | some response => simp [hresponse] at h
      | none =>
          simp only [hresponse, Option.some.injEq, Prod.mk.injEq] at h
          exact ⟨session, rfl, hresponse, h.1.symm⟩

/-- **When a creation that fails leaves no trace.**  For every map of sessions, every body
and every provider, an error leaves the sessions as they were if and only if the request that
the provider makes, if it makes one, can be drawn; or else the handler panics before it
inserts the session, or the insertion changes nothing, since the map has this record
already. -/
theorem no_trace_iff (hqr : srv.qr.HasCapacity capacity)
    (provider : CreatePaymentRequest → Option PaymentRequest) (sessions : Sessions)
    (body : CreatePaymentBody) (now : UInt64) :
    (∀ sessions' status,
        srv.createPaymentRequestRoute provider sessions body now =
            some (sessions', .error status) →
          sessions' = sessions) ↔
      ∀ paymentRequest, provider body.toRequest = some paymentRequest →
        (Utf8.asBytes paymentRequest.qrPayload).length ≤ capacity ∨
          (srv.overflowChecks ∧
            (Overflows now requestExpirySecs ∨ Overflows now srv.tokenTtlSecs)) ∨
          ∃ live, sessions.lookup paymentRequest.sessionId = some live ∧ live.Unset ∧
            live.order.MadeFrom srv.tokenTtlSecs paymentRequest body.toRequest.eventId now := by
  constructor
  · intro h paymentRequest hprovider
    by_cases hfits : paymentRequest.Fits capacity
    · exact Or.inl hfits
    cases hnew : newSession srv.overflowChecks srv.tokenTtlSecs paymentRequest
        body.toRequest.eventId now with
    | none => exact Or.inr (Or.inl (newSession_eq_none.1 hnew))
    | some session =>
        have hresponse : session.createResponse srv.qr = none := by
          rw [← Option.not_isSome_iff_eq_none, createResponse_isSome hqr, fits_of_newSession hnew]
          exact hfits
        have hsame := h _ _ (route_undrawn hprovider hnew hresponse)
        obtain ⟨hunset, hmade⟩ := newSession_eq_some hnew
        rw [insertSession_eq_self_iff, sessionId_of_newSession hnew] at hsame
        exact Or.inr (Or.inr ⟨session, hsame, hunset, hmade⟩)
  · intro h sessions' status herror
    cases hprovider : provider body.toRequest with
    | none =>
        simp only [Server.createPaymentRequestRoute, hprovider, Option.some.injEq,
          Prod.mk.injEq] at herror
        exact herror.1.symm
    | some paymentRequest =>
        obtain ⟨session, hnew, hresponse, rfl⟩ := route_eq_error hprovider herror
        rcases h paymentRequest hprovider with hfits | hpanics | ⟨live, hlive, hunset, hmade⟩
        · have hsome : (session.createResponse srv.qr).isSome :=
            (createResponse_isSome hqr).2 ((fits_of_newSession hnew).2 hfits)
          rw [hresponse] at hsome
          exact absurd hsome (by simp)
        · rw [newSession_eq_none.2 hpanics] at hnew
          exact absurd hnew (by simp)
        · obtain ⟨hunset', hmade'⟩ := newSession_eq_some hnew
          obtain rfl := SessionRecord.eq_of_order_eq (hmade'.unique hmade) hunset' hunset
          rw [insertSession_eq_self_iff, sessionId_of_newSession hnew]
          exact hlive

/-- With Stellar as its provider the handler is `createPaymentRequest`, if that answers. -/
theorem route_of_createPaymentRequest {memo : Alphanumeric 12}
    {response : CreatePaymentResponse}
    (h : srv.createPaymentRequest body memo now = some (session, response)) :
    srv.createPaymentRequestRoute
        (fun request => some (createPaymentRequest srv.destinationAddress request memo))
        sessions body now = some (insertSession sessions session, .ok response) := by
  have hnew := newSession_of_createPaymentRequest h
  have hresponse : session.createResponse srv.qr = some response := by
    simp only [Server.createPaymentRequest, hnew, Option.bind_eq_bind, Option.bind_some,
      Option.bind_eq_some_iff, Option.some.injEq, Prod.mk.injEq, true_and] at h
    obtain ⟨_, hresponse, rfl⟩ := h
    exact hresponse
  simp only [Server.createPaymentRequestRoute, hnew, hresponse]

/-- The handler with Stellar as its provider is a creation of the machine, whatever it
answers. -/
lemma run_route {s : State} {i : ℕ} (hi : s.tasks i = none) {memo : Alphanumeric 12}
    {sessions' : Sessions} {answer : Except StatusCode CreatePaymentResponse}
    (h : srv.createPaymentRequestRoute
      (fun request => some (createPaymentRequest srv.destinationAddress request memo))
      s.sessions body s.clock = some (sessions', answer)) :
    ∃ t s', Run (step srv) s t s' ∧
      t.map Prod.snd =
        [.createRequest i body memo, .createClock i, .createInsert i, .createRespond i] ∧
      s'.sessions = sessions' ∧ s'.clock = s.clock ∧ s'.watcher = s.watcher := by
  cases hnew : newSession srv.overflowChecks srv.tokenTtlSecs
      (createPaymentRequest srv.destinationAddress body.toRequest memo) body.toRequest.eventId
      s.clock with
  | none => simp [Server.createPaymentRequestRoute, hnew] at h
  | some session =>
      obtain ⟨t, s', hrun, hactions, hsessions, hclock, hwatcher⟩ := run_of_newSession hi hnew
      refine ⟨t, s', hrun, hactions, ?_, hclock, hwatcher⟩
      -- both answers come with the session inserted
      rw [hsessions]
      simp only [Server.createPaymentRequestRoute, hnew] at h
      cases hresponse : session.createResponse srv.qr with
      | none =>
          simp only [hresponse, Option.some.injEq, Prod.mk.injEq] at h
          exact h.1
      | some response =>
          simp only [hresponse, Option.some.injEq, Prod.mk.injEq] at h
          exact h.1

end

/-! ### Over a run -/

section

variable (capacity : ℕ)

/-- The request that a task carries can be drawn. -/
def Task.Fits : Task → Prop
  | .requested paymentRequest _ => paymentRequest.Fits capacity
  | .stamped record => record.paymentRequest.Fits capacity
  | .inserted record => record.paymentRequest.Fits capacity
  | .status _ => True

/-- A creation is for a request that can be drawn. -/
def Action.Fits (srv : Server) : Action → Prop
  | .createRequest _ body memo =>
      (createPaymentRequest srv.destinationAddress body.toRequest memo).Fits capacity
  | _ => True

/-- All the requests of a state can be drawn. -/
structure Drawable (s : State) : Prop where
  task : ∀ i task, s.tasks i = some task → task.Fits capacity
  session : ∀ id session, s.sessions.lookup id = some session →
    session.paymentRequest.Fits capacity
  queue : ∀ session ∈ s.watcher.queue, session.paymentRequest.Fits capacity

end

section

variable {srv : Server} {capacity : ℕ} {s s' : State} {a : Action}

lemma Drawable.step (h : Drawable capacity s) (ha : a.Fits capacity srv)
    (hstep : step srv s a = some s') : Drawable capacity s' where
  task j task hj := by
    rcases task_of_step hstep hj with ⟨hj, -⟩ | henters
    · exact h.task j task hj
    · cases henters with
      | requested => exact ha
      | stamped hold hnew => exact (fits_of_newSession hnew).2 (h.task j _ hold)
      | inserted hold =>
          have hfits := h.task j _ hold
          exact hfits
      | status _ => exact True.intro
  session id session hid := by
    rcases lookup_of_step_inv hstep hid with ⟨old, hold, hrewrites⟩ | ⟨i, -, hi, -⟩
    · cases hrewrites with
      | kept => exact h.session id _ hold
      | replaced hi _ => exact h.task _ _ hi
      | paid _ _ => exact h.session id old hold
    · exact h.task i _ hi
  queue session hsession := by
    rcases queue_of_step hstep with hsame | htail | ⟨visits, -, hvisits, hqueue⟩
    · exact h.queue session (hsame ▸ hsession)
    · exact h.queue session (List.mem_of_mem_tail (htail ▸ hsession))
    · -- what is copied is in the map
      obtain ⟨id, -, hid, -⟩ := mem_pendingSessions hvisits.1 (hqueue ▸ hsession)
      exact h.session id session hid

/-- **Who is told of the sessions that are polled.**  In every run whose creations are all
for requests that can be drawn, no handler that has inserted its session answers with an
error, nor is there a session among those the watcher polls that could not be answered
with. -/
theorem answerable_of_run (hqr : srv.qr.HasCapacity capacity) {clock : UInt64} {t : Trace}
    (hrun : Run (step srv) (.init clock) t s) (hfits : ∀ e ∈ t, e.2.Fits capacity srv) :
    (∀ i session, s.tasks i = some (.inserted session) →
        (session.createResponse srv.qr).isSome) ∧
      ∀ session ∈ s.watcher.queue, (session.createResponse srv.qr).isSome := by
  obtain ⟨htask, -, hqueue⟩ : Drawable capacity s := by
    refine Run.invariant_of_guard (P := fun _ s => Drawable capacity s)
      (G := fun _ a => a.Fits capacity srv) hrun hfits ?_ ?_
    · refine ⟨?_, ?_, ?_⟩
      · intro i task hi
        exact absurd hi (by simp)
      · intro id session hid
        exact absurd hid (by simp)
      · intro session hsession
        exact absurd hsession (by simp)
    · intro t s a s' _ ih ha hstep
      exact ih.step ha hstep
  exact ⟨fun i session hi => (createResponse_isSome hqr).2 (htask i _ hi),
    fun session hsession => (createResponse_isSome hqr).2 (hqueue session hsession)⟩

end

/-! ### An example -/

/-- A request for a payment of so much. -/
def amountBody (amount : String) : CreatePaymentBody := { demoBody with amount := some amount }

/-- The record that is made for it. -/
def amountSession (amount : String) : SessionRecord where
  paymentRequest :=
    { createPaymentRequest "GDEST" (amountBody amount).toRequest demoMemo with expiresAt := 900 }
  eventId := "demo-event"
  paid := false
  expiresAt := 300
  txHash := none
  accessToken := none
  accessQrPng := none
  accessQrAscii := none

lemma newSession_amountBody (amount : String) :
    newSession capacityServer.overflowChecks capacityServer.tokenTtlSecs
      (createPaymentRequest capacityServer.destinationAddress (amountBody amount).toRequest
        demoMemo) (amountBody amount).toRequest.eventId 0 = some (amountSession amount) :=
  rfl

/-- The URI is longer than the amount. -/
lemma amount_length_le {amount : String} {capacity : ℕ}
    (h : (amountSession amount).paymentRequest.Fits capacity) :
    amount.toList.length ≤ capacity := by
  have hbytes := Utf8.length_le_length_encode (amountSession amount).paymentRequest.qrPayload.toList
  have hchars : amount.toList.length ≤
      (amountSession amount).paymentRequest.qrPayload.toList.length := by
    simp only [amountSession, createPaymentRequest, amountBody, CreatePaymentBody.toRequest,
      Option.getD_some, String.toList_append, List.length_append]
    omega
  exact hchars.trans (hbytes.trans h)

/-- The demo payment with a provider that fails, and with one that does not. -/
theorem no_trace_iff_demo :
    capacityServer.createPaymentRequestRoute (fun _ => none) ∅ demoBody 0 =
        some (∅, .error .badGateway) ∧
      ∀ sessions' status,
        capacityServer.createPaymentRequestRoute
          (fun request => some
            (createPaymentRequest capacityServer.destinationAddress request demoMemo))
          ∅ demoBody 0 = some (sessions', .error status) → sessions' = ∅ := by
  refine ⟨rfl, (no_trace_iff (QrLibrary.limited_hasCapacity 2331) _ ∅ demoBody 0).2 ?_⟩
  rintro paymentRequest ⟨⟩
  exact Or.inl (by decide +kernel)

/-- A request for an amount of 3000 letters is answered with an error, and the watcher polls
for its session at the next tick. -/
theorem failed_creation_polled :
    ∃ t s s' session,
      Run (step capacityServer) (.init 0) t s ∧
      t.map Prod.snd = [.createRequest 0 (amountBody (String.ofList (List.replicate 3000 'a')))
        demoMemo, .createClock 0, .createInsert 0, .createRespond 0] ∧
      capacityServer.createPaymentRequestRoute
        (fun request => some
          (createPaymentRequest capacityServer.destinationAddress request demoMemo))
        (State.init 0).sessions (amountBody (String.ofList (List.replicate 3000 'a'))) 0 =
          some (s.sessions, .error .internalServerError) ∧
      s.sessions ≠ (State.init 0).sessions ∧
      step capacityServer s (.watchSnapshot [(⟨demoMemo.text, session⟩, 0)]) = some s' ∧
      s'.watcher = .lookup session [] := by
  generalize hamount : String.ofList (List.replicate 3000 'a') = amount
  have hlength : amount.toList.length = 3000 := by
    rw [← hamount, String.toList_ofList, List.length_replicate]
  have hresponse : (amountSession amount).createResponse capacityServer.qr = none := by
    rw [← Option.not_isSome_iff_eq_none,
      createResponse_isSome (QrLibrary.limited_hasCapacity 2331)]
    intro hfits
    have hle := amount_length_le hfits
    omega
  have hcreate : capacityServer.createPaymentRequestRoute
      (fun request => some
        (createPaymentRequest capacityServer.destinationAddress request demoMemo))
      (State.init 0).sessions (amountBody amount) 0 =
        some (insertSession ∅ (amountSession amount), .error .internalServerError) :=
    route_undrawn rfl (newSession_amountBody amount) hresponse
  obtain ⟨t, s, hrun, hactions, hsessions, hclock, hwatcher⟩ :=
    run_route (i := 0) rfl hcreate
  have hvisits : s.Visits [(⟨demoMemo.text, amountSession amount⟩, 0)] := by
    rw [State.Visits, hsessions, hclock]
    refine ⟨rfl, ?_⟩
    show [(0 : UInt64), 0].IsChain (· ≤ ·)
    decide
  refine ⟨t, s, _, amountSession amount, hrun, hactions, ?_, ?_,
    step_of_effect (.watchSnapshot hwatcher hvisits), rfl⟩
  · rw [hsessions]
    exact hcreate
  · intro hsame
    have hlookup : s.sessions.lookup demoMemo.text = some (amountSession amount) := by
      rw [hsessions]
      exact Finmap.lookup_insert _
    rw [hsame] at hlookup
    exact absurd hlookup (by simp)

end Haske
