import Haske.Lightning.Settlement
import Haske.Verifier.Boundary
import Haske.Verifier.Soundness

/-!
# The Lightning pass at the door

A status report that has a pass is the last word on its invoice: every later report is the
same.  The verifier accepts the pass as long as the invoice was to be valid, counted from the
reading of the clock when the session was made, whenever it was paid (`pass_final`).  And the
verifier accepts nothing else, under a scheme in which the service's key accepts only what the
service signed (`gate_secure`).
-/

namespace Haske.Lightning

open Json Serde Signing Machine

variable {svc : ProofService} {clock : UInt64} {t : Trace} {s s' : State} {a : Action} {i : ℕ}

/-! ### Where sessions come from -/

/-- The session was made in the run for an invoice of the gateway, and its expiry is counted from
the clock then. -/
def MadeIn (svc : ProofService) (t : Trace) (session : AccessSession) : Prop :=
  ∃ s i invoiceId amountMsat invoice, (s, .makeSession i invoiceId) ∈ t ∧
    s.calls i = .invoiced amountMsat invoice ∧ session.invoiceId = invoiceId.text ∧
    session.paymentHash = invoice.paymentHash ∧
    session.expiresAt = s.clock + svc.config.invoiceExpirySecs

structure Origin (svc : ProofService) (t : Trace) (s : State) : Prop where
  session : ∀ id session, s.sessions.lookup id = some session → MadeIn svc t session
  made : ∀ i session response, s.calls i = .made session response → MadeIn svc t session
  event : ∀ i event, (s.calls i).event = some event → Arrived t event.paymentHash

lemma MadeIn.append {session : AccessSession} (h : MadeIn svc t session) (t' : Trace) :
    MadeIn svc (t ++ t') session := by
  obtain ⟨s, i, invoiceId, amountMsat, invoice, hmem, hrest⟩ := h
  exact ⟨s, i, invoiceId, amountMsat, invoice, List.mem_append_left _ hmem, hrest⟩

/-- A settlement leaves what a session was made with. -/
lemma MadeIn.settle {event : PaymentEvent} {session session' : AccessSession}
    (h : MadeIn svc t session) (hsettle : svc.settle event session = some session') :
    MadeIn svc t session' := by
  simp only [ProofService.settle, Option.bind_eq_bind, Option.bind_eq_some_iff,
    Option.some.injEq] at hsettle
  obtain ⟨-, -, -, -, rfl⟩ := hsettle
  exact h

lemma fixed_of_newSession {amountMsat now : UInt64} {invoice : LightningInvoice}
    {invoiceId : String} {session : AccessSession} {response : InvoiceResponse}
    (h : svc.newSession amountMsat invoice invoiceId now = some (session, response)) :
    session.paymentHash = invoice.paymentHash ∧
      session.expiresAt = now + svc.config.invoiceExpirySecs := by
  simp only [ProofService.newSession, Option.bind_eq_bind, Option.bind_eq_some_iff,
    Option.some.injEq, Prod.mk.injEq] at h
  obtain ⟨-, -, -, -, rfl, -⟩ := h
  exact ⟨rfl, rfl⟩

lemma Origin.step (h : Origin svc t s) (hstep : Lightning.step svc s a = some s') :
    Origin svc (t ++ [(s, a)]) s' where
  session id session' hid := by
    rcases lookup_of_step_inv hstep hid with ⟨session, hget, hsame⟩ | ⟨i, response, -, hcall, -⟩
    · have hmade := (h.session id session hget).append [(s, a)]
      rcases hsame with rfl | ⟨i, event, -, -, hsettle, -⟩
      · exact hmade
      · exact hmade.settle hsettle
    · exact (h.made i session' response hcall).append _
  made i session response hcall := by
    rcases call_of_step hstep i with ⟨-, hsame⟩ | ⟨-, henters⟩
    · exact (h.made i session response (hsame ▸ hcall)).append _
    · rw [hcall] at henters
      cases henters with
      | @made _ invoiceId amountMsat invoice _ _ hinvoiced hnew =>
          exact ⟨s, i, invoiceId, amountMsat, invoice, by simp, hinvoiced,
            (newSession_eq_some hnew).1, fixed_of_newSession hnew⟩
  event i event hevent := by
    rcases event_of_step_inv hstep hevent with hold | rfl
    · exact (h.event i event hold).append _
    · exact ⟨s, i, event, by simp, rfl⟩

lemma origin_of_run (hrun : Run (step svc) (.init clock) t s) : Origin svc t s := by
  refine Run.invariant (P := fun t s => Origin svc t s) hrun ⟨?_, ?_, ?_⟩
    fun _ _ _ _ _ h hstep => h.step hstep
  · intro id session hid
    exact absurd hid (by simp [State.init])
  · intro i session response hcall
    cases hcall
  · intro i event hevent
    cases hevent

/-- A session that is settled was paid for. -/
lemma arrived_of_settled (hrun : Run (step svc) (.init clock) t s) (honce : DrawnOnce t)
    {id : String} {session : AccessSession} (hid : s.sessions.lookup id = some session)
    (hstatus : session.status = .settled) : Arrived t session.paymentHash := by
  obtain ⟨s₁, s₂, j, event, invoiceId, hmem, -, hcall, hhash, -⟩ :=
    (accounts_of_run hrun honce).completed id session hid hstatus
  obtain ⟨t₁, t₂, s₂', rfl, hrun₁, -, -⟩ := hrun.of_mem hmem
  rw [← hhash]
  exact ((origin_of_run hrun₁).event j event (by rw [hcall]; rfl)).append _

/-- A session that is settled stays as it is. -/
lemma settled_kept (hrun : Run (step svc) (.init clock) t s) (honce : DrawnOnce t) {s₁ : State}
    (hmem : (s₁, a) ∈ t) {id : String} {session : AccessSession}
    (hid : s₁.sessions.lookup id = some session) (hstatus : session.status = .settled) :
    s.sessions.lookup id = some session := by
  revert honce hmem
  refine Run.invariant (P := fun t s => DrawnOnce t → (s₁, a) ∈ t →
    s.sessions.lookup id = some session) hrun ?_ ?_
  · intro _ hmem
    cases hmem
  · intro t s b s' hrun ih hstep honce hmem
    have htracked := tracked_of_run hrun honce.left
    have hold : s.sessions.lookup id = some session := by
      rcases List.mem_append.1 hmem with hmem | hlast
      · exact ih honce.left hmem
      · obtain ⟨rfl, -⟩ := Prod.mk.inj (List.mem_singleton.1 hlast)
        exact hid
    obtain ⟨session', hid', -, hsame⟩ := htracked.lookup_of_step hstep hold
    rw [hid', hsame hstatus]

/-! ### Reports with a pass -/

lemma checkInvoice_eq_ok {sessions : AccessSessions} {id : String} {response : StatusResponse}
    (h : checkInvoice sessions id = .ok response) :
    ∃ session, sessions.lookup id = some session ∧ response = session.toStatusResponse := by
  rw [checkInvoice] at h
  cases hid : sessions.lookup id with
  | none =>
      rw [hid] at h
      cases h
  | some session =>
      rw [hid] at h
      exact ⟨session, rfl, (Except.ok.inj h).symm⟩

/-- **A Lightning pass is final.**  In every run in which no invoice id and no payment hash is
drawn twice, when a report about an invoice has a pass, then it says that the invoice is
settled, and the reports about it at the end of the run are the same; the invoice was made in
the run, with an expiry counted from the clock then, and an event arrived for the payment hash
in the pass; and the verifier accepts the pass up to the expiry in the report. -/
theorem pass_final (hrun : Run (step svc) (.init clock) t s) (honce : DrawnOnce t)
    (hS : svc.scheme.Correct) {s₁ : State} {id : String} {response : StatusResponse}
    {token : String} (hread : (s₁, .checkInvoice i id) ∈ t)
    (hresponse : checkInvoice s₁.sessions id = .ok response)
    (htoken : response.accessToken = some token) :
    response.status = "settled" ∧ checkInvoice s.sessions id = .ok response ∧
      (∃ s₀ j invoiceId, (s₀, .makeSession j invoiceId) ∈ t ∧ invoiceId.text = id ∧
        response.expiresAt = s₀.clock + svc.config.invoiceExpirySecs) ∧
      (∃ hash, Arrived t hash ∧ token = svc.token hash response.expiresAt) ∧
      ∀ (host : Host svc.scheme) (args : Args),
        loadPublicKey host args.publicKey = .ok (svc.scheme.verifyingKey svc.keypair) →
        args.readToken host = .ok token →
        ∀ now now', run host args now now' = .ok (decide (now' ≤ response.expiresAt)) := by
  obtain ⟨session, hid, rfl⟩ := checkInvoice_eq_ok hresponse
  obtain ⟨t₁, t₂, s₂, heq, hrun₁, -, -⟩ := hrun.of_mem hread
  have honce₁ : DrawnOnce t₁ := DrawnOnce.left (heq ▸ honce)
  obtain ⟨hkey, -, -, hsealed⟩ := (tracked_of_run hrun₁ honce₁).session id session hid
  have hstatus : session.status = .settled :=
    hsealed.token.1 (by rw [show session.accessToken = some token from htoken]; rfl)
  have htoken' := hsealed.token_eq token htoken
  refine ⟨?_, ?_, ?_, ?_, ?_⟩
  · rw [AccessSession.toStatusResponse, hstatus]
  · rw [checkInvoice, settled_kept hrun honce hread hid hstatus]
  · obtain ⟨s₀, j, invoiceId, -, -, hmem, -, hinvoice, -, hexpires⟩ :=
      (origin_of_run hrun₁).session id session hid
    refine ⟨s₀, j, invoiceId, ?_, hinvoice.symm.trans hkey, hexpires⟩
    rw [heq]
    exact List.mem_append_left _ hmem
  · refine ⟨session.paymentHash, ?_, htoken'⟩
    rw [heq]
    exact (arrived_of_settled hrun₁ honce₁ hid hstatus).append _
  · intro host args hload hinput now now'
    rw [htoken'] at hinput
    exact run_compact hS hload hinput now now'

/-! ### What opens the door -/

/-- The payloads that were signed in the run: one each time a pending session is settled, also
when the pass cannot be drawn. -/
def signedPayloads (svc : ProofService) (t : Trace) : Set CompactAccessPayload :=
  {payload | ∃ s i event id session, (s, .settle i) ∈ t ∧ s.calls i = .found event id ∧
    s.sessions.lookup id = some session ∧ session.status = .pending ∧
    payload = ⟨event.paymentHash, session.expiresAt, svc.config.eventId⟩}

/-- What a signed payload rests on: an invoice that the gateway gave, with the expiry that was
fixed when the session was made for it, and that was paid. -/
structure PaidFor (svc : ProofService) (t : Trace) (payload : CompactAccessPayload) : Prop where
  given : payload.paymentHash ∈ hashes t
  arrived : Arrived t payload.paymentHash
  made : ∃ s i invoiceId amountMsat invoice, (s, .makeSession i invoiceId) ∈ t ∧
    s.calls i = .invoiced amountMsat invoice ∧ invoice.paymentHash = payload.paymentHash ∧
    payload.expiresAt = s.clock + svc.config.invoiceExpirySecs
  eventId : payload.eventId = svc.config.eventId

lemma hashes_mono {t' : Trace} {hash : String} (h : hash ∈ hashes t) : hash ∈ hashes (t ++ t') := by
  rw [hashes_append]
  exact List.mem_append_left _ h

lemma paidFor_of_signed (hrun : Run (step svc) (.init clock) t s) (honce : DrawnOnce t)
    {payload : CompactAccessPayload} (h : payload ∈ signedPayloads svc t) :
    PaidFor svc t payload := by
  obtain ⟨s₁, j, event, id, session, hmem, hcall, hid, -, rfl⟩ := h
  obtain ⟨t₁, t₂, s₂, rfl, hrun₁, -, -⟩ := hrun.of_mem hmem
  have htracked := tracked_of_run hrun₁ honce.left
  have horigin := origin_of_run hrun₁
  obtain ⟨session', hid', hhash⟩ := htracked.found j event id hcall
  obtain rfl := Option.some.inj (hid.symm.trans hid')
  obtain ⟨s₀, k, invoiceId, amountMsat, invoice, hmade, hinvoiced, -, hinvoice, hexpires⟩ :=
    horigin.session id session hid
  constructor
  case given =>
    rw [← hhash]
    exact hashes_mono (htracked.session id session hid).2.2.1
  case arrived => exact (horigin.event j event (by rw [hcall]; rfl)).append _
  case made =>
    exact ⟨s₀, k, invoiceId, amountMsat, invoice, List.mem_append_left _ hmade, hinvoiced,
      hinvoice.symm.trans hhash, hexpires⟩
  case eventId => rfl

/-- **Only what was paid for opens the door.**  In every run in which no invoice id and no
payment hash is drawn twice, under a scheme in which the service's key accepts only what the
service signed in the run, whatever the verifier with this key is given, if it answers `true`,
then this is a compact pass for a payment hash that the gateway gave and for which an event
arrived, with the event of the service, and the expiry that was fixed for the invoice with this
hash is not over. -/
theorem paid_of_opened (hrun : Run (step svc) (.init clock) t s) (honce : DrawnOnce t)
    (hideal : svc.scheme.Unforgeable (svc.scheme.verifyingKey svc.keypair)
      (signedMessages ∅ (signedPayloads svc t)))
    {host : Host svc.scheme} {args : Args} {now now' : UInt64}
    (hkey : loadPublicKey host args.publicKey = .ok (svc.scheme.verifyingKey svc.keypair))
    (hopen : run host args now now' = .ok true) :
    ∃ input payload signature, args.readToken host = .ok input ∧
      SplitsInto (Utf8.trim input) payload.toVec signature ∧ PaidFor svc t payload ∧
      now' ≤ payload.expiresAt := by
  obtain ⟨input, hinput⟩ := readToken_of_run hopen
  rcases (run_eq_ok_true hkey hinput).1 hopen with ⟨signed, -, hverified⟩ | ⟨p, hcompact, hnow⟩
  · exact absurd (token_mem_of_verified hideal hverified).1 (Set.notMem_empty signed.token)
  · obtain ⟨payload, signature, hsplit, hverify, hread⟩ := verifyCompactToken_eq_ok.1 hcompact
    rcases compact_of_signed (hideal _ _ hverify) hread with ⟨token, hmem, -⟩ | ⟨hp, heq⟩
    · exact absurd hmem (Set.notMem_empty token)
    · rw [heq] at hsplit
      exact ⟨input, p, signature, hinput, hsplit, paidFor_of_signed hrun honce hp, hnow⟩

/-! ### An example

The invoice of the example is paid, and then looked at. -/

lemma drawnOnce_checked (honce : DrawnOnce t) (s : State) (i : ℕ) (id : String) :
    DrawnOnce (t ++ [(s, .checkInvoice i id)]) where
  ids := by
    rw [ids_append]
    exact (List.append_nil (ids t)).symm ▸ honce.ids
  hashes := by
    rw [hashes_append]
    exact (List.append_nil (hashes t)).symm ▸ honce.hashes

/-- Nobody has taken this number. -/
def State.unused (s : State) (i : ℕ) : Bool :=
  match s.calls i with
  | .idle => true
  | _ => false

lemma step_checkInvoice (h : s.unused i = true) (id : String) :
    ∃ s', step svc s (.checkInvoice i id) = some s' ∧ s'.sessions = s.sessions := by
  cases hcall : s.calls i with
  | idle =>
      refine ⟨s.setCall i (.checked (checkInvoice s.sessions id)), ?_, rfl⟩
      simp only [step, hcall]
  | _ => simp [State.unused, hcall] at h

theorem pass_final_demo :
    ∃ t s response token, Run (step demoService) (.init 0) t s ∧
      response.accessToken = some token ∧ response.status = "settled" ∧
      checkInvoice s.sessions demoId.text = .ok response ∧
      run (Host.withKey (S := demoService.scheme) ()) (demoArgs token) 0 900 =
        .ok (decide ((900 : UInt64) ≤ response.expiresAt)) := by
  obtain ⟨t, s, hrun, -, hcheck⟩ : ∃ t s, Run (step demoService) (.init 0) t s ∧
      t.map Prod.snd = demoActions ∧
      (decide (ids t).Nodup && decide (hashes t).Nodup && s.unused 3 &&
        (s.sessions.lookup demoId.text).any fun session => session.accessToken.isSome) = true :=
    exists_run_of_check _ (by decide +kernel)
  simp only [Bool.and_eq_true, decide_eq_true_iff, Option.any_eq_true] at hcheck
  obtain ⟨⟨⟨hids, hhashes⟩, hunused⟩, session, hid, hsome⟩ := hcheck
  obtain ⟨token, htoken⟩ := Option.isSome_iff_exists.1 hsome
  obtain ⟨s', hstep, -⟩ : ∃ s', step demoService s (.checkInvoice 3 demoId.text) = some s' ∧
      s'.sessions = s.sessions := step_checkInvoice hunused demoId.text
  have hresponse : checkInvoice s.sessions demoId.text = .ok session.toStatusResponse := by
    rw [checkInvoice, hid]
  obtain ⟨hstatus, hlast, -, -, hopens⟩ := pass_final (hrun.snoc hstep)
    (drawnOnce_checked ⟨hids, hhashes⟩ s 3 demoId.text) Scheme.constant_correct
    (List.mem_append_right t (List.mem_singleton_self _)) hresponse htoken
  exact ⟨_, s', _, token, hrun.snoc hstep, htoken, hstatus, hlast,
    hopens _ (demoArgs token) (loadPublicKey_withKey _ _) (Args.readToken_of_token rfl) 0 900⟩

/-- The payload that the service of the example signs. -/
def demoPayload : CompactAccessPayload where
  paymentHash := "9f2c"
  expiresAt := 900
  eventId := "demo-event"

abbrev passScheme : Scheme := Scheme.constant fun msg => msg = demoPayload.toVec

/-- The service of the example, with a key that accepts this payload only. -/
abbrev passService : ProofService :=
  { demoService with
    scheme := passScheme
    keypair := () }

/-- The step signs the payload of the example. -/
def signsDemo (s : State) : Action → Bool
  | .settle i =>
      match s.calls i with
      | .found event id => (s.sessions.lookup id).any fun session =>
          decide (session.status = .pending) && decide (event.paymentHash = "9f2c") &&
            decide (session.expiresAt = 900)
      | _ => false
  | _ => false

lemma demoPayload_of_signsDemo (h : t.any (fun e => signsDemo e.1 e.2) = true) :
    demoPayload ∈ signedPayloads passService t := by
  obtain ⟨⟨s, a⟩, hmem, hsigns⟩ := List.any_eq_true.1 h
  cases a with
  | settle i =>
      cases hcall : s.calls i with
      | found event id =>
          simp only [signsDemo, hcall, Option.any_eq_true, Bool.and_eq_true,
            decide_eq_true_iff] at hsigns
          obtain ⟨session, hid, ⟨hstatus, hhash⟩, hexpires⟩ := hsigns
          refine ⟨s, i, event, id, session, hmem, hcall, hid, hstatus, ?_⟩
          rw [hhash, hexpires]
          rfl
      | _ => simp [signsDemo, hcall] at hsigns
  | _ => cases hsigns

theorem paid_of_opened_demo :
    ∃ t s input payload signature, Run (step passService) (.init 0) t s ∧
      (demoArgs (signCompactPayload passScheme demoPayload ())).readToken
        (Host.withKey (S := passScheme) ()) = .ok input ∧
      SplitsInto (Utf8.trim input) payload.toVec signature ∧ PaidFor passService t payload ∧
      900 ≤ payload.expiresAt := by
  obtain ⟨t, s, hrun, -, hcheck⟩ : ∃ t s, Run (step passService) (.init 0) t s ∧
      t.map Prod.snd = demoActions ∧
      (decide (ids t).Nodup && decide (hashes t).Nodup &&
        t.any fun e => signsDemo e.1 e.2) = true :=
    exists_run_of_check _ (by decide +kernel)
  simp only [Bool.and_eq_true, decide_eq_true_iff] at hcheck
  obtain ⟨⟨hids, hhashes⟩, hsigns⟩ := hcheck
  have hideal : passScheme.Unforgeable () (signedMessages ∅ (signedPayloads passService t)) := by
    intro msg signature h
    exact Or.inr ⟨demoPayload, demoPayload_of_signsDemo hsigns, of_decide_eq_true h⟩
  have htoken : (demoArgs (signCompactPayload passScheme demoPayload ())).readToken
      (Host.withKey (S := passScheme) ()) = .ok (signCompactPayload passScheme demoPayload ()) :=
    Args.readToken_of_token rfl
  have hkey : loadPublicKey (Host.withKey (S := passScheme) ())
      (demoArgs (signCompactPayload passScheme demoPayload ())).publicKey = .ok () :=
    loadPublicKey_withKey _ _
  have hverified : verifyCompactToken passScheme (signCompactPayload passScheme demoPayload ()) () =
      .ok demoPayload := by
    rw [verifyCompactToken_eq_ok]
    exact ⟨demoPayload.toVec, _, splitsInto_compactString _ _, by simp only [decide_true],
      CompactAccessPayload.ofSlice_toVec demoPayload⟩
  have hopen : run (Host.withKey (S := passScheme) ())
      (demoArgs (signCompactPayload passScheme demoPayload ())) 900 900 = .ok true := by
    rw [run_eq_ok_true hkey htoken, signCompactPayload,
      Utf8.trim_of_forall fun _ hc => isWhitespace_of_mem_compactString hc]
    exact Or.inr ⟨demoPayload, hverified, by decide⟩
  obtain ⟨input, payload, signature, hinput, hsplit, hpaid, hnow⟩ :=
    paid_of_opened hrun ⟨hids, hhashes⟩ hideal hkey hopen
  exact ⟨t, s, input, payload, signature, hrun, hinput, hsplit, hpaid, hnow⟩

end Haske.Lightning
