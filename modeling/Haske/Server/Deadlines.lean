import Haske.Server.Invariant

/-!
# The two deadlines of a session

The deadline of a payment request is a quarter of an hour after the session is created,
that of the pass a configured time after it.  Neither is looked at when a payment is
stored, and the two have nothing to do with each other.

* A pass is good when it is stored if and only if less than the configured time has gone
  by since the session was created (`stored_pass_accepted_iff`).
* A session that was reported as expired stays expired, as long as payments for it are stored
  in time and such a report is not overtaken by a payment (`expired_is_final`).
-/

namespace Haske

open Json Serde Signing Machine Result

variable {srv : Server} {clock : UInt64} {t : Trace} {s s' : State} {a : Action}

/-! ### What the watcher treats is in the map -/

lemma lookup_of_queue (hrun : Run (step srv) (.init clock) t s) :
    ∀ session ∈ s.watcher.queue, ∃ live,
      s.sessions.lookup session.paymentRequest.sessionId = some live := by
  refine Run.invariant (P := fun _ s => ∀ session ∈ s.watcher.queue, ∃ live,
    s.sessions.lookup session.paymentRequest.sessionId = some live) hrun ?_ ?_
  · intro session hsession
    exact absurd hsession (by simp)
  · intro t s a s' hrun ih hstep session hsession
    -- it is in the map before the step
    obtain ⟨live, hlive⟩ : ∃ live,
        s.sessions.lookup session.paymentRequest.sessionId = some live := by
      rcases queue_of_step hstep with heq | heq | ⟨visits, -, hvisits, heq⟩
      · exact ih session (heq ▸ hsession)
      · exact ih session (List.mem_of_mem_tail (heq ▸ hsession))
      · obtain ⟨id, now, hid, -⟩ := mem_pendingSessions hvisits.1 (heq ▸ hsession)
        have hkey := ((provenance_of_run hrun).session id session hid).1
        exact ⟨session, by rw [hkey, hid]⟩
    obtain ⟨live', hlive', -⟩ := lookup_of_step hstep hlive
    exact ⟨live', hlive'⟩

/-! ### Is a pass good when it is stored? -/

/-- The pass is accepted under the server's key. -/
def Server.AcceptsPass (srv : Server) (text : String) (now : UInt64) : Prop :=
  ∃ signed, signedTokenFromJson text = .ok signed ∧
    verifySignedTokenAt srv.scheme signed (srv.scheme.verifyingKey srv.signingKey) now = .ok ()

/-- The deadlines of all the sessions made in the run fit. -/
def DeadlinesFit (srv : Server) (t : Trace) : Prop :=
  ∀ s i, (s, .createClock i) ∈ t →
    ¬ Overflows s.clock srv.tokenTtlSecs ∧ ¬ Overflows s.clock requestExpirySecs

lemma acceptsPass_signed (hS : srv.scheme.Correct) {token : AccessToken} {now : UInt64} :
    srv.AcceptsPass (signedTokenToJson (signToken srv.scheme token srv.signingKey)) now ↔
      now < token.expiresAt := by
  simp only [Server.AcceptsPass, signedTokenFromJson, SignedAccessToken.fromStr_toJson, okOr_some,
    Except.ok.injEq, exists_eq_left', verifySignedTokenAt_signToken (hS _ _)]

/-- Storing a pass succeeds, and the pass is accepted until the session's expiry. -/
lemma mark_spec (hS : srv.scheme.Correct) (hrun : Run (step srv) (.init clock) t s)
    {artifact : AccessArtifact} {session : SessionRecord} {rest : List SessionRecord}
    (hw : s.watcher = .issued artifact session rest) :
    ∃ s' live text, step srv s .watchMark = some s' ∧ s'.clock = s.clock ∧
      s'.sessions.lookup session.paymentRequest.sessionId = some live ∧
      live.accessToken = some text ∧ ∀ now, srv.AcceptsPass text now ↔ now < session.expiresAt := by
  obtain ⟨live, hlive⟩ := lookup_of_queue hrun session (by rw [hw]; exact List.mem_cons_self)
  have hissued := (provenance_of_run hrun).watcher
  rw [hw] at hissued
  obtain ⟨payment, nonce, -, hissue⟩ := hissued
  have htoken := (issueToken_eq_some hissue).1
  refine ⟨_, _, _, step_of_effect (.marked hw hlive), rfl, Finmap.lookup_insert _, rfl, ?_⟩
  intro now
  rw [htoken, acceptsPass_signed hS]
  rfl

lemma toNat_add_of_fits {a b : UInt64} (h : ¬ Overflows a b) :
    (a + b).toNat = a.toNat + b.toNat := by
  rw [UInt64.toNat_add]
  exact Nat.mod_eq_of_lt (Nat.lt_of_not_le h)

/-- Both deadlines of an order are counted from the time it was made. -/
lemma StampedAt.deadlines {order : Order} {created : UInt64} (h : StampedAt srv t order created)
    (hfit : DeadlinesFit srv t) :
    order.paymentRequest.expiresAt.toNat = created.toNat + requestExpirySecs.toNat ∧
      order.expiresAt.toNat = created.toNat + srv.tokenTtlSecs.toNat := by
  obtain ⟨s, i, request, memo, hmem, rfl, -, hmade⟩ := h
  obtain ⟨hpass, hrequest⟩ := hfit s i hmem
  constructor
  · rw [hmade.paymentRequest_eq, ← toNat_add_of_fits hrequest]
  · rw [hmade.expiresAt_eq, toNat_add_of_fits hpass]

/-- **When a pass is good as it is stored.**  Whenever the watcher is about to store a pass,
it succeeds, and the pass it stores is accepted at that moment if and only if less than
the lifetime of passes has gone by since the time from which both deadlines of the
session are counted. -/
theorem stored_pass_accepted_iff (hS : srv.scheme.Correct)
    (hrun : Run (step srv) (.init clock) t s) (hfit : DeadlinesFit srv t)
    {artifact : AccessArtifact} {session : SessionRecord} {rest : List SessionRecord}
    (hw : s.watcher = .issued artifact session rest) :
    ∃ created s' live text, StampedAt srv t session.order created ∧
      session.paymentRequest.expiresAt.toNat = created.toNat + requestExpirySecs.toNat ∧
      step srv s .watchMark = some s' ∧
      s'.sessions.lookup session.paymentRequest.sessionId = some live ∧
      live.accessToken = some text ∧
      (srv.AcceptsPass text s'.clock ↔
        s.clock.toNat < created.toNat + srv.tokenTtlSecs.toNat) := by
  obtain ⟨s', live, text, hstep, hclock, hlive, htext, haccepts⟩ := mark_spec hS hrun hw
  obtain ⟨created, hstamped⟩ :=
    (provenance_of_run hrun).queue session (by rw [hw]; exact List.mem_cons_self)
  obtain ⟨hrequest, hpass⟩ := hstamped.deadlines hfit
  refine ⟨created, s', live, text, hstamped, hrequest, hstep, hlive, htext, ?_⟩
  rw [hclock, haccepts, UInt64.lt_iff_toNat_lt, ← hpass]
  rfl

/-- The session of the example is paid for at this time. -/
def demoIssue (paidAt : UInt64) : List Action :=
  demoCreate ++ [demoSnapshot 300 0, .tick paidAt, .watchLookup (some [demoRecord]),
    .watchIssue demoNonce]

/-- Its pass has been issued, and everything has happened before the deadline of its
request. -/
def demoIssued (paidAt : UInt64) (t : Trace) (s : State) : Bool :=
  (t.all fun e => e.1.clock < 900) && s.clock == paidAt &&
    match s.watcher with
    | .issued _ session _ => session = demoSession 300
    | _ => false

lemma demoIssued_spec {paidAt : UInt64} (h : demoIssued paidAt t s = true) :
    (∀ e ∈ t, e.1.clock < 900) ∧ s.clock = paidAt ∧
      ∃ artifact rest, s.watcher = .issued artifact (demoSession 300) rest := by
  simp only [demoIssued, Bool.and_eq_true, List.all_eq_true, decide_eq_true_eq, beq_iff_eq] at h
  obtain ⟨⟨hall, hclock⟩, hw⟩ := h
  refine ⟨hall, hclock, ?_⟩
  cases hwatcher : s.watcher with
  | issued artifact session rest =>
      rw [hwatcher] at hw
      obtain rfl := of_decide_eq_true hw
      exact ⟨artifact, rest, rfl⟩
  | _ =>
      rw [hwatcher] at hw
      exact absurd hw (by simp)

lemma deadlinesFit_of_lt (h : ∀ e ∈ t, e.1.clock < 900) : DeadlinesFit (demoServer 300) t := by
  intro s i hmem
  have hlt : s.clock.toNat < 900 := h _ hmem
  constructor
  · exact Nat.not_le_of_lt (show s.clock.toNat + 300 < UInt64.size by
      rw [UInt64.size]; omega)
  · exact Nat.not_le_of_lt (show s.clock.toNat + 900 < UInt64.size by
      rw [UInt64.size]; omega)

/-- With passes that last for 300 seconds, one that is stored after 400 is of no use. -/
theorem stored_pass_expired :
    ∃ t s s' artifact session rest live text,
      Run (step (demoServer 300)) (.init 0) t s ∧ DeadlinesFit (demoServer 300) t ∧
      s.watcher = .issued artifact session rest ∧
      (∀ e ∈ t, e.1.clock < session.paymentRequest.expiresAt) ∧
      s.clock < session.paymentRequest.expiresAt ∧
      step (demoServer 300) s .watchMark = some s' ∧
      s'.sessions.lookup session.paymentRequest.sessionId = some live ∧
      live.accessToken = some text ∧ ¬ (demoServer 300).AcceptsPass text s'.clock := by
  obtain ⟨t, s, hrun, -, hcheck⟩ : ∃ t s, Run (step (demoServer 300)) (.init 0) t s ∧
      t.map Prod.snd = demoIssue 400 ∧ demoIssued 400 t s = true :=
    exists_run_of_check _ (by decide +kernel)
  obtain ⟨hall, hclock, artifact, rest, hw⟩ := demoIssued_spec hcheck
  obtain ⟨s', live, text, hstep, hclock', hlive, htext, haccepts⟩ :=
    mark_spec Scheme.constant_correct hrun hw
  refine ⟨t, s, s', artifact, demoSession 300, rest, live, text, hrun, deadlinesFit_of_lt hall,
    hw, hall, ?_, hstep, hlive, htext, ?_⟩
  · rw [hclock]
    decide
  · rw [haccepts, hclock', hclock]
    decide

/-- One that is stored after 200 is good. -/
theorem stored_pass_accepted_iff_demo :
    ∃ t s artifact session rest, Run (step (demoServer 300)) (.init 0) t s ∧
      s.watcher = .issued artifact session rest ∧ s.clock = 200 ∧
      ∃ created s' live text, StampedAt (demoServer 300) t session.order created ∧
        session.paymentRequest.expiresAt.toNat = created.toNat + requestExpirySecs.toNat ∧
        step (demoServer 300) s .watchMark = some s' ∧
        s'.sessions.lookup session.paymentRequest.sessionId = some live ∧
        live.accessToken = some text ∧
        ((demoServer 300).AcceptsPass text s'.clock ↔
          s.clock.toNat < created.toNat + (demoServer 300).tokenTtlSecs.toNat) := by
  obtain ⟨t, s, hrun, -, hcheck⟩ : ∃ t s, Run (step (demoServer 300)) (.init 0) t s ∧
      t.map Prod.snd = demoIssue 200 ∧ demoIssued 200 t s = true :=
    exists_run_of_check _ (by decide +kernel)
  obtain ⟨hall, hclock, artifact, rest, hw⟩ := demoIssued_spec hcheck
  exact ⟨t, s, artifact, _, rest, hrun, hw, hclock,
    stored_pass_accepted_iff Scheme.constant_correct hrun (deadlinesFit_of_lt hall) hw⟩

/-! ### Is an expired session over? -/

/-- The answer to a status request. -/
def State.response (s : State) : Action → Option PaymentStatusResponse
  | .statusRespond i =>
      match s.tasks i with
      | some (.status session) => some (toStatusResponse session s.clock)
      | _ => none
  | _ => none

/-- The answers to status requests in the run, in their order. -/
def responses (t : Trace) : List PaymentStatusResponse := t.filterMap fun e => e.1.response e.2

section

variable (id : String)

/-- The step is in time for the session under this id: no other one is inserted under it, a
payment is stored before the deadline of the request, and past the deadline no status is answered
from an unpaid copy if the session has been paid. -/
def inTime (s : State) : Action → Bool
  | .createInsert i =>
      match s.tasks i with
      | some (.stamped record) =>
          record.paymentRequest.sessionId != id || (s.sessions.lookup id).isNone
      | _ => true
  | .watchMark =>
      match s.watcher with
      | .issued _ session _ => session.paymentRequest.sessionId != id ||
          (s.sessions.lookup id).all fun live =>
            live.paid || s.clock < live.paymentRequest.expiresAt
      | _ => true
  | .statusRespond i =>
      match s.tasks i with
      | some (.status session) => session.paymentRequest.sessionId != id ||
          (s.sessions.lookup id).all fun live =>
            session.paid || !live.paid || s.clock < live.paymentRequest.expiresAt
      | _ => true
  | _ => true

/-- The session under this id is unpaid past its deadline. -/
def Closed (s : State) : Prop :=
  ∃ live, s.sessions.lookup id = some live ∧ live.Unset ∧ live.paymentRequest.expiresAt ≤ s.clock

/-- What status requests have copied of the session is in the map, as it was copied or paid
since. -/
def Copied (s : State) : Prop :=
  ∀ i session, s.tasks i = some (.status session) → session.paymentRequest.sessionId = id →
    ∃ live, s.sessions.lookup id = some live ∧ live.order = session.order ∧
      (live.paid = false → session.Unset)

end

variable {id : String}

/-- A step in time keeps an entry of the map, or pays for it before the deadline. -/
lemma Rewrites.of_inTime {live live' : SessionRecord} (h : Rewrites s id live a live')
    (hlive : s.sessions.lookup id = some live) (htime : inTime id s a = true) :
    live' = live ∨ ∃ artifact, live' = live.pay artifact ∧
      (live.paid = false → s.clock < live.paymentRequest.expiresAt) := by
  cases h with
  | kept => exact Or.inl rfl
  | replaced hi hid =>
      -- a session is not inserted under an id that is taken
      simp [inTime, hi, hid, hlive] at htime
  | @paid artifact session rest hw hid =>
      refine Or.inr ⟨artifact, rfl, fun hunpaid => ?_⟩
      simpa [inTime, hw, hid, hlive, hunpaid] using htime

/-- A step in time does not write to a session past its deadline. -/
lemma Closed.step (h : Closed id s) (htime : inTime id s a = true)
    (hstep : step srv s a = some s') : Closed id s' := by
  obtain ⟨live, hlive, hunset, hdeadline⟩ := h
  obtain ⟨live', hlive', hrewrites⟩ := lookup_of_step hstep hlive
  rcases hrewrites.of_inTime hlive htime with rfl | ⟨artifact, -, hbefore⟩
  · exact ⟨live', hlive', hunset, UInt64.le_trans hdeadline (clock_le_of_step hstep)⟩
  · exact absurd (hbefore hunset.paid) (UInt64.not_lt.2 hdeadline)

/-- A copy was there before, or is made by the step. -/
lemma copy_of_step (h : step srv s a = some s') {i : ℕ} {session : SessionRecord}
    (hi : s'.tasks i = some (.status session)) :
    s.tasks i = some (.status session) ∨
      s'.sessions = s.sessions ∧ ∃ id, s.sessions.lookup id = some session := by
  rcases task_of_step h hi with ⟨hold, -⟩ | henters
  · exact Or.inl hold
  · cases henters with
    | @status id _ hget =>
        cases effect_of_step h with
        | statusGet _ _ => exact Or.inr ⟨rfl, id, hget⟩
        | statusUnknown _ _ => exact Or.inr ⟨rfl, id, hget⟩

lemma Copied.step (h : Copied id s) (hrun : Run (step srv) (.init clock) t s)
    (htime : inTime id s a = true) (hstep : step srv s a = some s') : Copied id s' := by
  intro i session hi hid
  rcases copy_of_step hstep hi with hi | ⟨hsessions, id', hget⟩
  · obtain ⟨live, hlive, horder, hunset⟩ := h i session hi hid
    obtain ⟨live', hlive', hrewrites⟩ := lookup_of_step hstep hlive
    refine ⟨live', hlive', ?_⟩
    rcases hrewrites.of_inTime hlive htime with rfl | ⟨artifact, rfl, -⟩
    · exact ⟨horder, hunset⟩
    · refine ⟨horder, fun hunpaid => ?_⟩
      rw [(live.pay_holds artifact).paid] at hunpaid
      exact absurd hunpaid (by simp)
  · -- a new copy is the entry itself
    obtain ⟨hkey, hcons, -⟩ := (provenance_of_run hrun).session id' session hget
    obtain rfl : id' = id := hkey.symm.trans hid
    exact ⟨session, by rw [hsessions, hget], rfl, hcons.unset_of_unpaid⟩

/-- An answer is made from a copy. -/
lemma response_eq_some {r : PaymentStatusResponse} (h : s.response a = some r) :
    ∃ i session, a = .statusRespond i ∧ s.tasks i = some (.status session) ∧
      r = toStatusResponse session s.clock := by
  cases a with
  | statusRespond i =>
      rcases htask : s.tasks i with _ | (_ | _ | _ | ⟨session⟩)
      case some.status =>
        simp only [State.response, htask, Option.some.injEq] at h
        exact ⟨i, session, rfl, htask, h.symm⟩
      all_goals simp [State.response, htask] at h
  | _ => simp [State.response] at h

/-- An answer that a session has expired is given when it is past its deadline. -/
lemma closed_of_response {r : PaymentStatusResponse} (hrun : Run (step srv) (.init clock) t s)
    (hcopied : Copied id s) (htime : inTime id s a = true) (hr : s.response a = some r)
    (hid : r.sessionId = id) (hexpired : r.status = "expired") : Closed id s := by
  obtain ⟨i, session, rfl, hi, rfl⟩ := response_eq_some hr
  obtain ⟨live, hlive, horder, -⟩ := hcopied i session hi hid
  obtain ⟨-, hpaid, -, hdeadline⟩ := statusOf_eq_expired.1 hexpired
  have hrequest : live.paymentRequest = session.paymentRequest :=
    congrArg Order.paymentRequest horder
  rw [← hrequest] at hdeadline
  -- the copy is unpaid, and so is the entry if the step is in time
  have hunpaid : live.paid = false := by
    have hsession : session.paymentRequest.sessionId = id := hid
    have hlate : ¬ s.clock < live.paymentRequest.expiresAt := UInt64.not_lt.2 hdeadline
    simpa [inTime, hi, hsession, hlive, hpaid, hlate] using htime
  have hcons := ((provenance_of_run hrun).session _ live hlive).2.1
  exact ⟨live, hlive, hcons.unset_of_unpaid hunpaid, hdeadline⟩

/-- All answers for a session past its deadline are that it has expired. -/
lemma Closed.response {r : PaymentStatusResponse} (h : Closed id s) (hcopied : Copied id s)
    (hr : s.response a = some r) (hid : r.sessionId = id) : r.status = "expired" := by
  obtain ⟨i, session, rfl, hi, rfl⟩ := response_eq_some hr
  obtain ⟨live, hlive, horder, hcopy⟩ := hcopied i session hi hid
  obtain ⟨live', hlive', hunset, hdeadline⟩ := h
  obtain rfl := Option.some.inj (hlive.symm.trans hlive')
  have hsession := hcopy hunset.paid
  have hrequest : live.paymentRequest = session.paymentRequest :=
    congrArg Order.paymentRequest horder
  rw [hrequest] at hdeadline
  exact statusOf_eq_expired.2 ⟨hsession.accessToken, hsession.paid, hsession.txHash, hdeadline⟩

/-- If the session has been reported as expired, it is past its deadline, and all the later
answers said so. -/
structure Final (id : String) (t : Trace) (s : State) : Prop where
  copied : Copied id s
  pairwise : (responses t).Pairwise fun r r' =>
    r.sessionId = id → r.status = "expired" → r'.sessionId = id → r'.status = "expired"
  closed : ∀ r ∈ responses t, r.sessionId = id → r.status = "expired" → Closed id s

lemma responses_snoc (t : Trace) (s : State) (a : Action) :
    responses (t ++ [(s, a)]) = responses t ++ (s.response a).toList := by
  rw [responses, List.filterMap_append]
  cases h : s.response a with
  | none => simp [responses, h]
  | some r => simp [responses, h]

lemma Final.step (h : Final id t s) (hrun : Run (step srv) (.init clock) t s)
    (htime : inTime id s a = true) (hstep : step srv s a = some s') :
    Final id (t ++ [(s, a)]) s' := by
  refine ⟨h.copied.step hrun htime hstep, ?_, ?_⟩
  · rw [responses_snoc, List.pairwise_append]
    refine ⟨h.pairwise, ?_, ?_⟩
    · cases s.response a with
      | none => exact List.Pairwise.nil
      | some r => exact List.pairwise_singleton _ _
    · -- the new answer against an earlier one
      intro r hr r' hr' hid hexpired hid'
      rw [Option.mem_toList] at hr'
      exact (h.closed r hr hid hexpired).response h.copied hr' hid'
  · intro r hr hid hexpired
    rw [responses_snoc, List.mem_append, Option.mem_toList] at hr
    have hclosed : Closed id s := by
      rcases hr with hr | hr
      · exact h.closed r hr hid hexpired
      · exact closed_of_response hrun h.copied htime hr hid hexpired
    exact hclosed.step htime hstep

lemma final_of_run (hrun : Run (step srv) (.init clock) t s)
    (htime : ∀ e ∈ t, inTime id e.1 e.2 = true) : Final id t s := by
  refine Run.invariant_of_guard (P := fun t s => Final id t s)
    (G := fun s a => inTime id s a = true) hrun htime ?_ ?_
  · refine ⟨?_, List.Pairwise.nil, by simp [responses]⟩
    intro i session hi
    exact absurd hi (by simp)
  · intro t s a s' hrun h htime hstep
    exact h.step hrun htime hstep

/-- **When expired is final.**  For every session, in every run all of whose steps are in time
for it, once a status response has reported that the session has expired, all later ones for it
do, and it never has a pass. -/
theorem expired_is_final (hrun : Run (step srv) (.init clock) t s)
    (htime : ∀ e ∈ t, inTime id e.1 e.2 = true) :
    (responses t).Pairwise (fun r r' =>
      r.sessionId = id → r.status = "expired" → r'.sessionId = id → r'.status = "expired") ∧
    ∀ r ∈ responses t, r.sessionId = id → r.status = "expired" →
      ∃ live, s.sessions.lookup id = some live ∧ live.accessToken = none := by
  have hfinal := final_of_run hrun htime
  refine ⟨hfinal.pairwise, ?_⟩
  intro r hr hid hexpired
  obtain ⟨live, hlive, hunset, -⟩ := hfinal.closed r hr hid hexpired
  exact ⟨live, hlive, hunset.accessToken⟩

/-- The snapshot is taken before the deadline, and the answer to the lookup comes after
it. -/
theorem expired_not_final :
    ∃ t s live text, Run (step (demoServer 300)) (.init 0) t s ∧
      (responses t).map (fun r => (r.sessionId, r.status)) =
        [(demoMemo.text, "expired"), (demoMemo.text, "confirmed")] ∧
      s.sessions.lookup demoMemo.text = some live ∧ live.accessToken = some text := by
  obtain ⟨t, s, hrun, -, hcheck⟩ : ∃ t s, Run (step (demoServer 300)) (.init 0) t s ∧
      t.map Prod.snd = demoCreate ++ [demoSnapshot 300 899, .tick 901,
        .statusGet 1 demoMemo.text, .statusRespond 1] ++ demoSettle ++
        [.statusGet 2 demoMemo.text, .statusRespond 2] ∧
      (decide ((responses t).map (fun r => (r.sessionId, r.status)) =
          [(demoMemo.text, "expired"), (demoMemo.text, "confirmed")]) &&
        (s.sessions.lookup demoMemo.text).any SessionRecord.paid) = true :=
    exists_run_of_check _ (by decide +kernel)
  rw [Bool.and_eq_true, decide_eq_true_iff, Option.any_eq_true] at hcheck
  obtain ⟨hresponses, live, hlive, hpaid⟩ := hcheck
  obtain ⟨artifact, hholds⟩ :=
    ((provenance_of_run hrun).session _ live hlive).2.1.holds_of_paid hpaid
  exact ⟨t, s, live, _, hrun, hresponses, hlive, hholds.accessToken⟩

/-- Another session is paid for meanwhile, and its payment overtakes an answer that it waits. -/
theorem expired_is_final_demo :
    ∃ t s, Run (step (demoServer 300)) (.init 0) t s ∧
      (responses t).map (fun r => (r.sessionId, r.status)) =
        [(demoMemo.text, "waiting"), (otherMemo.text, "expired"), (otherMemo.text, "expired")] ∧
      (responses t).Pairwise (fun r r' => r.sessionId = otherMemo.text → r.status = "expired" →
        r'.sessionId = otherMemo.text → r'.status = "expired") ∧
      ∀ r ∈ responses t, r.sessionId = otherMemo.text → r.status = "expired" →
        ∃ live, s.sessions.lookup otherMemo.text = some live ∧ live.accessToken = none := by
  obtain ⟨t, s, hrun, -, hcheck⟩ : ∃ t s, Run (step (demoServer 300)) (.init 0) t s ∧
      t.map Prod.snd = demoCreate ++ [demoSnapshot 300 0, .createRequest 0 demoBody otherMemo,
        .createClock 0, .createInsert 0, .statusGet 1 demoMemo.text] ++ demoSettle ++
        [.statusRespond 1, .tick 901, .statusGet 1 otherMemo.text, .statusRespond 1,
        .statusGet 2 otherMemo.text, .statusRespond 2] ∧
      (decide ((responses t).map (fun r => (r.sessionId, r.status)) = [(demoMemo.text, "waiting"),
          (otherMemo.text, "expired"), (otherMemo.text, "expired")]) &&
        t.all fun e => inTime otherMemo.text e.1 e.2) = true :=
    exists_run_of_check _ (by decide +kernel)
  rw [Bool.and_eq_true, decide_eq_true_iff, List.all_eq_true] at hcheck
  exact ⟨t, s, hrun, hcheck.1, expired_is_final hrun hcheck.2⟩

end Haske
