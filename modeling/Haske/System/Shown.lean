import Haske.System.Exchange
import Haske.System.Pages

/-!
# What the pages show

Whatever a page shows of a session, the server has it: the request for payment that is shown
is the one the server looks for, a pass that is shown is the one it stored, and a session that
is shown as expired is past its deadline (`shown_of_run`).  This holds in every page, loaded
again or not, however late the answers come.  The status `DETECTED` is never shown.
-/

namespace Haske

open Json Js Machine

/-- The value that a page gets for the pass of a session. -/
def SessionRecord.pass (session : SessionRecord) : Value :=
  reread (ofOption (toStatusResponse session 0).accessToken)

/-- The server has what is shown. -/
structure Shown (s : State) (store : PaymentState) : Prop where
  known : ∀ id, store.sessionId = some id → ∃ live, s.sessions.lookup id = some live ∧
    live.paymentRequest.ShownAs store.paymentData
  confirmed : store.status = .confirmed → ∃ id live, store.sessionId = some id ∧
    s.sessions.lookup id = some live ∧ live.accessToken.isSome ∧
    store.accessToken = live.pass ∧ store.accessToken ≠ .null ∧
    prop store.accessData "access_qr_png" = some (ofOption (live.accessQrPng.map .str)) ∧
    store.expiresAt = .nat (toDouble live.expiresAt.toNat)
  expired : store.status = .expired → ∃ id live, store.sessionId = some id ∧
    s.sessions.lookup id = some live ∧ live.paymentRequest.expiresAt ≤ s.clock
  waiting : store.status = .waiting → ∃ id, store.sessionId = some id
  detected : store.status ≠ .detected

/-! ### The server goes on -/

section

variable {srv : Server} {s s' : State} {a : Action} {store : PaymentState}

lemma Shown.step (h : Shown s store) (hdistinct : Distinct s)
    (hstep : step srv s a = some s') : Shown s' store where
  known id hid := by
    obtain ⟨live, hlive, hshown⟩ := h.known id hid
    obtain ⟨live', hlive', horder, -⟩ := lookup_of_distinct hdistinct hstep hlive
    have hrequest : live'.paymentRequest = live.paymentRequest :=
      congrArg Order.paymentRequest horder
    exact ⟨live', hlive', hrequest ▸ hshown⟩
  confirmed hstatus := by
    obtain ⟨id, live, hid, hlive, htoken, hpass⟩ := h.confirmed hstatus
    obtain ⟨live', hlive', -, hsame⟩ := lookup_of_distinct hdistinct hstep hlive
    have hset : ¬ live.Unset := by
      intro hunset
      rw [hunset.accessToken] at htoken
      cases htoken
    obtain rfl := hsame hset
    exact ⟨id, live', hid, hlive', htoken, hpass⟩
  expired hstatus := by
    obtain ⟨id, live, hid, hlive, hdeadline⟩ := h.expired hstatus
    obtain ⟨live', hlive', horder, -⟩ := lookup_of_distinct hdistinct hstep hlive
    have hrequest : live'.paymentRequest = live.paymentRequest :=
      congrArg Order.paymentRequest horder
    refine ⟨id, live', hid, hlive', ?_⟩
    rw [hrequest]
    exact UInt64.le_trans hdeadline (clock_le_of_step hstep)
  waiting := h.waiting
  detected := h.detected

end

lemma shown_initialState (s : State) : Shown s initialState where
  known id hid := by cases hid
  confirmed hstatus := by cases hstatus
  expired hstatus := by cases hstatus
  waiting hstatus := by cases hstatus
  detected := by decide

/-! ### Answers arrive -/

section

variable {srv : Server} {clock : UInt64} {w : World} {r : Response} {store : PaymentState}

/-- An answer to a creation, as the page reads it. -/
lemma created_of_tells (htells : r.Tells srv w) (hrequest : r.request = .createPayment) :
    ∃ (record live : SessionRecord) (response : CreatePaymentResponse),
      w.server.sessions.lookup record.paymentRequest.sessionId = some live ∧
      live.order = record.order ∧ record.createResponse srv.qr = some response ∧
      parseJsonSafely r.text = readCreated response ∧
      w.drawn record.paymentRequest.sessionId = some r.since := by
  rw [Response.Tells] at htells
  simp only [hrequest] at htells
  obtain ⟨record, response, ⟨live, hlive, horder⟩, hresponse, htext, hdrawn⟩ := htells
  refine ⟨record, live, response, hlive, horder, hresponse, ?_, hdrawn⟩
  rw [htext]
  exact parseJsonSafely_of_parse (parse_created response)

/-- An answer about a session, as a script reads it. -/
lemma parsed_of_tells (hserved : Served srv clock w) (htells : r.Tells srv w) {sessionId : String}
    (hrequest : r.request = .getPaymentStatus sessionId) :
    ∃ (session : SessionRecord) (now : UInt64),
      session.paymentRequest.sessionId = sessionId ∧ session.Consistent ∧
      w.server.Continues session ∧ now ≤ w.server.clock ∧ w.found r.since = some session ∧
      Js.parse r.text = some (readResponse (toStatusResponse session now)) ∧
      (session.accessToken.isSome → session.pass ≠ .null) := by
  rw [Response.Tells] at htells
  simp only [hrequest] at htells
  obtain ⟨session, now, hid, hfound, hclock, htext⟩ := htells
  obtain ⟨-, hcons, hcontinues⟩ := hserved.found _ _ hfound
  -- a token that is sent is in the map
  have htoken : (ofOption (toStatusResponse session now).accessToken).NoLiteral ∧
      (session.accessToken.isSome → session.pass ≠ .null) := by
    by_cases hunset : session.Unset
    · simp [toStatusResponse, hunset.accessToken, ofOption, Value.NoLiteral]
    · obtain ⟨live, hlive, -, hsame⟩ := hcontinues
      obtain rfl := hsame hunset
      obtain ⟨t, hrun, -, -⟩ := hserved.reached
      exact accessToken_sent hrun hlive now
  refine ⟨session, now, hid, hcons, hcontinues, hclock, hfound, ?_, htoken.2⟩
  rw [htext]
  exact parse_response htoken.1

/-- An answer about a session, as the page reads it. -/
lemma status_of_tells (hserved : Served srv clock w) (htells : r.Tells srv w) {sessionId : String}
    (hrequest : r.request = .getPaymentStatus sessionId) :
    ∃ (session : SessionRecord) (now : UInt64),
      session.paymentRequest.sessionId = sessionId ∧ session.Consistent ∧
      w.server.Continues session ∧ now ≤ w.server.clock ∧ w.found r.since = some session ∧
      parseJsonSafely r.text = readResponse (toStatusResponse session now) ∧
      (session.accessToken.isSome → session.pass ≠ .null) := by
  obtain ⟨session, now, hid, hcons, hcontinues, hclock, hfound, hparse, hpass⟩ :=
    parsed_of_tells hserved htells hrequest
  exact ⟨session, now, hid, hcons, hcontinues, hclock, hfound,
    parseJsonSafely_of_parse hparse, hpass⟩

lemma shown_created (htells : r.Tells srv w) (hrequest : r.request = .createPayment)
    (store : PaymentState) : Shown w.server (store.created (parseJsonSafely r.text)) := by
  obtain ⟨record, live, response, hlive, horder, hresponse, hread, -⟩ :=
    created_of_tells htells hrequest
  have hshown := shownAs_created hresponse
  have hpaid : live.paymentRequest = record.paymentRequest :=
    congrArg Order.paymentRequest horder
  have hid : (store.created (readCreated response)).sessionId =
      some record.paymentRequest.sessionId := by
    show asString (prop (readCreated response) "session_id") = _
    rw [hshown.sessionId]
    rfl
  rw [hread]
  refine ⟨?_, nofun, nofun, fun _ => ⟨_, hid⟩, nofun⟩
  intro id hid'
  obtain rfl : record.paymentRequest.sessionId = id := Option.some.inj (hid.symm.trans hid')
  exact ⟨live, hlive, hpaid ▸ hshown⟩

/-- The status that is shown after an answer about a session. -/
lemma status_applyStatus {session : SessionRecord} (hcons : session.Consistent) (now : UInt64)
    (store : PaymentState) :
    (store.applyStatus (toSnapshot (readResponse (toStatusResponse session now)))).status =
      if session.accessToken.isSome then .confirmed
      else if session.paymentRequest.expiresAt ≤ now then .expired
      else .waiting := by
  rw [toSnapshot_response]
  exact mapStatus_statusOf hcons now

lemma not_unset_of_token {session : SessionRecord} (h : session.accessToken.isSome = true) :
    ¬ session.Unset := by
  intro hunset
  rw [hunset.accessToken] at h
  cases h

/-- A session is shown as confirmed if and only if it has a token. -/
lemma confirmed_applyStatus {session : SessionRecord} (hcons : session.Consistent) (now : UInt64)
    (store : PaymentState) :
    (store.applyStatus (toSnapshot (readResponse (toStatusResponse session now)))).status =
      .confirmed ↔ session.accessToken.isSome = true := by
  rw [status_applyStatus hcons]
  split
  · rename_i hsome
    exact iff_of_true rfl hsome
  · rename_i hnone
    refine iff_of_false ?_ hnone
    split
    · exact nofun
    · exact nofun

lemma shown_status (hserved : Served srv clock w) (htells : r.Tells srv w) {sessionId : String}
    (hrequest : r.request = .getPaymentStatus sessionId) (store : PaymentState) :
    Shown w.server (store.applyStatus (toSnapshot (parseJsonSafely r.text))) := by
  obtain ⟨session, now, rfl, hcons, ⟨live, hlive, horder, hsame⟩, hclock, -, hread, hpass⟩ :=
    status_of_tells hserved htells hrequest
  have hstatus := status_applyStatus hcons now store
  have hrequest : live.paymentRequest = session.paymentRequest :=
    congrArg Order.paymentRequest horder
  have hid : (store.applyStatus (toSnapshot (readResponse
      (toStatusResponse session now)))).sessionId = some session.paymentRequest.sessionId := by
    rw [toSnapshot_response]
    rfl
  rw [hread]
  constructor
  case known =>
    intro id hid'
    obtain rfl := Option.some.inj (hid.symm.trans hid')
    refine ⟨live, hlive, ?_⟩
    rw [toSnapshot_response]
    exact hrequest ▸ shownAs_request session.paymentRequest
  case confirmed =>
    intro hconfirmed
    have hsome := (confirmed_applyStatus hcons now store).1 hconfirmed
    obtain rfl := hsame (not_unset_of_token hsome)
    refine ⟨_, live, hid, hlive, hsome, ?_, ?_, ?_, ?_⟩
    · rw [toSnapshot_response]
      rfl
    · rw [toSnapshot_response]
      exact hpass hsome
    · rw [toSnapshot_response]
      rfl
    · rw [toSnapshot_response]
      rfl
  case expired =>
    intro hexpired
    rw [hstatus] at hexpired
    split at hexpired
    · cases hexpired
    · split at hexpired
      · rename_i hdeadline
        refine ⟨_, live, hid, hlive, ?_⟩
        rw [hrequest]
        exact UInt64.le_trans hdeadline hclock
      · cases hexpired
  case waiting => exact fun _ => ⟨_, hid⟩
  case detected =>
    rw [hstatus]
    split
    · exact nofun
    · split
      · exact nofun
      · exact nofun

end

/-! ### Runs -/

section

variable {srv : Server} {clock : UInt64} {w w' : World} {i : ℕ}

/-- The server has what the page shows, and the sessions that it works with. -/
def World.Informed (w : World) (i : ℕ) : Prop :=
  Recovery.Within (Shown w.server) (fun id => ∃ live, w.server.sessions.lookup id = some live)
    (w.pages i)

/-- What an answer brings is what the server has. -/
lemma admits_of_served (hserved : Served srv clock w) {a : Recovery.Action}
    (hhonest : w.Honest (.page i a)) :
    Recovery.Admits (Shown w.server) (fun id => ∃ live, w.server.sessions.lookup id = some live)
      a where
  init := shown_initialState _
  setError state message h := ⟨h.known, nofun, nofun, nofun, nofun⟩
  noted state error h := ⟨h.known, h.confirmed, h.expired, h.waiting, h.detected⟩
  created requestId freshId outcomes payment ha hok := by
    subst ha
    obtain ⟨r, hr, hrequest, -, rfl⟩ := World.Delivers.of_ok hhonest hok
    have htells := hserved.response r hr
    refine ⟨fun state _ => shown_created htells hrequest state, ?_⟩
    obtain ⟨record, live, response, hlive, -, hresponse, hread, -⟩ :=
      created_of_tells htells hrequest
    refine ⟨record.paymentRequest.sessionId, ?_, live, hlive⟩
    rw [hread, (shownAs_created hresponse).sessionId]
    rfl
  answered sessionId requestId freshId outcomes statusResponse ha hP hok := by
    subst ha
    obtain ⟨r, hr, hrequest, -, rfl⟩ := World.Delivers.of_ok hhonest hok
    have htells := hserved.response r hr
    refine ⟨fun state _ => shown_status hserved htells hrequest state, ?_⟩
    obtain ⟨session, now, hid, -, -, -, -, hread, -⟩ := status_of_tells hserved htells hrequest
    refine ⟨sessionId, ?_, hP⟩
    rw [hread, ← hid]
    rfl

lemma World.informed_init (clock : UInt64) (i : ℕ) : (World.init clock).Informed i :=
  ⟨shown_initialState _, nofun, nofun, nofun, nofun⟩

lemma World.Informed.step (h : w.Informed i) (hserved : Served srv clock w) {a : World.Action}
    (hhonest : w.Honest a) (hstep : w.step srv a = some w') : w'.Informed i := by
  cases a with
  | server a =>
      simp only [World.step, Option.map_eq_some_iff] at hstep
      obtain ⟨server, hserver, rfl⟩ := hstep
      refine h.mono (fun store hstore => hstore.step hserved.distinct hserver) ?_
      rintro id ⟨live, hlive⟩
      obtain ⟨live', hlive', -⟩ := lookup_of_distinct hserved.distinct hserver hlive
      exact ⟨live', hlive'⟩
  | page j a =>
      simp only [World.step, Option.map_eq_some_iff] at hstep
      obtain ⟨page, hpage, rfl⟩ := hstep
      by_cases hij : i = j
      · subst hij
        have hnext := Recovery.Within.step h (admits_of_served hserved hhonest) hpage
        rw [World.Informed]
        dsimp only [World.withPage]
        rwa [Function.update_self]
      · rw [World.Informed]
        dsimp only [World.withPage]
        rwa [Function.update_of_ne hij]

/-- **What the pages show.**  In every run of the server and of any number of pages, in which
the answers that arrive were sent, the server has whatever a page shows: the session with the
request for payment, the pass that it stored, and a deadline that is over if the session is
shown as expired; no page ever shows `DETECTED`; and the ids that the pages have stored are
those of sessions. -/
theorem shown_of_run {t : World.Trace} (hrun : Run (World.step srv) (.init clock) t w)
    (hhonest : ∀ e ∈ t, e.1.Honest e.2) (i : ℕ) :
    Shown w.server (w.pages i).store ∧
      ∀ id, (w.pages i).stored = some id → ∃ live, w.server.sessions.lookup id = some live := by
  have hall : w.Informed i := by
    refine (Run.invariant_of_guard (P := fun _ w => Served srv clock w ∧ w.Informed i) hrun
      hhonest ⟨Served.init srv clock, World.informed_init clock i⟩ ?_).2
    rintro t w a w' - ⟨hserved, h⟩ hhonest hstep
    exact ⟨hserved.step hhonest hstep, h.step hserved hhonest hstep⟩
  exact ⟨hall.store, hall.stored⟩

end

/-! ### An example

A page creates the session of the server's example, which is paid for, and learns of it with
its first poll.  The answers are not computed but read off what the server says. -/

/-- The session is created, and the answer is under way. -/
def demoStart : World := endOf (World.step (demoServer 300)) (.init 0)
  (.page 0 .setup :: demoCreate.map .server)

def demoResponse : CreatePaymentResponse where
  sessionId := demoMemo.text
  destination := "GDEST"
  amount := "10.0000000"
  asset := "XLM"
  memo := demoMemo.text
  qrPayload := (demoSession 300).paymentRequest.qrPayload
  qrPng := "data:image/png;base64,"
  requestExpiresAt := 900

/-- The first fetch of a request brings this body. -/
def deliver (text : String) : ℕ → FetchOutcome := fun _ => .response 200 (some text)

def demoCreatedAnswer : Recovery.Action := .createAnswer "a" "b" (deliver demoResponse.toText)

/-- The page shows the session. -/
def demoWaiting : World := demoStart.withPage 0 demoCreatedAnswer
  (Recovery.sessionCreated (.ok (readCreated demoResponse)) (demoStart.pages 0))

/-- The session is paid for, and the answer to the first poll is under way. -/
def demoPolled : World := endOf (World.step (demoServer 300)) demoWaiting
  (.page 0 .rerender :: .server (demoSnapshot 300 0) :: demoSettle.map .server ++
    [.page 0 (.elapse 3000), .page 0 .poll, .server (.statusGet 1 demoMemo.text),
      .server (.statusRespond 1)])

/-- The session as the poll finds it. -/
def demoPaid : SessionRecord := (demoPolled.found 13).getD (demoSession 300)

def demoStatusAnswer : Recovery.Action :=
  .statusAnswer demoMemo.text "c" "d" (deliver (toStatusResponse demoPaid 0).toText)

/-- The page shows the pass. -/
def demoConfirmed : World := demoPolled.withPage 0 demoStatusAnswer
  (Recovery.statusRequested demoMemo.text (.ok (readResponse (toStatusResponse demoPaid 0)))
    (demoPolled.pages 0))

/-- A step that delivers an answer that was sent, and accepted. -/
lemma honest_of_delivered {w : World} {i : ℕ} {request : Request} {r : Response}
    (hr : r ∈ w.responses) (hrequest : r.request = request)
    (hsince : w.sent i request ≤ r.since) : w.Delivers i request (deliver r.text) := by
  rintro n status text houtcome -
  obtain ⟨-, htext⟩ := FetchOutcome.response.inj houtcome
  exact ⟨r, hr, hrequest, hsince, Option.some.inj htext⟩

/-- The run up to the answer to the first poll. -/
lemma run_demoPolled :
    ∃ t, Run (World.step (demoServer 300)) (.init 0) t demoPolled ∧
      ∀ e ∈ t, e.1.Honest e.2 := by
  obtain ⟨t₁, hrun₁, hplain₁⟩ : ∃ t, Run (World.step (demoServer 300)) (.init 0) t demoStart ∧
      ∀ e ∈ t, e.1.plain e.2 = true := exists_run_endOf (by decide +kernel)
  have hresult : createPayment "a" "b" (deliver demoResponse.toText) =
      .ok (readCreated demoResponse) :=
    request_delivered (parseJsonSafely_of_parse (parse_created demoResponse))
      (guard_created demoResponse)
  have hstep : demoStart.step (demoServer 300) (.page 0 demoCreatedAnswer) = some demoWaiting := by
    refine World.step_page ?_
    rw [demoCreatedAnswer, Recovery.step, if_pos (by decide +kernel), hresult]
  have hresponses : demoStart.responses = [⟨.createPayment, 1, demoResponse.toText⟩] := rfl
  have hhonest : demoStart.Honest (.page 0 demoCreatedAnswer) :=
    honest_of_delivered (r := ⟨.createPayment, 1, demoResponse.toText⟩)
      (by rw [hresponses]; exact List.mem_singleton_self _) rfl (by decide +kernel)
  obtain ⟨t₂, hrun₂, hplain₂⟩ : ∃ t, Run (World.step (demoServer 300)) demoWaiting t demoPolled ∧
      ∀ e ∈ t, e.1.plain e.2 = true := exists_run_endOf (by decide +kernel)
  refine ⟨_, (hrun₁.snoc hstep).append hrun₂, ?_⟩
  intro e he
  rw [List.mem_append, List.mem_append, List.mem_singleton] at he
  rcases he with (he | rfl) | he
  · exact World.honest_of_plain (hplain₁ e he)
  · exact hhonest
  · exact World.honest_of_plain (hplain₂ e he)

lemma demoPolled_responses :
    demoPolled.responses =
      [⟨.getPaymentStatus demoMemo.text, 13, (toStatusResponse demoPaid 0).toText⟩,
        ⟨.createPayment, 1, demoResponse.toText⟩] := rfl

/-- What the page makes of the server's answer about the session. -/
lemma demoPaid_read (requestId freshId : String) :
    getPaymentStatus requestId freshId (deliver (toStatusResponse demoPaid 0).toText) =
      .ok (readResponse (toStatusResponse demoPaid 0)) := by
  obtain ⟨t, hrun, hhonest⟩ := run_demoPolled
  have hserved := served_of_run hrun hhonest
  have hmem : ⟨.getPaymentStatus demoMemo.text, 13, (toStatusResponse demoPaid 0).toText⟩ ∈
      demoPolled.responses := by
    rw [demoPolled_responses]
    exact List.mem_cons_self
  obtain ⟨session, now, -, -, -, hclock, hfound, hread, -⟩ :=
    status_of_tells hserved (hserved.response _ hmem) rfl
  have hsame : demoPolled.found 13 = some demoPaid := rfl
  obtain rfl := Option.some.inj (hsame.symm.trans hfound)
  -- the clock shows the same time all along
  obtain rfl : now = 0 := by
    have hzero : demoPolled.server.clock = 0 := by decide +kernel
    rw [hzero] at hclock
    exact UInt64.le_antisymm hclock UInt64.zero_le
  exact request_delivered hread (guard_response _)

lemma run_demoConfirmed :
    ∃ t, Run (World.step (demoServer 300)) (.init 0) t demoConfirmed ∧
      ∀ e ∈ t, e.1.Honest e.2 := by
  obtain ⟨t, hrun, hhonest⟩ := run_demoPolled
  have hstep : demoPolled.step (demoServer 300) (.page 0 demoStatusAnswer) =
      some demoConfirmed := by
    refine World.step_page ?_
    rw [demoStatusAnswer, Recovery.step, if_pos (by decide +kernel), demoPaid_read]
  have hhonest' : demoPolled.Honest (.page 0 demoStatusAnswer) :=
    honest_of_delivered
      (r := ⟨.getPaymentStatus demoMemo.text, 13, (toStatusResponse demoPaid 0).toText⟩)
      (by rw [demoPolled_responses]; exact List.mem_cons_self) rfl (by decide +kernel)
  refine ⟨_, hrun.snoc hstep, ?_⟩
  intro e he
  rw [List.mem_append, List.mem_singleton] at he
  rcases he with he | rfl
  · exact hhonest e he
  · exact hhonest'

/-- The pass is shown, and the server has it. -/
theorem shown_of_run_demo :
    ∃ t w, Run (World.step (demoServer 300)) (.init 0) t w ∧
      (w.pages 0).store.status = .confirmed ∧ Shown w.server (w.pages 0).store := by
  obtain ⟨t, hrun, hhonest⟩ := run_demoConfirmed
  exact ⟨t, _, hrun, by decide +kernel, (shown_of_run hrun hhonest 0).1⟩

end Haske
