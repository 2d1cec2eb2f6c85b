import Haske.Server.Authorisation
import Haske.Stellar.Matching
import Haske.System.Final

/-!
# What is confirmed was paid

A page that shows its payment as confirmed shows a request for payment, and a record was
returned to the server that pays what the page shows: to this account, under this memo, of
this amount (`confirmed_backed`).

Amounts are compared as strings.  Horizon writes them with seven fractional digits, so a
request for an amount that is written in another way, such as the `10` that the pages and the
server ask for if they are not told otherwise, is never confirmed, whatever is paid
(`unspelled_never_confirmed`).
-/

namespace Haske

open Json Js Machine

variable {srv : Server} {clock : UInt64} {t : World.Trace} {w : World} {i : ℕ}

/-! ### The run of the server -/

def World.Action.ofServer : World.Action → Option Haske.Action
  | .server a => some a
  | .page _ _ => none

/-- The steps of the server in a run. -/
def World.serverTrace (t : World.Trace) : Haske.Trace :=
  t.filterMap fun e => e.2.ofServer.map fun a => (e.1.server, a)

/-- The server of a run of everything takes a run of its own. -/
lemma server_of_run (hrun : Run (World.step srv) (.init clock) t w) :
    Run (step srv) (.init clock) (World.serverTrace t) w.server := by
  refine Run.project World.server World.Action.ofServer hrun ?_ ?_
  · rintro w (a | ⟨i, a⟩) w' b hstep ⟨⟩
    simp only [World.step, Option.map_eq_some_iff] at hstep
    obtain ⟨server, hserver, rfl⟩ := hstep
    exact hserver
  · rintro w (a | ⟨i, a⟩) w' hstep hskip
    · cases hskip
    · simp only [World.step, Option.map_eq_some_iff] at hstep
      obtain ⟨page, -, rfl⟩ := hstep
      rfl

/-- No memo is drawn twice in it. -/
lemma drawnApart_of_run (hrun : Run (World.step srv) (.init clock) t w)
    (hhonest : ∀ e ∈ t, e.1.Honest e.2) : w.DrawnApart (World.serverTrace t) := by
  refine Run.invariant_of_guard (P := fun t w => w.DrawnApart (World.serverTrace t)) hrun hhonest
    ⟨List.nodup_nil, nofun⟩ ?_
  intro t w a w' _ h hhonest hstep
  rw [World.serverTrace, List.filterMap_append]
  cases a with
  | server a =>
      simp only [World.step, Option.map_eq_some_iff] at hstep
      obtain ⟨server, -, rfl⟩ := hstep
      exact h.snoc hhonest rfl w.server
  | page j a =>
      simp only [World.step, Option.map_eq_some_iff] at hstep
      obtain ⟨page, -, rfl⟩ := hstep
      show w.DrawnApart (World.serverTrace t ++ [])
      rw [List.append_nil]
      exact h

/-! ### What a session was asked for -/

section

variable {t : Haske.Trace} {s : State}

/-- A request for payment with this body was taken up in the run, under this memo. -/
def Asked (t : Haske.Trace) (body : CreatePaymentBody) (memo : Alphanumeric 12) : Prop :=
  ∃ s i, (s, Action.createRequest i body memo) ∈ t

lemma Asked.append {body : CreatePaymentBody} {memo : Alphanumeric 12} (h : Asked t body memo)
    (t' : Haske.Trace) : Asked (t ++ t') body memo := by
  obtain ⟨s, i, hmem⟩ := h
  exact ⟨s, i, List.mem_append_left _ hmem⟩

lemma asked_of_task (hrun : Run (step srv) (.init clock) t s) :
    ∀ i paymentRequest eventId, s.tasks i = some (.requested paymentRequest eventId) →
      ∃ body memo, Asked t body memo ∧ paymentRequest =
        createPaymentRequest srv.destinationAddress body.toRequest memo := by
  refine Run.invariant (P := fun t s => ∀ i paymentRequest eventId,
    s.tasks i = some (.requested paymentRequest eventId) → ∃ body memo, Asked t body memo ∧
      paymentRequest = createPaymentRequest srv.destinationAddress body.toRequest memo) hrun ?_ ?_
  · intro i paymentRequest eventId hi
    cases hi
  · intro t s a s' _ ih hstep i paymentRequest eventId hi
    rcases task_of_step hstep hi with ⟨hi, -⟩ | henters
    · obtain ⟨body, memo, hasked, heq⟩ := ih i paymentRequest eventId hi
      exact ⟨body, memo, hasked.append _, heq⟩
    · cases henters with
      | @requested body memo => exact ⟨body, memo, ⟨s, i, by simp⟩, rfl⟩

/-- The request of an order is what was asked for. -/
lemma asked_of_stamped (hrun : Run (step srv) (.init clock) t s) {order : Order} {now : UInt64}
    (h : StampedAt srv t order now) :
    ∃ body memo, Asked t body memo ∧ order.paymentRequest.sessionId = memo.text ∧
      order.paymentRequest.memo = memo.text ∧
      order.paymentRequest.amount = body.toRequest.amount := by
  obtain ⟨s₁, i, request, memo, hmem, -, htask, hmade⟩ := h
  obtain ⟨t₁, t₂, -, rfl, hrun₁, -, -⟩ := hrun.of_mem hmem
  obtain ⟨body, memo', hasked, heq⟩ := asked_of_task hrun₁ i _ _ htask
  have hrequest := hmade.paymentRequest_eq
  rw [heq] at hrequest
  rw [hrequest]
  exact ⟨body, memo', hasked.append _, rfl, rfl, rfl⟩

/-- Two entries that differ have different images, if no image comes twice. -/
lemma eq_of_nodup_filterMap {α β : Type*} {f : α → Option β} {l : List α}
    (h : (l.filterMap f).Nodup) {a b : α} {c : β} (ha : a ∈ l) (hb : b ∈ l)
    (hfa : f a = some c) (hfb : f b = some c) : a = b := by
  induction l with
  | nil => cases ha
  | cons x l ih =>
      have hrest : (l.filterMap f).Nodup := h.sublist ((List.sublist_cons_self x l).filterMap f)
      have hfirst : f x = some c → ∀ y ∈ l, f y ≠ some c := by
        intro hfx y hy hfy
        rw [List.filterMap_cons_some hfx, List.nodup_cons] at h
        exact h.1 (List.mem_filterMap.2 ⟨y, hy, hfy⟩)
      rcases List.mem_cons.1 ha with rfl | ha'
      · rcases List.mem_cons.1 hb with rfl | hb'
        · rfl
        · exact absurd hfb (hfirst hfa b hb')
      · rcases List.mem_cons.1 hb with rfl | hb'
        · exact absurd hfa (hfirst hfb a ha')
        · exact ih hrest ha' hb'

/-- Under one memo one thing is asked for. -/
lemma Asked.body_eq (hmemos : (memos t).Nodup) {body body' : CreatePaymentBody}
    {memo memo' : Alphanumeric 12} (h : Asked t body memo) (h' : Asked t body' memo')
    (heq : memo.text = memo'.text) : body = body' := by
  obtain ⟨s, i, hmem⟩ := h
  obtain ⟨s', i', hmem'⟩ := h'
  have hsame := eq_of_nodup_filterMap hmemos hmem hmem' rfl (congrArg some heq.symm)
  cases hsame
  rfl

end

/-! ### What was paid -/

/-- The record is a successful payment of what a page shows. -/
structure PaymentRecord.Pays (record : PaymentRecord) (paymentData : Value) : Prop where
  successful : record.transactionSuccessful = true
  recordType_eq : record.recordType = "payment"
  destination : prop paymentData "destination" = some (.str record.to_)
  memo : record.memo.isSome ∧ prop paymentData "memo" = record.memo.map .str
  amount : prop paymentData "amount" = some (.str record.amount)
  asset : ∃ asset, prop paymentData "asset" = some (.str asset) ∧
    eqIgnoreAsciiCase (parsedAsset record) asset = true

lemma PaymentRecord.Backs.pays {record : PaymentRecord} {request : PaymentRequest}
    {paymentData : Value} (h : record.Backs request) (hshown : request.ShownAs paymentData) :
    record.Pays paymentData where
  successful := h.successful
  recordType_eq := h.recordType_eq
  destination := by rw [hshown.destination, h.to_eq]
  memo := by
    rw [h.memo_eq, hshown.memo]
    exact ⟨rfl, rfl⟩
  amount := by rw [hshown.amount, h.amount_eq]
  asset := ⟨_, hshown.asset, h.asset_eq⟩

/-- What a page rests on that shows its payment as confirmed. -/
structure Backed (srv : Server) (t : Haske.Trace) (store : PaymentState) (live : SessionRecord)
    (record : PaymentRecord) (token : AccessToken) : Prop where
  sessionId : store.sessionId = some live.paymentRequest.sessionId
  asked : ∃ body memo, Asked t body memo ∧ store.sessionId = some memo.text ∧
    prop store.paymentData "amount" = some (.str body.toRequest.amount)
  returned : ReturnedFor t live.order record
  pays : record.Pays store.paymentData
  memo : record.memo = store.sessionId
  carries : token.Carries record live.order
  signed : live.accessToken =
    some (signedTokenToJson (signToken srv.scheme token srv.signingKey))
  shown : store.accessToken = live.pass

/-- **What is confirmed was paid.**  In every run of the server and of any number of pages, in
which the answers that arrive were sent, a page that shows its payment as confirmed shows a
session that was asked for, for the amount it was asked for; a record was returned to a lookup
for this session that is a successful payment of what the page shows, with the id of the
session as its memo; and the pass is a token, signed with the server's key, which carries this
record. -/
theorem confirmed_backed (hrun : Run (World.step srv) (.init clock) t w)
    (hhonest : ∀ e ∈ t, e.1.Honest e.2)
    (hconfirmed : (w.pages i).store.status = .confirmed) :
    ∃ live record token,
      Backed srv (World.serverTrace t) (w.pages i).store live record token := by
  have hsound := sound_of_run hrun hhonest i
  have hserver := server_of_run hrun
  obtain ⟨id, live, hid, hlive, hsome, hpass, -⟩ := hsound.informed.store.confirmed hconfirmed
  obtain ⟨live', hlive', hshown⟩ := hsound.informed.store.known id hid
  obtain rfl := Option.some.inj (hlive.symm.trans hlive')
  obtain ⟨rfl, hcons, ⟨now, hstamped⟩, -⟩ := (provenance_of_run hserver).session id live hlive
  obtain ⟨text, htext⟩ := Option.isSome_iff_exists.1 hsome
  obtain ⟨artifact, hholds, rfl⟩ := hcons.holds_of_accessToken htext
  obtain ⟨record, nonce, hreturned, hbacks, -, htoken⟩ := paidBy_spec hserver
    (paidBy_of_holds hserver (drawnApart_of_run hrun hhonest).1 hlive hholds)
  obtain ⟨body, memo, hasked, hmemo, -, hamount⟩ := asked_of_stamped hserver hstamped
  have hmemo' : live.paymentRequest.sessionId = memo.text := hmemo
  have hamount' : live.paymentRequest.amount = body.toRequest.amount := hamount
  refine ⟨live, record, _, hid, ⟨body, memo, hasked, ?_, ?_⟩, hreturned, hbacks.pays hshown, ?_,
    carries_issuedToken hbacks nonce, htext.trans (congrArg some htoken), hpass⟩
  · rw [hid, hmemo']
  · rw [hshown.amount, hamount']
  · rw [hid, hbacks.memo_eq]
    exact congrArg some hstamped.memo.1

/-! ### Amounts that are written in another way -/

/-- A session with a pass was paid for by a record of the amount that was asked for. -/
lemma amount_of_token {t : Haske.Trace} {s : State} (hrun : Run (step srv) (.init clock) t s)
    (hmemos : (memos t).Nodup) {live : SessionRecord} {body : CreatePaymentBody}
    {memo : Alphanumeric 12} (hlive : s.sessions.lookup memo.text = some live)
    (hsome : live.accessToken.isSome = true) (hasked : Asked t body memo) :
    ∃ s₁ page record, (s₁, .watchLookup (some page)) ∈ t ∧ record ∈ page ∧
      record.amount = body.toRequest.amount := by
  obtain ⟨hkey, hcons, ⟨now, hstamped⟩, -⟩ := (provenance_of_run hrun).session _ live hlive
  obtain ⟨text, htext⟩ := Option.isSome_iff_exists.1 hsome
  obtain ⟨artifact, hholds, -⟩ := hcons.holds_of_accessToken htext
  have hlive' : s.sessions.lookup live.paymentRequest.sessionId = some live := by
    rw [hkey]
    exact hlive
  obtain ⟨record, -, ⟨s₁, session, rest, page, hmem, -, -, hrecord⟩, hbacks, -⟩ :=
    paidBy_spec hrun (paidBy_of_holds hrun hmemos hlive' hholds)
  -- the amount of the session is that of the record, and the one that was asked for
  obtain ⟨body', memo', hasked', hmemo, -, hamount⟩ := asked_of_stamped hrun hstamped
  obtain rfl := hasked.body_eq hmemos hasked' (hkey.symm.trans hmemo)
  exact ⟨s₁, page, record, hmem, hrecord, hbacks.amount_eq.trans hamount⟩

/-- **Amounts that Horizon does not write are never confirmed.**  In every run of the server
and of any number of pages, in which the answers that arrive were sent and the amounts on all
pages of records are written as Horizon does, no page ever shows a session as confirmed that
was asked for with an amount which is written in another way. -/
theorem unspelled_never_confirmed (hrun : Run (World.step srv) (.init clock) t w)
    (hhonest : ∀ e ∈ t, e.1.Honest e.2)
    (hspelled : ∀ s page, (s, .watchLookup (some page)) ∈ World.serverTrace t →
      ∀ record ∈ page, ∃ n, record.amount = horizonAmount n)
    {body : CreatePaymentBody} {memo : Alphanumeric 12}
    (hasked : Asked (World.serverTrace t) body memo)
    (hunspelled : ∀ n, body.toRequest.amount ≠ horizonAmount n)
    (hid : (w.pages i).store.sessionId = some memo.text) :
    (w.pages i).store.status ≠ .confirmed := by
  intro hconfirmed
  have hsound := sound_of_run hrun hhonest i
  obtain ⟨id, live, hid', hlive, hsome, -⟩ := hsound.informed.store.confirmed hconfirmed
  obtain rfl : id = memo.text := Option.some.inj (hid'.symm.trans hid)
  obtain ⟨s, page, record, hmem, hrecord, hamount⟩ := amount_of_token (server_of_run hrun)
    (drawnApart_of_run hrun hhonest).1 hlive hsome hasked
  obtain ⟨n, hn⟩ := hspelled s page hmem record hrecord
  exact hunspelled n (hamount.symm.trans hn)

/-- The amount that is asked for by default is written without fractional digits. -/
lemma unspelled_default (n : ℕ) : defaultPayload.toBody.toRequest.amount ≠ horizonAmount n := by
  intro h
  have hvalue : Decimal.value? 7 (horizonAmount n) = some 100000000 := by
    rw [← h]
    decide +kernel
  rw [horizonAmount, Decimal.value?_render (by decide), Option.some.injEq] at hvalue
  subst hvalue
  exact absurd h (by decide +kernel)

theorem confirmed_backed_demo :
    ∃ t w live record token, Run (World.step (demoServer 300)) (.init 0) t w ∧
      (w.pages 0).store.status = .confirmed ∧
      Backed (demoServer 300) (World.serverTrace t) (w.pages 0).store live record token := by
  obtain ⟨t, hrun, hhonest⟩ := run_demoConfirmed
  have hconfirmed : (demoConfirmed.pages 0).store.status = .confirmed := by decide +kernel
  obtain ⟨live, record, token, hbacked⟩ := confirmed_backed hrun hhonest hconfirmed
  exact ⟨t, _, live, record, token, hrun, hconfirmed, hbacked⟩

/-! A page creates a session for the default payload, and ten units are paid. -/

def defaultStart : World := endOf (World.step (demoServer 300)) (.init 0)
  (.page 0 .setup :: [Haske.Action.createRequest 0 defaultPayload.toBody demoMemo, .createClock 0,
    .createInsert 0, .createRespond 0].map .server)

def defaultSession : SessionRecord :=
  (defaultStart.server.sessions.lookup demoMemo.text).getD (demoSession 300)

def defaultResponse : CreatePaymentResponse :=
  (defaultSession.createResponse (demoServer 300).qr).getD demoResponse

def defaultAnswer : Recovery.Action := .createAnswer "a" "b" (deliver defaultResponse.toText)

/-- The page shows the session. -/
def defaultWaiting : World := defaultStart.withPage 0 defaultAnswer
  (Recovery.sessionCreated (.ok (readCreated defaultResponse)) (defaultStart.pages 0))

/-- A lookup returns the payment. -/
def defaultPaid : World := endOf (World.step (demoServer 300)) defaultWaiting
  [.server (.watchSnapshot [(⟨demoMemo.text, defaultSession⟩, 0)]),
    .server (.watchLookup (some [demoRecord]))]

/-- A page of records that is returned has the amount of ten units only. -/
def World.Action.tenOnly : World.Action → Bool
  | .server (.watchLookup (some records)) =>
      records.all fun record => record.amount = horizonAmount 100000000
  | _ => true

def World.plainTen (w : World) (a : World.Action) : Bool := w.plain a && a.tenOnly

lemma spelled_of_tenOnly (h : ∀ e ∈ t, e.2.tenOnly = true) :
    ∀ s page, (s, .watchLookup (some page)) ∈ World.serverTrace t →
      ∀ record ∈ page, ∃ n, record.amount = horizonAmount n := by
  intro s page hmem record hrecord
  obtain ⟨⟨w, a⟩, he, heq⟩ := List.mem_filterMap.1 hmem
  cases a with
  | server a =>
      obtain ⟨a', ha, hpair⟩ := Option.map_eq_some_iff.1 heq
      obtain rfl := Option.some.inj ha
      obtain ⟨-, rfl⟩ := Prod.mk.inj hpair
      have hall : page.all (fun record => record.amount = horizonAmount 100000000) = true := h _ he
      have hten := List.all_eq_true.1 hall record hrecord
      exact ⟨_, of_decide_eq_true hten⟩
  | page i a => cases heq

theorem unspelled_never_confirmed_demo :
    ∃ t w, Run (World.step (demoServer 300)) (.init 0) t w ∧
      (w.pages 0).store.sessionId = some demoMemo.text ∧
      (w.pages 0).store.status ≠ .confirmed := by
  obtain ⟨t₁, hrun₁, hchecked₁⟩ : ∃ t,
      Run (World.step (demoServer 300)) (.init 0) t defaultStart ∧
        ∀ e ∈ t, World.plainTen e.1 e.2 = true := exists_run_endOf (by decide +kernel)
  obtain ⟨t₂, hrun₂, hchecked₂⟩ : ∃ t,
      Run (World.step (demoServer 300)) defaultWaiting t defaultPaid ∧
        ∀ e ∈ t, World.plainTen e.1 e.2 = true := exists_run_endOf (by decide +kernel)
  have hresult : createPayment "a" "b" (deliver defaultResponse.toText) =
      .ok (readCreated defaultResponse) :=
    request_delivered (parseJsonSafely_of_parse (parse_created defaultResponse))
      (guard_created defaultResponse)
  have hstep : defaultStart.step (demoServer 300) (.page 0 defaultAnswer) =
      some defaultWaiting := by
    refine World.step_page ?_
    rw [defaultAnswer, Recovery.step, if_pos (by decide +kernel), hresult]
  have hresponses : defaultStart.responses = [⟨.createPayment, 1, defaultResponse.toText⟩] := rfl
  have hhonest : defaultStart.Honest (.page 0 defaultAnswer) :=
    honest_of_delivered (r := ⟨.createPayment, 1, defaultResponse.toText⟩)
      (by rw [hresponses]; exact List.mem_singleton_self _) rfl (by decide +kernel)
  have hrun := (hrun₁.snoc hstep).append hrun₂
  have hall : ∀ e ∈ t₁ ++ [(defaultStart, .page 0 defaultAnswer)] ++ t₂,
      e.1.Honest e.2 ∧ e.2.tenOnly = true := by
    intro e he
    rw [List.mem_append, List.mem_append, List.mem_singleton] at he
    rcases he with (he | rfl) | he
    · have hchecked := Bool.and_eq_true_iff.1 (hchecked₁ e he)
      exact ⟨World.honest_of_plain hchecked.1, hchecked.2⟩
    · exact ⟨hhonest, rfl⟩
    · have hchecked := Bool.and_eq_true_iff.1 (hchecked₂ e he)
      exact ⟨World.honest_of_plain hchecked.1, hchecked.2⟩
  -- the session in the map was asked for with the amount ten
  have hlive : defaultPaid.server.sessions.lookup demoMemo.text = some defaultSession := by
    decide +kernel
  obtain ⟨-, -, ⟨now, hstamped⟩, -⟩ :=
    (provenance_of_run (server_of_run hrun)).session _ _ hlive
  obtain ⟨body, memo, hasked, hmemo, -, hamount⟩ :=
    asked_of_stamped (server_of_run hrun) hstamped
  have hid : (defaultPaid.pages 0).store.sessionId = some memo.text := by
    rw [← hmemo]
    decide +kernel
  have hten : ∀ n, body.toRequest.amount ≠ horizonAmount n := by
    rw [← hamount]
    exact unspelled_default
  exact ⟨_, _, hrun, by decide +kernel, unspelled_never_confirmed hrun (fun e he => (hall e he).1)
    (spelled_of_tenOnly fun e he => (hall e he).2) hasked hten hid⟩

end Haske
