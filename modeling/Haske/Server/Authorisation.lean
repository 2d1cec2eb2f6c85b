import Haske.Server.Refinement

/-!
# What passes are issued for

Two guarantees of the server, in every run in which no memo is drawn twice.

* A session that has a pass was paid (`pass_authorised`): a record that pays its order was
  on a page returned to a lookup for it, and the pass carries this record.
* A payment settles one session (`settles_once`), if all the records of one transaction
  have the same memo.  No table of consumed transactions is kept; the memo does it.

Both are read off the ledger: an entry is settled by an artifact that was issued for a
payment which a lookup had found, and lookups only find what pays the order
(`looked_spec`).
-/

namespace Haske

open Machine

/-- The record is a successful payment of what was requested.  Unlike in `Matches`, it has
to have a memo. -/
structure PaymentRecord.Backs (record : PaymentRecord) (request : PaymentRequest) : Prop where
  successful : record.transactionSuccessful = true
  recordType_eq : record.recordType = "payment"
  to_eq : record.to_ = request.destination
  memo_eq : record.memo = some request.memo
  amount_eq : record.amount = request.amount
  asset_eq : eqIgnoreAsciiCase (parsedAsset record) request.asset = true

/-- The token carries the payment, and what the session was created with. -/
structure AccessToken.Carries (token : AccessToken) (record : PaymentRecord) (order : Order) :
    Prop where
  txHash_eq :
    token.txHash = if record.transactionHash = "" then record.id else record.transactionHash
  source_eq : token.source = record.from_
  amount_eq : token.amount = record.amount
  asset_eq : token.asset = parsedAsset record
  memo_eq : some token.memo = record.memo
  ledger_eq : token.ledger = record.ledger.getD 0
  eventId_eq : token.eventId = order.eventId
  expiresAt_eq : token.expiresAt = order.expiresAt

/-- The record was on a page that was returned in the run to a lookup for the session with
this order. -/
def ReturnedFor (t : Trace) (order : Order) (record : PaymentRecord) : Prop :=
  ∃ s session rest page, (s, .watchLookup (some page)) ∈ t ∧ s.watcher = .lookup session rest ∧
    session.order = order ∧ record ∈ page

variable {srv : Server} {clock : UInt64} {t : Trace} {s : State}

/-! ### What lookups find -/

/-- The memo of a request is its session id, and not empty. -/
lemma StampedAt.memo {order : Order} {now : UInt64} (h : StampedAt srv t order now) :
    order.paymentRequest.memo = order.paymentRequest.sessionId ∧
      order.paymentRequest.memo ≠ "" := by
  obtain ⟨-, -, request, memo, -, -, -, hmade⟩ := h
  rw [hmade.paymentRequest_eq]
  exact ⟨rfl, memo.text_ne_empty (by decide)⟩

/-- So it is for the sessions the watcher treats. -/
lemma memo_of_queue (hrun : Run (step srv) (.init clock) t s) {s₁ : State} {a : Action}
    (hmem : (s₁, a) ∈ t) {session : SessionRecord} (hqueue : session ∈ s₁.watcher.queue) :
    session.paymentRequest.memo = session.paymentRequest.sessionId ∧
      session.paymentRequest.memo ≠ "" := by
  obtain ⟨t₁, t₂, -, -, hrun₁, -, -⟩ := hrun.of_mem hmem
  obtain ⟨now, hnow⟩ := (provenance_of_run hrun₁).queue session hqueue
  exact hnow.memo

/-- A record that matches a request with a memo backs it. -/
lemma PaymentRecord.Matches.backs {record : PaymentRecord} {request : PaymentRequest}
    (h : record.Matches request.destination request.memo request.amount request.asset)
    (hmemo : request.memo ≠ "") : record.Backs request := by
  obtain ⟨⟨hok, htype, hto, hmatch, hamount⟩, hasset⟩ := h
  refine ⟨hok, htype, hto, ?_, hamount, hasset⟩
  cases hrecord : record.memo with
  | none =>
      rw [hrecord] at hmatch
      exact absurd hmatch.symm hmemo
  | some memo =>
      rw [hrecord] at hmatch
      exact congrArg some hmatch

/-- A payment that was found is that of a record which was returned for the session and
backs it. -/
lemma looked_spec (hrun : Run (step srv) (.init clock) t s) {session : SessionRecord}
    {payment : PaymentEvent} (h : Looked t session payment) :
    ∃ record, ReturnedFor t session.order record ∧ record.Backs session.paymentRequest ∧
      payment = parsePayment record := by
  obtain ⟨s₁, rest, page, hmem, hw, hfound⟩ := h
  obtain ⟨record, hrecord, hmatch, rfl⟩ := exists_record_of_found hfound
  have hqueue : session ∈ s₁.watcher.queue := by
    rw [hw]
    exact List.mem_cons_self
  have hmemo := memo_of_queue hrun hmem hqueue
  exact ⟨record, ⟨s₁, session, rest, page, hmem, hw, rfl, hrecord⟩, hmatch.backs hmemo.2, rfl⟩

/-- An artifact that pays an order was issued for such a record. -/
lemma paidBy_spec (hrun : Run (step srv) (.init clock) t s) {id : String} {order : Order}
    {artifact : AccessArtifact} (h : PaidBy srv t id order artifact) :
    ∃ record nonce, ReturnedFor t order record ∧ record.Backs order.paymentRequest ∧
      artifact.txHash = (parsePayment record).txHash ∧
      artifact.token = signedTokenToJson (signToken srv.scheme
        (issuedToken (parsePayment record) order.eventId order.expiresAt nonce)
        srv.signingKey) := by
  obtain ⟨-, session, rfl, payment, nonce, hlooked, hissue⟩ := h
  obtain ⟨record, hreturned, hbacks, rfl⟩ := looked_spec hrun hlooked
  obtain ⟨htoken, htxHash⟩ := issueToken_eq_some hissue
  exact ⟨record, nonce, hreturned, hbacks, htxHash, htoken⟩

/-- What is stored in a session pays its order. -/
lemma paidBy_of_holds (hrun : Run (step srv) (.init clock) t s) (hmemos : (memos t).Nodup)
    {id : String} {session : SessionRecord} {artifact : AccessArtifact}
    (hid : s.sessions.lookup id = some session) (hholds : session.Holds artifact) :
    PaidBy srv t id session.order artifact := by
  have hentry := ledger_of_lookup hid
  rw [hholds.receipt] at hentry
  exact Ledger.pays_of_reaches (ledger_of_run hrun hmemos) id _ _ hentry

/-! ### Every pass was paid for -/

lemma carries_issuedToken {record : PaymentRecord} {order : Order}
    (hbacks : record.Backs order.paymentRequest) (nonce : Alphanumeric 16) :
    (issuedToken (parsePayment record) order.eventId order.expiresAt nonce).Carries record
      order where
  txHash_eq := rfl
  source_eq := rfl
  amount_eq := rfl
  asset_eq := rfl
  memo_eq := by
    -- the record has a memo, that of the session
    show some (record.memo.getD "") = record.memo
    rw [hbacks.memo_eq]
    rfl
  ledger_eq := rfl
  eventId_eq := rfl
  expiresAt_eq := rfl

/-- **Every pass was paid for.**  In every run in which no memo is drawn twice, for every
session that has a pass a record was returned that backs it, and the pass is a token,
signed with the server's key, which carries this record together with the event and the
expiry the session was inserted with. -/
theorem pass_authorised (hrun : Run (step srv) (.init clock) t s) (hmemos : (memos t).Nodup)
    {id : String} {session : SessionRecord} {text : String}
    (hid : s.sessions.lookup id = some session) (htext : session.accessToken = some text) :
    Inserted t session.order ∧
      ∃ record, ReturnedFor t session.order record ∧ record.Backs session.paymentRequest ∧
        ∃ token : AccessToken, token.Carries record session.order ∧
          text = signedTokenToJson (signToken srv.scheme token srv.signingKey) := by
  obtain ⟨-, hcons, -, hinserted⟩ := (provenance_of_run hrun).session id session hid
  obtain ⟨artifact, hholds, rfl⟩ := hcons.holds_of_accessToken htext
  have hpaid := paidBy_of_holds hrun hmemos hid hholds
  obtain ⟨record, nonce, hreturned, hbacks, -, htoken⟩ := paidBy_spec hrun hpaid
  exact ⟨hinserted, record, hreturned, hbacks, _, carries_issuedToken hbacks nonce, htoken⟩

/-- The session of the example is paid for at time 400. -/
lemma exists_demo_run : ∃ t s session artifact, Run (step (demoServer 300)) (.init 0) t s ∧
    t.map Prod.snd = demoCreate ++ [demoSnapshot 300 0, .tick 400] ++ demoSettle ∧
    (memos t).Nodup ∧ s.sessions.lookup demoMemo.text = some session ∧
    session.Holds artifact := by
  obtain ⟨t, s, hrun, hactions, hcheck⟩ : ∃ t s, Run (step (demoServer 300)) (.init 0) t s ∧
      t.map Prod.snd = demoCreate ++ [demoSnapshot 300 0, .tick 400] ++ demoSettle ∧
      (decide (memos t).Nodup &&
        (s.sessions.lookup demoMemo.text).any SessionRecord.paid) = true :=
    exists_run_of_check _ (by decide +kernel)
  rw [Bool.and_eq_true, decide_eq_true_iff, Option.any_eq_true] at hcheck
  obtain ⟨hmemos, session, hid, hpaid⟩ := hcheck
  obtain ⟨artifact, hholds⟩ :=
    ((provenance_of_run hrun).session _ session hid).2.1.holds_of_paid hpaid
  exact ⟨t, s, session, artifact, hrun, hactions, hmemos, hid, hholds⟩

theorem pass_authorised_demo :
    ∃ t s session text, Run (step (demoServer 300)) (.init 0) t s ∧
      s.sessions.lookup demoMemo.text = some session ∧ session.accessToken = some text ∧
      Inserted t session.order ∧
      ∃ record, ReturnedFor t session.order record ∧ record.Backs session.paymentRequest ∧
        ∃ token : AccessToken, token.Carries record session.order ∧
          text = signedTokenToJson
            (signToken (demoServer 300).scheme token (demoServer 300).signingKey) := by
  obtain ⟨t, s, session, artifact, hrun, -, hmemos, hid, hholds⟩ := exists_demo_run
  exact ⟨t, s, session, _, hrun, hid, hholds.accessToken,
    pass_authorised hrun hmemos hid hholds.accessToken⟩

/-! ### A payment settles one session -/

/-- What Horizon reports of transactions: each has a hash, and one memo for all its
records. -/
def MemoByHash (t : Trace) (memoOf : String → Option String) : Prop :=
  ∀ s page, (s, .watchLookup (some page)) ∈ t → ∀ record ∈ page,
    record.transactionHash ≠ "" ∧ record.memo = memoOf record.transactionHash

/-- The hash in an artifact tells the session that it was issued for. -/
lemma PaidBy.eq_of_txHash (hrun : Run (step srv) (.init clock) t s)
    {memoOf : String → Option String} (hmemoOf : MemoByHash t memoOf) {id id' : String}
    {order order' : Order} {artifact artifact' : AccessArtifact}
    (h : PaidBy srv t id order artifact) (h' : PaidBy srv t id' order' artifact')
    (heq : artifact.txHash = artifact'.txHash) : id = id' := by
  -- the id is the memo, which the hash determines
  have hid : ∀ {id order artifact}, PaidBy srv t id order artifact →
      memoOf artifact.txHash = some id := by
    intro id order artifact h
    obtain ⟨record, nonce, ⟨s₁, session, rest, page, hmem, hw, rfl, hrecord⟩, hbacks, htxHash, -⟩ :=
      paidBy_spec hrun h
    obtain ⟨hne, hmemo⟩ := hmemoOf s₁ page hmem record hrecord
    have hsession : session.paymentRequest.memo = session.paymentRequest.sessionId :=
      (memo_of_queue hrun hmem (by rw [hw]; simp [Watcher.queue])).1
    calc memoOf artifact.txHash
        = memoOf record.transactionHash := by rw [htxHash, parsePayment, if_neg hne]
      _ = some session.paymentRequest.memo := by rw [← hmemo, hbacks.memo_eq]; rfl
      _ = some id := by rw [hsession]; exact congrArg some h.1
  have hboth := hid h
  rw [heq, hid h', Option.some.injEq] at hboth
  exact hboth.symm

/-- A lookup finds the same without the records that have no memo. -/
lemma findPayment_filter_memo {session : SessionRecord} (hmemo : session.paymentRequest.memo ≠ "")
    (page : List PaymentRecord) :
    findPayment session (page.filter fun record => record.memo.isSome) =
      findPayment session page := by
  rw [findPayment, findPayment, findConfirmedPayment_eq, findConfirmedPayment_eq,
    List.find?_filter]
  congr 2
  funext record
  by_cases hmatch : record.Matches session.paymentRequest.destination
      session.paymentRequest.memo session.paymentRequest.amount session.paymentRequest.asset
  · simp [hmatch, (hmatch.backs hmemo).memo_eq]
  · simp [hmatch]

/-- **A payment settles one session.**  In every run in which no memo is drawn twice and
all the records of a transaction have the same memo, no two sessions hold the same hash;
and no lookup ever finds a record without memo. -/
theorem settles_once (hrun : Run (step srv) (.init clock) t s) (hmemos : (memos t).Nodup)
    {memoOf : String → Option String} (hmemoOf : MemoByHash t memoOf) :
    (∀ id id' session session' txHash, s.sessions.lookup id = some session →
      s.sessions.lookup id' = some session' → session.txHash = some txHash →
      session'.txHash = some txHash → id = id') ∧
    ∀ s₁ session rest page, (s₁, .watchLookup (some page)) ∈ t →
      s₁.watcher = .lookup session rest →
      findPayment session (page.filter fun record => record.memo.isSome) =
        findPayment session page := by
  constructor
  · intro id id' session session' txHash hid hid' htxHash htxHash'
    have hfrom := provenance_of_run hrun
    obtain ⟨artifact, hholds, heq⟩ := (hfrom.session id session hid).2.1.holds_of_txHash htxHash
    obtain ⟨artifact', hholds', heq'⟩ :=
      (hfrom.session id' session' hid').2.1.holds_of_txHash htxHash'
    have hentry := ledger_of_lookup hid
    have hentry' := ledger_of_lookup hid'
    rw [hholds.receipt] at hentry
    rw [hholds'.receipt] at hentry'
    -- the ledger lets no two orders be settled by receipts with the same hash
    have hfeature : ∀ i j o p r q, PaidBy srv t i o r → PaidBy srv t j p q →
        r.txHash = q.txHash → i = j :=
      fun _ _ _ _ _ _ h h' => h.eq_of_txHash hrun hmemoOf h'
    exact Ledger.eq_of_same_feature hfeature (ledger_of_run hrun hmemos) hentry hentry'
      (heq.trans heq'.symm)
  · intro s₁ session rest page hmem hw
    refine findPayment_filter_memo ?_ page
    exact (memo_of_queue hrun hmem (by rw [hw]; simp [Watcher.queue])).2

/-- The records of the step have the memo of their transaction. -/
def Action.memoByHash (memoOf : String → Option String) : Action → Bool
  | .watchLookup (some page) => page.all fun record =>
      decide (record.transactionHash ≠ "" ∧ record.memo = memoOf record.transactionHash)
  | _ => true

lemma memoByHash_of_all {memoOf : String → Option String}
    (h : ∀ e ∈ t, e.2.memoByHash memoOf = true) : MemoByHash t memoOf := by
  intro s page hmem record hrecord
  exact of_decide_eq_true (List.all_eq_true.1 (h _ hmem) record hrecord)

/-- Two sessions are created, and every lookup returns the same page: a payment without memo, a
transaction for the first session with two payments, and one for the second. -/
def demoTwoPaid : List Action :=
  let other := { createPaymentRequest "GDEST" demoBody.toRequest otherMemo with expiresAt := 900 }
  let page := [{ demoRecord with transactionHash := "5b0dc1aa", memo := none },
    { demoRecord with amount := "2.5000000" }, demoRecord,
    { demoRecord with transactionHash := "a90c2e17", memo := some otherMemo.text }]
  demoCreate ++
    [.createRequest 0 demoBody otherMemo, .createClock 0, .createInsert 0, .createRespond 0,
      .watchSnapshot [(⟨demoMemo.text, demoSession 300⟩, 0),
        (⟨otherMemo.text, { demoSession 300 with paymentRequest := other }⟩, 0)],
      .watchLookup (some page), .watchIssue demoNonce, .watchMark,
      .watchLookup (some page), .watchIssue demoNonce, .watchMark]

theorem settles_once_demo :
    ∃ t s first second, Run (step (demoServer 300)) (.init 0) t s ∧
      t.map Prod.snd = demoTwoPaid ∧ s.sessions.lookup demoMemo.text = some first ∧
      s.sessions.lookup otherMemo.text = some second ∧ first.txHash = some "3389e9f0" ∧
      second.txHash = some "a90c2e17" ∧
      (∀ id id' session session' txHash, s.sessions.lookup id = some session →
        s.sessions.lookup id' = some session' → session.txHash = some txHash →
        session'.txHash = some txHash → id = id') ∧
      ∀ s₁ session rest page, (s₁, .watchLookup (some page)) ∈ t →
        s₁.watcher = .lookup session rest →
        findPayment session (page.filter fun record => record.memo.isSome) =
          findPayment session page := by
  let memoOf : String → Option String := fun txHash =>
    if txHash = "3389e9f0" then some demoMemo.text
    else if txHash = "a90c2e17" then some otherMemo.text
    else none
  obtain ⟨t, s, hrun, hactions, hcheck⟩ : ∃ t s, Run (step (demoServer 300)) (.init 0) t s ∧
      t.map Prod.snd = demoTwoPaid ∧
      (decide (memos t).Nodup && (t.all fun e => e.2.memoByHash memoOf) &&
        (s.sessions.lookup demoMemo.text).any (fun r => decide (r.txHash = some "3389e9f0")) &&
        (s.sessions.lookup otherMemo.text).any fun r =>
          decide (r.txHash = some "a90c2e17")) = true :=
    exists_run_of_check _ (by decide +kernel)
  simp only [Bool.and_eq_true, decide_eq_true_iff, List.all_eq_true, Option.any_eq_true] at hcheck
  obtain ⟨⟨⟨hmemos, hmemoOf⟩, first, hfirst, hhash⟩, second, hsecond, hhash'⟩ := hcheck
  exact ⟨t, s, first, second, hrun, hactions, hfirst, hsecond, hhash, hhash',
    settles_once hrun hmemos (memoByHash_of_all hmemoOf)⟩

end Haske
