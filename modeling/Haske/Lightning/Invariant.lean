import Haske.Lightning.Proof

/-!
# What holds between the two maps

A session is in the map of sessions before its payment hash is in the index, so between the
two inserts there is a session that no event finds.  The converse never happens: if the
random ids and the gateway's payment hashes are new whenever they are drawn, then in every
state an entry of the index leads to a session with the hash of the entry (`Tracked`).

Nothing is overwritten in such a run.  A step keeps every session, or settles one that is
pending (`lookup_of_step`), and a session that was not there before is the one that a call
has just inserted (`lookup_of_step_inv`).
-/

namespace Haske.Lightning

open Machine

/-! ### What a step does to the maps and the calls -/

/-- A `create_invoice` that the gateway has been asked for. -/
def Call.creating : Call → Bool
  | .requested _ | .invoiced _ _ | .made _ _ | .inserted _ _ => true
  | _ => false

section

variable (svc : ProofService)

/-- What a step does to the sessions. -/
inductive Writes (s s' : State) : Action → Prop
  | kept {a : Action} (hsame : s'.sessions = s.sessions) : Writes s s' a
  | inserted {i : ℕ} {session : AccessSession} {response : InvoiceResponse}
      (h : s.calls i = .made session response)
      (hinsert : s'.sessions = s.sessions.insert session.invoiceId session) :
      Writes s s' (.insertSession i)
  | settled {i : ℕ} {event : PaymentEvent} {invoiceId : String}
      {session session' : AccessSession} (h : s.calls i = .found event invoiceId)
      (hget : s.sessions.lookup invoiceId = some session) (hstatus : session.status = .pending)
      (hsettle : svc.settle event session = some session')
      (hcall : s'.calls i = .handled event (.ok ()))
      (hinsert : s'.sessions = s.sessions.insert invoiceId session') :
      Writes s s' (.settle i)

/-- How a call gets where it is. -/
inductive Enters (s : State) : Action → ℕ → Call → Prop
  | requested {i : ℕ} {amountOverrideMsat : Option UInt64} {description : Option String}
      {request : InvoiceRequest} (h : s.calls i = .idle) :
      Enters s (.createInvoice i amountOverrideMsat description) i (.requested request)
  | invoiced {i : ℕ} {invoice : LightningInvoice} {request : InvoiceRequest}
      (h : s.calls i = .requested request) :
      Enters s (.gatewayAnswer i (some invoice)) i (.invoiced request.amountMsat invoice)
  | made {i : ℕ} {invoiceId : Alphanumeric 12} {amountMsat : UInt64}
      {invoice : LightningInvoice} {session : AccessSession} {response : InvoiceResponse}
      (h : s.calls i = .invoiced amountMsat invoice)
      (hnew : svc.newSession amountMsat invoice invoiceId.text s.clock =
        some (session, response)) :
      Enters s (.makeSession i invoiceId) i (.made session response)
  | inserted {i : ℕ} {session : AccessSession} {response : InvoiceResponse}
      (h : s.calls i = .made session response) :
      Enters s (.insertSession i) i (.inserted session response)
  | created {i : ℕ} {session : AccessSession} {response : InvoiceResponse}
      (h : s.calls i = .inserted session response) :
      Enters s (.insertIndex i) i (.created (.ok response))
  | refused {a : Action} {i : ℕ} (h : s.calls i = .idle ∨ (∃ request, s.calls i =
      .requested request) ∨ ∃ amountMsat invoice, s.calls i = .invoiced amountMsat invoice) :
      Enters s a i (.created (.error .internal))
  | received {i : ℕ} {event : PaymentEvent} (h : s.calls i = .idle) :
      Enters s (.handlePayment i event) i (.received event)
  | found {i : ℕ} {event : PaymentEvent} {invoiceId : String}
      (h : s.calls i = .received event)
      (hindex : s.paymentIndex.lookup event.paymentHash = some invoiceId) :
      Enters s (.lookupIndex i) i (.found event invoiceId)
  | unknown {i : ℕ} {event : PaymentEvent} (h : s.calls i = .received event)
      (hindex : s.paymentIndex.lookup event.paymentHash = none) :
      Enters s (.lookupIndex i) i (.handled event (.ok ()))
  | handled {i : ℕ} {event : PaymentEvent} {invoiceId : String}
      {result : Except ProofError Unit} (h : s.calls i = .found event invoiceId) :
      Enters s (.settle i) i (.handled event result)
  | checked {i : ℕ} {invoiceId : String} {result : Except ProofError StatusResponse}
      (h : s.calls i = .idle) : Enters s (.checkInvoice i invoiceId) i (.checked result)
  | gone {a : Action} {i : ℕ} (h : (s.calls i).creating = true) : Enters s a i .gone

end

variable {svc : ProofService} {s s' : State} {a : Action}

lemma writes_of_step (h : step svc s a = some s') : Writes svc s s' a := by
  cases effect_of_step h with
  | inserted hcall => exact .inserted hcall rfl
  | settled hcall hget hstatus hsettle =>
      exact .settled hcall hget hstatus hsettle (Function.update_self ..) rfl
  | _ => exact .kept rfl

lemma creating_of_waits {call : Call} (h : call.waits = true) : call.creating = true := by
  cases call <;> first | rfl | exact absurd h (by simp [Call.waits])

lemma index_of_step (h : step svc s a = some s') :
    s'.paymentIndex = s.paymentIndex ∨ ∃ i session response, a = .insertIndex i ∧
      s.calls i = .inserted session response ∧
      s'.paymentIndex = s.paymentIndex.insert session.paymentHash session.invoiceId := by
  cases effect_of_step h with
  | indexed hcall => exact Or.inr ⟨_, _, _, rfl, hcall, rfl⟩
  | _ => exact Or.inl rfl

/-- A step is a step of one call, or of the clock. -/
lemma moves_of_step (h : step svc s a = some s') :
    (a.call = none ∧ s'.calls = s.calls) ∨ ∃ i call, a.call = some i ∧
      s'.calls = Function.update s.calls i call ∧ Enters svc s a i call := by
  have heffect := effect_of_step h
  clear h
  cases heffect with
  | tick _ => exact Or.inl ⟨rfl, rfl⟩
  | requested h _ => exact Or.inr ⟨_, _, rfl, rfl, .requested h⟩
  | refused h _ => exact Or.inr ⟨_, _, rfl, rfl, .refused (Or.inl h)⟩
  | invoiced h => exact Or.inr ⟨_, _, rfl, rfl, .invoiced h⟩
  | gatewayFailed h => exact Or.inr ⟨_, _, rfl, rfl, .refused (Or.inr (Or.inl ⟨_, h⟩))⟩
  | made h _ hnew => exact Or.inr ⟨_, _, rfl, rfl, .made h hnew⟩
  | makeFailed h _ _ => exact Or.inr ⟨_, _, rfl, rfl, .refused (Or.inr (Or.inr ⟨_, _, h⟩))⟩
  | panicked h _ => exact Or.inr ⟨_, _, rfl, rfl, .gone (by rw [h]; rfl)⟩
  | inserted h => exact Or.inr ⟨_, _, rfl, rfl, .inserted h⟩
  | indexed h => exact Or.inr ⟨_, _, rfl, rfl, .created h⟩
  | dropped h => exact Or.inr ⟨_, _, rfl, rfl, .gone (creating_of_waits h)⟩
  | received h => exact Or.inr ⟨_, _, rfl, rfl, .received h⟩
  | found h hindex => exact Or.inr ⟨_, _, rfl, rfl, .found h hindex⟩
  | unknown h hindex => exact Or.inr ⟨_, _, rfl, rfl, .unknown h hindex⟩
  | missing h _ => exact Or.inr ⟨_, _, rfl, rfl, .handled h⟩
  | duplicate h _ _ => exact Or.inr ⟨_, _, rfl, rfl, .handled h⟩
  | failed h _ _ _ => exact Or.inr ⟨_, _, rfl, rfl, .handled h⟩
  | settled h _ _ _ => exact Or.inr ⟨_, _, rfl, rfl, .handled h⟩
  | checked h => exact Or.inr ⟨_, _, rfl, rfl, .checked h⟩

/-- A call is where it was, or where the step has taken it. -/
lemma call_of_step (h : step svc s a = some s') (j : ℕ) :
    (a.call ≠ some j ∧ s'.calls j = s.calls j) ∨
      a.call = some j ∧ Enters svc s a j (s'.calls j) := by
  rcases moves_of_step h with ⟨hnone, hsame⟩ | ⟨i, call, hi, hcalls, henters⟩
  · exact Or.inl ⟨by simp [hnone], by rw [hsame]⟩
  · by_cases hij : j = i
    · subst hij
      rw [hcalls, Function.update_self]
      exact Or.inr ⟨hi, henters⟩
    · rw [hcalls, Function.update_of_ne hij, hi]
      exact Or.inl ⟨fun h => hij (Option.some.inj h).symm, rfl⟩

/-! ### Sessions -/

/-- A session has a pass exactly when it is settled, and it is the one for its hash and its
expiry. -/
structure AccessSession.Sealed (svc : ProofService) (session : AccessSession) : Prop where
  token : session.accessToken.isSome ↔ session.status = .settled
  png : session.accessQrPng.isSome ↔ session.status = .settled
  ascii : session.accessQrAscii.isSome ↔ session.status = .settled
  token_eq : ∀ token, session.accessToken = some token →
    token = svc.token session.paymentHash session.expiresAt

lemma newSession_eq_some {amountMsat now : UInt64} {invoice : LightningInvoice}
    {invoiceId : String} {session : AccessSession} {response : InvoiceResponse}
    (h : svc.newSession amountMsat invoice invoiceId now = some (session, response)) :
    session.invoiceId = invoiceId ∧ session.paymentHash = invoice.paymentHash ∧
      session.status = .pending ∧ session.Sealed svc := by
  simp only [ProofService.newSession, Option.bind_eq_bind, Option.bind_eq_some_iff,
    Option.some.injEq, Prod.mk.injEq] at h
  obtain ⟨-, -, -, -, rfl, -⟩ := h
  exact ⟨rfl, rfl, rfl, by simp, by simp, by simp, by simp⟩

lemma settle_eq_some {event : PaymentEvent} {session session' : AccessSession}
    (h : svc.settle event session = some session') :
    session'.invoiceId = session.invoiceId ∧ session'.paymentHash = session.paymentHash ∧
      session'.status = .settled ∧
      (session.paymentHash = event.paymentHash → session'.Sealed svc) := by
  simp only [ProofService.settle, Option.bind_eq_bind, Option.bind_eq_some_iff,
    Option.some.injEq] at h
  obtain ⟨-, -, -, -, rfl⟩ := h
  refine ⟨rfl, rfl, rfl, fun hhash => ⟨by simp, by simp, by simp, ?_⟩⟩
  intro token htoken
  obtain rfl := Option.some.inj htoken
  show svc.token event.paymentHash _ = svc.token session.paymentHash _
  rw [hhash]

/-- A session that is there after a step was there before it, and was kept or settled, or a
call has just inserted it. -/
lemma lookup_of_step_inv (h : step svc s a = some s') {id : String} {session' : AccessSession}
    (hid : s'.sessions.lookup id = some session') :
    (∃ session, s.sessions.lookup id = some session ∧ (session' = session ∨
      ∃ i event, a = .settle i ∧ s.calls i = .found event id ∧
        svc.settle event session = some session' ∧ s'.calls i = .handled event (.ok ()))) ∨
    ∃ i response, a = .insertSession i ∧ s.calls i = .made session' response ∧
      session'.invoiceId = id := by
  cases writes_of_step h with
  | kept hsame => exact Or.inl ⟨session', hsame ▸ hid, Or.inl rfl⟩
  | @inserted i session response hcall hinsert =>
      rw [hinsert] at hid
      by_cases hkey : id = session.invoiceId
      · subst hkey
        obtain rfl : session = session' := Option.some.inj ((Finmap.lookup_insert _).symm.trans hid)
        exact Or.inr ⟨i, response, rfl, hcall, rfl⟩
      · rw [Finmap.lookup_insert_of_ne _ hkey] at hid
        exact Or.inl ⟨session', hid, Or.inl rfl⟩
  | @settled i event invoiceId session settled hcall hget hstatus hsettle hhandled hinsert =>
      rw [hinsert] at hid
      by_cases hkey : id = invoiceId
      · subst hkey
        obtain rfl : settled = session' := Option.some.inj ((Finmap.lookup_insert _).symm.trans hid)
        exact Or.inl ⟨session, hget, Or.inr ⟨i, event, rfl, hcall, hsettle, hhandled⟩⟩
      · rw [Finmap.lookup_insert_of_ne _ hkey] at hid
        exact Or.inl ⟨session', hid, Or.inl rfl⟩

/-! ### The invariant -/

/-- The invoice ids drawn in the run. -/
def ids (t : Trace) : List String :=
  t.filterMap fun e =>
    match e.2 with
    | .makeSession _ invoiceId => some invoiceId.text
    | _ => none

/-- The payment hashes of the invoices that the gateway has given in the run. -/
def hashes (t : Trace) : List String :=
  t.filterMap fun e =>
    match e.2 with
    | .gatewayAnswer _ (some invoice) => some invoice.paymentHash
    | _ => none

/-- The payment hash that a call has been given and has not inserted a session for. -/
def Call.opening : Call → Option String
  | .invoiced _ invoice => some invoice.paymentHash
  | .made session _ => some session.paymentHash
  | _ => none

/-- The session with this id is in the map and has this hash. -/
def State.Holds (s : State) (hash id : String) : Prop :=
  ∃ session, s.sessions.lookup id = some session ∧ session.paymentHash = hash

structure Tracked (svc : ProofService) (t : Trace) (s : State) : Prop where
  session : ∀ id session, s.sessions.lookup id = some session →
    session.invoiceId = id ∧ id ∈ ids t ∧ session.paymentHash ∈ hashes t ∧ session.Sealed svc
  session_inj : ∀ hash id id', s.Holds hash id → s.Holds hash id' → id = id'
  index : ∀ hash id, s.paymentIndex.lookup hash = some id → s.Holds hash id
  opening : ∀ i hash, (s.calls i).opening = some hash → hash ∈ hashes t ∧ ∀ id, ¬ s.Holds hash id
  opening_inj : ∀ i j hash, (s.calls i).opening = some hash → (s.calls j).opening = some hash →
    i = j
  made : ∀ i session response, s.calls i = .made session response →
    session.invoiceId ∈ ids t ∧ s.sessions.lookup session.invoiceId = none ∧
      session.status = .pending ∧ session.Sealed svc
  made_inj : ∀ i j session response session' response', s.calls i = .made session response →
    s.calls j = .made session' response' → session.invoiceId = session'.invoiceId → i = j
  inserted : ∀ i session response, s.calls i = .inserted session response →
    s.Holds session.paymentHash session.invoiceId
  found : ∀ i event id, s.calls i = .found event id → s.Holds event.paymentHash id

/-- The id or the hash that is drawn in the step, if any, was not drawn before. -/
structure DrawsNew (t : Trace) (a : Action) : Prop where
  id : ∀ i invoiceId, a = .makeSession i invoiceId → invoiceId.text ∉ ids t
  hash : ∀ i invoice, a = .gatewayAnswer i (some invoice) → invoice.paymentHash ∉ hashes t

variable {t : Trace}

/-! ### One step -/

/-- A step keeps a session or settles it. -/
lemma Tracked.lookup_of_step (h : Tracked svc t s) (hstep : step svc s a = some s') {id : String}
    {session : AccessSession} (hid : s.sessions.lookup id = some session) :
    ∃ session', s'.sessions.lookup id = some session' ∧
      session'.paymentHash = session.paymentHash ∧
      (session.status = .settled → session' = session) := by
  cases writes_of_step hstep with
  | kept hsame => exact ⟨session, hsame ▸ hid, rfl, fun _ => rfl⟩
  | @inserted i made response hcall hinsert =>
      -- an insertion does not replace an entry, since its id is new
      have hne : id ≠ made.invoiceId := by
        rintro rfl
        rw [(h.made i made response hcall).2.1] at hid
        exact absurd hid (by simp)
      refine ⟨session, ?_, rfl, fun _ => rfl⟩
      rw [hinsert, Finmap.lookup_insert_of_ne _ hne]
      exact hid
  | @settled i event invoiceId pending settled hcall hget hstatus hsettle _ hinsert =>
      by_cases hkey : id = invoiceId
      · subst hkey
        obtain rfl : pending = session := Option.some.inj (hget.symm.trans hid)
        refine ⟨settled, by rw [hinsert, Finmap.lookup_insert], (settle_eq_some hsettle).2.1, ?_⟩
        rw [hstatus]
        exact fun h => absurd h (by simp)
      · refine ⟨session, ?_, rfl, fun _ => rfl⟩
        rw [hinsert, Finmap.lookup_insert_of_ne _ hkey]
        exact hid

lemma Tracked.holds_of_step (h : Tracked svc t s) (hstep : step svc s a = some s')
    {hash id : String} (hid : s.Holds hash id) : s'.Holds hash id := by
  obtain ⟨session, hid, rfl⟩ := hid
  obtain ⟨session', hid', hhash, -⟩ := h.lookup_of_step hstep hid
  exact ⟨session', hid', hhash⟩

lemma holds_of_step_inv (hstep : step svc s a = some s') {hash id : String}
    (hid : s'.Holds hash id) :
    s.Holds hash id ∨ ∃ i session response, a = .insertSession i ∧
      s.calls i = .made session response ∧ session.paymentHash = hash ∧
      session.invoiceId = id := by
  obtain ⟨session', hid, rfl⟩ := hid
  rcases lookup_of_step_inv hstep hid with ⟨session, hold, hsame⟩ | ⟨i, response, ha, hi, hkey⟩
  · refine Or.inl ⟨session, hold, ?_⟩
    rcases hsame with rfl | ⟨_, _, _, _, hsettle, _⟩
    · rfl
    · exact (settle_eq_some hsettle).2.1.symm
  · exact Or.inr ⟨i, session', response, ha, hi, rfl, hkey⟩

/-- A call has an opening hash from the gateway until it inserts its session. -/
lemma opening_of_step (hstep : step svc s a = some s') {j : ℕ} {hash : String}
    (hj : (s'.calls j).opening = some hash) :
    (a ≠ .insertSession j ∧ (s.calls j).opening = some hash) ∨
      ∃ invoice, a = .gatewayAnswer j (some invoice) ∧ invoice.paymentHash = hash := by
  rcases call_of_step hstep j with ⟨hne, hsame⟩ | ⟨-, henters⟩
  · exact Or.inl ⟨fun ha => hne (by rw [ha]; rfl), hsame ▸ hj⟩
  · generalize s'.calls j = call at henters hj
    cases henters with
    | @invoiced _ invoice _ h => exact Or.inr ⟨invoice, rfl, Option.some.inj hj⟩
    | made h hnew =>
        refine Or.inl ⟨by simp, ?_⟩
        rw [h, Call.opening, ← (newSession_eq_some hnew).2.1]
        exact hj
    | _ => exact absurd hj (by simp [Call.opening])

lemma made_of_step (hstep : step svc s a = some s') {j : ℕ} {session : AccessSession}
    {response : InvoiceResponse} (hj : s'.calls j = .made session response) :
    (a ≠ .insertSession j ∧ s.calls j = .made session response) ∨
      ∃ invoiceId, a = .makeSession j invoiceId ∧ session.invoiceId = invoiceId.text ∧
        session.status = .pending ∧ session.Sealed svc := by
  rcases call_of_step hstep j with ⟨hne, hsame⟩ | ⟨-, henters⟩
  · exact Or.inl ⟨fun ha => hne (by rw [ha]; rfl), hsame ▸ hj⟩
  · rw [hj] at henters
    cases henters with
    | @made _ invoiceId _ _ _ _ h hnew =>
        obtain ⟨hid, -, hstatus, hsealed⟩ := newSession_eq_some hnew
        exact Or.inr ⟨invoiceId, rfl, hid, hstatus, hsealed⟩

lemma ids_append (t t' : Trace) : ids (t ++ t') = ids t ++ ids t' := List.filterMap_append

lemma hashes_append (t t' : Trace) : hashes (t ++ t') = hashes t ++ hashes t' :=
  List.filterMap_append

/-- The session that a call is about to insert is the only one with its hash. -/
lemma Tracked.not_holds_of_made (h : Tracked svc t s) {i : ℕ} {session : AccessSession}
    {response : InvoiceResponse} (hi : s.calls i = .made session response) (id : String) :
    ¬ s.Holds session.paymentHash id :=
  (h.opening i session.paymentHash (by rw [hi]; rfl)).2 id

lemma Tracked.session_step (h : Tracked svc t s) (hstep : step svc s a = some s') {id : String}
    {session' : AccessSession} (hid : s'.sessions.lookup id = some session') :
    session'.invoiceId = id ∧ id ∈ ids t ∧ session'.paymentHash ∈ hashes t ∧
      session'.Sealed svc := by
  rcases lookup_of_step_inv hstep hid with ⟨session, hold, hsame⟩ | ⟨i, response, -, hi, hkey⟩
  · obtain ⟨hkey, hids, hhashes, hsealed⟩ := h.session id session hold
    rcases hsame with rfl | ⟨i, event, -, hi, hsettle, -⟩
    · exact ⟨hkey, hids, hhashes, hsealed⟩
    · -- the index has led the call to the session with the hash of its event
      obtain ⟨live, hlive, hhash⟩ := h.found i event id hi
      obtain rfl : live = session := Option.some.inj (hlive.symm.trans hold)
      obtain ⟨hkey', hhash', -, hsealed'⟩ := settle_eq_some hsettle
      exact ⟨hkey'.trans hkey, hids, hhash' ▸ hhashes, hsealed' hhash⟩
  · obtain ⟨hids, -, -, hsealed⟩ := h.made i session' response hi
    exact ⟨hkey, hkey ▸ hids, (h.opening i session'.paymentHash (by rw [hi]; rfl)).1, hsealed⟩

lemma Tracked.session_inj_step (h : Tracked svc t s) (hstep : step svc s a = some s')
    {hash id id' : String} (hid : s'.Holds hash id) (hid' : s'.Holds hash id') : id = id' := by
  rcases holds_of_step_inv hstep hid with hid | ⟨i, session, response, rfl, hi, rfl, rfl⟩
  · rcases holds_of_step_inv hstep hid' with hid' | ⟨i, session, response, rfl, hi, rfl, rfl⟩
    · exact h.session_inj hash id id' hid hid'
    · exact absurd hid (h.not_holds_of_made hi id)
  · rcases holds_of_step_inv hstep hid' with hid' | ⟨i', session', response', ha, hi', -, rfl⟩
    · exact absurd hid' (h.not_holds_of_made hi id')
    · obtain rfl := Action.insertSession.inj ha
      rw [hi] at hi'
      rw [(Call.made.inj hi').1]

lemma Tracked.index_step (h : Tracked svc t s) (hstep : step svc s a = some s')
    {hash id : String} (hid : s'.paymentIndex.lookup hash = some id) : s'.Holds hash id := by
  rcases index_of_step hstep with hsame | ⟨i, session, response, -, hi, hinsert⟩
  · exact h.holds_of_step hstep (h.index hash id (hsame ▸ hid))
  · rw [hinsert] at hid
    by_cases hkey : hash = session.paymentHash
    · subst hkey
      rw [Finmap.lookup_insert, Option.some.injEq] at hid
      exact h.holds_of_step hstep (hid ▸ h.inserted i session response hi)
    · rw [Finmap.lookup_insert_of_ne _ hkey] at hid
      exact h.holds_of_step hstep (h.index hash id hid)

lemma Tracked.opening_step (h : Tracked svc t s) (hnew : DrawsNew t a)
    (hstep : step svc s a = some s') {j : ℕ} {hash : String}
    (hj : (s'.calls j).opening = some hash) (id : String) : ¬ s'.Holds hash id := by
  intro hid
  rcases opening_of_step hstep hj with ⟨hne, hj⟩ | ⟨invoice, rfl, rfl⟩
  · rcases holds_of_step_inv hstep hid with hid | ⟨i, session, response, rfl, hi, rfl, -⟩
    · exact (h.opening j hash hj).2 id hid
    · -- the session with this hash is inserted by the call itself
      have hij : i = j := h.opening_inj i j session.paymentHash (by rw [hi]; rfl) hj
      exact hne (by rw [hij])
  · -- the gateway has given no other call this hash
    rcases holds_of_step_inv hstep hid with ⟨session, hid, hhash⟩ | ⟨i, -, -, ha, -⟩
    · exact hnew.hash j invoice rfl (hhash ▸ (h.session id session hid).2.2.1)
    · exact absurd ha (by simp)

lemma Tracked.opening_inj_step (h : Tracked svc t s) (hnew : DrawsNew t a)
    (hstep : step svc s a = some s') {i j : ℕ} {hash : String}
    (hi : (s'.calls i).opening = some hash) (hj : (s'.calls j).opening = some hash) : i = j := by
  rcases opening_of_step hstep hi with ⟨-, hi⟩ | ⟨invoice, rfl, rfl⟩
  · rcases opening_of_step hstep hj with ⟨-, hj⟩ | ⟨invoice, rfl, rfl⟩
    · exact h.opening_inj i j hash hi hj
    · exact absurd (h.opening i _ hi).1 (hnew.hash j invoice rfl)
  · rcases opening_of_step hstep hj with ⟨-, hj⟩ | ⟨invoice', ha, -⟩
    · exact absurd (h.opening j _ hj).1 (hnew.hash i invoice rfl)
    · exact (Action.gatewayAnswer.inj ha).1

lemma Tracked.made_step (h : Tracked svc t s) (hnew : DrawsNew t a)
    (hstep : step svc s a = some s') {j : ℕ} {session : AccessSession}
    {response : InvoiceResponse} (hj : s'.calls j = .made session response) :
    s'.sessions.lookup session.invoiceId = none := by
  cases hid : s'.sessions.lookup session.invoiceId with
  | none => rfl
  | some session' =>
      exfalso
      have hinv := lookup_of_step_inv hstep hid
      rcases made_of_step hstep hj with ⟨hne, hj⟩ | ⟨invoiceId, rfl, hdrawn, -⟩
      · rcases hinv with ⟨old, hold, -⟩ | ⟨i, response', rfl, hi, hkey⟩
        · rw [(h.made j session response hj).2.1] at hold
          exact absurd hold (by simp)
        · exact hne (by rw [h.made_inj i j _ _ _ _ hi hj hkey])
      · rcases hinv with ⟨old, hold, -⟩ | ⟨i, response', ha, -⟩
        · exact hnew.id j invoiceId rfl (hdrawn ▸ (h.session _ old hold).2.1)
        · exact absurd ha (by simp)

lemma Tracked.made_inj_step (h : Tracked svc t s) (hnew : DrawsNew t a)
    (hstep : step svc s a = some s') {i j : ℕ} {session session' : AccessSession}
    {response response' : InvoiceResponse} (hi : s'.calls i = .made session response)
    (hj : s'.calls j = .made session' response')
    (hkey : session.invoiceId = session'.invoiceId) : i = j := by
  rcases made_of_step hstep hi with ⟨-, hi⟩ | ⟨invoiceId, rfl, hdrawn, -⟩
  · rcases made_of_step hstep hj with ⟨-, hj⟩ | ⟨invoiceId, rfl, hdrawn, -⟩
    · exact h.made_inj i j _ _ _ _ hi hj hkey
    · refine absurd (h.made i session response hi).1 ?_
      rw [hkey, hdrawn]
      exact hnew.id j invoiceId rfl
  · rcases made_of_step hstep hj with ⟨-, hj⟩ | ⟨invoiceId', ha, -⟩
    · refine absurd (h.made j session' response' hj).1 ?_
      rw [← hkey, hdrawn]
      exact hnew.id i invoiceId rfl
    · exact (Action.makeSession.inj ha).1

lemma Tracked.inserted_step (h : Tracked svc t s) (hstep : step svc s a = some s') {j : ℕ}
    {session : AccessSession} {response : InvoiceResponse}
    (hj : s'.calls j = .inserted session response) :
    s'.Holds session.paymentHash session.invoiceId := by
  rcases call_of_step hstep j with ⟨-, hsame⟩ | ⟨-, henters⟩
  · exact h.holds_of_step hstep (h.inserted j session response (hsame ▸ hj))
  · rw [hj] at henters
    cases henters with
    | inserted hmade =>
        rw [step, hmade, Option.some.injEq] at hstep
        subst hstep
        exact ⟨session, Finmap.lookup_insert _, rfl⟩

lemma Tracked.found_step (h : Tracked svc t s) (hstep : step svc s a = some s') {j : ℕ}
    {event : PaymentEvent} {id : String} (hj : s'.calls j = .found event id) :
    s'.Holds event.paymentHash id := by
  rcases call_of_step hstep j with ⟨-, hsame⟩ | ⟨-, henters⟩
  · exact h.holds_of_step hstep (h.found j event id (hsame ▸ hj))
  · rw [hj] at henters
    cases henters with
    | found _ hindex => exact h.holds_of_step hstep (h.index event.paymentHash id hindex)

theorem Tracked.step (h : Tracked svc t s) (hnew : DrawsNew t a)
    (hstep : Lightning.step svc s a = some s') : Tracked svc (t ++ [(s, a)]) s' where
  session id session hid := by
    obtain ⟨hkey, hids, hhashes, hsealed⟩ := h.session_step hstep hid
    rw [ids_append, hashes_append]
    exact ⟨hkey, List.mem_append_left _ hids, List.mem_append_left _ hhashes, hsealed⟩
  session_inj _ _ _ hid hid' := h.session_inj_step hstep hid hid'
  index _ _ hid := h.index_step hstep hid
  opening j hash hj := by
    refine ⟨?_, h.opening_step hnew hstep hj⟩
    rw [hashes_append, List.mem_append]
    rcases opening_of_step hstep hj with ⟨-, hj⟩ | ⟨invoice, rfl, rfl⟩
    · exact Or.inl (h.opening j hash hj).1
    · exact Or.inr (by simp [hashes])
  opening_inj _ _ _ hi hj := h.opening_inj_step hnew hstep hi hj
  made j session response hj := by
    have hnone := h.made_step hnew hstep hj
    rw [ids_append, List.mem_append]
    rcases made_of_step hstep hj with ⟨-, hj⟩ | ⟨invoiceId, rfl, hdrawn, hstatus, hsealed⟩
    · obtain ⟨hids, -, hrest⟩ := h.made j session response hj
      exact ⟨Or.inl hids, hnone, hrest⟩
    · exact ⟨Or.inr (by simp [ids, hdrawn]), hnone, hstatus, hsealed⟩
  made_inj _ _ _ _ _ _ hi hj hkey := h.made_inj_step hnew hstep hi hj hkey
  inserted _ _ _ hj := h.inserted_step hstep hj
  found _ _ _ hj := h.found_step hstep hj

/-! ### Runs -/

lemma tracked_init (clock : UInt64) : Tracked svc [] (.init clock) where
  session id session hid := absurd hid (by simp [State.init])
  session_inj := by
    rintro hash id id' ⟨session, hid, -⟩
    exact absurd hid (by simp [State.init])
  index hash id hid := absurd hid (by simp [State.init])
  opening i hash hi := absurd hi (by simp [State.init, Call.opening])
  opening_inj i j hash hi := absurd hi (by simp [State.init, Call.opening])
  made i session response hi := absurd hi (by simp [State.init])
  made_inj i j session response session' response' hi := absurd hi (by simp [State.init])
  inserted i session response hi := absurd hi (by simp [State.init])
  found i event id hi := absurd hi (by simp [State.init])

/-- No id and no hash is drawn twice in the run. -/
structure DrawnOnce (t : Trace) : Prop where
  ids : (ids t).Nodup
  hashes : (hashes t).Nodup

lemma DrawnOnce.left {t' : Trace} (h : DrawnOnce (t ++ t')) : DrawnOnce t where
  ids := by
    have h := h.ids
    rw [ids_append] at h
    exact (List.nodup_append.1 h).1
  hashes := by
    have h := h.hashes
    rw [hashes_append] at h
    exact (List.nodup_append.1 h).1

lemma DrawnOnce.drawsNew (h : DrawnOnce (t ++ [(s, a)])) : DrawsNew t a where
  id i invoiceId ha hmem := by
    have h := h.ids
    rw [ids_append] at h
    exact (List.nodup_append.1 h).2.2 _ hmem invoiceId.text (by simp [Lightning.ids, ha]) rfl
  hash i invoice ha hmem := by
    have h := h.hashes
    rw [hashes_append] at h
    exact (List.nodup_append.1 h).2.2 _ hmem invoice.paymentHash
      (by simp [Lightning.hashes, ha]) rfl

/-- **The maps agree.**  If no id and no hash is drawn twice in a run, its end is
`Tracked`. -/
theorem tracked_of_run {clock : UInt64} (hrun : Run (step svc) (.init clock) t s)
    (honce : DrawnOnce t) : Tracked svc t s := by
  refine Run.invariant (P := fun t s => DrawnOnce t → Tracked svc t s) hrun
    (fun _ => tracked_init clock) ?_ honce
  intro t s a s' _ ih hstep honce
  exact (ih honce.left).step honce.drawsNew hstep

end Haske.Lightning
