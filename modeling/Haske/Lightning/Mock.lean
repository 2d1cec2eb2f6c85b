import Haske.Lightning.Contract
import Haske.Verifier.Verdict

/-!
# The mock backend

The mock serves the invoice API without a Lightning node.  An invoice settles by itself a few
seconds after it was created: whether it is settled is worked out from the clock whenever a
report is asked for, and its pass, a random string, is drawn with the first report that finds
it settled.

A handler that creates an invoice reads the clock and draws before it waits for the lock of
the store, and a report is made under that lock.  The order of the handlers and what is drawn
are the environment's choice, and so is the clock: it is the system's, and can be set back.

The mock always keeps the lenient contract, and the strict one as long as the clock is not set
back.
-/

namespace Haske.Lightning.Mock

open Machine Signing

def defaultAmountMsat : UInt64 := 250000

def settleAfterSecs : UInt64 := 6

def expirySecs : UInt64 := 15 * 60

structure Session where
  invoiceId : String
  invoice : String
  amountMsat : UInt64
  createdAt : UInt64
  expiresAt : UInt64
  accessToken : Option String

abbrev Store := Finmap fun _ : String => Session

/-- `random_id`, of what was drawn. -/
def randomId {n : ℕ} (drawn : Alphanumeric n) : String := drawn.text.toLower

def newSession (invoiceId : Alphanumeric 12) (suffix : Alphanumeric 18) (now : UInt64) :
    Session where
  invoiceId := randomId invoiceId
  invoice := "lnbc" ++ toString defaultAmountMsat.toNat ++ randomId suffix
  amountMsat := defaultAmountMsat
  createdAt := now
  expiresAt := now + expirySecs
  accessToken := none

/-- What `create_invoice` answers. -/
def Session.toInvoiceResponse (session : Session) : InvoiceResponse where
  invoiceId := session.invoiceId
  amountMsat := defaultAmountMsat
  invoice := session.invoice
  invoiceQrPng := ""
  invoiceQrAscii := ""
  expiresAt := session.expiresAt

def saturatingSub (a b : UInt64) : UInt64 := if b ≤ a then a - b else 0

def Session.settled (session : Session) (now : UInt64) : Bool :=
  settleAfterSecs ≤ saturatingSub now session.createdAt

/-- A session that is found settled gets its pass, unless it has one. -/
def Session.grant (session : Session) (now : UInt64) (token : Alphanumeric 24) : Session :=
  if session.settled now ∧ session.accessToken = none then
    { session with accessToken := some ("access_" ++ randomId token) }
  else session

def Session.toStatusResponse (session : Session) (now : UInt64) : StatusResponse where
  status := if session.settled now then "settled" else "pending"
  expiresAt := session.expiresAt
  accessToken := session.accessToken
  accessQrPng := none
  accessQrAscii := none

/-- The body of the two handlers that report, on the store: what they make of it, and the
answer. -/
def readStatus (store : Store) (invoiceId : String) (now : UInt64) (token : Alphanumeric 24) :
    Except StatusCode (Store × StatusResponse) :=
  match store.lookup invoiceId with
  | none => .error .notFound
  | some session =>
      let session := session.grant now token
      .ok (store.insert invoiceId session, session.toStatusResponse now)

def checkInvoice : Store → String → UInt64 → Alphanumeric 24 →
    Except StatusCode (Store × StatusResponse) := readStatus

def getAccessToken : Store → String → UInt64 → Alphanumeric 24 →
    Except StatusCode (Store × StatusResponse) := readStatus

/-! ### The machine -/

structure State where
  clock : UInt64
  store : Store
  /-- The session that a handler is about to insert. -/
  handlers : ℕ → Option Session

inductive Action where
  /-- The clock shows another time. -/
  | setClock (now : UInt64)
  | makeSession (i : ℕ) (invoiceId : Alphanumeric 12) (suffix : Alphanumeric 18)
  | insertSession (i : ℕ)
  | checkInvoice (invoiceId : String) (token : Alphanumeric 24)
  | getAccessToken (invoiceId : String) (token : Alphanumeric 24)

abbrev Trace := List (State × Action)

def State.init (clock : UInt64) : State where
  clock := clock
  store := ∅
  handlers := fun _ => none

/-- The store as a report leaves it. -/
def State.after (s : State) : Except StatusCode (Store × StatusResponse) → State
  | .error _ => s
  | .ok (store, _) => { s with store := store }

def step (overflowChecks : Bool) (s : State) : Action → Option State
  | .setClock now => some { s with clock := now }
  | .makeSession i invoiceId suffix =>
      match s.handlers i with
      | some _ => none
      | none =>
          -- the sum of the clock and the expiry panics in a build with overflow checks
          if overflowChecks ∧ Overflows s.clock expirySecs then some s
          else
            some { s with
              handlers :=
                Function.update s.handlers i (some (newSession invoiceId suffix s.clock)) }
  | .insertSession i =>
      (s.handlers i).map fun session =>
        { s with
          store := s.store.insert session.invoiceId session
          handlers := Function.update s.handlers i none }
  | .checkInvoice invoiceId token => some (s.after (checkInvoice s.store invoiceId s.clock token))
  | .getAccessToken invoiceId token =>
      some (s.after (getAccessToken s.store invoiceId s.clock token))

/-- The answer that a step gives to a client. -/
def State.answer (s : State) : Action → Option Answer
  | .insertSession i => (s.handlers i).map fun session => .created session.toInvoiceResponse
  | .checkInvoice invoiceId token =>
      some (.reported invoiceId ((checkInvoice s.store invoiceId s.clock token).map Prod.snd))
  | .getAccessToken invoiceId token =>
      some (.reported invoiceId ((getAccessToken s.store invoiceId s.clock token).map Prod.snd))
  | _ => none

/-- The answers that the mock gives to its clients in the run. -/
def answers (t : Trace) : List Answer := t.filterMap fun e => e.1.answer e.2

/-- What the mock would report, up to a pass that is not drawn yet. -/
def State.reports (s : State) : Reports := fun id =>
  (s.store.lookup id).map fun session => session.toStatusResponse s.clock

/-! ### What a step does -/

/-- The report that a step makes, and the pass that is drawn for it. -/
def Action.reads : Action → Option (String × Alphanumeric 24)
  | .checkInvoice invoiceId token => some (invoiceId, token)
  | .getAccessToken invoiceId token => some (invoiceId, token)
  | _ => none

/-- The steps of the machine. -/
inductive Effect (s : State) : Action → State → Prop
  | setClock {now : UInt64} : Effect s (.setClock now) { s with clock := now }
  | panicked {i : ℕ} {invoiceId : Alphanumeric 12} {suffix : Alphanumeric 18} :
      Effect s (.makeSession i invoiceId suffix) s
  | made {i : ℕ} {invoiceId : Alphanumeric 12} {suffix : Alphanumeric 18} :
      Effect s (.makeSession i invoiceId suffix) { s with
        handlers := Function.update s.handlers i (some (newSession invoiceId suffix s.clock)) }
  | inserted {i : ℕ} {session : Session} (h : s.handlers i = some session) :
      Effect s (.insertSession i) { s with
        store := s.store.insert session.invoiceId session
        handlers := Function.update s.handlers i none }
  | unknown {a : Action} {id : String} {token : Alphanumeric 24} (ha : a.reads = some (id, token))
      (h : s.store.lookup id = none) : Effect s a s
  | reported {a : Action} {id : String} {token : Alphanumeric 24} {session : Session}
      (ha : a.reads = some (id, token)) (h : s.store.lookup id = some session) :
      Effect s a { s with store := s.store.insert id (session.grant s.clock token) }

variable {overflowChecks : Bool} {clock : UInt64} {t : Trace} {s s' : State} {a : Action}

lemma effect_of_reads {id : String} {token : Alphanumeric 24} (ha : a.reads = some (id, token)) :
    Effect s a (s.after (readStatus s.store id s.clock token)) := by
  rw [readStatus]
  cases hid : s.store.lookup id with
  | none => exact .unknown ha hid
  | some session => exact .reported ha hid

lemma effect_of_step (h : step overflowChecks s a = some s') : Effect s a s' := by
  cases a with
  | setClock now =>
      obtain rfl := Option.some.inj h
      exact .setClock
  | makeSession i invoiceId suffix =>
      rw [step] at h
      cases hi : s.handlers i with
      | some session =>
          rw [hi] at h
          cases h
      | none =>
          rw [hi] at h
          dsimp only at h
          split at h
          · obtain rfl := Option.some.inj h
            exact .panicked
          · obtain rfl := Option.some.inj h
            exact .made
  | insertSession i =>
      obtain ⟨session, hi, rfl⟩ := Option.map_eq_some_iff.1 h
      exact .inserted hi
  | checkInvoice id token =>
      obtain rfl := Option.some.inj h
      exact effect_of_reads rfl
  | getAccessToken id token =>
      obtain rfl := Option.some.inj h
      exact effect_of_reads rfl

lemma answer_of_reads {id : String} {token : Alphanumeric 24} (ha : a.reads = some (id, token)) :
    s.answer a = some (.reported id ((readStatus s.store id s.clock token).map Prod.snd)) := by
  cases a with
  | checkInvoice id' token' =>
      obtain ⟨rfl, rfl⟩ := Prod.mk.inj (Option.some.inj ha)
      rfl
  | getAccessToken id' token' =>
      obtain ⟨rfl, rfl⟩ := Prod.mk.inj (Option.some.inj ha)
      rfl
  | _ => cases ha

/-! ### Sessions -/

lemma toNat_saturatingSub (a b : UInt64) : (saturatingSub a b).toNat = a.toNat - b.toNat := by
  rw [saturatingSub]
  split_ifs with h
  · exact UInt64.toNat_sub_of_le a b h
  · have hlt : a.toNat < b.toNat := by simpa [UInt64.le_iff_toNat_le] using h
    rw [Nat.sub_eq_zero_of_le hlt.le]
    rfl

namespace Session

variable {session : Session} {now : UInt64} {token : Alphanumeric 24}

lemma settled_iff : session.settled now = true ↔ session.createdAt.toNat + 6 ≤ now.toNat := by
  have hsecs : settleAfterSecs.toNat = 6 := rfl
  rw [settled, decide_eq_true_iff, UInt64.le_iff_toNat_le, toNat_saturatingSub, hsecs]
  omega

lemma settled_of_le {now' : UInt64} (h : session.settled now = true) (hle : now ≤ now') :
    session.settled now' = true := by
  rw [settled_iff] at h ⊢
  exact h.trans (UInt64.le_iff_toNat_le.1 hle)

lemma grant_of_isSome (h : session.accessToken.isSome) : session.grant now token = session := by
  rw [grant, if_neg]
  rintro ⟨-, hnone⟩
  rw [hnone] at h
  cases h

@[simp] lemma grant_invoiceId : (session.grant now token).invoiceId = session.invoiceId := by
  rw [grant]
  split <;> rfl

@[simp] lemma grant_createdAt : (session.grant now token).createdAt = session.createdAt := by
  rw [grant]
  split <;> rfl

@[simp] lemma grant_expiresAt : (session.grant now token).expiresAt = session.expiresAt := by
  rw [grant]
  split <;> rfl

/-- A session that is settled has a pass once it was looked at. -/
lemma isSome_grant (h : session.settled now = true) :
    (session.grant now token).accessToken.isSome := by
  rw [grant]
  split_ifs with hgrant
  · rfl
  · cases haccess : session.accessToken with
    | none => exact absurd ⟨h, haccess⟩ hgrant
    | some _ => rfl

lemma accessToken_grant {text : String} (h : (session.grant now token).accessToken = some text) :
    session.accessToken = some text ∨
      session.settled now = true ∧ text = "access_" ++ randomId token := by
  rw [grant] at h
  split_ifs at h with hgrant
  · exact Or.inr ⟨hgrant.1, (Option.some.inj h).symm⟩
  · exact Or.inl h

end Session

/-- The session was made in the run, from the reading of the clock then. -/
def MadeAt (t : Trace) (session : Session) : Prop :=
  ∃ s i invoiceId suffix, (s, .makeSession i invoiceId suffix) ∈ t ∧
    session.invoiceId = randomId invoiceId ∧ session.createdAt = s.clock ∧
    session.expiresAt = s.clock + expirySecs

/-- The invoice ids drawn in the run. -/
def ids (t : Trace) : List String :=
  t.filterMap fun e =>
    match e.2 with
    | .makeSession _ invoiceId _ => some (randomId invoiceId)
    | _ => none

lemma ids_append (t t' : Trace) : ids (t ++ t') = ids t ++ ids t' := List.filterMap_append

lemma MadeAt.append {session : Session} (h : MadeAt t session) (t' : Trace) :
    MadeAt (t ++ t') session := by
  obtain ⟨s, i, invoiceId, suffix, hmem, hrest⟩ := h
  exact ⟨s, i, invoiceId, suffix, List.mem_append_left _ hmem, hrest⟩

lemma MadeAt.mem_ids {session : Session} (h : MadeAt t session) : session.invoiceId ∈ ids t := by
  obtain ⟨s, i, invoiceId, suffix, hmem, hid, -⟩ := h
  exact List.mem_filterMap.2 ⟨(s, .makeSession i invoiceId suffix), hmem, by rw [hid]⟩

lemma MadeAt.grant {session : Session} (h : MadeAt t session) (now : UInt64)
    (token : Alphanumeric 24) : MadeAt t (session.grant now token) := by
  obtain ⟨s, i, invoiceId, suffix, hmem, hid, hcreated, hexpires⟩ := h
  exact ⟨s, i, invoiceId, suffix, hmem, by simpa using hid, by simpa using hcreated,
    by simpa using hexpires⟩

/-- The text is a pass as the mock draws them. -/
def Drawn (text : String) : Prop := ∃ token : Alphanumeric 24, text = "access_" ++ randomId token

/-! ### The invariant -/

structure Stored (t : Trace) (s : State) : Prop where
  session : ∀ id session, s.store.lookup id = some session →
    session.invoiceId = id ∧ MadeAt t session ∧
      ∀ text, session.accessToken = some text → Drawn text
  handler : ∀ i session, s.handlers i = some session →
    MadeAt t session ∧ session.accessToken = none ∧ s.store.lookup session.invoiceId = none
  handler_inj : ∀ i j session session', s.handlers i = some session →
    s.handlers j = some session' → session.invoiceId = session'.invoiceId → i = j

lemma Stored.session_step (h : Stored t s) (hstep : Effect s a s') {id : String}
    {session' : Session} (hid : s'.store.lookup id = some session') :
    session'.invoiceId = id ∧ MadeAt (t ++ [(s, a)]) session' ∧
      ∀ text, session'.accessToken = some text → Drawn text := by
  have hold : ∀ session, s.store.lookup id = some session →
      session.invoiceId = id ∧ MadeAt (t ++ [(s, a)]) session ∧
        ∀ text, session.accessToken = some text → Drawn text := by
    intro session hsession
    obtain ⟨hkey, hmade, hdrawn⟩ := h.session id session hsession
    exact ⟨hkey, hmade.append _, hdrawn⟩
  cases hstep with
  | @inserted i session hi =>
      by_cases hkey : id = session.invoiceId
      · subst hkey
        obtain rfl : session = session' :=
          Option.some.inj ((Finmap.lookup_insert _).symm.trans hid)
        obtain ⟨hmade, hnone, -⟩ := h.handler i session hi
        exact ⟨rfl, hmade.append _, fun text htext => by rw [hnone] at htext; cases htext⟩
      · exact hold session' (by rwa [Finmap.lookup_insert_of_ne _ hkey] at hid)
  | @reported _ id₁ token session ha hget =>
      by_cases hkey : id = id₁
      · subst hkey
        obtain rfl : session.grant s.clock token = session' :=
          Option.some.inj ((Finmap.lookup_insert _).symm.trans hid)
        obtain ⟨hinvoice, hmade, hdrawn⟩ := hold session hget
        refine ⟨by simpa using hinvoice, hmade.grant _ _, fun text htext => ?_⟩
        rcases Session.accessToken_grant htext with hsome | ⟨-, rfl⟩
        · exact hdrawn text hsome
        · exact ⟨token, rfl⟩
      · exact hold session' (by rwa [Finmap.lookup_insert_of_ne _ hkey] at hid)
  | _ => exact hold session' hid

/-- No id is drawn in the step that was drawn before. -/
def DrawsNew (t : Trace) (a : Action) : Prop :=
  ∀ i invoiceId suffix, a = .makeSession i invoiceId suffix → randomId invoiceId ∉ ids t

/-- An id that was not drawn before is that of no session. -/
lemma Stored.lookup_eq_none (h : Stored t s) {id : String} (hid : id ∉ ids t) :
    s.store.lookup id = none := by
  cases hget : s.store.lookup id with
  | none => rfl
  | some session =>
      obtain ⟨rfl, hmade, -⟩ := h.session id session hget
      exact absurd hmade.mem_ids hid

/-- A handler that has a session had it before the step, or makes it. -/
lemma handlers_of_step (hstep : Effect s a s') {j : ℕ} {session' : Session}
    (hj : s'.handlers j = some session') :
    (s.handlers j = some session' ∧ a ≠ .insertSession j) ∨
      ∃ invoiceId suffix, a = .makeSession j invoiceId suffix ∧
        session' = newSession invoiceId suffix s.clock := by
  cases hstep with
  | setClock => exact Or.inl ⟨hj, by simp⟩
  | panicked => exact Or.inl ⟨hj, by simp⟩
  | @made i invoiceId suffix =>
      dsimp only at hj
      by_cases hij : j = i
      · subst hij
        rw [Function.update_self] at hj
        exact Or.inr ⟨invoiceId, suffix, rfl, (Option.some.inj hj).symm⟩
      · rw [Function.update_of_ne hij] at hj
        exact Or.inl ⟨hj, by simp⟩
  | @inserted i session hi =>
      dsimp only at hj
      have hij : j ≠ i := by
        rintro rfl
        rw [Function.update_self] at hj
        cases hj
      rw [Function.update_of_ne hij] at hj
      exact Or.inl ⟨hj, fun ha => hij (Action.insertSession.inj ha).symm⟩
  | unknown ha _ =>
      refine Or.inl ⟨hj, ?_⟩
      rintro rfl
      cases ha
  | reported ha _ =>
      refine Or.inl ⟨hj, ?_⟩
      rintro rfl
      cases ha

lemma Stored.handler_step (h : Stored t s) (hnew : DrawsNew t a) (hstep : Effect s a s') {j : ℕ}
    {session' : Session} (hj : s'.handlers j = some session') :
    MadeAt (t ++ [(s, a)]) session' ∧ session'.accessToken = none ∧
      s'.store.lookup session'.invoiceId = none := by
  rcases handlers_of_step hstep hj with ⟨hold, hne⟩ | ⟨invoiceId, suffix, rfl, rfl⟩
  · obtain ⟨hmade, hnone, hget⟩ := h.handler j session' hold
    refine ⟨hmade.append _, hnone, ?_⟩
    cases hstep with
    | @inserted i session hi =>
        have hkey : session'.invoiceId ≠ session.invoiceId := fun hkey =>
          hne (by rw [h.handler_inj j i session' session hold hi hkey])
        exact (Finmap.lookup_insert_of_ne _ hkey).trans hget
    | @reported _ id token session ha hget' =>
        have hkey : session'.invoiceId ≠ id := by
          rintro rfl
          rw [hget] at hget'
          cases hget'
        exact (Finmap.lookup_insert_of_ne _ hkey).trans hget
    | _ => exact hget
  · refine ⟨⟨s, j, invoiceId, suffix, by simp, rfl, rfl, rfl⟩, rfl, ?_⟩
    have hget := h.lookup_eq_none (hnew j invoiceId suffix rfl)
    cases hstep with
    | reported ha _ => cases ha
    | _ => exact hget

lemma Stored.step (h : Stored t s) (hnew : DrawsNew t a) (hstep : Effect s a s') :
    Stored (t ++ [(s, a)]) s' where
  session _ _ hid := h.session_step hstep hid
  handler _ _ hj := h.handler_step hnew hstep hj
  handler_inj i j session session' hi hj hkey := by
    rcases handlers_of_step hstep hi with ⟨hi, -⟩ | ⟨invoiceId, suffix, ha, rfl⟩ <;>
      rcases handlers_of_step hstep hj with ⟨hj, -⟩ | ⟨invoiceId', suffix', ha', rfl⟩
    · exact h.handler_inj i j session session' hi hj hkey
    · have hmem := (h.handler i session hi).1.mem_ids
      rw [hkey] at hmem
      exact absurd hmem (hnew j invoiceId' suffix' ha')
    · have hmem := (h.handler j session' hj).1.mem_ids
      rw [← hkey] at hmem
      exact absurd hmem (hnew i invoiceId suffix ha)
    · rw [ha] at ha'
      exact (Action.makeSession.inj ha').1

lemma drawsNew_of_nodup (h : (ids (t ++ [(s, a)])).Nodup) : DrawsNew t a := by
  rintro i invoiceId suffix rfl hmem
  rw [ids_append] at h
  exact (List.nodup_append.1 h).2.2 _ hmem (randomId invoiceId) (by simp [ids]) rfl

lemma stored_of_run (hrun : Run (step overflowChecks) (.init clock) t s) (hids : (ids t).Nodup) :
    Stored t s := by
  refine Run.invariant (P := fun t s => (ids t).Nodup → Stored t s) hrun ?_ ?_ hids
  · intro _
    refine ⟨fun id session hid => ?_, fun i session hi => ?_, fun i j session session' hi => ?_⟩
    · exact absurd hid (by simp [State.init])
    · exact absurd hi (by simp [State.init])
    · exact absurd hi (by simp [State.init])
  · intro t s a s' _ ih hstep hids
    have hleft : (ids t).Nodup := by
      rw [ids_append] at hids
      exact (List.nodup_append.1 hids).1
    exact (ih hleft).step (drawsNew_of_nodup hids) (effect_of_step hstep)

/-! ### The contracts -/

/-- A session is kept by a step, up to the pass it gets when it has none. -/
lemma Stored.lookup_of_step (h : Stored t s) (hstep : Effect s a s') {id : String}
    {session : Session} (hid : s.store.lookup id = some session) :
    ∃ session', s'.store.lookup id = some session' ∧ session'.expiresAt = session.expiresAt ∧
      (session.accessToken.isSome → session' = session) := by
  cases hstep with
  | @inserted i inserted hi =>
      have hne : id ≠ inserted.invoiceId := by
        rintro rfl
        rw [(h.handler i inserted hi).2.2] at hid
        cases hid
      exact ⟨session, (Finmap.lookup_insert_of_ne _ hne).trans hid, rfl, fun _ => rfl⟩
  | @reported _ id₁ token found ha hget =>
      by_cases hkey : id = id₁
      · subst hkey
        obtain rfl : found = session := Option.some.inj (hget.symm.trans hid)
        exact ⟨_, Finmap.lookup_insert _, Session.grant_expiresAt, Session.grant_of_isSome⟩
      · exact ⟨session, (Finmap.lookup_insert_of_ne _ hkey).trans hid, rfl, fun _ => rfl⟩
  | _ => exact ⟨session, hid, rfl, fun _ => rfl⟩

lemma reports_of_lookup {id : String} {session : Session}
    (hid : s.store.lookup id = some session) :
    s.reports id = some (session.toStatusResponse s.clock) := by
  rw [State.reports, hid, Option.map_some]

lemma lookup_of_reports {id : String} {response : StatusResponse}
    (h : s.reports id = some response) :
    ∃ session, s.store.lookup id = some session ∧ response = session.toStatusResponse s.clock := by
  obtain ⟨session, hid, rfl⟩ := Option.map_eq_some_iff.1 h
  exact ⟨session, hid, rfl⟩

lemma evolves_lenient (h : Stored t s) (hstep : Effect s a s') :
    s.reports.Evolves lenient s'.reports := by
  intro id response hreport
  obtain ⟨session, hid, rfl⟩ := lookup_of_reports hreport
  obtain ⟨session', hid', hexpires, hkept⟩ := h.lookup_of_step hstep hid
  refine ⟨_, reports_of_lookup hid', hexpires, fun token htoken => ?_⟩
  have hsome : session.accessToken = some token := htoken
  rw [hkept (by rw [hsome]; rfl)]
  exact hsome

/-- A step that reports gives the report of the store it leaves. -/
lemma answer_of_effect (hstep : Effect s a s') {o : Answer} (ho : s.answer a = some o) :
    s'.reports.Gives o ∧ ∀ id response, o = .reported id (.ok response) →
      ∃ session token, s.store.lookup id = some session ∧
        response = (session.grant s.clock token).toStatusResponse s.clock := by
  cases hstep with
  | @inserted i session hi =>
      rw [State.answer, hi, Option.map_some] at ho
      obtain rfl := Option.some.inj ho
      refine ⟨⟨_, reports_of_lookup (Finmap.lookup_insert _), rfl⟩, fun id response h => ?_⟩
      cases h
  | @unknown _ id token ha hget =>
      rw [answer_of_reads ha, readStatus, hget] at ho
      obtain rfl := Option.some.inj ho
      refine ⟨?_, fun id response h => ?_⟩
      · show _ = s.reports.report id
        rw [Reports.report, State.reports, hget]
        rfl
      · cases h
  | @reported _ id token session ha hget =>
      rw [answer_of_reads ha, readStatus, hget] at ho
      obtain rfl := Option.some.inj ho
      have hnow : State.reports
          { s with store := s.store.insert id (session.grant s.clock token) } id =
            some ((session.grant s.clock token).toStatusResponse s.clock) :=
        reports_of_lookup (Finmap.lookup_insert _)
      refine ⟨(Reports.report_of_some hnow).symm, ?_⟩
      intro id' response h
      obtain ⟨rfl, hresponse⟩ := Answer.reported.inj h
      exact ⟨session, token, hget, (Except.ok.inj hresponse).symm⟩
  | setClock => cases ho
  | panicked => cases ho
  | made => cases ho

lemma settled_grant {session : Session} {now now' : UInt64} {token : Alphanumeric 24} :
    (session.grant now token).settled now' = session.settled now' := by
  rw [Session.settled, Session.grant_createdAt, Session.settled]

lemma plain_lenient (session : Session) (now : UInt64) (token : Alphanumeric 24) :
    lenient.Plain ((session.grant now token).toStatusResponse now) := by
  by_cases hsettled : (session.grant now token).settled now = true
  · exact Or.inl ⟨if_pos hsettled, Session.isSome_grant (settled_grant.symm.trans hsettled)⟩
  · exact Or.inr (if_neg hsettled)

lemma plain_strict {session : Session} {now : UInt64} {token : Alphanumeric 24}
    (hdue : session.accessToken.isSome → session.settled now = true) :
    strict.Plain ((session.grant now token).toStatusResponse now) := by
  show (if (session.grant now token).settled now then _ else _) =
    if (session.grant now token).accessToken.isSome then _ else _
  rw [settled_grant]
  by_cases hsettled : session.settled now = true
  · rw [if_pos hsettled, if_pos (Session.isSome_grant hsettled)]
  · have hnone : ¬ (session.grant now token).accessToken.isSome := by
      intro hsome
      obtain ⟨text, htext⟩ := Option.isSome_iff_exists.1 hsome
      rcases Session.accessToken_grant htext with hold | ⟨hnow, -⟩
      · exact hsettled (hdue (by rw [hold]; rfl))
      · exact hsettled hnow
    rw [if_neg hsettled, if_neg hnone]

/-- The clock is not set back in the run. -/
def Forward (t : Trace) : Prop := ∀ s now, (s, .setClock now) ∈ t → s.clock ≤ now

/-- What has a pass is settled. -/
def State.Due (s : State) : Prop :=
  ∀ id session, s.store.lookup id = some session → session.accessToken.isSome →
    session.settled s.clock = true

lemma clock_of_step (hstep : Effect s a s') (hforward : ∀ now, a = .setClock now → s.clock ≤ now) :
    s.clock ≤ s'.clock := by
  cases hstep with
  | setClock => exact hforward _ rfl
  | _ => exact UInt64.le_refl _

lemma Stored.due_step (h : Stored t s) (hdue : s.Due) (hstep : Effect s a s')
    (hle : s.clock ≤ s'.clock) : s'.Due := by
  intro id session' hid htoken
  have hold : ∀ session, s.store.lookup id = some session → session.accessToken.isSome →
      session.settled s'.clock = true := fun session hsession hsome =>
    Session.settled_of_le (hdue id session hsession hsome) hle
  cases hstep with
  | @inserted i session hi =>
      by_cases hkey : id = session.invoiceId
      · subst hkey
        obtain rfl : session = session' :=
          Option.some.inj ((Finmap.lookup_insert _).symm.trans hid)
        rw [(h.handler i session hi).2.1] at htoken
        cases htoken
      · exact hold session' ((Finmap.lookup_insert_of_ne _ hkey).symm.trans hid) htoken
  | @reported _ id₁ token session ha hget =>
      by_cases hkey : id = id₁
      · subst hkey
        obtain rfl : session.grant s.clock token = session' :=
          Option.some.inj ((Finmap.lookup_insert _).symm.trans hid)
        obtain ⟨text, htext⟩ := Option.isSome_iff_exists.1 htoken
        have hsettled : session.settled s.clock = true := by
          rcases Session.accessToken_grant htext with hsome | ⟨hsettled, -⟩
          · exact hold session hget (by rw [hsome]; rfl)
          · exact hsettled
        rw [Session.settled_iff] at hsettled ⊢
        simpa using hsettled
      · exact hold session' ((Finmap.lookup_insert_of_ne _ hkey).symm.trans hid) htoken
  | _ => exact hold session' hid htoken

lemma Forward.left {t' : Trace} (h : Forward (t ++ t')) : Forward t :=
  fun s now hmem => h s now (List.mem_append_left _ hmem)

lemma due_of_run (hrun : Run (step overflowChecks) (.init clock) t s) (hids : (ids t).Nodup)
    (hforward : Forward t) : s.Due := by
  refine Run.invariant (P := fun t s => (ids t).Nodup → Forward t → s.Due) hrun ?_ ?_ hids hforward
  · intro _ _ id session hid
    exact absurd hid (by simp [State.init])
  · intro t s a s' hrun ih hstep hids hforward
    have hleft : (ids t).Nodup := by
      rw [ids_append] at hids
      exact (List.nodup_append.1 hids).1
    have heffect := effect_of_step hstep
    refine (stored_of_run hrun hleft).due_step (ih hleft hforward.left) heffect ?_
    exact clock_of_step heffect fun now ha => hforward s now (by simp [ha])

lemma evolves_strict (h : Stored t s) (hdue : s.Due) (hstep : Effect s a s')
    (hle : s.clock ≤ s'.clock) : s.reports.Evolves strict s'.reports := by
  intro id response hreport
  obtain ⟨session, hid, rfl⟩ := lookup_of_reports hreport
  obtain ⟨session', hid', hexpires, hkept⟩ := h.lookup_of_step hstep hid
  refine ⟨_, reports_of_lookup hid', hexpires, fun htoken => ?_⟩
  have hsome : session.accessToken.isSome := htoken
  have hsettled := hdue id session hid hsome
  rw [hkept hsome, Session.toStatusResponse, Session.toStatusResponse, if_pos hsettled,
    if_pos (Session.settled_of_le hsettled hle)]

/-! ### Passes at the door -/

lemma toNat_toLower {c : Char} (hc : c.isAlphanum = true) :
    0x30 ≤ c.toLower.toNat ∧ c.toLower.toNat ≤ 0x7A := by
  have hranges : (65 ≤ c.toNat ∧ c.toNat ≤ 90 ∨ 97 ≤ c.toNat ∧ c.toNat ≤ 122) ∨
      48 ≤ c.toNat ∧ c.toNat ≤ 57 := by
    refine (Bool.or_eq_true_iff.1 hc).imp (fun halpha => ?_) fun hdigit => ?_
    · refine (Bool.or_eq_true_iff.1 halpha).imp (fun hupper => ?_) fun hlower => ?_
      · exact of_decide_eq_true hupper
      · exact (Bool.and_eq_true_iff.1 hlower).imp of_decide_eq_true of_decide_eq_true
    · exact (Bool.and_eq_true_iff.1 hdigit).imp of_decide_eq_true of_decide_eq_true
  by_cases hupper : 65 ≤ c.toNat ∧ c.toNat ≤ 90
  · have hlower : c.toLower.toNat = (c.toNat + 0x20) % 4294967296 :=
      congrArg Char.toNat (dif_pos hupper)
    omega
  · have hlower : c.toLower = c := dif_neg hupper
    rw [hlower]
    omega

/-- A pass of the mock starts with a letter, and all of it are letters, digits and `_`. -/
lemma Drawn.chars {text : String} (h : Drawn text) :
    (∃ cs, text.toList = 'a' :: cs) ∧ ∀ c ∈ text.toList, 0x30 ≤ c.toNat ∧ c.toNat ≤ 0x7A := by
  obtain ⟨token, rfl⟩ := h
  have hlist : ("access_" ++ randomId token).toList =
      "access_".toList ++ token.text.toList.map Char.toLower := by
    rw [String.toList_append]
    exact congrArg _ String.toList_map
  rw [hlist]
  refine ⟨⟨_, rfl⟩, fun c hc => ?_⟩
  rcases List.mem_append.1 hc with hfixed | hdrawn
  · have hall : ("access_".toList.all fun c => 0x30 ≤ c.toNat && c.toNat ≤ 0x7A) = true := by
      decide
    simpa using List.all_eq_true.1 hall c hfixed
  · obtain ⟨d, hd, rfl⟩ := List.mem_map.1 hdrawn
    exact toNat_toLower (List.all_eq_true.1 token.alphanum d hd)

/-- No key accepts a pass of the mock. -/
lemma Drawn.not_accepts {text : String} (h : Drawn text) {S : Scheme}
    (publicKey : S.VerifyingKey) (now now' : UInt64) :
    ¬ Accepts S publicKey (Utf8.trim text) now now' := by
  obtain ⟨⟨cs, hhead⟩, hchars⟩ := h.chars
  have htrim : Utf8.trim text = text := by
    refine Utf8.trim_of_forall fun c hc => ?_
    obtain ⟨hlow, hhigh⟩ := hchars c hc
    simp only [Utf8.isWhitespace, Bool.or_eq_false_iff, Bool.and_eq_false_iff,
      decide_eq_false_iff_not, beq_eq_false_iff_ne]
    omega
  rw [htrim]
  rintro (⟨signed, hread, -⟩ | ⟨p, hp, -⟩)
  · obtain ⟨d, hparse, hdoc⟩ := Option.bind_eq_some_iff.1 hread
    obtain ⟨b, bs, hbytes, hb⟩ :=
      Json.head_of_parse hparse (SignedAccessToken.isComposite_of_ofDoc hdoc)
    have hbyte : b = 0x61 := by
      rw [Utf8.asBytes, hhead, Utf8.encode_cons_ascii (by decide)] at hbytes
      exact (List.cons.inj hbytes).1.symm
    subst hbyte
    revert hb
    decide
  · obtain ⟨payload, signature, ⟨payloadB64, sigB64, hsplit, -⟩, -⟩ := verifyCompactToken_eq_ok.1 hp
    have hdot : '.' ∉ text.toList := fun hmem => absurd (hchars '.' hmem) (by decide)
    rw [Utf8.splitn2_of_notMem hdot] at hsplit
    cases hsplit

/-- **The mock keeps its contract.**  In every run of the mock in which no invoice id is drawn
twice, a client can rely on its answers by the lenient contract, and by the strict one if the
clock is not set back in the run.  Every report is about an invoice that was made in the run;
it gives the expiry that was fixed then, says that the invoice is settled exactly when six
seconds are over, whatever was paid, and has no pass that any verifier accepts. -/
theorem mock_reliable (hrun : Run (step overflowChecks) (.init clock) t s)
    (hids : (ids t).Nodup) :
    Reliable lenient (answers t) ∧ (Forward t → Reliable strict (answers t)) ∧
      ∀ s₁ a id response, (s₁, a) ∈ t → s₁.answer a = some (.reported id (.ok response)) →
        ∃ s₀ i invoiceId suffix, (s₀, .makeSession i invoiceId suffix) ∈ t ∧
          randomId invoiceId = id ∧ response.expiresAt = s₀.clock + expirySecs ∧
          (response.status = "settled" ↔ s₀.clock.toNat + 6 ≤ s₁.clock.toNat) ∧
          ∀ text, response.accessToken = some text →
            ∀ (S : Scheme) (host : Host S) (args : Args) publicKey,
              loadPublicKey host args.publicKey = .ok publicKey →
              args.readToken host = .ok text → ∀ now now', run host args now now' = .ok false := by
  have hleft : ∀ t₁ e t₂, t = t₁ ++ e :: t₂ → (ids t₁).Nodup := by
    rintro t₁ e t₂ rfl
    rw [ids_append] at hids
    exact (List.nodup_append.1 hids).1
  refine ⟨?_, fun hforward => ?_, ?_⟩
  · refine reliable_of_evolves lenient State.reports State.answer hrun ?_
    intro t₁ s a s' t₂ ht hrun hstep
    have heffect := effect_of_step hstep
    refine ⟨evolves_lenient (stored_of_run hrun (hleft t₁ _ t₂ ht)) heffect, fun o ho => ?_⟩
    obtain ⟨hgives, hresponse⟩ := answer_of_effect heffect ho
    refine ⟨hgives, fun id response h => ?_⟩
    obtain ⟨session, token, -, rfl⟩ := hresponse id response h
    exact plain_lenient session s.clock token
  · refine reliable_of_evolves strict State.reports State.answer hrun ?_
    intro t₁ s a s' t₂ ht hrun hstep
    have heffect := effect_of_step hstep
    have hstored := stored_of_run hrun (hleft t₁ _ t₂ ht)
    have hdue := due_of_run hrun (hleft t₁ _ t₂ ht) (ht ▸ hforward).left
    have hle := clock_of_step heffect fun now ha => hforward s now (by simp [ht, ha])
    refine ⟨evolves_strict hstored hdue heffect hle, fun o ho => ?_⟩
    obtain ⟨hgives, hresponse⟩ := answer_of_effect heffect ho
    refine ⟨hgives, fun id response h => ?_⟩
    obtain ⟨session, token, hid, rfl⟩ := hresponse id response h
    exact plain_strict (hdue id session hid)
  · intro s₁ a id response hmem ho
    obtain ⟨t₁, t₂, s₂, ht, hrun₁, hstep, -⟩ := hrun.of_mem hmem
    obtain ⟨-, hresponse⟩ := answer_of_effect (effect_of_step hstep) ho
    obtain ⟨session, token, hid, rfl⟩ := hresponse id response rfl
    obtain ⟨hkey, ⟨s₀, i, invoiceId, suffix, hmade, hinvoice, hcreated, hexpires⟩, hdrawn⟩ :=
      (stored_of_run hrun₁ (hleft t₁ _ t₂ ht)).session id session hid
    refine ⟨s₀, i, invoiceId, suffix, by rw [ht]; exact List.mem_append_left _ hmade,
      hinvoice.symm.trans hkey, Session.grant_expiresAt.trans hexpires, ?_, ?_⟩
    · rw [← hcreated, ← Session.settled_iff, ← settled_grant]
      show (if _ then _ else _) = _ ↔ _
      split_ifs with hsettled
      · exact iff_of_true rfl hsettled
      · exact iff_of_false (by decide) hsettled
    · intro text htext S host args publicKey hkey htoken now now'
      have hpass : Drawn text := by
        rcases Session.accessToken_grant htext with hold | ⟨-, rfl⟩
        · exact hdrawn text hold
        · exact ⟨token, rfl⟩
      rw [run_eq_decide hkey htoken (iff_false_intro (hpass.not_accepts publicKey now now'))]
      rfl

def demoSuffix : Alphanumeric 18 where
  text := "x7Kd02mQpL9sVb4nRt"
  length_eq := by decide
  alphanum := by decide

def demoPass : Alphanumeric 24 where
  text := "w3Hq8ZtY1uBc6NvA0eXr5GsD"
  length_eq := by decide
  alphanum := by decide

/-- The invoice is looked at when it was made, and six seconds later. -/
def demoLooks : List Action :=
  [.makeSession 0 demoId demoSuffix, .insertSession 0, .checkInvoice "zk81mpq0st4c" demoPass,
    .setClock 6, .getAccessToken "zk81mpq0st4c" demoPass]

/-- The step does not set the clock back. -/
def forward (e : State × Action) : Bool :=
  match e.2 with
  | .setClock now => e.1.clock ≤ now
  | _ => true

lemma forward_of_all (h : t.all forward = true) : Forward t := by
  intro s now hmem
  exact of_decide_eq_true (List.all_eq_true.1 h _ hmem)

theorem mock_reliable_demo :
    ∃ t s, Run (step true) (.init 0) t s ∧ t.map Prod.snd = demoLooks ∧
      (answers t).length = 3 ∧ Reliable lenient (answers t) ∧ Reliable strict (answers t) := by
  obtain ⟨t, s, hrun, hactions, hcheck⟩ : ∃ t s, Run (step true) (.init 0) t s ∧
      t.map Prod.snd = demoLooks ∧
      (decide (ids t).Nodup && t.all forward && decide ((answers t).length = 3)) = true :=
    exists_run_of_check _ (by decide +kernel)
  simp only [Bool.and_eq_true, decide_eq_true_iff] at hcheck
  obtain ⟨⟨hids, hforward⟩, hlength⟩ := hcheck
  obtain ⟨hlenient, hstrict, -⟩ := mock_reliable hrun hids
  exact ⟨t, s, hrun, hactions, hlength, hlenient, hstrict (forward_of_all hforward)⟩

end Haske.Lightning.Mock
