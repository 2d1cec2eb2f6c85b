import Haske.Lightning.Pass

/-!
# The invoice API

A client of the API creates invoices and asks for reports about them.  What it can rely on
does not depend on what is behind the API: an invoice that was created, or reported once, is
never missing later, and a later report about it continues the earlier ones (`Reliable`).  By
the `strict` contract a report says `settled` exactly when it has a pass, and is then the last
word on its invoice; by the `lenient` one the pass is kept, but the status may change.

A service keeps a contract if what it would report evolves accordingly in every step
(`reliable_of_evolves`).  The proof service keeps the strict one.
-/

namespace Haske.Lightning

open Machine

/-- The errors of the routes. -/
inductive StatusCode where
  | notFound
  | internalServerError
deriving DecidableEq

def mapError : ProofError → StatusCode
  | .notFound => .notFound
  | .internal => .internalServerError

/-- An answer of the API. -/
inductive Answer where
  | created (response : InvoiceResponse)
  | reported (invoiceId : String) (result : Except StatusCode StatusResponse)

/-! ### Contracts -/

/-- What every report is like, and what it says of a later one about the same invoice. -/
structure Contract where
  Plain : StatusResponse → Prop
  Continues : StatusResponse → StatusResponse → Prop
  refl : ∀ response, Continues response response
  trans : ∀ {response later last}, Continues response later → Continues later last →
    Continues response last
  expiresAt : ∀ {response later}, Continues response later → later.expiresAt = response.expiresAt

/-- A report with a pass is the last word. -/
def strict : Contract where
  Plain response :=
    response.status = if response.accessToken.isSome then "settled" else "pending"
  Continues response later :=
    later.expiresAt = response.expiresAt ∧ (response.accessToken.isSome → later = response)
  refl _ := ⟨rfl, fun _ => rfl⟩
  trans := by
    rintro response later last ⟨hexpires, hkept⟩ ⟨hexpires', hkept'⟩
    refine ⟨hexpires'.trans hexpires, fun htoken => ?_⟩
    obtain rfl := hkept htoken
    exact hkept' htoken
  expiresAt := fun h => h.1

/-- The pass is kept. -/
def lenient : Contract where
  Plain response :=
    response.status = "settled" ∧ response.accessToken.isSome ∨ response.status = "pending"
  Continues response later :=
    later.expiresAt = response.expiresAt ∧
      ∀ token, response.accessToken = some token → later.accessToken = some token
  refl _ := ⟨rfl, fun _ htoken => htoken⟩
  trans := by
    rintro response later last ⟨hexpires, hkept⟩ ⟨hexpires', hkept'⟩
    exact ⟨hexpires'.trans hexpires, fun token htoken => hkept' token (hkept token htoken)⟩
  expiresAt := fun h => h.1

/-- What an answer says of a later one. -/
def Contract.Agrees (c : Contract) : Answer → Answer → Prop
  | .created response, .reported id result =>
      id = response.invoiceId → ∃ later, result = .ok later ∧ later.expiresAt = response.expiresAt
  | .reported id (.ok response), .reported id' result =>
      id' = id → ∃ later, result = .ok later ∧ c.Continues response later
  | _, _ => True

/-- Answers that a client can rely on, in the order in which they were given. -/
structure Reliable (c : Contract) (answers : List Answer) : Prop where
  plain : ∀ id response, .reported id (.ok response) ∈ answers → c.Plain response
  missing : ∀ id e, .reported id (.error e) ∈ answers → e = .notFound
  agrees : answers.Pairwise c.Agrees

/-- Of two answers that a client can rely on, the later one agrees with the earlier one. -/
lemma Reliable.getElem {c : Contract} {answers : List Answer} (h : Reliable c answers) {m n : ℕ}
    {x y : Answer} (hmn : m < n) (hm : answers[m]? = some x) (hn : answers[n]? = some y) :
    c.Agrees x y := by
  obtain ⟨hm', rfl⟩ := List.getElem?_eq_some_iff.1 hm
  obtain ⟨hn', rfl⟩ := List.getElem?_eq_some_iff.1 hn
  exact List.pairwise_iff_getElem.1 h.agrees m n hm' hn' hmn

lemma lenient_of_strict {response : StatusResponse} (h : strict.Plain response) :
    lenient.Plain response := by
  have hstatus : response.status = if response.accessToken.isSome then _ else _ := h
  by_cases htoken : response.accessToken.isSome
  · rw [if_pos htoken] at hstatus
    exact Or.inl ⟨hstatus, htoken⟩
  · rw [if_neg htoken] at hstatus
    exact Or.inr hstatus

/-- Who keeps the strict contract keeps the lenient one. -/
lemma Reliable.lenient {answers : List Answer} (h : Reliable strict answers) :
    Reliable lenient answers where
  plain id response hmem := lenient_of_strict (h.plain id response hmem)
  missing := h.missing
  agrees := by
    refine h.agrees.imp ?_
    rintro (response | ⟨id, e | response⟩) (response' | ⟨id', result⟩) hagrees
    any_goals exact hagrees
    intro hid
    obtain ⟨later, hlater, hexpires, hkept⟩ := hagrees hid
    refine ⟨later, hlater, hexpires, fun token htoken => ?_⟩
    rw [hkept (by rw [htoken]; rfl), htoken]

/-! ### Services that keep a contract -/

/-- What a service would report about each invoice. -/
abbrev Reports := String → Option StatusResponse

namespace Reports

def report (reports : Reports) (invoiceId : String) : Except StatusCode StatusResponse :=
  match reports invoiceId with
  | none => .error .notFound
  | some response => .ok response

/-- The answer is one that these reports give. -/
def Gives (reports : Reports) : Answer → Prop
  | .created response =>
      ∃ now, reports response.invoiceId = some now ∧ now.expiresAt = response.expiresAt
  | .reported id result => result = reports.report id

/-- No invoice is lost, and what is reported about one continues. -/
def Evolves (c : Contract) (reports later : Reports) : Prop :=
  ∀ id response, reports id = some response →
    ∃ response', later id = some response' ∧ c.Continues response response'

/-- What was answered once is kept by these reports. -/
def Keeps (c : Contract) (reports : Reports) : Answer → Prop
  | .created response =>
      ∃ now, reports response.invoiceId = some now ∧ now.expiresAt = response.expiresAt
  | .reported id (.ok response) => ∃ now, reports id = some now ∧ c.Continues response now
  | .reported _ (.error _) => True

variable {c : Contract} {reports later : Reports}

lemma report_of_some {id : String} {response : StatusResponse} (h : reports id = some response) :
    reports.report id = .ok response := by
  rw [report, h]

lemma report_eq_ok {id : String} {response : StatusResponse}
    (h : reports.report id = .ok response) : reports id = some response := by
  rw [report] at h
  split at h
  · cases h
  · next response' hid => rw [hid, Except.ok.inj h]

lemma report_eq_error {id : String} {e : StatusCode} (h : reports.report id = .error e) :
    e = .notFound := by
  rw [report] at h
  split at h
  · exact (Except.error.inj h).symm
  · cases h

lemma Gives.keeps {answer : Answer} (h : reports.Gives answer) : reports.Keeps c answer := by
  cases answer with
  | created response => exact h
  | reported id result =>
      cases result with
      | error e => exact True.intro
      | ok response => exact ⟨response, report_eq_ok h.symm, c.refl response⟩

lemma Keeps.evolve {answer : Answer} (h : reports.Keeps c answer)
    (hevolves : reports.Evolves c later) : later.Keeps c answer := by
  cases answer with
  | created response =>
      obtain ⟨now, hnow, hexpires⟩ := h
      obtain ⟨now', hnow', hcontinues⟩ := hevolves _ _ hnow
      exact ⟨now', hnow', (c.expiresAt hcontinues).trans hexpires⟩
  | reported id result =>
      cases result with
      | error e => exact True.intro
      | ok response =>
          obtain ⟨now, hnow, hcontinues⟩ := h
          obtain ⟨now', hnow', hcontinues'⟩ := hevolves _ _ hnow
          exact ⟨now', hnow', c.trans hcontinues hcontinues'⟩

/-- What is answered agrees with all that is kept. -/
lemma Keeps.agrees {answer answer' : Answer} (h : reports.Keeps c answer)
    (hgives : reports.Gives answer') : c.Agrees answer answer' := by
  cases answer' with
  | created response' =>
      cases answer with
      | created response => exact True.intro
      | reported id result => cases result <;> exact True.intro
  | reported id' result' =>
      cases answer with
      | created response =>
          rintro rfl
          obtain ⟨now, hnow, hexpires⟩ := h
          exact ⟨now, hgives.trans (report_of_some hnow), hexpires⟩
      | reported id result =>
          cases result with
          | error e => exact True.intro
          | ok response =>
              rintro rfl
              obtain ⟨now, hnow, hcontinues⟩ := h
              exact ⟨now, hgives.trans (report_of_some hnow), hcontinues⟩

end Reports

/-- **Services that keep a contract.**  If in every step of a run the reports evolve, and an
answer is a plain one that they give afterwards, then clients can rely on the answers of the
run. -/
theorem reliable_of_evolves {S A : Type*} {step : S → A → Option S} {s₀ s : S}
    {t : List (S × A)} (c : Contract) (reports : S → Reports) (answer : S → A → Option Answer)
    (hrun : Run step s₀ t s)
    (hstep : ∀ t₁ s a s' t₂, t = t₁ ++ (s, a) :: t₂ → Run step s₀ t₁ s → step s a = some s' →
      (reports s).Evolves c (reports s') ∧ ∀ o, answer s a = some o →
        (reports s').Gives o ∧ ∀ id response, o = .reported id (.ok response) → c.Plain response) :
    Reliable c (t.filterMap fun e => answer e.1 e.2) := by
  have hgiven : ∀ o ∈ t.filterMap fun e => answer e.1 e.2, ∃ s, (reports s).Gives o ∧
      ∀ id response, o = .reported id (.ok response) → c.Plain response := by
    intro o ho
    obtain ⟨⟨s₁, a⟩, hmem, hanswer⟩ := List.mem_filterMap.1 ho
    obtain ⟨t₁, t₂, s₁', ht, hrun₁, hs₁, -⟩ := hrun.of_mem hmem
    exact ⟨s₁', (hstep t₁ s₁ a s₁' t₂ ht hrun₁ hs₁).2 o hanswer⟩
  refine ⟨?_, ?_, ?_⟩
  · intro id response hmem
    obtain ⟨-, -, hplain⟩ := hgiven _ hmem
    exact hplain id response rfl
  · intro id e hmem
    obtain ⟨s₁, hgives, -⟩ := hgiven _ hmem
    exact Reports.report_eq_error hgives.symm
  · refine (hrun.readings answer (fun o s => (reports s).Keeps c o) ?_).1
    intro t₁ s₁ a s₁' t₂ ht hrun₁ hs₁
    obtain ⟨hevolves, hanswers⟩ := hstep t₁ s₁ a s₁' t₂ ht hrun₁ hs₁
    refine ⟨fun o ho => ?_, fun o ho => ho.evolve hevolves⟩
    obtain ⟨hgives, -⟩ := hanswers o ho
    exact ⟨hgives.keeps, fun o₁ ho₁ => (ho₁.evolve hevolves).agrees hgives⟩

/-! ### The proof service -/

/-- What the service would report. -/
def State.reports (s : State) : Reports := fun id =>
  (s.sessions.lookup id).map AccessSession.toStatusResponse

/-- The answer that a step gives to a client.  A `create_invoice` is answered once it is in the
index. -/
def State.answer (s : State) : Action → Option Answer
  | .insertIndex i =>
      match s.calls i with
      | .inserted _ response => some (.created response)
      | _ => none
  | .checkInvoice _ id => some (.reported id ((checkInvoice s.sessions id).mapError mapError))
  | _ => none

/-- The answers that the service gives to its clients in the run. -/
def answers (t : Trace) : List Answer := t.filterMap fun e => e.1.answer e.2

variable {svc : ProofService} {clock : UInt64} {t : Trace} {s s' : State} {a : Action}

lemma reports_eq_some {id : String} {response : StatusResponse}
    (h : s.reports id = some response) :
    ∃ session, s.sessions.lookup id = some session ∧ response = session.toStatusResponse := by
  obtain ⟨session, hid, rfl⟩ := Option.map_eq_some_iff.1 h
  exact ⟨session, hid, rfl⟩

lemma mapError_checkInvoice (s : State) (id : String) :
    (checkInvoice s.sessions id).mapError mapError = s.reports.report id := by
  rw [checkInvoice, Reports.report, State.reports]
  cases s.sessions.lookup id <;> rfl

lemma AccessSession.Sealed.plain {session : AccessSession} (h : session.Sealed svc) :
    strict.Plain session.toStatusResponse := by
  show session.toStatusResponse.status = if session.accessToken.isSome then _ else _
  rw [AccessSession.toStatusResponse]
  cases hstatus : session.status with
  | settled => rw [if_pos (h.token.2 hstatus)]
  | pending =>
      have hnone : ¬ session.accessToken.isSome := fun htoken => by
        rw [h.token.1 htoken] at hstatus
        cases hstatus
      rw [if_neg hnone]

lemma expiresAt_of_settle {event : PaymentEvent} {session session' : AccessSession}
    (h : svc.settle event session = some session') : session'.expiresAt = session.expiresAt := by
  simp only [ProofService.settle, Option.bind_eq_bind, Option.bind_eq_some_iff,
    Option.some.injEq] at h
  obtain ⟨-, -, -, -, rfl⟩ := h
  rfl

lemma evolves_of_step (h : Tracked svc t s) (hstep : Lightning.step svc s a = some s') :
    s.reports.Evolves strict s'.reports := by
  intro id response hreport
  obtain ⟨session, hid, rfl⟩ := reports_eq_some hreport
  obtain ⟨session', hid', -, hsame⟩ := h.lookup_of_step hstep hid
  refine ⟨session'.toStatusResponse, by rw [State.reports, hid', Option.map_some], ?_, ?_⟩
  · rcases lookup_of_step_inv hstep hid' with ⟨old, hold, hkept⟩ | ⟨i, response, -, hcall, hkey⟩
    · obtain rfl := Option.some.inj (hid.symm.trans hold)
      rcases hkept with rfl | ⟨_, _, _, _, hsettle, _⟩
      · rfl
      · exact expiresAt_of_settle hsettle
    · -- what is inserted is new
      rw [← hkey, (h.made i session' response hcall).2.1] at hid
      cases hid
  · intro htoken
    rw [hsame ((h.session id session hid).2.2.2.token.1 htoken)]

/-- The answers that are being made are those for the sessions. -/
structure Answering (s : State) : Prop where
  made : ∀ i session response, s.calls i = .made session response →
    response.invoiceId = session.invoiceId ∧ response.expiresAt = session.expiresAt
  inserted : ∀ i session response, s.calls i = .inserted session response →
    s.reports.Gives (.created response)

lemma response_of_newSession {amountMsat now : UInt64} {invoice : LightningInvoice}
    {invoiceId : String} {session : AccessSession} {response : InvoiceResponse}
    (h : svc.newSession amountMsat invoice invoiceId now = some (session, response)) :
    response.invoiceId = session.invoiceId ∧ response.expiresAt = session.expiresAt := by
  simp only [ProofService.newSession, Option.bind_eq_bind, Option.bind_eq_some_iff,
    Option.some.injEq, Prod.mk.injEq] at h
  obtain ⟨-, -, -, -, rfl, rfl⟩ := h
  exact ⟨rfl, rfl⟩

lemma Answering.step (h : Answering s) (htracked : Tracked svc t s)
    (hstep : Lightning.step svc s a = some s') : Answering s' where
  made i session response hcall := by
    rcases call_of_step hstep i with ⟨-, hsame⟩ | ⟨-, henters⟩
    · exact h.made i session response (hsame ▸ hcall)
    · rw [hcall] at henters
      cases henters with
      | made _ hnew => exact response_of_newSession hnew
  inserted i session response hcall := by
    rcases call_of_step hstep i with ⟨-, hsame⟩ | ⟨hi, henters⟩
    · have hgives := h.inserted i session response (hsame ▸ hcall)
      exact hgives.keeps.evolve (evolves_of_step htracked hstep)
    · rw [hcall] at henters
      cases henters with
      | inserted hmade =>
          obtain ⟨hid, hexpires⟩ := h.made i session response hmade
          cases effect_of_step hstep with
          | inserted hmade' =>
              obtain ⟨rfl, rfl⟩ := Call.made.inj (hmade.symm.trans hmade')
              refine ⟨session.toStatusResponse, ?_, hexpires.symm⟩
              rw [State.reports, hid, Finmap.lookup_insert, Option.map_some]

lemma answering_of_run (hrun : Run (step svc) (.init clock) t s) (honce : DrawnOnce t) :
    Answering s := by
  refine Run.invariant (P := fun t s => DrawnOnce t → Answering s) hrun ?_ ?_ honce
  · intro _
    constructor
    · intro i session response hcall
      cases hcall
    · intro i session response hcall
      cases hcall
  · intro t s a s' hrun ih hstep honce
    exact (ih honce.left).step (tracked_of_run hrun honce.left) hstep

lemma gives_of_answer (h : Answering s) (htracked : Tracked svc t s)
    (hstep : Lightning.step svc s a = some s') {o : Answer} (ho : s.answer a = some o) :
    s'.reports.Gives o := by
  cases effect_of_step hstep with
  | @indexed i session response hcall =>
      simp only [State.answer, hcall, Option.some.injEq] at ho
      subst ho
      exact (h.inserted i session response hcall).keeps.evolve (evolves_of_step htracked hstep)
  | @checked i id _ =>
      obtain rfl := Option.some.inj ho
      exact mapError_checkInvoice s id
  | _ => cases ho

/-- **The service keeps the strict contract.**  In every run of the proof service in which no
invoice id and no payment hash is drawn twice, clients can rely on its answers. -/
theorem service_reliable (hrun : Run (step svc) (.init clock) t s) (honce : DrawnOnce t) :
    Reliable strict (answers t) := by
  refine reliable_of_evolves strict State.reports State.answer hrun ?_
  intro t₁ s a s' t₂ ht hrun hstep
  have honce₁ : DrawnOnce (t₁ ++ [(s, a)]) := by
    rw [ht, ← List.singleton_append, ← List.append_assoc] at honce
    exact honce.left
  have htracked := tracked_of_run hrun honce₁.left
  refine ⟨evolves_of_step htracked hstep, fun o ho => ?_⟩
  have hgives := gives_of_answer (answering_of_run hrun honce₁.left) htracked hstep ho
  refine ⟨hgives, ?_⟩
  rintro id response rfl
  obtain ⟨session, hid, rfl⟩ := reports_eq_some (Reports.report_eq_ok hgives.symm)
  exact ((htracked.step honce₁.drawsNew hstep).session id session hid).2.2.2.plain

/-- The invoice of the example is looked at before it is paid and after. -/
def lookedActions : List Action :=
  demoActions.take 5 ++ [.checkInvoice 3 demoId.text] ++ demoActions.drop 5 ++
    [.checkInvoice 4 demoId.text]

theorem service_reliable_demo :
    ∃ t s, Run (step demoService) (.init 0) t s ∧ t.map Prod.snd = lookedActions ∧
      (answers t).length = 3 ∧ Reliable strict (answers t) := by
  obtain ⟨t, s, hrun, hactions, hcheck⟩ : ∃ t s, Run (step demoService) (.init 0) t s ∧
      t.map Prod.snd = lookedActions ∧
      (decide (ids t).Nodup && decide (hashes t).Nodup && decide ((answers t).length = 3)) =
        true :=
    exists_run_of_check _ (by decide +kernel)
  simp only [Bool.and_eq_true, decide_eq_true_iff] at hcheck
  obtain ⟨⟨hids, hhashes⟩, hlength⟩ := hcheck
  exact ⟨t, s, hrun, hactions, hlength, service_reliable hrun ⟨hids, hhashes⟩⟩

end Haske.Lightning
