import Haske.Lightning.Contract
import Haske.Lightning.Wire
import Haske.Plan.Rest

/-!
# The plan page and a service

The page and any service of the invoice API.  The service takes steps of its own, also for
other clients, and some of them answer; a body that the page reads with a status of success was
given by the service as an answer to this request, after the request was sent (`Honest`).
Everything else that a request is told can be anything.

If clients can rely on the answers, a report that a calm page shows at rest has a pass, and all
that the service has reported about the invoice since then has the same pass; or the invoice was
pending, and the line of the timeout stands below the report (`rest_reliable`).  From the proof
service, a pass is that of an invoice that was paid, and the verifier accepts it up to the expiry
in the report (`rest_paid`).
-/

namespace Haske.Plan

open Json Js Machine Lightning

/-- The service and the page. -/
structure World (S : Type*) where
  service : S
  page : Page
  /-- The answers of the service so far. -/
  given : List Answer
  /-- How many answers had been given when a request was sent. -/
  sent : ℕ → ℕ

/-- The answer is one to the request of this callback, and its body is read as this value. -/
def Callback.Answered (large : ℕ → String) : Callback → Answer → Value → Prop
  | .create _, .created response, v => Js.parse response.toText = some v
  | .report _ poll, .reported id (.ok response), v =>
      id = asText large poll.invoiceId ∧ Js.parse response.toText = some v
  | _, _, _ => False

namespace World

variable {S A : Type*}

inductive Action (A : Type*) where
  | service (a : A)
  | page (a : Plan.Action)

def Action.service? : Action A → Option A
  | .service a => some a
  | .page _ => none

def Action.page? : Action A → Option Plan.Action
  | .service _ => none
  | .page a => some a

/-- The page is loaded, and the service has not answered anything. -/
def init (s : S) (clock : ℕ) : World S where
  service := s
  page := load clock 1
  given := []
  sent := fun _ => 0

/-- The page has taken a step: what is new in it was sent now. -/
def withPage (w : World S) (page : Page) : World S :=
  { w with
    page := page
    sent := fun handle => if handle < w.page.nextHandle then w.sent handle else w.given.length }

def step (serve : S → A → Option S) (answer : S → A → Option Answer) (engine : Engine)
    (w : World S) : Action A → Option (World S)
  | .service a =>
      (serve w.service a).map fun service =>
        { w with
          service := service
          given := w.given ++ (answer w.service a).toList }
  | .page a => (Plan.step engine w.page a).map w.withPage

def Honest (large : ℕ → String) (w : World S) : Action A → Prop
  | .page (.answer handle (.response status (.ok v))) =>
      200 ≤ status ∧ status ≤ 299 → ∀ callback, (handle, callback) ∈ w.page.pending →
        ∃ n answer, w.sent handle ≤ n ∧ w.given[n]? = some answer ∧
          callback.Answered large answer v
  | _ => True

def Calm (w : World S) : Action A → Prop
  | .page a => Plan.Calm w.page a
  | .service _ => True

abbrev Trace (S A : Type*) := List (World S × Action A)

/-- What the service did. -/
def served (t : Trace S A) : List (S × A) :=
  t.filterMap fun e => e.2.service?.map fun a => (e.1.service, a)

end World

/-- The report that is shown. -/
def Output.report : Output → Option Value
  | .status payload => some payload
  | .timeout output => output.report
  | _ => none

/-! ### What the page follows -/

/-- Among the first `n` answers is the one that created the invoice of the poll. -/
def Poll.Follows (given : List Answer) (n : ℕ) (poll : Poll) : Prop :=
  ∃ m response, m < n ∧ given[m]? = some (.created response) ∧
    poll.invoiceId = .str response.invoiceId

def Callback.Follows (given : List Answer) (n : ℕ) : Callback → Prop
  | .create _ => True
  | .interval poll _ => poll.Follows given given.length
  | .report _ poll => poll.Follows given n

/-- What is shown was answered. -/
def Output.Given (given : List Answer) : Output → Prop
  | .created data => ∃ response, .created response ∈ given ∧ data = readInvoice response
  | .pending invoiceId =>
      ∃ response, .created response ∈ given ∧ invoiceId = .str response.invoiceId
  | .status payload =>
      ∃ (m n : ℕ) (created : InvoiceResponse) (response : StatusResponse), m < n ∧
        given[m]? = some (.created created) ∧
        given[n]? = some (.reported created.invoiceId (.ok response)) ∧
        payload = readReport response
  | .timeout output => output.Given given
  | _ => True

structure Follows (given : List Answer) (sent : ℕ → ℕ) (page : Page) : Prop where
  outstanding : ∀ handle callback, (handle, callback) ∈ page.pending →
    handle < page.nextHandle ∧ callback.Follows given (sent handle)
  output : page.output.Given given

section

variable {given : List Answer} {sent : ℕ → ℕ} {page page' : Page} {poll : Poll}

lemma getElem?_append_of_eq {α : Type*} {xs : List α} {n : ℕ} {x : α} (h : xs[n]? = some x)
    (ys : List α) : (xs ++ ys)[n]? = some x := by
  rw [List.getElem?_append_left (List.getElem?_eq_some_iff.1 h).1, h]

lemma Poll.Follows.append {n : ℕ} (h : poll.Follows given n) (more : List Answer) :
    poll.Follows (given ++ more) n := by
  obtain ⟨m, response, hm, hcreated, hid⟩ := h
  exact ⟨m, response, hm, getElem?_append_of_eq hcreated more, hid⟩

lemma Poll.Follows.mono {m n : ℕ} (h : poll.Follows given m) (hle : m ≤ n) :
    poll.Follows given n := by
  obtain ⟨k, response, hk, hrest⟩ := h
  exact ⟨k, response, hk.trans_le hle, hrest⟩

lemma Output.Given.append {output : Output} (h : output.Given given) (more : List Answer) :
    output.Given (given ++ more) := by
  induction output with
  | created data =>
      obtain ⟨response, hmem, hdata⟩ := h
      exact ⟨response, List.mem_append_left _ hmem, hdata⟩
  | pending invoiceId =>
      obtain ⟨response, hmem, hid⟩ := h
      exact ⟨response, List.mem_append_left _ hmem, hid⟩
  | status payload =>
      obtain ⟨m, n, created, response, hmn, hm, hn, hpayload⟩ := h
      exact ⟨m, n, created, response, hmn, getElem?_append_of_eq hm more,
        getElem?_append_of_eq hn more, hpayload⟩
  | timeout output ih => exact ih h
  | waiting => exact True.intro
  | failed message => exact True.intro

namespace Follows

/-- The service gives more answers. -/
lemma append (h : Follows given sent page) (more : List Answer) :
    Follows (given ++ more) sent page where
  outstanding handle callback hmem := by
    obtain ⟨hlt, hfollows⟩ := h.outstanding handle callback hmem
    refine ⟨hlt, ?_⟩
    cases callback with
    | create button => exact True.intro
    | interval poll due => exact (hfollows.append more).mono (by simp)
    | report interval poll => exact hfollows.append more
  output := h.output.append more

/-- What is outstanding was sent before. -/
lemma resend (h : Follows given sent page) {sent' : ℕ → ℕ}
    (hsent : ∀ handle < page.nextHandle, sent' handle = sent handle) :
    Follows given sent' page where
  outstanding handle callback hmem := by
    obtain ⟨hlt, hfollows⟩ := h.outstanding handle callback hmem
    rw [hsent handle hlt]
    exact ⟨hlt, hfollows⟩
  output := h.output

lemma withOutput (h : Follows given sent page) {output : Output} (houtput : output.Given given) :
    Follows given sent { page with output := output } :=
  ⟨h.outstanding, houtput⟩

lemma setHandler (h : Follows given sent page) (button : ℕ) (handler : Handler) :
    Follows given sent (page.setHandler button handler) :=
  ⟨h.outstanding, h.output⟩

lemma remove (h : Follows given sent page) (handle : ℕ) :
    Follows given sent (page.remove handle) :=
  ⟨fun other callback hmem => h.outstanding other callback (List.mem_filter.1 hmem).1, h.output⟩

lemma push (h : Follows given sent page) {callback : Callback}
    (hfollows : callback.Follows given (sent page.nextHandle)) :
    Follows given sent (page.push callback) where
  outstanding handle other hmem := by
    rcases List.mem_append.1 hmem with hold | hnew
    · obtain ⟨hlt, hother⟩ := h.outstanding handle other hold
      exact ⟨hlt.trans (Nat.lt_succ_self _), hother⟩
    · obtain ⟨rfl, rfl⟩ := Prod.mk.inj (List.mem_singleton.1 hnew)
      exact ⟨Nat.lt_succ_self _, hfollows⟩
  output := h.output

lemma reschedule (h : Follows given sent page) {handle due : ℕ}
    (hmem : (handle, .interval poll due) ∈ page.pending) :
    Follows given sent (page.reschedule handle poll) where
  outstanding other callback hother := by
    obtain ⟨⟨old, callback'⟩, hold, heq⟩ := List.mem_map.1 hother
    split_ifs at heq with hsame
    · obtain ⟨rfl, rfl⟩ := Prod.mk.inj heq
      obtain ⟨hlt, hfollows⟩ := h.outstanding _ _ hmem
      exact ⟨hlt, hfollows⟩
    · obtain ⟨rfl, rfl⟩ := Prod.mk.inj heq
      exact h.outstanding _ _ hold
  output := h.output

lemma pollEnds (h : Follows given sent page) {interval : ℕ} {output : Output}
    (houtput : output.Given given) : Follows given sent (pollEnds interval poll output page) := by
  have hends := (h.remove interval).withOutput houtput
  rw [Plan.pollEnds]
  split_ifs
  · exact hends.setHandler _ _
  · exact hends

lemma createEnds {engine : Engine} (h : Follows given sent page) {button : ℕ}
    {result : Except String Value}
    (hresult : ∀ data, result = .ok data →
      ∃ response, .created response ∈ given ∧ data = readInvoice response) :
    Follows given sent (createEnds engine button result page) := by
  cases result with
  | error message =>
      have hfailed : Follows given sent { page with output := .failed message } :=
        h.withOutput True.intro
      exact hfailed.setHandler button .idle
  | ok data =>
      obtain ⟨response, hmem, rfl⟩ := hresult data rfl
      have hends : ∀ output : Output, output.Given given → ∀ handler,
          Follows given sent ({ page with output := output }.setHandler button handler) :=
        fun output houtput handler => (h.withOutput houtput).setHandler button handler
      rw [Plan.createEnds]
      dsimp only
      split_ifs
      · have hpending : Follows given sent
            { page with output := .pending (orNull (prop (readInvoice response) "invoice_id")) } :=
          h.withOutput ⟨response, hmem, rfl⟩
        refine (hpending.push ?_).setHandler _ _
        obtain ⟨m, hm⟩ := List.mem_iff_getElem?.1 hmem
        exact ⟨m, response, (List.getElem?_eq_some_iff.1 hm).1, hm, rfl⟩
      · exact hends (.failed notPrimitive) True.intro .idle
      · exact hends (.created (readInvoice response)) ⟨response, hmem, rfl⟩ .idle

lemma intervalFires (h : Follows given sent page) {handle due : ℕ}
    (hmem : (handle, .interval poll due) ∈ page.pending)
    (hsent : sent page.nextHandle = given.length) :
    Follows given sent (intervalFires handle poll page) := by
  rw [Plan.intervalFires]
  split_ifs
  · exact h.pollEnds h.output
  · refine (h.reschedule hmem).push ?_
    show poll.Follows given (sent page.nextHandle)
    rw [hsent]
    exact (h.outstanding handle _ hmem).2

lemma reportEnds {engine : Engine} (h : Follows given sent page) {interval : ℕ}
    {result : Except String Value}
    (hresult : ∀ payload, result = .ok payload → (Output.status payload).Given given) :
    Follows given sent (reportEnds engine interval poll result page) := by
  rw [Plan.reportEnds.eq_def]
  split
  · exact h.pollEnds True.intro
  · exact h.pollEnds True.intro
  · next payload _ =>
      split_ifs
      · exact h.pollEnds (hresult payload rfl)
      · exact h.withOutput (hresult payload rfl)
      · exact h.pollEnds True.intro

end Follows

end

namespace World

variable {S A : Type*} {serve : S → A → Option S} {answer : S → A → Option Answer}
  {engine : Engine} {large : ℕ → String} {w w' : World S} {t : Trace S A}

/-- A body that is read was given by the service. -/
lemma Honest.of_outcome {handle : ℕ} {fetched : Checkout.Fetched} {callback : Callback}
    (h : w.Honest (A := A) large (.page (.answer handle fetched)))
    (hmem : (handle, callback) ∈ w.page.pending) {what : String} {v : Value}
    (houtcome : outcome what fetched = .ok v) :
    ∃ n answer, w.sent handle ≤ n ∧ w.given[n]? = some answer ∧
      callback.Answered large answer v := by
  cases fetched with
  | failure message => cases houtcome
  | response status body =>
      rw [outcome] at houtcome
      split_ifs at houtcome with hstatus
      subst houtcome
      exact h hstatus callback hmem

/-- The page has taken a step. -/
lemma follows_withPage (h : Follows w.given w.sent w.page) {a : Plan.Action} {page : Page}
    (hhonest : w.Honest (A := A) large (.page a)) (hstep : Plan.step engine w.page a = some page) :
    Follows w.given (w.withPage page).sent page := by
  have hsame : ∀ handle < w.page.nextHandle, (w.withPage page).sent handle = w.sent handle :=
    fun handle hlt => if_pos hlt
  have hnew : (w.withPage page).sent w.page.nextHandle = w.given.length :=
    if_neg (lt_irrefl _)
  have hresent := h.resend hsame
  cases effect_of_step hstep with
  | elapse => exact ⟨hresent.outstanding, hresent.output⟩
  | click hbutton =>
      refine Follows.setHandler (Follows.push hresent ?_) _ _
      exact True.intro
  | fire hmem hdue => exact hresent.intervalFires hmem hnew
  | @created handle button fetched hmem =>
      refine (hresent.remove handle).createEnds fun data hdata => ?_
      obtain ⟨n, answer, -, hgiven, hanswered⟩ := hhonest.of_outcome hmem hdata
      cases answer with
      | created response =>
          have hparse : Js.parse response.toText = some data := hanswered
          rw [parse_invoice] at hparse
          exact ⟨response, List.mem_of_getElem? hgiven, (Option.some.inj hparse).symm⟩
      | reported id result => exact hanswered.elim
  | @reported handle interval poll fetched hmem =>
      refine (hresent.remove handle).reportEnds fun payload hpayload => ?_
      obtain ⟨n, answer, hsent, hgiven, hanswered⟩ := hhonest.of_outcome hmem hpayload
      obtain ⟨-, m, created, hm, hcreated, hid⟩ := h.outstanding handle _ hmem
      cases answer with
      | created response => exact hanswered.elim
      | reported id result =>
          cases result with
          | error e => exact hanswered.elim
          | ok response =>
              obtain ⟨rfl, hparse⟩ := hanswered
              rw [parse_report] at hparse
              rw [hid] at hgiven
              exact ⟨m, n, created, response, hm.trans_le hsent, hcreated, hgiven,
                (Option.some.inj hparse).symm⟩
  | reload => exact ⟨fun _ _ hmem => absurd hmem List.not_mem_nil, True.intro⟩

/-- In an honest run, what the page shows was answered. -/
lemma follows_of_run {s₀ : S} {clock : ℕ}
    (hrun : Run (step serve answer engine) (init s₀ clock) t w)
    (hhonest : ∀ e ∈ t, e.1.Honest large e.2) : Follows w.given w.sent w.page := by
  refine Run.invariant_of_guard (P := fun _ w => Follows w.given w.sent w.page) hrun hhonest ?_ ?_
  · exact ⟨fun _ _ hmem => absurd hmem List.not_mem_nil, True.intro⟩
  · intro _ w a w' _ h hhonest hstep
    cases a with
    | service a =>
        obtain ⟨service, -, rfl⟩ := Option.map_eq_some_iff.1 hstep
        exact h.append _
    | page a =>
        obtain ⟨page, hpage, rfl⟩ := Option.map_eq_some_iff.1 hstep
        exact follows_withPage h hhonest hpage

/-- The page by itself. -/
lemma page_run {s₀ : S} {clock : ℕ}
    (hrun : Run (step serve answer engine) (init s₀ clock) t w) :
    Run (Plan.step engine) (load clock 1)
      (t.filterMap fun e => e.2.page?.map fun a => (e.1.page, a)) w.page := by
  refine hrun.project World.page Action.page? ?_ ?_
  · intro w a w' b hstep hact
    cases a with
    | service a => cases hact
    | page a =>
        obtain rfl := Option.some.inj hact
        obtain ⟨page, hpage, rfl⟩ := Option.map_eq_some_iff.1 hstep
        exact hpage
  · intro w a w' hstep hact
    cases a with
    | service a =>
        obtain ⟨service, -, rfl⟩ := Option.map_eq_some_iff.1 hstep
        rfl
    | page a => cases hact

/-- The service by itself. -/
lemma service_run {s₀ : S} {clock : ℕ}
    (hrun : Run (step serve answer engine) (init s₀ clock) t w) :
    Run serve s₀ (served t) w.service := by
  refine hrun.project World.service Action.service? ?_ ?_
  · intro w a w' b hstep hact
    cases a with
    | service a =>
        obtain rfl := Option.some.inj hact
        obtain ⟨service, hservice, rfl⟩ := Option.map_eq_some_iff.1 hstep
        exact hservice
    | page a => cases hact
  · intro w a w' hstep hact
    cases a with
    | service a => cases hact
    | page a =>
        obtain ⟨page, -, rfl⟩ := Option.map_eq_some_iff.1 hstep
        rfl

lemma given_of_run {s₀ : S} {clock : ℕ}
    (hrun : Run (step serve answer engine) (init s₀ clock) t w) :
    w.given = (served t).filterMap fun e => answer e.1 e.2 := by
  refine Run.invariant (P := fun t w => w.given = (served t).filterMap fun e => answer e.1 e.2)
    hrun rfl ?_
  intro t w a w' _ ih hstep
  rw [served, List.filterMap_append, List.filterMap_append, ← served, ← ih]
  cases a with
  | service a =>
      obtain ⟨service, -, rfl⟩ := Option.map_eq_some_iff.1 hstep
      show w.given ++ (answer w.service a).toList = w.given ++ List.filterMap _ [(w.service, a)]
      cases hanswer : answer w.service a <;> simp [hanswer]
  | page a =>
      obtain ⟨page, -, rfl⟩ := Option.map_eq_some_iff.1 hstep
      exact (List.append_nil _).symm

lemma phase_of_calm {s₀ : S} {clock : ℕ}
    (hrun : Run (step serve answer engine) (init s₀ clock) t w)
    (hcalm : ∀ e ∈ t, e.1.Calm e.2) : Phase engine w.page := by
  refine phase_of_run (page_run hrun) fun e he => ?_
  obtain ⟨⟨w₁, a⟩, hmem, heq⟩ := List.mem_filterMap.1 he
  cases a with
  | service a => cases heq
  | page a =>
      obtain rfl := Option.some.inj heq
      exact hcalm _ hmem

end World

/-! ### The page at rest -/

section

variable {S A : Type*} {serve : S → A → Option S} {answer : S → A → Option Answer}
  {engine : Engine} {large : ℕ → String}

/-- A plain report that ends a poll has a pass. -/
lemma token_of_final {response : StatusResponse} (hplain : lenient.Plain response)
    (hfinal : IsFinal engine (readReport response)) : response.accessToken.isSome := by
  rcases hplain with ⟨-, htoken⟩ | hpending
  · exact htoken
  · rcases hfinal with hsettled | htruthy
    · have hstatus : some response.status = some "settled" := hsettled
      rw [hpending] at hstatus
      exact absurd hstatus (by decide)
    · cases htoken : response.accessToken with
      | some token => rfl
      | none =>
          have hnull : prop (readReport response) "access_token" = some .null := by
            simp [readReport, prop, htoken, ofOption]
          rw [hnull] at htruthy
          cases htruthy

/-- A report that is shown at rest ends the poll, or has the line of the timeout below it. -/
lemma Output.Ended.report {output : Output} (h : output.Ended engine) {payload : Value}
    (hreport : output.report = some payload) :
    (IsFinal engine payload ∧ output = .status payload) ∨
      (¬ IsFinal engine payload ∧ output = .timeout (.status payload)) := by
  cases h with
  | status hfinal =>
      obtain rfl := Option.some.inj hreport
      exact Or.inl ⟨hfinal, rfl⟩
  | @timeout shown hshown =>
      cases shown with
      | status payload' =>
          obtain rfl := Option.some.inj hreport
          exact Or.inr ⟨hshown.1, rfl⟩
      | timeout shown' => exact absurd rfl (hshown.2 shown')
      | _ => cases hreport
  | _ => cases hreport

/-- At rest, a report that is shown was given after its invoice. -/
lemma report_of_rest {s₀ : S} {clock : ℕ} {w : World S} {t : World.Trace S A}
    (hrun : Run (World.step serve answer engine) (.init s₀ clock) t w)
    (hhonest : ∀ e ∈ t, e.1.Honest large e.2) (hcalm : ∀ e ∈ t, e.1.Calm e.2)
    (hidle : ∀ button, w.page.handlers button = .idle) {payload : Value}
    (hshows : w.page.output.report = some payload) :
    ∃ (m n : ℕ) (created : InvoiceResponse) (response : StatusResponse),
      m < n ∧ w.given[m]? = some (.created created) ∧
      w.given[n]? = some (.reported created.invoiceId (.ok response)) ∧
      payload = readReport response ∧
      ((IsFinal engine (readReport response) ∧
          w.page.output.text engine large = formatStatus engine large payload) ∨
        (¬ IsFinal engine (readReport response) ∧
          w.page.output.text engine large =
            formatStatus engine large payload ++ "\nstatus: timeout")) := by
  have hgiven := (World.follows_of_run hrun hhonest).output
  obtain ⟨-, hended⟩ := (World.phase_of_calm hrun hcalm).rest hidle
  rcases hended.report hshows with ⟨hfinal, heq⟩ | ⟨hfinal, heq⟩
  · rw [heq] at hgiven
    obtain ⟨m, n, created, response, hmn, hm, hn, rfl⟩ := hgiven
    exact ⟨m, n, created, response, hmn, hm, hn, rfl, Or.inl ⟨hfinal, by rw [heq]; rfl⟩⟩
  · rw [heq] at hgiven
    obtain ⟨m, n, created, response, hmn, hm, hn, rfl⟩ := hgiven
    exact ⟨m, n, created, response, hmn, hm, hn, rfl, Or.inr ⟨hfinal, by rw [heq]; rfl⟩⟩

/-- **The plan page and a reliable service.**  In every run of the page and of a service whose
answers clients can rely on, in which the page is calm and what it reads was given by the
service, if no handler is running and the page shows a report, then the report is about an
invoice that the service had created before, with the expiry that was given with the invoice.
Either it is all that is shown and has a pass, and every later report of the service about this
invoice has the same pass and the same expiry; or it says that the invoice is pending, has no
pass, and stands above the line of the timeout. -/
theorem rest_reliable {s₀ : S} {clock : ℕ} {w : World S} {t : World.Trace S A}
    (hrun : Run (World.step serve answer engine) (.init s₀ clock) t w)
    (hhonest : ∀ e ∈ t, e.1.Honest large e.2) (hcalm : ∀ e ∈ t, e.1.Calm e.2)
    (hreliable : Reliable lenient w.given) (hidle : ∀ button, w.page.handlers button = .idle)
    {payload : Value} (hshows : w.page.output.report = some payload) :
    ∃ (m n : ℕ) (created : InvoiceResponse) (response : StatusResponse),
      m < n ∧ w.given[m]? = some (.created created) ∧
      w.given[n]? = some (.reported created.invoiceId (.ok response)) ∧
      payload = readReport response ∧ response.expiresAt = created.expiresAt ∧
      ((w.page.output.text engine large = formatStatus engine large payload ∧
          ∃ token, response.accessToken = some token ∧
            ∀ k result, n < k → w.given[k]? = some (.reported created.invoiceId result) →
              ∃ later, result = .ok later ∧ later.accessToken = some token ∧
                later.expiresAt = created.expiresAt) ∨
        (w.page.output.text engine large =
            formatStatus engine large payload ++ "\nstatus: timeout" ∧
          response.status = "pending" ∧
          engine.truthy (prop payload "access_token") = false)) := by
  obtain ⟨m, n, created, response, hmn, hm, hn, rfl, hends⟩ :=
    report_of_rest hrun hhonest hcalm hidle hshows
  have hplain := hreliable.plain _ _ (List.mem_of_getElem? hn)
  obtain ⟨later, hlater, hexpires⟩ := hreliable.getElem hmn hm hn rfl
  obtain rfl := Except.ok.inj hlater
  refine ⟨m, n, created, response, hmn, hm, hn, rfl, hexpires, ?_⟩
  rcases hends with ⟨hfinal, htext⟩ | ⟨hopen, htext⟩
  · obtain ⟨token, htoken⟩ := Option.isSome_iff_exists.1 (token_of_final hplain hfinal)
    refine Or.inl ⟨htext, token, htoken, fun k result hnk hk => ?_⟩
    obtain ⟨later, hlater, hexpires', hkept⟩ := hreliable.getElem hnk hn hk rfl
    exact ⟨later, hlater, hkept token htoken, hexpires'.trans hexpires⟩
  · obtain ⟨hsettled, hpass⟩ := not_or.1 hopen
    refine Or.inr ⟨htext, ?_, Bool.not_eq_true _ ▸ hpass⟩
    rcases hplain with ⟨hstatus, -⟩ | hpending
    · exact absurd (congrArg some hstatus) hsettled
    · exact hpending

end

section

variable {svc : ProofService} {engine : Engine} {large : ℕ → String} {start : UInt64} {clock : ℕ}
  {w : World Lightning.State} {t : World.Trace Lightning.State Lightning.Action}

/-- What the service reported is what it had stored. -/
lemma checkInvoice_of_given
    (hrun : Run (World.step (Lightning.step svc) Lightning.State.answer engine)
      (.init (.init start) clock) t w) {id : String} {response : StatusResponse}
    (hmem : .reported id (.ok response) ∈ w.given) :
    ∃ s i, (s, .checkInvoice i id) ∈ World.served t ∧
      checkInvoice s.sessions id = .ok response := by
  rw [World.given_of_run hrun] at hmem
  obtain ⟨⟨s, a⟩, hserved, hanswer⟩ := List.mem_filterMap.1 hmem
  cases a with
  | checkInvoice i id' =>
      obtain ⟨rfl, hresult⟩ := Answer.reported.inj (Option.some.inj hanswer)
      refine ⟨s, i, hserved, ?_⟩
      cases hcheck : checkInvoice s.sessions id' with
      | error e =>
          rw [hcheck] at hresult
          cases hresult
      | ok response' =>
          rw [hcheck] at hresult
          rw [Except.ok.inj hresult]
  | insertIndex i =>
      -- the answer to a creation is no report
      simp only [Lightning.State.answer] at hanswer
      split at hanswer
      · cases hanswer
      · cases hanswer
  | _ => cases hanswer

/-- **The plan page and the proof service.**  In every run of the two in which the page is calm,
what it reads was given by the service, and no invoice id and no payment hash is drawn twice, if
no handler is running and the page shows a report, then it is about an invoice that the service
created.  Either the report is all that is shown, and it is what the service still has to say
about the invoice: the invoice is settled, an event arrived for its payment hash, and the verifier
accepts the pass that is shown up to the expiry.  Or it is what the service had to say when it
was asked, the invoice was not settled then, and the report stands above the line of the
timeout. -/
theorem rest_paid
    (hrun : Run (World.step (Lightning.step svc) Lightning.State.answer engine)
      (.init (.init start) clock) t w)
    (hhonest : ∀ e ∈ t, e.1.Honest large e.2) (hcalm : ∀ e ∈ t, e.1.Calm e.2)
    (honce : DrawnOnce (World.served t)) (hS : svc.scheme.Correct)
    (hidle : ∀ button, w.page.handlers button = .idle) {payload : Value}
    (hshows : w.page.output.report = some payload) :
    ∃ created, .created created ∈ w.given ∧
      ((w.page.output.text engine large = formatStatus engine large payload ∧
          ∃ session token, w.service.sessions.lookup created.invoiceId = some session ∧
            payload = readReport session.toStatusResponse ∧ session.status = .settled ∧
            Arrived (World.served t) session.paymentHash ∧ session.accessToken = some token ∧
            ∀ (host : Host svc.scheme) (args : Args),
              loadPublicKey host args.publicKey = .ok (svc.scheme.verifyingKey svc.keypair) →
              args.readToken host = .ok token →
              ∀ now now', run host args now now' = .ok (decide (now' ≤ session.expiresAt))) ∨
        (w.page.output.text engine large =
            formatStatus engine large payload ++ "\nstatus: timeout" ∧
          ∃ s i session, (s, .checkInvoice i created.invoiceId) ∈ World.served t ∧
            s.sessions.lookup created.invoiceId = some session ∧
            payload = readReport session.toStatusResponse ∧ session.status = .pending)) := by
  obtain ⟨m, n, created, response, -, hm, hn, rfl, hends⟩ :=
    report_of_rest hrun hhonest hcalm hidle hshows
  refine ⟨created, List.mem_of_getElem? hm, ?_⟩
  obtain ⟨s, i, hserved, hcheck⟩ := checkInvoice_of_given hrun (List.mem_of_getElem? hn)
  obtain ⟨session, hid, rfl⟩ := checkInvoice_eq_ok hcheck
  rcases hends with ⟨hfinal, htext⟩ | ⟨hopen, htext⟩
  · have hservice := World.service_run hrun
    obtain ⟨t₁, t₂, s', heq, hrun₁, -, -⟩ := hservice.of_mem hserved
    have honce₁ : DrawnOnce t₁ := DrawnOnce.left (heq ▸ honce)
    obtain ⟨-, -, -, hsealed⟩ := (tracked_of_run hrun₁ honce₁).session _ session hid
    have htoken : session.accessToken.isSome :=
      token_of_final (lenient_of_strict hsealed.plain) hfinal
    have hstatus := hsealed.token.1 htoken
    obtain ⟨token, htoken⟩ := Option.isSome_iff_exists.1 htoken
    have hkept := settled_kept hservice honce hserved hid hstatus
    refine Or.inl ⟨htext, session, token, hkept, rfl, hstatus,
      arrived_of_settled hservice honce hkept hstatus, htoken, ?_⟩
    intro host args hload hinput now now'
    rw [hsealed.token_eq token htoken] at hinput
    exact run_compact hS hload hinput now now'
  · refine Or.inr ⟨htext, s, i, session, hserved, hid, rfl, ?_⟩
    cases hstatus : session.status with
    | pending => rfl
    | settled =>
        refine absurd (Or.inl ?_) hopen
        rw [readReport, AccessSession.toStatusResponse, hstatus]
        rfl

end

/-! ### An invoice that is paid -/

section

variable {S A : Type*} {large : ℕ → String} {w : World S} {a : World.Action A}

def Callback.answeredBy (large : ℕ → String) : Callback → Answer → Value → Bool
  | .create _, .created response, v => decide (readInvoice response = v)
  | .report _ poll, .reported id (.ok response), v =>
      decide (id = asText large poll.invoiceId) && decide (readReport response = v)
  | _, _, _ => false

lemma Callback.answered_of_answeredBy {callback : Callback} {answer : Answer} {v : Value}
    (h : callback.answeredBy large answer v = true) : callback.Answered large answer v := by
  cases callback with
  | create button =>
      cases answer with
      | created response => exact of_decide_eq_true h ▸ parse_invoice response
      | reported id result => cases h
  | interval poll due => cases h
  | report interval poll =>
      cases answer with
      | created response => cases h
      | reported id result =>
          cases result with
          | error e => cases h
          | ok response =>
              obtain ⟨hid, hsame⟩ := (Bool.and_eq_true _ _).mp h
              exact ⟨of_decide_eq_true hid, of_decide_eq_true hsame ▸ parse_report response⟩

/-- The step is honest and calm, and no click. -/
def World.plain (large : ℕ → String) (w : World S) : World.Action A → Bool
  | .service _ => true
  | .page (.answer handle (.response _ (.ok v))) =>
      w.page.pending.all fun e => e.1 != handle ||
        (List.range w.given.length).any fun n => decide (w.sent handle ≤ n) &&
          w.given[n]?.any fun answer => e.2.answeredBy large answer v
  | .page a => undisturbed w.page a

lemma World.calm_of_plain (h : w.plain large a = true) : w.Calm a := by
  cases a with
  | service a => exact True.intro
  | page a =>
      cases a with
      | click button => cases h
      | fire handle =>
          have hundisturbed : undisturbed w.page (.fire handle) = true := h
          exact calm_of_undisturbed hundisturbed
      | elapse ms => exact True.intro
      | answer handle fetched => exact True.intro
      | reload => exact True.intro

lemma World.honest_of_plain (h : w.plain large a = true) : w.Honest large a := by
  cases a with
  | service a => exact True.intro
  | page a =>
      cases a with
      | answer handle fetched =>
          cases fetched with
          | failure message => exact True.intro
          | response status body =>
              cases body with
              | error message => exact True.intro
              | ok v =>
                  intro _ callback hmem
                  have hentry := List.all_eq_true.1 h _ hmem
                  simp only [bne_self_eq_false, Bool.false_or, List.any_eq_true,
                    Bool.and_eq_true, decide_eq_true_iff, Option.any_eq_true] at hentry
                  obtain ⟨n, -, hsent, answer, hanswer, hanswered⟩ := hentry
                  exact ⟨n, answer, hsent, hanswer, Callback.answered_of_answeredBy hanswered⟩
      | _ => exact True.intro

end

/-- What the service of the example answers. -/
def demoGiven : List Answer :=
  (execute (Lightning.step demoService) (.init 0)
    (demoActions ++ [.checkInvoice 3 demoId.text])).elim [] fun r => answers r.1

/-- The body of an answer. -/
def demoReply (n : ℕ) : Checkout.Fetched :=
  .response 200 (.ok (match demoGiven[n]? with
    | some (.created response) => readInvoice response
    | some (.reported _ (.ok response)) => readReport response
    | _ => .null))

/-- The button has been pressed.  The invoice is created, and paid after the page has asked for
the first report. -/
def demoVisit : List (World.Action Lightning.Action) :=
  (demoActions.take 5).map .service ++
    [.page (.answer 1 (demoReply 0)), .page (.elapse 2000), .page (.fire 2)] ++
    (demoActions.drop 5).map .service ++
    [.service (.checkInvoice 3 demoId.text), .page (.answer 3 (demoReply 1))]

/-- The answers are an invoice and a report that it is settled, with the same expiry. -/
def settledOnce : List Answer → Bool
  | [.created created, .reported _ (.ok response)] =>
      response.status == "settled" && response.accessToken.isSome &&
        response.expiresAt == created.expiresAt
  | _ => false

lemma reliable_of_settledOnce {given : List Answer} (h : settledOnce given = true) :
    Reliable lenient given := by
  match given, h with
  | [.created created, .reported id (.ok response)], h =>
      simp only [settledOnce, Bool.and_eq_true, beq_iff_eq] at h
      obtain ⟨⟨hstatus, htoken⟩, hexpires⟩ := h
      refine ⟨?_, ?_, ?_⟩
      · intro id' response' hmem
        obtain ⟨rfl, rfl⟩ : id' = id ∧ response' = response := by simpa using hmem
        exact Or.inl ⟨hstatus, htoken⟩
      · intro id' e hmem
        exact absurd hmem (by simp)
      · rw [List.pairwise_pair]
        exact fun _ => ⟨response, rfl, hexpires⟩

abbrev demoStep : World Lightning.State → World.Action Lightning.Action →
    Option (World Lightning.State) :=
  World.step (Lightning.step demoService) Lightning.State.answer demoEngine

/-- The visit leaves the page with a report at rest. -/
lemma demoVisit_run :
    ∃ (t : World.Trace Lightning.State Lightning.Action) (w : World Lightning.State)
      (payload : Value), Run demoStep (.init (.init 0) 0) t w ∧
      (∀ e ∈ t, e.1.Honest (fun _ => "") e.2) ∧ (∀ e ∈ t, e.1.Calm e.2) ∧
      DrawnOnce (World.served t) ∧ settledOnce w.given = true ∧
      (∀ button, w.page.handlers button = .idle) ∧ w.page.output = .status payload ∧
      asString (prop payload "status") = some "settled" := by
  obtain ⟨first, hfirst⟩ : ∃ first,
      demoStep (.init (.init 0) 0) (.page (.click 0)) = some first := ⟨_, rfl⟩
  obtain ⟨t, w, hrun, -, hcheck⟩ : ∃ t w, Run demoStep first t w ∧
      t.map Prod.snd = demoVisit ∧
      ((t.all fun e => e.1.plain (fun _ => "") e.2) && decide (ids (World.served t)).Nodup &&
        decide (hashes (World.served t)).Nodup && settledOnce w.given &&
        w.page.output.reports "settled" && w.page.pending.isEmpty) = true := by
    obtain rfl := Option.some.inj hfirst
    exact exists_run_of_check _ (by decide +kernel)
  simp only [Bool.and_eq_true, List.all_eq_true, decide_eq_true_iff, List.isEmpty_iff] at hcheck
  obtain ⟨⟨⟨⟨⟨hplain, hids⟩, hhashes⟩, hsettled⟩, hreports⟩, hpending⟩ := hcheck
  have hrun' := Run.cons hfirst hrun
  have hcalm : ∀ e ∈ (.init (.init 0) 0, .page (.click 0)) :: t, World.Calm e.1 e.2 := by
    intro e he
    rcases List.mem_cons.1 he with rfl | he
    · exact fun _ => rfl
    · exact World.calm_of_plain (hplain e he)
  obtain ⟨payload, hshows, hstatus⟩ : ∃ payload, w.page.output = .status payload ∧
      asString (prop payload "status") = some "settled" := by
    cases houtput : w.page.output with
    | status payload =>
        rw [houtput] at hreports
        exact ⟨payload, rfl, of_decide_eq_true hreports⟩
    | _ => simp [houtput, Output.reports] at hreports
  refine ⟨_, w, payload, hrun', ?_, hcalm, ⟨hids, hhashes⟩, hsettled,
    (World.phase_of_calm hrun' hcalm).idle hpending, hshows, hstatus⟩
  intro e he
  rcases List.mem_cons.1 he with rfl | he
  · exact True.intro
  · exact World.honest_of_plain (hplain e he)

theorem rest_reliable_demo :
    ∃ (t : World.Trace Lightning.State Lightning.Action) (w : World Lightning.State) (m n : ℕ)
      (created : InvoiceResponse) (response : StatusResponse) (token : String),
      Run demoStep (.init (.init 0) 0) t w ∧ m < n ∧ w.given[m]? = some (.created created) ∧
      w.given[n]? = some (.reported created.invoiceId (.ok response)) ∧
      w.page.output = .status (readReport response) ∧ response.accessToken = some token := by
  obtain ⟨t, w, payload, hrun, hhonest, hcalm, -, hsettled, hidle, hshows, hstatus⟩ :=
    demoVisit_run
  have hreport : w.page.output.report = some payload := by rw [hshows, Output.report]
  obtain ⟨m, n, created, response, hmn, hm, hn, rfl, -, ⟨-, token, htoken, -⟩ | ⟨-, hpending, -⟩⟩ :=
    rest_reliable hrun hhonest hcalm (reliable_of_settledOnce hsettled) hidle hreport
  · exact ⟨t, w, m, n, created, response, token, hrun, hmn, hm, hn, hshows, htoken⟩
  · have hname : some response.status = some "settled" := hstatus
    rw [hpending] at hname
    exact absurd hname (by decide)

theorem rest_paid_demo :
    ∃ (t : World.Trace Lightning.State Lightning.Action) (w : World Lightning.State)
      (session : AccessSession) (token : String), Run demoStep (.init (.init 0) 0) t w ∧
      w.page.output = .status (readReport session.toStatusResponse) ∧
      session.accessToken = some token ∧ Arrived (World.served t) session.paymentHash ∧
      run (Host.withKey (S := demoService.scheme) ()) (demoArgs token) 0 900 =
        .ok (decide ((900 : UInt64) ≤ session.expiresAt)) := by
  obtain ⟨t, w, payload, hrun, hhonest, hcalm, honce, -, hidle, hshows, hstatus⟩ := demoVisit_run
  have hreport : w.page.output.report = some payload := by rw [hshows, Output.report]
  obtain ⟨created, -, ⟨-, session, token, -, rfl, -, harrived, htoken, hopens⟩ |
      ⟨-, s, i, session, -, -, rfl, hpending⟩⟩ :=
    rest_paid hrun hhonest hcalm honce Signing.Scheme.constant_correct hidle hreport
  · exact ⟨t, w, session, token, hrun, hshows, htoken, harrived,
      hopens _ (demoArgs token) (loadPublicKey_withKey _ _) (Args.readToken_of_token rfl) 0 900⟩
  · have hname : some session.toStatusResponse.status = some "settled" := hstatus
    rw [AccessSession.toStatusResponse, hpending] at hname
    exact absurd hname (by simp)

end Haske.Plan
