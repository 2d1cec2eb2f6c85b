import Haske.Plan.Page

/-!
# The plan page at rest

If the buttons are pressed one at a time, and every request for a report ends before the
interval fires again, then at most one poll is running, and it has at most one request
outstanding (`Phase`).  So what the page shows when no handler is running is the last word: a
report of an invoice that is still open has the line of the timeout below it, and only a click or
a reload changes what is shown (`rest_of_run`).

Without this the page can come to rest with an old report and without the line, as an example at
the end shows.
-/

namespace Haske.Plan

open Json Js Machine

abbrev Trace := List (Page × Action)

section

variable (engine : Engine)

/-- The output is about an invoice that is still open, as far as the page knows. -/
def Output.IsOpen : Output → Prop
  | .pending _ => True
  | .status payload => ¬ IsFinal engine payload
  | .timeout output => output.IsOpen
  | _ => False

/-- The output is that of a poll that goes on. -/
def Output.GoesOn (output : Output) : Prop :=
  output.IsOpen engine ∧ ∀ shown, output ≠ .timeout shown

/-- There is nothing in the data to ask for a report about. -/
def NoInvoice (data : Value) : Prop :=
  ¬ (engine.truthy (some data) = true ∧ engine.truthy (prop data "invoice_id") = true)

/-- The output is one to come to rest with. -/
inductive Output.Ended : Output → Prop
  | waiting : Ended .waiting
  | failed (message : String) : Ended (.failed message)
  | created {data : Value} (h : NoInvoice engine data) : Ended (.created data)
  | status {payload : Value} (h : IsFinal engine payload) : Ended (.status payload)
  | timeout {output : Output} (h : output.GoesOn engine) : Ended (.timeout output)

/-- Buttons are pressed one at a time, and an interval fires when its last request has ended. -/
def Calm (page : Page) : Action → Prop
  | .click _ => ∀ button, page.handlers button = .idle
  | .fire _ => ∀ handle interval poll, (handle, .report interval poll) ∉ page.pending
  | _ => True

/-- What the page is doing. -/
inductive Phase (page : Page) : Prop
  | resting (hidle : ∀ button, page.handlers button = .idle) (hpending : page.pending = [])
      (houtput : page.output.Ended engine)
  | requesting (handle button : ℕ) (hbutton : page.handlers button = .requesting)
      (hidle : ∀ other, other ≠ button → page.handlers other = .idle)
      (hpending : page.pending = [(handle, .create button)])
  | polling (interval due : ℕ) (poll : Poll) (reports : List (ℕ × Callback))
      (hbutton : page.handlers poll.button = .polling interval)
      (hidle : ∀ other, other ≠ poll.button → page.handlers other = .idle)
      (hpending : page.pending = (interval, .interval poll due) :: reports)
      (hreports : reports = [] ∨
        ∃ handle, interval < handle ∧ reports = [(handle, .report interval poll)])
      (hlt : interval < page.nextHandle) (houtput : page.output.GoesOn engine)

end

variable {engine : Engine} {page page' : Page} {a : Action} {t : Trace}

/-- A poll ends with nothing outstanding. -/
lemma phase_pollEnds {interval : ℕ} {poll : Poll} {output : Output}
    (hbutton : page.handlers poll.button = .polling interval)
    (hidle : ∀ other, other ≠ poll.button → page.handlers other = .idle)
    (hpending : ∀ e ∈ page.pending, e.1 = interval) (houtput : output.Ended engine) :
    Phase engine (pollEnds interval poll output page) := by
  have hends : pollEnds interval poll output page =
      ({ page.remove interval with output := output }).setHandler poll.button .idle :=
    if_pos hbutton
  rw [hends]
  refine .resting (fun button => ?_) ?_ houtput
  · by_cases hother : button = poll.button
    · subst hother
      exact Function.update_self ..
    · exact (Function.update_of_ne hother ..).trans (hidle button hother)
  · refine List.filter_eq_nil_iff.2 fun e he => ?_
    simpa using hpending e he

lemma phase_pollInvoiceStatus {button : ℕ} {invoiceId : Value}
    (hidle : ∀ other, other ≠ button → page.handlers other = .idle)
    (hpending : page.pending = []) :
    Phase engine (pollInvoiceStatus button invoiceId page) := by
  refine .polling page.nextHandle (page.clock + pollMs)
    { button := button, invoiceId := invoiceId, startedAt := page.clock } [] ?_ ?_ ?_
    (Or.inl rfl) (Nat.lt_succ_self _) ⟨True.intro, nofun⟩
  · exact Function.update_self ..
  · intro other hother
    exact (Function.update_of_ne hother ..).trans (hidle other hother)
  · show page.pending ++ _ = _
    rw [hpending, List.nil_append]

lemma phase_createEnds {button : ℕ} {result : Except String Value}
    (hidle : ∀ other, other ≠ button → page.handlers other = .idle)
    (hpending : page.pending = []) : Phase engine (createEnds engine button result page) := by
  have hrest : ∀ output : Output, output.Ended engine →
      Phase engine ({ page with output := output }.setHandler button .idle) := by
    intro output houtput
    refine .resting (fun other => ?_) hpending houtput
    by_cases hother : other = button
    · subst hother
      exact Function.update_self ..
    · exact (Function.update_of_ne hother ..).trans (hidle other hother)
  cases result with
  | error message => exact hrest _ (.failed message)
  | ok data =>
      rw [createEnds]
      dsimp only
      split_ifs with hinvoice hconverts
      · exact phase_pollInvoiceStatus hidle hpending
      · exact hrest _ (.failed notPrimitive)
      · exact hrest _ (.created hinvoice)

lemma phase_reportEnds {interval due : ℕ} {poll : Poll} {result : Except String Value}
    (hbutton : page.handlers poll.button = .polling interval)
    (hidle : ∀ other, other ≠ poll.button → page.handlers other = .idle)
    (hpending : page.pending = [(interval, .interval poll due)])
    (hlt : interval < page.nextHandle) :
    Phase engine (reportEnds engine interval poll result page) := by
  have hends : ∀ output : Output, output.Ended engine →
      Phase engine (pollEnds interval poll output page) := fun output houtput =>
    phase_pollEnds hbutton hidle (by simp [hpending]) houtput
  rw [reportEnds.eq_def]
  split
  · exact hends _ (.failed _)
  · exact hends _ (.failed _)
  · split_ifs with hwritten hfinal
    · exact hends _ (.status hfinal)
    · exact .polling interval due poll [] hbutton hidle hpending (Or.inl rfl) hlt ⟨hfinal, nofun⟩
    · exact hends _ (.failed notPrimitive)

lemma Phase.step (h : Phase engine page) (hcalm : Calm page a)
    (hstep : Effect engine page a page') : Phase engine page' := by
  cases hstep with
  | elapse =>
      cases h with
      | resting hidle hpending houtput => exact .resting hidle hpending houtput
      | requesting handle button hbutton hidle hpending =>
          exact .requesting handle button hbutton hidle hpending
      | polling interval due poll reports hbutton hidle hpending hreports hlt houtput =>
          exact .polling interval due poll reports hbutton hidle hpending hreports hlt houtput
  | @click button hbutton =>
      have hnothing : page.pending = [] := by
        cases h with
        | resting _ hpending _ => exact hpending
        | requesting _ other hother _ _ =>
            rw [hcalm other] at hother
            cases hother
        | polling _ _ poll _ hother _ _ _ _ _ =>
            rw [hcalm poll.button] at hother
            cases hother
      refine .requesting page.nextHandle button (Function.update_self ..)
        (fun other hother => ?_) ?_
      · exact (Function.update_of_ne hother ..).trans (hcalm other)
      · show page.pending ++ _ = _
        rw [hnothing, List.nil_append]
  | @fire handle due poll hmem hdue =>
      cases h with
      | resting _ hpending _ => exact absurd hmem (by simp [hpending])
      | requesting _ _ _ _ hpending => exact absurd hmem (by simp [hpending])
      | polling interval due' poll' reports hbutton hidle hpending hreports hlt houtput =>
          have hnone : reports = [] := by
            rcases hreports with hnone | ⟨last, -, hreport⟩
            · exact hnone
            · exact absurd (by simp [hpending, hreport]) (hcalm last interval poll')
          subst hnone
          obtain ⟨rfl, rfl, rfl⟩ : handle = interval ∧ poll = poll' ∧ due = due' := by
            simpa [hpending] using hmem
          rw [intervalFires]
          split_ifs
          · exact phase_pollEnds hbutton hidle (by simp [hpending]) (.timeout houtput)
          · refine .polling handle (page.clock + pollMs) poll
              [(page.nextHandle, .report handle poll)] hbutton hidle ?_
              (Or.inr ⟨page.nextHandle, hlt, rfl⟩) (Nat.lt_succ_of_lt hlt) houtput
            simp [Page.push, Page.reschedule, hpending]
  | @created handle button fetched hmem =>
      cases h with
      | resting _ hpending _ => exact absurd hmem (by simp [hpending])
      | requesting handle' button' hbutton hidle hpending =>
          obtain ⟨rfl, rfl⟩ : handle = handle' ∧ button = button' := by simpa [hpending] using hmem
          exact phase_createEnds hidle (by simp [Page.remove, hpending])
      | polling interval due poll reports _ _ hpending hreports _ _ =>
          rcases hreports with rfl | ⟨last, -, rfl⟩ <;> exact absurd hmem (by simp [hpending])
  | @reported handle interval poll fetched hmem =>
      cases h with
      | resting _ hpending _ => exact absurd hmem (by simp [hpending])
      | requesting _ _ _ _ hpending => exact absurd hmem (by simp [hpending])
      | polling interval' due poll' reports hbutton hidle hpending hreports hlt houtput =>
          rcases hreports with rfl | ⟨last, hlast, rfl⟩
          · exact absurd hmem (by simp [hpending])
          · obtain ⟨rfl, rfl, rfl⟩ : handle = last ∧ interval = interval' ∧ poll = poll' := by
              simpa [hpending] using hmem
            have hleft : (page.remove handle).pending = [(interval, .interval poll due)] := by
              simp [Page.remove, hpending, hlast.ne]
            exact phase_reportEnds hbutton hidle hleft hlt
  | reload => exact .resting (fun _ => rfl) rfl .waiting

lemma phase_of_run {clock : ℕ} (hrun : Run (step engine) (load clock 1) t page)
    (hcalm : ∀ e ∈ t, Calm e.1 e.2) : Phase engine page := by
  refine Run.invariant_of_guard (P := fun _ page => Phase engine page) hrun hcalm ?_ ?_
  · exact .resting (fun _ => rfl) rfl .waiting
  · intro _ page a page' _ h hcalm hstep
    exact h.step hcalm (effect_of_step hstep)

/-- Without anything outstanding, no handler is running. -/
lemma Phase.idle (h : Phase engine page) (hpending : page.pending = []) (button : ℕ) :
    page.handlers button = .idle := by
  cases h with
  | resting hidle _ _ => exact hidle button
  | requesting _ _ _ _ hone => exact absurd (hone.symm.trans hpending) (by simp)
  | polling _ _ _ _ _ _ hone _ _ _ => exact absurd (hone.symm.trans hpending) (by simp)

/-- Without a handler that is running, nothing is outstanding. -/
lemma Phase.rest (h : Phase engine page) (hidle : ∀ button, page.handlers button = .idle) :
    page.pending = [] ∧ page.output.Ended engine := by
  cases h with
  | resting _ hpending houtput => exact ⟨hpending, houtput⟩
  | requesting _ button hbutton _ _ =>
      rw [hidle button] at hbutton
      cases hbutton
  | polling _ _ poll _ hbutton _ _ _ _ _ =>
      rw [hidle poll.button] at hbutton
      cases hbutton

/-- What is about an open invoice has the line of the timeout below it. -/
lemma Output.Ended.timeout_of_open {output : Output} (h : output.Ended engine)
    (hopen : output.IsOpen engine) : ∃ shown, shown.GoesOn engine ∧ output = .timeout shown := by
  cases h with
  | timeout hshown => exact ⟨_, hshown, rfl⟩
  | status hfinal => exact absurd hfinal hopen
  | _ => exact hopen.elim

lemma Output.Ended.text {output : Output} (h : output.Ended engine) (large : ℕ → String) :
    output.text engine large = "Waiting for invoice..." ∨
      (∃ message, output.text engine large = "API error: " ++ message) ∨
      (∃ data, NoInvoice engine data ∧ output.text engine large = pretty large "" data) ∨
      (∃ payload, IsFinal engine payload ∧
        output.text engine large = formatStatus engine large payload) ∨
      ∃ shown : Output, shown.GoesOn engine ∧
        output.text engine large = shown.text engine large ++ "\nstatus: timeout" := by
  cases h with
  | waiting => exact Or.inl rfl
  | failed message => exact Or.inr (Or.inl ⟨message, rfl⟩)
  | created hdata => exact Or.inr (Or.inr (Or.inl ⟨_, hdata, rfl⟩))
  | status hfinal => exact Or.inr (Or.inr (Or.inr (Or.inl ⟨_, hfinal, rfl⟩)))
  | timeout hshown => exact Or.inr (Or.inr (Or.inr (Or.inr ⟨_, hshown, rfl⟩)))

/-- **The plan page at rest.**  In every calm run of the page, whatever is answered, the output
is about an open invoice whenever a poll is running, without the line of the timeout.  When no
handler is running, the text is that of a page that was loaded, of an error, of data without an
invoice or of a report that ends the poll; or it is what is shown of an open invoice, with the
line of the timeout below it.  The output is about an open invoice only with this line, and
nothing but a click or a reload changes it. -/
theorem rest_of_run {clock : ℕ} (hrun : Run (step engine) (load clock 1) t page)
    (hcalm : ∀ e ∈ t, Calm e.1 e.2) (large : ℕ → String) :
    (∀ button interval, page.handlers button = .polling interval →
      page.output.GoesOn engine) ∧
    ((∀ button, page.handlers button = .idle) →
      (page.output.text engine large = "Waiting for invoice..." ∨
        (∃ message, page.output.text engine large = "API error: " ++ message) ∨
        (∃ data, NoInvoice engine data ∧ page.output.text engine large = pretty large "" data) ∨
        (∃ payload, IsFinal engine payload ∧
          page.output.text engine large = formatStatus engine large payload) ∨
        ∃ shown : Output, shown.GoesOn engine ∧
          page.output.text engine large = shown.text engine large ++ "\nstatus: timeout") ∧
      (page.output.IsOpen engine →
        ∃ shown, shown.GoesOn engine ∧ page.output = .timeout shown) ∧
      ∀ a page', step engine page a = some page' →
        (∃ button, a = .click button) ∨ a = .reload ∨
          page'.output = page.output ∧ ∀ button, page'.handlers button = .idle) := by
  have hphase := phase_of_run hrun hcalm
  constructor
  · intro button interval hbutton
    cases hphase with
    | resting hidle _ _ =>
        rw [hidle button] at hbutton
        cases hbutton
    | requesting _ other hother hidle _ =>
        by_cases heq : button = other
        · rw [heq, hother] at hbutton
          cases hbutton
        · rw [hidle button heq] at hbutton
          cases hbutton
    | polling _ _ _ _ _ _ _ _ _ houtput => exact houtput
  · intro hidle
    obtain ⟨hpending, hended⟩ := hphase.rest hidle
    refine ⟨hended.text large, hended.timeout_of_open, fun a page' hstep => ?_⟩
    cases effect_of_step hstep with
    | elapse => exact Or.inr (Or.inr ⟨rfl, hidle⟩)
    | click _ => exact Or.inl ⟨_, rfl⟩
    | fire hmem _ => exact absurd hmem (by simp [hpending])
    | created hmem => exact absurd hmem (by simp [hpending])
    | reported hmem => exact absurd hmem (by simp [hpending])
    | reload => exact Or.inr (Or.inl rfl)

/-! ### An invoice that is paid -/

def demoEngine : Engine where
  truthyLiteral _ := true
  secondsLeft _ _ := none

def demoCreated : Checkout.Fetched :=
  .response 200 (.ok (.obj [("invoice_id", .str "k3jd82lmqw0z"), ("expires_at", .nat 900)]))

def demoReport (status : String) (accessToken : Value) : Checkout.Fetched :=
  .response 200 (.ok (.obj [("status", .str status), ("expires_at", .nat 900),
    ("access_token", accessToken)]))

/-- The invoice is created, and the first request for a report is sent. -/
def demoPoll : List Action := [.answer 1 demoCreated, .elapse 2000, .fire 2]

/-- The step is no click, and calm. -/
def undisturbed (page : Page) : Action → Bool
  | .click _ => false
  | .fire _ => page.pending.all fun e =>
      match e.2 with
      | .report _ _ => false
      | _ => true
  | _ => true

lemma calm_of_undisturbed (h : undisturbed page a = true) : Calm page a := by
  cases a with
  | click button => cases h
  | fire handle =>
      intro last interval poll hmem
      cases List.all_eq_true.1 h _ hmem
  | _ => exact True.intro

/-- Whether the output is a report with this status. -/
def Output.reports (status : String) : Output → Bool
  | .status payload => decide (asString (prop payload "status") = some status)
  | _ => false

theorem rest_of_run_demo :
    ∃ t page, Run (step demoEngine) (load 0 1) t page ∧ page.output.reports "settled" = true ∧
      ¬ page.output.IsOpen demoEngine ∧ ∀ button, page.handlers button = .idle := by
  obtain ⟨first, hfirst⟩ : ∃ first, step demoEngine (load 0 1) (.click 0) = some first := ⟨_, rfl⟩
  obtain ⟨t, page, hrun, -, hcheck⟩ : ∃ t page, Run (step demoEngine) first t page ∧
      t.map Prod.snd = demoPoll ++ [.answer 3 (demoReport "settled" (.str "pass"))] ∧
      ((t.all fun e => undisturbed e.1 e.2) && page.output.reports "settled" &&
        page.pending.isEmpty) = true := by
    obtain rfl := Option.some.inj hfirst
    exact exists_run_of_check _ (by decide +kernel)
  simp only [Bool.and_eq_true, List.all_eq_true, List.isEmpty_iff] at hcheck
  obtain ⟨⟨hall, hsettled⟩, hpending⟩ := hcheck
  have hcalm : ∀ e ∈ (load 0 1, Action.click 0) :: t, Calm e.1 e.2 := by
    intro e he
    rcases List.mem_cons.1 he with rfl | he
    · exact fun _ => rfl
    · exact calm_of_undisturbed (hall e he)
  have hrun' := Run.cons hfirst hrun
  have hidle := (phase_of_run hrun' hcalm).idle hpending
  refine ⟨_, page, hrun', hsettled, fun hopen => ?_, hidle⟩
  obtain ⟨shown, -, heq⟩ := ((rest_of_run hrun' hcalm fun _ => "").2 hidle).2.1 hopen
  rw [heq] at hsettled
  cases hsettled

/-- After 90 seconds the page rests with the report of an invoice that is not paid. -/
example : ∃ t page, Run (step demoEngine) (load 0 1) t page ∧
    t.map Prod.snd = [.click 0] ++ demoPoll ++ [.answer 3 (demoReport "pending" .null),
      .elapse 88001, .fire 2] ∧
    (page.pending.isEmpty && decide (page.output.text demoEngine (fun _ => "") =
      "status: pending\nexpires_at: 900\nstatus: timeout")) = true :=
  exists_run_of_check _ (by decide +kernel)

/-- A report that is overtaken by the last one hides the pass, and nobody asks again. -/
example : ∃ t page, Run (step demoEngine) (load 0 1) t page ∧
    t.map Prod.snd = [.click 0] ++ demoPoll ++ [.elapse 2000, .fire 2,
      .answer 4 (demoReport "settled" (.str "pass")), .answer 3 (demoReport "pending" .null)] ∧
    (page.output.reports "pending" && page.pending.isEmpty) = true :=
  exists_run_of_check _ (by decide +kernel)

end Haske.Plan
