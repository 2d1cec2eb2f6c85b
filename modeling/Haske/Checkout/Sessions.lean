import Haske.Checkout.Calm

/-!
# Answers about an old session

A status request is sent for the session that the page has, and its answer is merged into
whatever the page knows when it arrives.  A request can outlive its session: the page
neither aborts it nor remembers what it was for.

If the session is only replaced when no status is being asked for (`Patient`), then a status
request is always for the session that the page has (`Current`).
-/

namespace Haske.Checkout

open Json Js Script Machine

/-- A status request is for the session that the page has. -/
def Current (page : Page) : Prop :=
  ∀ e ∈ page.pending, ∀ sessionId, e.2.request = some (.status sessionId) →
    sessionId = page.app.sessionId

/-- No status is being asked for. -/
def Idle (page : Page) : Prop := ∀ e ∈ page.pending, e.2.asksStatus = false

/-- The callback is the fetch for a new session. -/
def Callback.creates : Callback → Bool
  | .fetch (.create _) _ => true
  | _ => false

/-- A new session is asked for, or taken, only when no status is being asked for. -/
def Patient (page : Page) : Action → Prop
  | .click => Idle page
  | .answer handle fetched =>
      (page.pending.lookup handle).any Callback.creates = true → fetched.result.isOk = true →
        Idle page
  | _ => True

/-- The handling of an answer leaves what the page knows about the payment as it is. -/
structure Unaffected (page page' : Page) : Prop where
  state : page'.app.state = page.app.state
  requestExpiresAt : page'.app.requestExpiresAt = page.app.requestExpiresAt
  accessExpiresAt : page'.app.accessExpiresAt = page.app.accessExpiresAt
  paymentData : page'.app.paymentData = page.app.paymentData
  accessData : page'.app.accessData = page.app.accessData

variable {browser : Browser} {page page' : Page}

/-! ### What keeps the page current -/

lemma Idle.current (h : Idle page) : Current page := by
  intro e he sessionId hrequest
  have hnone := h e he
  rw [Callback.asksStatus, hrequest] at hnone
  cases hnone

lemma Idle.push (h : Idle page) {callback : Callback} (hnone : callback.asksStatus = false) :
    Idle (page.push callback) := by
  intro e he
  rcases List.mem_append.1 he with he | he
  · exact h e he
  · rw [List.mem_singleton.1 he]
    exact hnone

lemma Current.push (h : Current page) {callback : Callback}
    (hsession : ∀ sessionId, callback.request = some (.status sessionId) →
      sessionId = page.app.sessionId) : Current (page.push callback) := by
  intro e he sessionId hrequest
  rcases List.mem_append.1 he with he | he
  · exact h e he sessionId hrequest
  · rw [List.mem_singleton.1 he] at hrequest
    exact hsession sessionId hrequest

/-- No handler asks for a status. -/
lemma idle_carries : Carries True Idle where
  knows _ _ _ _ _ _ h := h
  stops _ h e he := h e (mem_stopTimers.1 he).1
  counts _ _ h := h
  polls _ h := h.push rfl
  confirms _ h := h.push rfl
  creates _ h := h.push rfl

/-- As long as the session is not replaced. -/
lemma current_carries : Carries False Current where
  knows page app storage shown calls hsame h e he sessionId hrequest :=
    (h e he sessionId hrequest).trans (hsame.resolve_left id).symm
  stops page h e he sessionId hrequest := by
    rw [stopTimers_app]
    exact h e (mem_stopTimers.1 he).1 sessionId hrequest
  counts _ _ h := h
  polls _ h := h.push nofun
  confirms _ h := h.push nofun
  creates _ h := h.push nofun

lemma Current.remove (h : Current page) (handle : ℕ) : Current (page.remove handle) :=
  fun e he => h e (List.mem_filter.1 he).1

lemma Current.answered (h : Current page) {request : Request} (retryCount : ℕ)
    {fetched : Fetched}
    (hsession : ∀ sessionId, request = .status sessionId → sessionId = page.app.sessionId)
    (hidle : ∀ body, request = .create body → fetched.result.isOk = true → Idle page) :
    (fetchEnds browser request retryCount fetched page).Ends Current Current := by
  refine current_carries.fetchEnds h ?_ ?_
  · intro data hdata
    cases request with
    | create body =>
        have hok : fetched.result.isOk = true := by
          rw [hdata]
          rfl
        have hends : (createEnds browser (.ok data) page).Ends Idle Idle :=
          idle_carries.createEnds (hidle body rfl hok) fun data _ =>
            idle_carries.createdSession (hidle body rfl hok) data
        exact hends.mono (fun _ h => h.current) fun _ h => h.current
    | status sessionId => exact current_carries.statusEnds h (.ok data)
  · intro page' due h' hsame
    refine h'.push fun sessionId hrequest => ?_
    rw [hsame]
    exact hsession sessionId (Option.some.inj hrequest)

lemma idle_load (storage : Option App) (clock : ℕ) (calls : List (PageState × PageState)) :
    Idle (load browser storage clock calls) := by
  refine idle_carries.load storage clock calls ?_
  intro page _ hpending e he
  exact absurd he (by simp [hpending])

/-! ### Runs -/

variable {a : Action}

lemma Current.step (h : Current page) (hpatient : Patient page a)
    (hstep : Checkout.step browser page a = some page') : Current page' := by
  cases effect_of_step hstep with
  | elapse => exact h
  | tick _ _ => exact (current_carries.updateCountdown (current_carries.counts page _ h)).state
  | poll _ _ =>
      -- the poll asks for the session of the page
      refine current_carries.checkStatus (h.remove _)
        ((h.remove _).push fun sessionId hrequest => ?_)
      exact (Request.status.inj (Option.some.inj hrequest)).symm
  | confirm _ _ => exact (current_carries.confirmPayment (h.remove _)).state
  | retry hget _ => exact (h.remove _).push (h _ (mem_of_lookup hget))
  | @answer handle retryCount request fetched hget =>
      refine ((h.remove handle).answered retryCount ?_ ?_).state
      · rintro sessionId rfl
        exact h _ (mem_of_lookup hget) sessionId rfl
      · rintro body rfl hok e he
        refine hpatient ?_ hok e (List.mem_filter.1 he).1
        rw [hget]
        rfl
  | click _ => exact (idle_carries.createPaymentSession hpatient).current
  | reload => exact (idle_load page.storage page.clock page.calls).current

lemma current_of_run {storage : Option App} {clock : ℕ} {t : List (Page × Action)}
    (hrun : Run (step browser) (load browser storage clock []) t page)
    (hpatient : ∀ e ∈ t, Patient e.1 e.2) : Current page := by
  refine Run.invariant_of_guard (P := fun _ page => Current page) hrun hpatient ?_ ?_
  · exact (idle_load storage clock []).current
  · intro _ page a page' _ h hpatient hstep
    exact h.step hpatient hstep

/-- **Old answers are ignored.**  In every run of the page, whatever the storage holds when
it is loaded and whatever it refuses, in which a new session is asked for, or taken, only when
no status is being asked for, the answer to a status request is handled when the page has the
session that the request was for, or leaves what the page knows about the payment as it is. -/
theorem old_answers_ignored {storage : Option App} {clock : ℕ} {t : List (Page × Action)}
    (hrun : Run (step browser) (load browser storage clock []) t page)
    (hpatient : ∀ e ∈ t, Patient e.1 e.2) :
    ∀ page₁ handle fetched sessionId retryCount page₂, (page₁, .answer handle fetched) ∈ t →
      page₁.pending.lookup handle = some (.fetch (.status sessionId) retryCount) →
      step browser page₁ (.answer handle fetched) = some page₂ →
      sessionId = page₁.app.sessionId ∨ Unaffected page₁ page₂ := by
  intro page₁ handle fetched sessionId retryCount page₂ hmem hget _
  obtain ⟨t₁, t₂, -, rfl, hrun₁, -, -⟩ := hrun.of_mem hmem
  have hcurrent := current_of_run hrun₁ fun e he => hpatient e (by simp [he])
  exact Or.inl (hcurrent _ (mem_of_lookup hget) sessionId rfl)

instance (page : Page) : Decidable (Idle page) :=
  inferInstanceAs (Decidable (∀ e ∈ page.pending, _ = false))

instance (page : Page) : (a : Action) → Decidable (Patient page a)
  | .click => inferInstanceAs (Decidable (Idle page))
  | .answer _ _ => inferInstanceAs (Decidable (_ = true → _ = true → Idle page))
  | .elapse _ | .tick | .fire _ | .reload => .isTrue True.intro

/-- The callback is the fetch of a status request for this session. -/
def Callback.fetchesFor (id : String) : Callback → Bool
  | .fetch (.status sessionId) _ => asString sessionId == some id
  | _ => false

lemma fetchesFor_eq {id : String} {callback : Callback} (h : callback.fetchesFor id = true) :
    ∃ sessionId retryCount, callback = .fetch (.status sessionId) retryCount ∧
      asString sessionId = some id := by
  cases callback with
  | fetch request retryCount =>
      cases request with
      | status sessionId => exact ⟨sessionId, retryCount, rfl, eq_of_beq h⟩
      | create body => exact absurd h (by simp [Callback.fetchesFor])
  | _ => exact absurd h (by simp [Callback.fetchesFor])

/-- The first poll of the second session is answered. -/
theorem old_answers_ignored_demo :
    ∃ t page₁ sessionId retryCount page₂, Run (step demoBrowser) (load demoBrowser none 0 [])
        (t ++ [(page₁, demoAnswerAgain)]) page₂ ∧ t.map Prod.snd = demoAgain ∧
      page₁.pending.lookup 7 = some (.fetch (.status sessionId) retryCount) ∧
      asString sessionId = some "p8Rt51XcVb3N" ∧
      (sessionId = page₁.app.sessionId ∨ Unaffected page₁ page₂) := by
  obtain ⟨t, page₁, hrun, hactions, hcheck⟩ :
      ∃ t page₁, Run (step demoBrowser) (load demoBrowser none 0 []) t page₁ ∧
      t.map Prod.snd = demoAgain ∧
      ((t.all fun e => decide (Patient e.1 e.2)) &&
        decide (Patient page₁ demoAnswerAgain) &&
        (page₁.pending.lookup 7).any (Callback.fetchesFor "p8Rt51XcVb3N") &&
        (step demoBrowser page₁ demoAnswerAgain).isSome) = true :=
    exists_run_of_check _ (by decide +kernel)
  simp only [Bool.and_eq_true, List.all_eq_true, decide_eq_true_iff, Option.any_eq_true,
    Option.isSome_iff_exists] at hcheck
  obtain ⟨⟨⟨hpatient, hlast⟩, callback, hget, hfetch⟩, page₂, hstep⟩ := hcheck
  obtain ⟨sessionId, retryCount, rfl, hid⟩ := fetchesFor_eq hfetch
  have hrun₂ := hrun.snoc hstep
  have hpatient₂ : ∀ e ∈ t ++ [(page₁, demoAnswerAgain)], Patient e.1 e.2 := by
    intro e he
    rcases List.mem_append.1 he with he | he
    · exact hpatient e he
    · rw [List.mem_singleton.1 he]
      exact hlast
  exact ⟨t, page₁, sessionId, retryCount, page₂, hrun₂, hactions, hget, hid,
    old_answers_ignored hrun₂ hpatient₂ page₁ 7 _ sessionId retryCount page₂
      (List.mem_append_right _ (List.mem_singleton_self _)) hget hstep⟩

/-- The countdown ends the session while its status is being asked for, and the user asks for
a new one: the answer that confirms the old payment is taken for one about the new session. -/
theorem old_answer_taken :
    ∃ t page₁ sessionId retryCount page₂,
      Run (step demoBrowser) (load demoBrowser none 0 []) t page₁ ∧
      t.map Prod.snd = demoPoll 896000 ++ [.elapse 3001, .tick, .click] ∧
      page₁.pending.lookup 3 = some (.fetch (.status sessionId) retryCount) ∧
      step demoBrowser page₁ (demoAnswer "confirmed") = some page₂ ∧
      sessionId ≠ page₁.app.sessionId ∧ ¬ Unaffected page₁ page₂ := by
  obtain ⟨t, page₁, hrun, hactions, hcheck⟩ :
      ∃ t page₁, Run (step demoBrowser) (load demoBrowser none 0 []) t page₁ ∧
      t.map Prod.snd = demoPoll 896000 ++ [.elapse 3001, .tick, .click] ∧
      ((page₁.pending.lookup 3).any (Callback.fetchesFor "k3Jd82LmQw0Z") &&
        decide (asString page₁.app.sessionId = none) && decide (page₁.app.state = .waiting) &&
        (step demoBrowser page₁ (demoAnswer "confirmed")).any
          fun page₂ => decide (page₂.app.state = .detected)) = true :=
    exists_run_of_check _ (by decide +kernel)
  simp only [Bool.and_eq_true, Option.any_eq_true, decide_eq_true_iff] at hcheck
  obtain ⟨⟨⟨⟨callback, hget, hfetch⟩, hnull⟩, hwaiting⟩, page₂, hstep, hdetected⟩ := hcheck
  obtain ⟨sessionId, retryCount, rfl, hid⟩ := fetchesFor_eq hfetch
  refine ⟨t, page₁, sessionId, retryCount, page₂, hrun, hactions, hget, hstep, ?_, ?_⟩
  · rintro rfl
    rw [hnull] at hid
    exact absurd hid (by simp)
  · intro hsame
    have hstate := hsame.state
    rw [hwaiting, hdetected] at hstate
    exact absurd hstate (by decide)

end Haske.Checkout
