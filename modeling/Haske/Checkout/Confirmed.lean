import Haske.Checkout.Sessions

/-!
# A confirmed payment

When a payment is confirmed the page waits 850 ms before it shows the pass, and goes on
counting down to the deadline of the request in the meantime.  If the deadline passes, the
countdown clears the timer and the pass is not shown.  The same happens if the session had
ended before the answer came, since the page cannot leave an expired session by a
confirmation, and if the answer cannot be drawn or saved, since then the session fails.

If the page is calm until the answer, and the countdown leaves the confirmation alone
(`Waits`), then the pass is shown, and stays until there is no whole second left of it
(`pass_kept`).
-/

namespace Haske.Checkout

open Json Js Script Machine

/-! ### The clock -/

def AtClock (clock : ℕ) (page : Page) : Prop := page.clock = clock

section

variable {browser : Browser} {page page' : Page} {clock : ℕ} {a : Action}

/-- The handlers take no time. -/
lemma atClock_carries : Carries True (AtClock clock) where
  knows _ _ _ _ _ _ h := h
  stops page h := (stopTimers_clock page).trans h
  counts _ _ h := h
  polls _ h := h
  confirms _ h := h
  creates _ h := h

lemma AtClock.fetchEnds (h : AtClock clock page) (request : Request) (retryCount : ℕ)
    (fetched : Fetched) : (fetchEnds browser request retryCount fetched page).Ends
      (AtClock clock) (AtClock clock) := by
  refine atClock_carries.fetchEnds h ?_ fun page' due h' _ => h'
  intro body _
  cases request with
  | create sent =>
      have hends : (createEnds browser (.ok body) page).Ends (AtClock clock) (AtClock clock) :=
        atClock_carries.createEnds h fun data _ => atClock_carries.createdSession h data
      exact hends
  | status sessionId => exact atClock_carries.statusEnds h (.ok body)

/-- Time does not go back. -/
lemma clock_le_of_step (hstep : step browser page a = some page') : page.clock ≤ page'.clock := by
  have hsame : AtClock page.clock page' → page.clock ≤ page'.clock :=
    fun h => Nat.le_of_eq h.symm
  have hhere : AtClock page.clock page := rfl
  cases effect_of_step hstep with
  | elapse => exact Nat.le_add_right _ _
  | tick _ _ =>
      refine hsame (atClock_carries.updateCountdown ?_).state
      exact atClock_carries.counts page _ hhere
  | @poll handle _ _ _ =>
      have hremoved : AtClock page.clock (page.remove handle) := rfl
      exact hsame (atClock_carries.checkStatus hremoved rfl)
  | @confirm handle _ _ _ =>
      have hremoved : AtClock page.clock (page.remove handle) := rfl
      exact hsame (atClock_carries.confirmPayment hremoved).state
  | retry _ _ => exact hsame rfl
  | @answer handle _ _ _ _ =>
      have hremoved : AtClock page.clock (page.remove handle) := rfl
      exact hsame (hremoved.fetchEnds _ _ _).state
  | click _ => exact hsame (atClock_carries.createPaymentSession hhere)
  | reload =>
      refine hsame (atClock_carries.load page.storage page.clock page.calls ?_)
      exact fun _ hclock _ => hclock

lemma clock_le_of_run {t : List (Page × Action)} (hrun : Run (step browser) page t page') :
    page.clock ≤ page'.clock ∧ ∀ e ∈ t, e.1.clock ≤ page'.clock := by
  refine Run.invariant (P := fun t page' => page.clock ≤ page'.clock ∧
    ∀ e ∈ t, e.1.clock ≤ page'.clock) hrun ⟨Nat.le_refl _, by simp⟩ ?_
  rintro t s a s' - ⟨hle, hall⟩ hstep
  have hs := clock_le_of_step hstep
  refine ⟨Nat.le_trans hle hs, ?_⟩
  intro e he
  rcases List.mem_append.1 he with he | he
  · exact Nat.le_trans (hall e he) hs
  · rw [List.mem_singleton.1 he]
    exact hs

/-! ### Deadlines -/

/-- At least one whole second is left of the deadline, up to this time. -/
def Lasts (engine : Engine) (deadline : Option Value) (time : ℕ) : Prop :=
  ∀ now ≤ time, expiresInSeconds engine deadline now ≠ .ok (some 0)

/-- A deadline in seconds lasts until a second before it. -/
lemma lasts_nat {engine : Engine} {n time : ℕ} :
    Lasts engine (some (.nat n)) time ↔ time + 1000 ≤ 1000 * n := by
  constructor
  · intro h
    have hleft := h time (Nat.le_refl _)
    simp only [expiresInSeconds, ne_eq, Except.ok.injEq, Option.some.injEq] at hleft
    omega
  · intro h now hnow
    simp only [expiresInSeconds, ne_eq, Except.ok.injEq, Option.some.injEq]
    omega

/-! ### The window -/

def Callback.isConfirm : Callback → Bool
  | .confirm _ => true
  | _ => false

/-- The countdown does not end the session while the confirmation is outstanding, and the page
is not loaded again. -/
def Waits (engine : Engine) (page : Page) : Action → Prop
  | .tick => TimeIsUp engine page → page.app.state.isOpen = true →
      ∀ e ∈ page.pending, e.2.isConfirm = false
  | .reload => False
  | _ => True

/-- The page that waits to show a pass, or shows it. -/
structure Confirming (body : Value) (deadline : Option Value) (due : ℕ) (page : Page) : Prop where
  accessData : page.app.accessData = some body
  accessExpiresAt : page.app.accessExpiresAt = deadline
  shown : page.failureActions = false
  phase : (page.app.state = .detected ∧ ∃ handle, page.pending = [(handle, .confirm due)]) ∨
    (page.app.state = .confirmed ∧ page.pending = [])

/-- A pass that lasts is not ended by the countdown. -/
lemma updateCountdown_of_lasts (hexpires : ¬ Expires browser.toEngine page) :
    (updateCountdown browser page).Ends (fun page' => page' = page) fun page' => page' = page := by
  rcases updateCountdown_cases browser page with ⟨message, -, heq⟩ | ⟨-, heq⟩ | ⟨hyes, -⟩
  · rw [heq]
    rfl
  · rw [heq]
    rfl
  · exact absurd hyes hexpires

lemma not_expires_of_lasts (hstate : page.app.state = .confirmed)
    (hlasts : expiresInSeconds browser.toEngine page.app.accessExpiresAt page.clock ≠
      .ok (some 0)) : ¬ Expires browser.toEngine page := by
  rintro ⟨htime, -⟩
  rw [TimeIsUp, App.target, if_pos hstate] at htime
  exact hlasts htime

/-- The confirmation is shown, whether or not it can be saved and drawn. -/
lemma Confirming.confirmPayment {body : Value} {deadline : Option Value} {due : ℕ}
    (hpending : page.pending = []) (hstate : page.app.state = .detected)
    (hdata : page.app.accessData = some body) (hexpires : page.app.accessExpiresAt = deadline)
    (hshown : page.failureActions = false)
    (hlasts : expiresInSeconds browser.toEngine deadline page.clock ≠ .ok (some 0)) :
    (confirmPayment browser page).Ends (Confirming body deadline due)
      (Confirming body deadline due) := by
  have hlegal : Legal page.app.state .confirmed := Or.inr (by rw [hstate]; decide)
  rw [Checkout.confirmPayment, transition_of_legal hlegal]
  refine Outcome.Ends.andThen
    (P := fun page' => Confirming body deadline due page' ∧ page'.clock = page.clock ∧
      page'.app.state = .confirmed) ((refresh_ends _).mono ?_ ?_) ?_
  · rintro page' ⟨⟨-, -⟩, hfailed, -⟩
    exact ⟨⟨hdata, hexpires, hfailed, Or.inr ⟨rfl, hpending⟩⟩, rfl, rfl⟩
  · rintro page' ⟨⟨-, hnot⟩, -⟩
    refine ⟨hdata, hexpires, ?_, Or.inr ⟨rfl, hpending⟩⟩
    exact hnot.elim (fun heq => heq.trans hshown) fun heq => heq
  · rintro page' ⟨hconfirming, hclock, hconfirmed⟩
    have hnone : Confirming body deadline due { page' with countdown := none } :=
      ⟨hconfirming.accessData, hconfirming.accessExpiresAt, hconfirming.shown, hconfirming.phase⟩
    have hnot : ¬ Expires browser.toEngine { page' with countdown := none } := by
      refine not_expires_of_lasts hconfirmed ?_
      rwa [hnone.accessExpiresAt, show ({ page' with countdown := none } : Page).clock = _
        from hclock]
    refine Outcome.Ends.andThen (P := Confirming body deadline due)
      ((updateCountdown_of_lasts hnot).mono ?_ ?_) ?_
    · rintro _ rfl
      exact hnone
    · rintro _ rfl
      exact hnone
    · intro page'' h
      exact ⟨h.accessData, h.accessExpiresAt, h.shown, h.phase⟩

lemma Confirming.step {body : Value} {deadline : Option Value} {due : ℕ}
    (h : Confirming body deadline due page) (hwaits : Waits browser.toEngine page a)
    (hlasts : expiresInSeconds browser.toEngine deadline page.clock ≠ .ok (some 0))
    (hstep : Checkout.step browser page a = some page') : Confirming body deadline due page' := by
  have hconfirm : ∀ {handle callback}, page.pending.lookup handle = some callback →
      page.app.state = .detected ∧ page.pending = [(handle, .confirm due)] ∧
        callback = .confirm due := by
    intro handle callback hget
    have hmem := mem_of_lookup hget
    rcases h.phase with ⟨hstate, handle', hpending⟩ | ⟨-, hpending⟩
    · rw [hpending, List.mem_singleton] at hmem
      obtain ⟨rfl, rfl⟩ := Prod.mk.inj hmem
      exact ⟨hstate, hpending, rfl⟩
    · exact absurd hmem (by simp [hpending])
  cases effect_of_step hstep with
  | elapse => exact ⟨h.accessData, h.accessExpiresAt, h.shown, h.phase⟩
  | tick _ _ =>
      have hsame : ¬ Expires browser.toEngine page := by
        rcases h.phase with ⟨hdetected, handle, hpending⟩ | ⟨hconfirmed, -⟩
        · -- the countdown does not end the session while the confirmation is outstanding
          rintro ⟨htime, -⟩
          have hnone := hwaits htime (by rw [hdetected]; rfl) (handle, .confirm due)
            (by simp [hpending])
          cases hnone
        · refine not_expires_of_lasts hconfirmed ?_
          rwa [h.accessExpiresAt]
      have hleft : ¬ Expires browser.toEngine { page with countdown := some (page.clock + 1000) } :=
        hsame
      rw [(updateCountdown_of_lasts hleft).state]
      exact ⟨h.accessData, h.accessExpiresAt, h.shown, h.phase⟩
  | poll hget _ => exact absurd (hconfirm hget).2.2 (by simp)
  | retry hget _ => exact absurd (hconfirm hget).2.2 (by simp)
  | answer hget => exact absurd (hconfirm hget).2.2 (by simp)
  | @confirm handle _ hget _ =>
      -- the only step that changes the phase
      obtain ⟨hstate, hpending, -⟩ := hconfirm hget
      have hremoved : (page.remove handle).pending = [] := by simp [Page.remove, hpending]
      exact (Confirming.confirmPayment hremoved hstate h.accessData h.accessExpiresAt h.shown
        hlasts).state
  | click hshown =>
      have hnot := h.shown
      rw [hshown] at hnot
      cases hnot
  | reload => exact hwaits.elim

/-- An answer that can be drawn is known. -/
lemma Asked.detects (h : Asked page) (htakes : browser.Takes page.clock .detected)
    (hdraws : page.app.draws = true) :
    (Checkout.detect browser page).Ends (fun known => known.app.state = .detected ∧
      known.app.accessData = page.app.accessData ∧
      known.app.accessExpiresAt = page.app.accessExpiresAt ∧ known.failureActions = false ∧
      known.pending = page.pending ∧ known.clock = page.clock) fun _ => False := by
  rw [Checkout.detect]
  split
  · rename_i hstate
    have hlegal : Legal page.app.state .detected := Or.inr (by rw [hstate]; decide)
    rw [transition_of_legal hlegal]
    refine (refresh_ends _).mono ?_ ?_
    · rintro known ⟨⟨-, -⟩, hfailed, -⟩
      exact ⟨rfl, rfl, rfl, hfailed, rfl, rfl⟩
    · rintro known ⟨-, hrefuses | hnot | hconfirmed⟩
      · exact hrefuses (htakes _ rfl)
      · rw [show page.app.draws = false from hnot] at hdraws
        cases hdraws
      · cases hconfirmed
  · rename_i hstate
    have hdetected := (isOpen_cases h.isOpen).resolve_left hstate
    refine (render_ends page).mono ?_ ?_
    · rintro known ⟨⟨-, -⟩, hfailed, -⟩
      refine ⟨hdetected, rfl, rfl, ?_, rfl, rfl⟩
      rw [hfailed, hdetected]
      rfl
    · rintro known ⟨-, hnot | hconfirmed⟩
      · rw [hnot] at hdraws
        cases hdraws
      · rw [hdetected] at hconfirmed
        cases hconfirmed

/-- An answer that confirms the payment sets the timer. -/
lemma Asked.confirmed {body : Value} (h : Asked page)
    (htakes : browser.Takes page.clock .detected) (hdraws : page.app.draws = true)
    (hbody : drawable body = true)
    (hconfirmed : asString (prop body "status") = some "confirmed") :
    (Checkout.handleStatus browser body page).Ends
      (Confirming body (merge browser.toEngine body page.app).accessExpiresAt (page.clock + 850))
      fun _ => False := by
  have heq : Checkout.handleStatus browser body page =
      (Checkout.detect browser { page with app := merge browser.toEngine body page.app }).andThen
        fun page => .done (setTransitionTimer page) := by
    rw [Checkout.handleStatus.eq_def]
    split
    · -- `null` has no status
      exact absurd hconfirmed (by simp [prop, asString])
    · simp only [hconfirmed]
  have hmerged : Asked { page with app := merge browser.toEngine body page.app } :=
    ⟨h.calls, h.pending, h.isOpen, h.shown⟩
  rw [heq]
  refine (hmerged.detects htakes (draws_merge browser.toEngine hdraws hbody)).andThen ?_
  rintro known ⟨hstate, hdata, hexpires, hshown, hrest, hclock⟩
  refine ⟨hdata, hexpires, hshown, Or.inl ⟨hstate, known.nextHandle, ?_⟩⟩
  show known.pending ++ [(known.nextHandle, .confirm (known.clock + 850))] = _
  rw [hrest, hclock, h.pending]
  rfl

/-- What an answer that confirms the payment does. -/
lemma confirming_of_answer (h : Orderly page) {handle retryCount : ℕ}
    {sessionId : Option Value} {fetched : Fetched} {body : Value}
    (hget : page.pending.lookup handle = some (.fetch (.status sessionId) retryCount))
    (htakes : browser.Takes page.clock .detected)
    (hresult : fetched.result = .ok body) (hbody : drawable body = true)
    (hconfirmed : asString (prop body "status") = some "confirmed")
    (hstep : Checkout.step browser page (.answer handle fetched) = some page') :
    Confirming body (merge browser.toEngine body page.app).accessExpiresAt (page.clock + 850)
      page' := by
  cases effect_of_step hstep with
  | @answer _ retryCount' request' _ hget' =>
      obtain ⟨rfl, rfl⟩ := Callback.fetch.inj (Option.some.inj (hget.symm.trans hget'))
      have hclear := h.clear_remove hget
      rcases (h.outstanding.of_lookup hget).2 with ⟨hopen, hshown, -⟩ | ⟨⟨sent, hsent⟩, -⟩
      · have hasked : Asked (page.remove handle) :=
          ⟨hclear.sane.calls, hclear.pending, hopen, hshown⟩
        have hdraws : page.app.draws = true := by
          refine h.sane.draws fun herror => ?_
          rw [herror] at hopen
          cases hopen
        have hends := hasked.confirmed htakes hdraws hbody hconfirmed
        rw [fetchEnds, hresult]
        exact (hends.caught fun _ _ h => h.elim).of_done
      · cases hsent

/-- Every timer that was due by this time has run. -/
structure TimersRun (time : ℕ) (page : Page) : Prop where
  poll : ∀ handle due, (handle, .poll due) ∈ page.pending → time < due
  confirm : ∀ handle due, (handle, .confirm due) ∈ page.pending → time < due
  retry : ∀ handle request retryCount due, (handle, .retry request retryCount due) ∈ page.pending →
    time < due
  countdown : ∀ due, page.countdown = some due → time < due

/-- **A confirmed pass is shown.**  In every run of the page, whatever the storage holds when
it is loaded, that is calm until an answer confirms the payment: if this answer can be drawn and
is saved, and from then on the countdown does not end the session while the confirmation is
outstanding and the page is not loaded again, then once the timers that are due 850 ms after the
answer have run the page shows the pass of that answer, as long as a whole second of it is
left. -/
theorem pass_kept {storage : Option App} {clock : ℕ} {t₁ t₂ : List (Page × Action)}
    {page₁ : Page} {handle retryCount : ℕ} {sessionId : Option Value} {fetched : Fetched}
    {body : Value}
    (hrun : Run (Checkout.step browser) (load browser storage clock [])
      (t₁ ++ (page₁, .answer handle fetched) :: t₂) page)
    (hcalm : ∀ e ∈ t₁, Calm browser e.1 e.2)
    (hget : page₁.pending.lookup handle = some (.fetch (.status sessionId) retryCount))
    (hresult : fetched.result = .ok body)
    (hconfirmed : asString (prop body "status") = some "confirmed")
    (hbody : drawable body = true) (htakes : browser.Takes page₁.clock .detected)
    (hwaits : ∀ e ∈ t₂, Waits browser.toEngine e.1 e.2)
    (htimers : TimersRun (page₁.clock + 850) page)
    (hlasts : Lasts browser.toEngine (merge browser.toEngine body page₁.app).accessExpiresAt
      page.clock) :
    page.app.state = .confirmed ∧ page.app.accessData = some body := by
  -- before the answer the page is orderly, and from the answer on it is confirming
  obtain ⟨s₁, hrun₁, hrest⟩ := hrun.split
  obtain ⟨rfl, page₂, hstep, hrun₂⟩ := hrest.cons_inv
  have horderly : Orderly page₁ := orderly_of_run hrun₁ hcalm
  have hconfirming : Confirming body (merge browser.toEngine body page₁.app).accessExpiresAt
      (page₁.clock + 850) page := by
    refine Run.invariant_of_guard (P := fun _ page => Confirming body _ _ page)
      (G := fun page a => Waits browser.toEngine page a ∧ expiresInSeconds browser.toEngine
        (merge browser.toEngine body page₁.app).accessExpiresAt page.clock ≠ .ok (some 0))
      hrun₂ ?_ ?_ ?_
    · exact fun e he => ⟨hwaits e he, hlasts e.1.clock ((clock_le_of_run hrun₂).2 e he)⟩
    · exact confirming_of_answer horderly hget htakes hresult hbody hconfirmed hstep
    · rintro _ page a page' - h ⟨hwaits, hlasts⟩ hstep
      exact h.step hwaits hlasts hstep
  refine ⟨?_, hconfirming.accessData⟩
  rcases hconfirming.phase with ⟨-, handle, hpending⟩ | ⟨hshown, -⟩
  · -- the timer would still be outstanding, but it was due
    have hlate := htimers.confirm handle _ (by rw [hpending]; exact List.mem_singleton_self _)
    omega
  · exact hshown

end

/-! ### An example

The session of the example is confirmed in time, or just before its deadline. -/

instance (engine : Engine) (page : Page) : (a : Action) → Decidable (Waits engine page a)
  | .tick => inferInstanceAs (Decidable (_ → _ → ∀ e ∈ page.pending, _ = false))
  | .reload => .isFalse id
  | .elapse _ | .fire _ | .answer _ _ | .click => .isTrue True.intro

/-- Nothing is outstanding, and the countdown is due later. -/
def Page.rests (page : Page) (time : ℕ) : Bool :=
  page.pending.isEmpty && page.countdown.all fun due => decide (time < due)

lemma timersRun_of_rests {page : Page} {time : ℕ} (h : page.rests time = true) :
    TimersRun time page := by
  rw [Page.rests, Bool.and_eq_true, List.isEmpty_iff] at h
  obtain ⟨hpending, hcountdown⟩ := h
  refine ⟨?_, ?_, ?_, ?_⟩
  · intro handle due hmem
    exact absurd hmem (by simp [hpending])
  · intro handle due hmem
    exact absurd hmem (by simp [hpending])
  · intro handle request retryCount due hmem
    exact absurd hmem (by simp [hpending])
  · rintro due hdue
    simpa [hdue] using hcountdown

lemma asString_eq_some {value : Option Value} {text : String} (h : asString value = some text) :
    value = some (.str text) := by
  rcases value with _ | (_ | _ | _ | _ | text' | _ | _)
  case some.str => rw [Option.some.inj h]
  all_goals exact absurd h (by simp [asString])

/-- What the answer to the first poll says. -/
abbrev demoConfirmed : Value := demoStatus "k3Jd82LmQw0Z" 900 "confirmed"

lemma lasts_demo (app : App) {time : ℕ} (htime : time + 1000 ≤ 3600000) :
    Lasts demoBrowser.toEngine (merge demoBrowser.toEngine demoConfirmed app).accessExpiresAt
      time := by
  have hexpires : (merge demoBrowser.toEngine demoConfirmed app).accessExpiresAt =
      some (.nat 3600) := rfl
  rw [hexpires, lasts_nat]
  exact htime

/-- The page waits at every step, and at the end it rests at this time. -/
def demoKept (time : ℕ) (t : List (Page × Action)) (page : Page) : Bool :=
  (t.all fun e => decide (Waits demoBrowser.toEngine e.1 e.2)) && page.rests time &&
    decide (page.clock + 1000 ≤ 3600000)

/-- The first poll is answered, and the pass is shown. -/
theorem pass_kept_demo :
    ∃ t₁ t₂ page₁ page, Run (step demoBrowser) (load demoBrowser none 0 [])
        (t₁ ++ (page₁, demoAnswer "confirmed") :: t₂) page ∧
      t₁.map Prod.snd = demoPoll 3000 ∧ t₂.map Prod.snd = [.tick, .elapse 850, .fire 4] ∧
      page.app.state = .confirmed ∧ page.app.accessData = some demoConfirmed := by
  obtain ⟨t₁, page₁, hrun₁, hactions₁, hcheck₁⟩ :
      ∃ t₁ page₁, Run (step demoBrowser) (load demoBrowser none 0 []) t₁ page₁ ∧
      t₁.map Prod.snd = demoPoll 3000 ∧
      ((t₁.all fun e => decide (Undisturbed demoBrowser.toEngine e.1 e.2)) &&
        (page₁.pending.lookup 3).any (Callback.fetchesFor "k3Jd82LmQw0Z") &&
        (execute (step demoBrowser) page₁
          [demoAnswer "confirmed", .tick, .elapse 850, .fire 4]).any
          fun r => demoKept (page₁.clock + 850) r.1 r.2) = true :=
    exists_run_of_check _ (by decide +kernel)
  rw [Bool.and_eq_true, Bool.and_eq_true, List.all_eq_true, Option.any_eq_true] at hcheck₁
  obtain ⟨⟨hcalm, callback, hget, hfetch⟩, hexecute⟩ := hcheck₁
  obtain ⟨sessionId, retryCount, rfl, -⟩ := fetchesFor_eq hfetch
  obtain ⟨t, page, hrun, hactions, hcheck⟩ := exists_run_of_check _ hexecute
  obtain ⟨⟨page₁', a⟩, t₂, rfl, ha, hactions₂⟩ := List.map_eq_cons_iff.1 hactions
  obtain ⟨rfl, -⟩ := hrun.cons_inv
  obtain rfl : a = demoAnswer "confirmed" := ha
  simp only [demoKept, Bool.and_eq_true, List.all_eq_true, decide_eq_true_iff] at hcheck
  obtain ⟨⟨hwaits, hrests⟩, hclock⟩ := hcheck
  exact ⟨t₁, t₂, page₁', page, hrun₁.append hrun, hactions₁, hactions₂,
    pass_kept (hrun₁.append hrun) (fun e he => calm_demo (of_decide_eq_true (hcalm e he))) hget rfl
      rfl rfl (fun _ _ => rfl) (fun e he => hwaits e (List.mem_cons_of_mem _ he))
      (timersRun_of_rests hrests) (lasts_demo page₁'.app hclock)⟩

/-- The page at the end of the run rests 850 ms after this time, and the session has expired. -/
def demoLost (clock : ℕ) (_ : List (Page × Action)) (page : Page) : Bool :=
  page.rests (clock + 850) && decide (page.clock = clock + 850) &&
    decide (page.clock + 1000 ≤ 3600000) && decide (page.app.state = .expired)

/-- The payment is confirmed a second and a half before the deadline, and the countdown clears
the timer half a second later: the pass is not shown. -/
theorem pass_lost :
    ∃ t₁ t₂ page₁ sessionId retryCount page, Run (step demoBrowser) (load demoBrowser none 0 [])
        (t₁ ++ (page₁, demoAnswer "confirmed") :: t₂) page ∧
      t₁.map Prod.snd = demoPoll 896000 ++ [.elapse 2500] ∧
      t₂.map Prod.snd = [.elapse 501, .tick, .elapse 349] ∧
      page₁.pending.lookup 3 = some (.fetch (.status sessionId) retryCount) ∧
      sessionId = page₁.app.sessionId ∧ page.clock = page₁.clock + 850 ∧
      TimersRun (page₁.clock + 850) page ∧
      Lasts demoBrowser.toEngine
        (merge demoBrowser.toEngine demoConfirmed page₁.app).accessExpiresAt page.clock ∧
      page.app.state = .expired := by
  obtain ⟨t₁, page₁, hrun₁, hactions₁, hcheck₁⟩ :
      ∃ t₁ page₁, Run (step demoBrowser) (load demoBrowser none 0 []) t₁ page₁ ∧
      t₁.map Prod.snd = demoPoll 896000 ++ [.elapse 2500] ∧
      ((page₁.pending.lookup 3).any (Callback.fetchesFor "k3Jd82LmQw0Z") &&
        decide (asString page₁.app.sessionId = some "k3Jd82LmQw0Z") &&
        (execute (step demoBrowser) page₁
          [demoAnswer "confirmed", .elapse 501, .tick, .elapse 349]).any
          fun r => demoLost page₁.clock r.1 r.2) = true :=
    exists_run_of_check _ (by decide +kernel)
  rw [Bool.and_eq_true, Bool.and_eq_true, decide_eq_true_iff, Option.any_eq_true] at hcheck₁
  obtain ⟨⟨⟨callback, hget, hfetch⟩, hcurrent⟩, hexecute⟩ := hcheck₁
  obtain ⟨sessionId, retryCount, rfl, hid⟩ := fetchesFor_eq hfetch
  obtain ⟨t, page, hrun, hactions, hcheck⟩ := exists_run_of_check _ hexecute
  obtain ⟨⟨page₁', a⟩, t₂, rfl, ha, hactions₂⟩ := List.map_eq_cons_iff.1 hactions
  obtain ⟨rfl, -⟩ := hrun.cons_inv
  obtain rfl : a = demoAnswer "confirmed" := ha
  simp only [demoLost, Bool.and_eq_true, decide_eq_true_iff] at hcheck
  obtain ⟨⟨⟨hrests, hclock⟩, htime⟩, hexpired⟩ := hcheck
  refine ⟨t₁, t₂, page₁', sessionId, retryCount, page, hrun₁.append hrun, hactions₁, hactions₂,
    hget, ?_, hclock, timersRun_of_rests hrests, lasts_demo page₁'.app htime, hexpired⟩
  rw [asString_eq_some hid, asString_eq_some hcurrent]

end Haske.Checkout
