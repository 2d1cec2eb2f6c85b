import Haske.Checkout.Page

/-!
# What the handlers of the page do

A change of the page is saved and drawn, and either may fail: the page it leaves is `Redrawn`.
`updateCountdown` throws nothing of its own, and makes one legal transition at most
(`updateCountdown_cases`).  `Carries` is the rule for what all handlers keep, however they end,
and `Effect` lists what a step of the event loop can be.
-/

namespace Haske.Checkout

open Json Js Script

/-! ### Saving and drawing -/

/-- What the page knows can be written out and drawn. -/
def App.draws (app : App) : Bool :=
  (app.written ++ app.images).all fun value => converts (orNull value)

/-- The page has been saved and drawn, or not. -/
inductive Redrawn (page : Page) : Page → Prop
  | intro {storage : Option App} {shown : Bool}
      (hstorage : storage = some page.app ∨ storage = page.storage)
      (hshown : shown = page.failureActions ∨ shown = page.app.state.failed) :
      Redrawn page { page with storage := storage, failureActions := shown }

/-- The page has been drawn. -/
structure Drawn (page page' : Page) : Prop where
  redrawn : Redrawn page page'
  shown : page'.failureActions = page.app.state.failed
  draws : page.app.draws = true

section

variable {browser : Browser} {page page' : Page}

lemma Redrawn.refl (page : Page) : Redrawn page page := .intro (Or.inr rfl) (Or.inl rfl)

lemma Redrawn.app (h : Redrawn page page') : page'.app = page.app := by
  obtain ⟨-, -⟩ := h
  rfl

lemma Redrawn.pending (h : Redrawn page page') : page'.pending = page.pending := by
  obtain ⟨-, -⟩ := h
  rfl

/-- What is drawn first decides; the details below a pass come last. -/
lemma render_ends (page : Page) : page.render.Ends (Drawn page) fun page' =>
    Redrawn page page' ∧ (page.app.draws = false ∨ page.app.state = .confirmed) := by
  have htoggled : Redrawn page { page with failureActions := page.app.state.failed } :=
    .intro (Or.inr rfl) (Or.inr rfl)
  rw [Page.render, convert]
  split
  · rename_i hwritten
    rw [Outcome.andThen]
    dsimp only
    rw [convert]
    split
    · rename_i himages
      have hdraws : page.app.draws = true := by
        rw [App.draws, List.all_append, Bool.and_eq_true]
        exact ⟨hwritten, himages⟩
      rw [Outcome.andThen]
      split
      · rename_i hconfirmed
        rw [convert]
        split
        · exact ⟨htoggled, rfl, hdraws⟩
        · exact ⟨htoggled, Or.inr hconfirmed⟩
      · exact ⟨htoggled, rfl, hdraws⟩
    · rename_i himages
      refine ⟨htoggled, Or.inl ?_⟩
      rw [App.draws, List.all_append, Bool.and_eq_false_iff]
      exact Or.inr (Bool.eq_false_iff.2 himages)
  · rename_i hwritten
    refine ⟨Redrawn.refl page, Or.inl ?_⟩
    rw [App.draws, List.all_append, Bool.and_eq_false_iff]
    exact Or.inl (Bool.eq_false_iff.2 hwritten)

lemma refresh_ends (page : Page) : (page.refresh browser).Ends (Drawn page) fun page' =>
    Redrawn page page' ∧ (browser.refuses page.clock page.app ≠ none ∨ page.app.draws = false ∨
      page.app.state = .confirmed) := by
  rw [Page.refresh, Page.persist]
  split
  · rename_i hrefuses
    exact ⟨Redrawn.refl page, Or.inl (by rw [hrefuses]; exact Option.some_ne_none _)⟩
  · refine (render_ends _).mono ?_ ?_
    · rintro _ ⟨⟨hstorage, hshown⟩, hfailed, hdraws⟩
      exact ⟨.intro (Or.inl (hstorage.elim id id)) hshown, hfailed, hdraws⟩
    · rintro _ ⟨⟨hstorage, hshown⟩, hreason⟩
      exact ⟨.intro (Or.inl (hstorage.elim id id)) hshown, Or.inr hreason⟩

/-! ### Calls of `transition` -/

/-- The page in a call of `transition` that is legal, before it is saved. -/
def moved (nextState : PageState) (updates : App → App) (page : Page) : Page :=
  { page with
    calls := page.calls ++ [(page.app.state, nextState)]
    app := { updates page.app with state := nextState } }

lemma transition_of_legal {nextState : PageState} (h : Legal page.app.state nextState)
    (updates : App → App) :
    transition browser nextState updates page = (moved nextState updates page).refresh browser := by
  rw [transition, if_neg]
  · rfl
  · rintro ⟨hne, hnot⟩
    exact h.elim hne hnot

/-- A call that is not legal changes nothing. -/
lemma transition_of_not_legal {nextState : PageState} (h : ¬ Legal page.app.state nextState)
    (updates : App → App) :
    ∃ message, transition browser nextState updates page = .thrown message
      { page with calls := page.calls ++ [(page.app.state, nextState)] } := by
  rw [Legal, not_or] at h
  refine ⟨"Illegal transition " ++ page.app.state.name ++ " -> " ++ nextState.name, ?_⟩
  rw [transition, if_pos h]

/-- What the page knows is updated once. -/
lemma transition_congr {nextState : PageState} {updates updates' : App → App}
    (h : updates page.app = updates' page.app) :
    transition browser nextState updates page = transition browser nextState updates' page := by
  rw [transition, transition]
  dsimp only
  rw [h]

lemma transition_state (nextState : PageState) (updates : App → App) :
    (transition browser nextState updates page).Ends (fun page => page.app.state = nextState)
      fun _ => True := by
  by_cases hlegal : Legal page.app.state nextState
  · rw [transition_of_legal hlegal]
    refine (refresh_ends _).mono ?_ fun _ _ => True.intro
    rintro _ ⟨⟨-, -⟩, -, -⟩
    rfl
  · obtain ⟨message, heq⟩ := transition_of_not_legal hlegal updates
    rw [heq]
    exact True.intro

end

/-! ### The timers -/

lemma clearTimeout_eq (page : Page) (timer : Option ℕ) :
    ∃ pending, page.clearTimeout timer = { page with pending := pending } ∧
      pending.Sublist page.pending ∧
      ∀ e, e ∈ pending ↔ e ∈ page.pending ∧ timer ≠ some e.1 := by
  cases timer with
  | none => exact ⟨page.pending, rfl, List.Sublist.refl _, by simp⟩
  | some handle =>
      refine ⟨_, rfl, List.filter_sublist, fun e => ?_⟩
      simp only [List.mem_filter, decide_eq_true_eq, ne_eq, Option.some.injEq]
      exact and_congr_right fun _ => ⟨Ne.symm, Ne.symm⟩

/-- `stopTimers` clears what its two handles stand for. -/
lemma stopTimers_eq (page : Page) :
    ∃ pending, page.stopTimers =
        { page with pending := pending, pollTimer := none, transitionTimer := none } ∧
      pending.Sublist page.pending ∧
      ∀ e, e ∈ pending ↔
        e ∈ page.pending ∧ page.pollTimer ≠ some e.1 ∧ page.transitionTimer ≠ some e.1 := by
  obtain ⟨pending₁, heq₁, hsub₁, hmem₁⟩ := clearTimeout_eq page page.pollTimer
  obtain ⟨pending₂, heq₂, hsub₂, hmem₂⟩ :=
    clearTimeout_eq (page.clearTimeout page.pollTimer) page.transitionTimer
  refine ⟨pending₂, ?_, ?_, fun e => ?_⟩
  · rw [Page.stopTimers, heq₂, heq₁]
  · rw [heq₁] at hsub₂
    exact hsub₂.trans hsub₁
  · rw [hmem₂, heq₁, hmem₁, and_assoc]

section

variable (page : Page)

lemma stopTimers_app : page.stopTimers.app = page.app := by
  obtain ⟨_, heq, -⟩ := stopTimers_eq page
  rw [heq]

lemma stopTimers_storage : page.stopTimers.storage = page.storage := by
  obtain ⟨_, heq, -⟩ := stopTimers_eq page
  rw [heq]

lemma stopTimers_calls : page.stopTimers.calls = page.calls := by
  obtain ⟨_, heq, -⟩ := stopTimers_eq page
  rw [heq]

lemma stopTimers_clock : page.stopTimers.clock = page.clock := by
  obtain ⟨_, heq, -⟩ := stopTimers_eq page
  rw [heq]

lemma stopTimers_failureActions : page.stopTimers.failureActions = page.failureActions := by
  obtain ⟨_, heq, -⟩ := stopTimers_eq page
  rw [heq]

lemma stopTimers_sublist : page.stopTimers.pending.Sublist page.pending := by
  obtain ⟨_, heq, hsub, -⟩ := stopTimers_eq page
  rw [heq]
  exact hsub

end

lemma mem_stopTimers {page : Page} {e : ℕ × Callback} :
    e ∈ page.stopTimers.pending ↔
      e ∈ page.pending ∧ page.pollTimer ≠ some e.1 ∧ page.transitionTimer ≠ some e.1 := by
  obtain ⟨_, heq, -, hmem⟩ := stopTimers_eq page
  rw [heq]
  exact hmem e

/-! ### The countdown -/

section

variable (browser : Browser)

/-- The countdown ends the session or the pass. -/
def Expires (engine : Engine) (page : Page) : Prop :=
  TimeIsUp engine page ∧ (page.app.state.isOpen = true ∨ page.app.state = .confirmed)

/-- What the countdown changes when it does. -/
def expiry (app : App) : App :=
  if app.state = .confirmed then { app with statusText := "Pass expired" }
  else { app with statusText := "Session expired", lastError := none }

lemma legal_expired {state : PageState} (h : state.isOpen = true ∨ state = .confirmed) :
    Legal state .expired := by
  cases state with
  | waiting | detected | confirmed => exact Or.inr (by decide)
  | _ => exact absurd h (by decide)

/-- What `updateCountdown` does: it fails to read the deadline, leaves the page, or makes one
transition. -/
lemma updateCountdown_cases (page : Page) :
    (∃ message, expiresInSeconds browser.toEngine page.app.target page.clock = .error message ∧
      updateCountdown browser page = .thrown message page) ∨
    (¬ Expires browser.toEngine page ∧ updateCountdown browser page = .done page) ∨
    (Expires browser.toEngine page ∧
      updateCountdown browser page = transition browser .expired expiry page.stopTimers) := by
  cases hleft : expiresInSeconds browser.toEngine page.app.target page.clock with
  | error message => exact Or.inl ⟨message, rfl, by rw [updateCountdown, hleft]⟩
  | ok secondsLeft =>
      right
      rw [updateCountdown, hleft]
      dsimp only
      have htime : TimeIsUp browser.toEngine page ↔ secondsLeft = some 0 := by
        rw [TimeIsUp, hleft, Except.ok.injEq]
      rw [Expires, htime]
      -- the two checks of the source exclude each other: a payment that is open, or a pass
      by_cases hopen : secondsLeft = some 0 ∧ page.app.state.isOpen = true
      · right
        have hne : page.stopTimers.app.state ≠ .confirmed := by
          intro h
          rw [stopTimers_app] at h
          rw [h] at hopen
          exact absurd hopen.2 (by decide)
        refine ⟨⟨hopen.1, Or.inl hopen.2⟩, ?_⟩
        rw [if_pos hopen, (transition_state .expired _).andThen_done]
        · exact transition_congr (if_neg hne).symm
        · intro page hstate
          rw [if_neg (by simp [hstate])]
      · rw [if_neg hopen, Outcome.andThen]
        by_cases hconfirmed : secondsLeft = some 0 ∧ page.app.state = .confirmed
        · right
          refine ⟨⟨hconfirmed.1, Or.inr hconfirmed.2⟩, ?_⟩
          rw [if_pos hconfirmed]
          exact transition_congr (if_pos (by rw [stopTimers_app, hconfirmed.2])).symm
        · left
          rw [if_neg hconfirmed]
          refine ⟨?_, rfl⟩
          rintro ⟨hzero, hstate⟩
          exact hstate.elim (fun h => hopen ⟨hzero, h⟩) fun h => hconfirmed ⟨hzero, h⟩

end

/-- What `createPaymentSession` changes before its fetch. -/
def renewal (app : App) : App :=
  if app.state = .expired ∨ app.state = .error then
    { app with
      sessionId := some .null
      requestExpiresAt := some .null
      accessExpiresAt := some .null
      paymentData := some .null
      accessData := some .null
      lastError := none
      retries := 0
      statusText := "Creating session" }
  else { app with statusText := "Creating session" }

/-- A session that has ended is left, and the fetch for a new one is started. -/
lemma createPaymentSession_cases (browser : Browser) (page : Page) :
    ((page.app.state = .expired ∨ page.app.state = .error ∨ page.app.state = .init) ∧
      createPaymentSession browser page =
        ((transition browser .waiting renewal page.stopTimers).andThen fun page =>
          .done (page.push (.fetch (.create paymentRequestBody) 0))).state) ∨
    ((page.app.state.isOpen = true ∨ page.app.state = .confirmed) ∧
      createPaymentSession browser page =
        page.stopTimers.push (.fetch (.create paymentRequestBody) 0)) := by
  have happ := stopTimers_app page
  by_cases hended : page.stopTimers.app.state = .expired ∨ page.stopTimers.app.state = .error
  · left
    refine ⟨by rw [← or_assoc, ← happ]; exact Or.inl hended, ?_⟩
    rw [createPaymentSession, if_pos hended]
    exact congrArg (fun x => (Outcome.andThen x _).state) (transition_congr (if_pos hended).symm)
  · by_cases hinit : page.stopTimers.app.state = .init
    · left
      refine ⟨by rw [← happ]; exact Or.inr (Or.inr hinit), ?_⟩
      rw [createPaymentSession, if_neg hended, if_pos hinit]
      exact congrArg (fun x => (Outcome.andThen x _).state) (transition_congr (if_neg hended).symm)
    · right
      rw [createPaymentSession, if_neg hended, if_neg hinit]
      refine ⟨?_, rfl⟩
      rw [happ] at hended hinit
      cases hstate : page.app.state with
      | init => exact absurd hstate hinit
      | waiting | detected => exact Or.inl rfl
      | confirmed => exact Or.inr rfl
      | expired => exact absurd (Or.inl hstate) hended
      | error => exact absurd (Or.inr hstate) hended

/-- The page that is saved and drawn before a fetch is tried again. -/
def retried (retryCount : ℕ) (page : Page) : Page :=
  { page with app := { page.app with
    retries := retryCount + 1
    statusText := "Retry " ++ toString (retryCount + 1) ++ "/" ++ toString maxRetries } }

/-- How `fetchJson` goes on. -/
lemma fetchEnds_ends {browser : Browser} {page : Page} {request : Request} {retryCount : ℕ}
    {fetched : Fetched} {Q : Page → Prop}
    (hok : ∀ body, fetched.result = .ok body →
      (requestEnds browser request (.ok body) page).Ends Q Q)
    (hlast : ∀ message, fetched.result = .error message → maxRetries ≤ retryCount →
      (requestEnds browser request (.error message) page).Ends Q Q)
    (hagain : ∀ page' due, Drawn (retried retryCount page) page' →
      Q (page'.push (.retry request (retryCount + 1) due)))
    (hfailed : ∀ page' message, Redrawn (retried retryCount page) page' →
      (browser.refuses page.clock (retried retryCount page).app ≠ none ∨
        page.app.draws = false ∨ page.app.state = .confirmed) →
      (requestEnds browser request (.error message) page').Ends Q Q) :
    (fetchEnds browser request retryCount fetched page).Ends Q Q := by
  rw [fetchEnds.eq_def]
  split
  · rename_i body hresult
    exact hok body hresult
  · rename_i message hresult
    split
    · rename_i hmax
      exact hlast message hresult hmax
    · have hends := @refresh_ends browser (retried retryCount page)
      dsimp only
      split
      · rename_i page' hdone
        have hdone' : (retried retryCount page).refresh browser = .done page' := hdone
        rw [hdone'] at hends
        exact hagain page' _ hends
      · rename_i message' page' hthrown
        have hthrown' : (retried retryCount page).refresh browser = .thrown message' page' :=
          hthrown
        rw [hthrown'] at hends
        exact hfailed page' message' hends.1 hends.2

/-! ### What the handlers keep -/

/-- `P` is kept by all that handlers do to the page.  What the page knows may change in any way
if `free`, else not the session. -/
structure Carries (free : Prop) (P : Page → Prop) : Prop where
  knows : ∀ (page : Page) (app : App) (storage : Option App) (shown : Bool)
    (calls : List (PageState × PageState)), free ∨ app.sessionId = page.app.sessionId → P page →
      P { page with app := app, storage := storage, failureActions := shown, calls := calls }
  stops : ∀ page, P page → P page.stopTimers
  counts : ∀ page countdown, P page → P { page with countdown := countdown }
  polls : ∀ page, P page → P (setPollTimer page)
  confirms : ∀ page, P page → P (setTransitionTimer page)
  creates : ∀ page, P page → P (page.push (.fetch (.create paymentRequestBody) 0))

section

variable {browser : Browser} {free : Prop} {P : Page → Prop} {page page' : Page}

lemma Carries.redrawn (hcarries : Carries free P) (h : P page) (hredrawn : Redrawn page page') :
    P page' := by
  obtain ⟨-, -⟩ := hredrawn
  exact hcarries.knows page page.app _ _ page.calls (Or.inr rfl) h

lemma Carries.render (hcarries : Carries free P) (h : P page) : page.render.Ends P P :=
  (render_ends page).mono (fun _ hdrawn => hcarries.redrawn h hdrawn.redrawn)
    fun _ hfailed => hcarries.redrawn h hfailed.1

lemma Carries.refresh (hcarries : Carries free P) (h : P page) {app : App}
    (hsame : free ∨ app.sessionId = page.app.sessionId) :
    (({ page with app := app } : Page).refresh browser).Ends P P := by
  have hknows : P { page with app := app } :=
    hcarries.knows page app page.storage page.failureActions page.calls hsame h
  exact (refresh_ends _).mono (fun _ hdrawn => hcarries.redrawn hknows hdrawn.redrawn)
    fun _ hfailed => hcarries.redrawn hknows hfailed.1

lemma Carries.transition (hcarries : Carries free P) (h : P page) (next : PageState)
    (updates : App → App) (hsame : free ∨ (updates page.app).sessionId = page.app.sessionId) :
    (transition browser next updates page).Ends P P := by
  by_cases hlegal : Legal page.app.state next
  · rw [transition_of_legal hlegal]
    have hcalled : P { page with calls := page.calls ++ [(page.app.state, next)] } :=
      hcarries.knows page page.app page.storage page.failureActions _ (Or.inr rfl) h
    exact hcarries.refresh hcalled hsame
  · obtain ⟨message, heq⟩ := transition_of_not_legal hlegal updates
    rw [heq]
    exact hcarries.knows page page.app page.storage page.failureActions _ (Or.inr rfl) h

lemma expiry_sessionId (app : App) : (expiry app).sessionId = app.sessionId := by
  rw [expiry]
  split
  · rfl
  · rfl

lemma Carries.updateCountdown (hcarries : Carries free P) (h : P page) :
    (updateCountdown browser page).Ends P P := by
  rcases updateCountdown_cases browser page with ⟨message, -, heq⟩ | ⟨-, heq⟩ | ⟨-, heq⟩
  · rw [heq]
    exact h
  · rw [heq]
    exact h
  · rw [heq]
    exact hcarries.transition (hcarries.stops page h) .expired expiry (Or.inr (expiry_sessionId _))

lemma Carries.startCountdown (hcarries : Carries free P) (h : P page) :
    (startCountdown browser page).Ends P P :=
  (hcarries.updateCountdown (hcarries.counts page none h)).andThen fun _ h =>
    hcarries.counts _ _ h

lemma Carries.scheduleStatusPoll (hcarries : Carries free P) (h : P page) :
    (scheduleStatusPoll browser page).Ends P P := by
  refine (hcarries.startCountdown (hcarries.stops page h)).andThen fun page h => ?_
  split
  · exact h
  · exact hcarries.polls page h

lemma Carries.detect (hcarries : Carries free P) (h : P page) :
    (detect browser page).Ends P P := by
  rw [Checkout.detect]
  split
  · exact hcarries.transition h .detected _ (Or.inr rfl)
  · exact hcarries.render h

lemma Carries.handleStatus (hcarries : Carries free P) (h : P page) (status : Value) :
    (handleStatus browser status page).Ends P P := by
  -- the body `null`, and then the statuses in the order of the source
  rw [Checkout.handleStatus.eq_def]
  split
  · exact h
  · have hmerged : P { page with app := merge browser.toEngine status page.app } :=
      hcarries.knows page _ page.storage page.failureActions page.calls (Or.inr rfl) h
    dsimp only
    split
    · exact hcarries.transition hmerged .expired _ (Or.inr rfl)
    · exact (hcarries.detect hmerged).andThen hcarries.confirms
    · exact (hcarries.detect hmerged).andThen fun _ h => hcarries.scheduleStatusPoll h
    · refine Outcome.Ends.andThen (P := P) ?_ fun _ h => hcarries.scheduleStatusPoll h
      split
      · exact hcarries.refresh hmerged (Or.inr rfl)
      · exact hcarries.render hmerged
    · exact hcarries.transition hmerged .error _ (Or.inr rfl)

lemma Carries.confirmPayment (hcarries : Carries free P) (h : P page) :
    (confirmPayment browser page).Ends P P :=
  (hcarries.transition h .confirmed _ (Or.inr rfl)).andThen fun _ h => hcarries.startCountdown h

lemma Carries.statusEnds (hcarries : Carries free P) (h : P page)
    (result : Except String Value) : (statusEnds browser result page).Ends P P := by
  -- the handler of an exception calls `transition`, which may throw again
  refine Outcome.Ends.caught (E := P) ?_ fun _ _ h => hcarries.transition h .error _ (Or.inr rfl)
  cases result with
  | ok status => exact hcarries.handleStatus h status
  | error message => exact h

lemma Carries.createEnds (hcarries : Carries free P) (h : P page) {result : Except String Value}
    (hcreated : ∀ data, result = .ok data → (createdSession browser data page).Ends P P) :
    (createEnds browser result page).Ends P P := by
  refine Outcome.Ends.caught (E := P) ?_ fun _ _ h => hcarries.transition h .error _ (Or.inr rfl)
  cases result with
  | ok data => exact hcreated data rfl
  | error message => exact h

lemma Carries.requestFails (hcarries : Carries free P) (h : P page) (request : Request)
    (message : String) : (requestEnds browser request (.error message) page).Ends P P := by
  cases request with
  | create body =>
      have hfailed : (Checkout.createEnds browser (.error message) page).Ends P P :=
        hcarries.createEnds h fun data hok => absurd hok (by simp)
      exact hfailed
  | status sessionId => exact hcarries.statusEnds h (.error message)

/-- A fetch ends as its request does, or is tried again. -/
lemma Carries.fetchEnds (hcarries : Carries free P) (h : P page) {request : Request}
    {retryCount : ℕ} {fetched : Fetched}
    (hok : ∀ body, fetched.result = .ok body →
      (requestEnds browser request (.ok body) page).Ends P P)
    (hagain : ∀ page' due, P page' → page'.app.sessionId = page.app.sessionId →
      P (page'.push (.retry request (retryCount + 1) due))) :
    (fetchEnds browser request retryCount fetched page).Ends P P := by
  have hretried : P (retried retryCount page) :=
    hcarries.knows page _ page.storage page.failureActions page.calls (Or.inr rfl) h
  refine fetchEnds_ends hok ?_ ?_ ?_
  · intro message _ _
    exact hcarries.requestFails h request message
  · intro page' due hdrawn
    refine hagain page' due (hcarries.redrawn hretried hdrawn.redrawn) ?_
    rw [hdrawn.redrawn.app]
    rfl
  · intro page' message hredrawn _
    exact hcarries.requestFails (hcarries.redrawn hretried hredrawn) request message

lemma Carries.checkStatus (hcarries : Carries free P) (h : P page)
    (hsent : P (page.push (.fetch (.status page.app.sessionId) 0))) :
    P (checkStatus browser page) := by
  rw [Checkout.checkStatus]
  split
  · refine Outcome.Ends.state (Outcome.Ends.caught (E := P) ?_ fun _ _ h =>
      hcarries.transition h .error _ (Or.inr rfl))
    rw [convert]
    split
    · exact hsent
    · exact h
  · exact h

/-! What comes with a new session: -/

lemma Carries.createPaymentSession (hcarries : Carries True P) (h : P page) :
    P (createPaymentSession browser page) := by
  have hstopped := hcarries.stops page h
  rcases createPaymentSession_cases browser page with ⟨-, heq⟩ | ⟨-, heq⟩
  · rw [heq]
    refine Outcome.Ends.state ?_
    exact (hcarries.transition hstopped .waiting renewal (Or.inl True.intro)).andThen
      fun _ h => hcarries.creates _ h
  · rw [heq]
    exact hcarries.creates _ hstopped

lemma Carries.createdSession (hcarries : Carries True P) (h : P page) (data : Value) :
    (createdSession browser data page).Ends P P := by
  rw [Checkout.createdSession.eq_def]
  split
  · exact h
  · refine (hcarries.refresh h (Or.inl True.intro)).andThen fun _ h => ?_
    exact (hcarries.startCountdown h).andThen fun _ h => hcarries.scheduleStatusPoll h

lemma Carries.restoreStored (hcarries : Carries True P) (h : P page) (stored : App) :
    (restoreStored browser stored page).Ends P P := by
  refine (hcarries.refresh h (Or.inl True.intro)).andThen fun page h => ?_
  split
  · split
    · exact h
    · split
      · exact hcarries.transition h .expired _ (Or.inr rfl)
      · exact (hcarries.startCountdown h).andThen fun _ h => hcarries.scheduleStatusPoll h
  · split
    · exact hcarries.startCountdown h
    · split
      · exact hcarries.render h
      · exact hcarries.createPaymentSession h

/-- The page that is loaded. -/
lemma Carries.load (hcarries : Carries True P) (storage : Option App) (clock : ℕ)
    (calls : List (PageState × PageState))
    (h : ∀ page, page.clock = clock → page.pending = [] → P page) :
    P (load browser storage clock calls) := by
  have hfresh : ∀ {page : Page}, P page → (page.render.andThen fun page =>
      .done (Checkout.createPaymentSession browser page)).Ends P P := fun h =>
    (hcarries.render h).andThen fun _ h => hcarries.createPaymentSession h
  refine Outcome.Ends.state ?_
  rw [restore]
  cases storage with
  | none =>
      dsimp only
      refine hfresh (h _ ?_ ?_)
      · rfl
      · rfl
  | some stored =>
      dsimp only
      refine Outcome.Ends.caught (E := P) ?_ ?_
      · refine hcarries.restoreStored (h _ ?_ ?_) stored.reread
        · rfl
        · rfl
      · -- the snapshot is thrown away when it cannot be restored
        intro _ page h
        refine hfresh ?_
        exact hcarries.knows page createInitialStore none page.failureActions page.calls
          (Or.inl True.intro) h

end

/-! ### What a step does -/

lemma mem_of_lookup {pending : List (ℕ × Callback)} {handle : ℕ} {callback : Callback}
    (h : pending.lookup handle = some callback) : (handle, callback) ∈ pending := by
  obtain ⟨l₁, l₂, heq, -⟩ := List.lookup_eq_some_iff.1 h
  simp [heq]

/-- The steps of the page, one constructor for each kind of callback. -/
inductive Effect (browser : Browser) (page : Page) : Action → Page → Prop
  | elapse {ms : ℕ} : Effect browser page (.elapse ms) { page with clock := page.clock + ms }
  | tick {due : ℕ} (h : page.countdown = some due) (hdue : due ≤ page.clock) :
      Effect browser page .tick
        (updateCountdown browser { page with countdown := some (page.clock + 1000) }).state
  | poll {handle due : ℕ} (h : page.pending.lookup handle = some (.poll due))
      (hdue : due ≤ page.clock) :
      Effect browser page (.fire handle) (checkStatus browser (page.remove handle))
  | confirm {handle due : ℕ} (h : page.pending.lookup handle = some (.confirm due))
      (hdue : due ≤ page.clock) :
      Effect browser page (.fire handle) (confirmPayment browser (page.remove handle)).state
  | retry {handle due retryCount : ℕ} {request : Request}
      (h : page.pending.lookup handle = some (.retry request retryCount due))
      (hdue : due ≤ page.clock) :
      Effect browser page (.fire handle) ((page.remove handle).push (.fetch request retryCount))
  | answer {handle retryCount : ℕ} {request : Request} {fetched : Fetched}
      (h : page.pending.lookup handle = some (.fetch request retryCount)) :
      Effect browser page (.answer handle fetched)
        (fetchEnds browser request retryCount fetched (page.remove handle)).state
  | click (h : page.failureActions = true) :
      Effect browser page .click (createPaymentSession browser page)
  | reload : Effect browser page .reload (load browser page.storage page.clock page.calls)

lemma effect_of_step {browser : Browser} {page page' : Page} {a : Action}
    (h : step browser page a = some page') : Effect browser page a page' := by
  cases a with
  | elapse ms =>
      obtain rfl := Option.some.inj h
      exact .elapse
  | tick =>
      cases hdue : page.countdown with
      | none => simp [step, hdue] at h
      | some due =>
          simp only [step, hdue, Option.ite_none_right_eq_some, Option.some.injEq] at h
          obtain ⟨hle, rfl⟩ := h
          exact .tick hdue hle
  | fire handle =>
      cases hget : page.pending.lookup handle with
      | none => simp [step, hget] at h
      | some callback =>
          cases callback with
          | poll due =>
              simp only [step, hget, Option.ite_none_right_eq_some, Option.some.injEq] at h
              obtain ⟨hdue, rfl⟩ := h
              exact .poll hget hdue
          | confirm due =>
              simp only [step, hget, Option.ite_none_right_eq_some, Option.some.injEq] at h
              obtain ⟨hdue, rfl⟩ := h
              exact .confirm hget hdue
          | retry request retryCount due =>
              simp only [step, hget, Option.ite_none_right_eq_some, Option.some.injEq] at h
              obtain ⟨hdue, rfl⟩ := h
              exact .retry hget hdue
          | fetch request retryCount => simp [step, hget] at h
  | answer handle fetched =>
      cases hget : page.pending.lookup handle with
      | none => simp [step, hget] at h
      | some callback =>
          cases callback with
          | fetch request retryCount =>
              simp only [step, hget, Option.some.injEq] at h
              exact h ▸ .answer hget
          | _ => simp [step, hget] at h
  | click =>
      simp only [step, Option.ite_none_right_eq_some, Option.some.injEq] at h
      obtain ⟨hshown, rfl⟩ := h
      exact .click hshown
  | reload =>
      obtain rfl := Option.some.inj h
      exact .reload

end Haske.Checkout
