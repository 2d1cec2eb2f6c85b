import Haske.Checkout.Sessions

/-!
# What the page knows

The state of the page and what it writes below it change all the time.  What it knows of the
payment changes only when it is forgotten, when a session has been created and when an answer
about the status is merged.  So a property of what the page knows holds in every state and in
every snapshot, if it is one of those (`KeptAlone`) and the answers keep it (`Admits`): this is
`Knows.step`.
-/

namespace Haske.Checkout

open Json Js Script

/-- The page has a pass, and shows it or is about to. -/
def PageState.hasPass : PageState → Bool
  | .detected | .confirmed => true
  | _ => false

/-- Of the payment, the same is known. -/
structure Restates (app app' : App) : Prop where
  sessionId : app'.sessionId = app.sessionId
  requestExpiresAt : app'.requestExpiresAt = app.requestExpiresAt
  accessExpiresAt : app'.accessExpiresAt = app.accessExpiresAt
  paymentData : app'.paymentData = app.paymentData
  accessData : app'.accessData = app.accessData

/-- What the page knows after a session has been created. -/
def withSession (data : Value) (app : App) : App :=
  { app with
    state := .waiting
    sessionId := prop data "session_id"
    requestExpiresAt := prop data "request_expires_at"
    paymentData := some data
    accessData := some .null
    accessExpiresAt := some .null
    lastError := none
    retries := 0
    statusText := "Secure session active" }

/-- `Q` is kept by all that the page does by itself, and what it asks for has `P`. -/
structure KeptAlone (engine : Engine) (Q : App → Prop) (P : Request → Prop) : Prop where
  init : Q createInitialStore
  reread : ∀ app, Q app → Q app.reread
  restates : ∀ app app', Q app → Restates app app' →
    (app'.state.hasPass = true → app.state.hasPass = true) → Q app'
  renewed : ∀ app, Q app → Q { renewal app with state := .waiting }
  session : ∀ app, Q app → engine.truthy app.sessionId = true → P (.status app.sessionId)
  creates : P (.create paymentRequestBody)

/-- The answer that arrives keeps `Q`, and its status is one of three. -/
structure Admits (engine : Engine) (Q : App → Prop) (P : Request → Prop) (page : Page)
    (a : Action) : Prop where
  created : ∀ handle fetched retryCount body data, a = .answer handle fetched →
    page.pending.lookup handle = some (.fetch (.create body) retryCount) →
    fetched.result = .ok data → P (.create body) → ∀ app, Q app → Q (withSession data app)
  answered : ∀ handle fetched retryCount sessionId status, a = .answer handle fetched →
    page.pending.lookup handle = some (.fetch (.status sessionId) retryCount) →
    fetched.result = .ok status → P (.status sessionId) →
    (∃ name ∈ ["waiting", "confirmed", "expired"],
      asString (prop status "status") = some name) ∧
    ∀ app, Restates (merge engine status page.app) app →
      (app.state.hasPass = true → asString (prop status "status") = some "confirmed") → Q app

structure Knows (Q : App → Prop) (P : Request → Prop) (page : Page) : Prop where
  app : Q page.app
  stored : ∀ snapshot, page.storage = some snapshot → Q snapshot
  pending : ∀ e ∈ page.pending, ∀ request, e.2.request = some request → P request

variable {browser : Browser} {Q : App → Prop} {P : Request → Prop} {page page' : Page}

/-- In a state without a pass, `Q` asks for no more than before. -/
lemma KeptAlone.leaves {engine : Engine} (h : KeptAlone engine Q P) {app app' : App} (hQ : Q app)
    (hrestates : Restates app app') (hnone : app'.state.hasPass = false) : Q app' := by
  refine h.restates app app' hQ hrestates fun hpass => ?_
  rw [hnone] at hpass
  cases hpass

namespace Knows

lemma mono {Q' : App → Prop} {P' : Request → Prop} (h : Knows Q P page)
    (hQ : ∀ app, Q app → Q' app) (hP : ∀ request, P request → P' request) :
    Knows Q' P' page where
  app := hQ _ h.app
  stored snapshot hsnapshot := hQ _ (h.stored snapshot hsnapshot)
  pending e he request hrequest := hP _ (h.pending e he request hrequest)

/-- Something is dropped, or a timer is added. -/
lemma congr (h : Knows Q P page) (happ : page'.app = page.app)
    (hstorage : page'.storage = page.storage)
    (hpending : ∀ e ∈ page'.pending, e ∈ page.pending ∨ e.2.request = none) :
    Knows Q P page' where
  app := happ ▸ h.app
  stored := hstorage ▸ h.stored
  pending e he request hrequest := by
    rcases hpending e he with hold | hnone
    · exact h.pending e hold request hrequest
    · rw [hnone] at hrequest
      cases hrequest

/-- What is known is saved and drawn, or not. -/
lemma redrawn (h : Knows Q P page) (hredrawn : Redrawn page page') : Knows Q P page' := by
  obtain ⟨hstorage, -⟩ := hredrawn
  refine ⟨h.app, fun snapshot hsnapshot => ?_, h.pending⟩
  rcases hstorage with rfl | rfl
  · exact Option.some.inj hsnapshot ▸ h.app
  · exact h.stored snapshot hsnapshot

lemma render (h : Knows Q P page) : page.render.Ends (Knows Q P) (Knows Q P) :=
  (render_ends page).mono (fun _ hdrawn => h.redrawn hdrawn.redrawn) fun _ hfailed =>
    h.redrawn hfailed.1

lemma refresh (h : Knows Q P page) : (page.refresh browser).Ends (Knows Q P) (Knows Q P) :=
  (refresh_ends page).mono (fun _ hdrawn => h.redrawn hdrawn.redrawn) fun _ hfailed =>
    h.redrawn hfailed.1

/-- Something else is known. -/
lemma assign (h : Knows Q P page) {app : App} (hQ : Q app) : Knows Q P { page with app := app } :=
  ⟨hQ, h.stored, h.pending⟩

lemma push (h : Knows Q P page) {callback : Callback}
    (hP : ∀ request, callback.request = some request → P request) :
    Knows Q P (page.push callback) where
  app := h.app
  stored := h.stored
  pending e he request hrequest := by
    rcases List.mem_append.1 he with he | he
    · exact h.pending e he request hrequest
    · rw [List.mem_singleton.1 he] at hrequest
      exact hP request hrequest

/-- A timer is set. -/
lemma push_timer (h : Knows Q P page) {callback : Callback} (hnone : callback.request = none) :
    Knows Q P (page.push callback) := by
  refine h.push fun request hrequest => ?_
  rw [hnone] at hrequest
  cases hrequest

lemma remove (h : Knows Q P page) (handle : ℕ) : Knows Q P (page.remove handle) :=
  h.congr rfl rfl fun _ he => Or.inl (List.mem_filter.1 he).1

lemma stopTimers (h : Knows Q P page) : Knows Q P page.stopTimers :=
  h.congr (stopTimers_app page) (stopTimers_storage page) fun _ he =>
    Or.inl (mem_stopTimers.1 he).1

/-- A transition that is not legal leaves what is known. -/
lemma transition (h : Knows Q P page) {next : PageState} {updates : App → App}
    (hQ : Legal page.app.state next → Q { updates page.app with state := next }) :
    (transition browser next updates page).Ends (Knows Q P) (Knows Q P) := by
  have hcalled : Knows Q P { page with calls := page.calls ++ [(page.app.state, next)] } :=
    h.congr rfl rfl fun _ he => Or.inl he
  by_cases hlegal : Legal page.app.state next
  · rw [transition_of_legal hlegal]
    exact (hcalled.assign (hQ hlegal)).refresh
  · obtain ⟨message, heq⟩ := transition_of_not_legal hlegal updates
    rw [heq]
    exact hcalled

lemma detect (h : Knows Q P page) (hQ : ∀ app, Restates page.app app → Q app) :
    (detect browser page).Ends (Knows Q P) (Knows Q P) := by
  rw [Checkout.detect]
  split
  · exact h.transition fun _ => hQ _ ⟨rfl, rfl, rfl, rfl, rfl⟩
  · exact h.render

/-- A session that has ended, whatever is known of it; a state that cannot end has no pass. -/
lemma ended (h : ∀ snapshot, page.storage = some snapshot → Q snapshot)
    (hpending : ∀ e ∈ page.pending, ∀ request, e.2.request = some request → P request)
    (hQ : ∀ app, Restates page.app app → app.state.hasPass = false → Q app) :
    (Checkout.transition browser .expired (fun app => { app with statusText := "Session expired" })
      page).Ends (Knows Q P) (Knows Q P) := by
  by_cases hlegal : Legal page.app.state .expired
  · rw [transition_of_legal hlegal]
    refine Knows.refresh ⟨?_, h, hpending⟩
    exact hQ { page.app with state := .expired, statusText := "Session expired" }
      ⟨rfl, rfl, rfl, rfl, rfl⟩ rfl
  · have hnone : page.app.state.hasPass = false := by
      cases hstate : page.app.state with
      | detected | confirmed =>
          rw [hstate] at hlegal
          exact absurd (Or.inr (by decide)) hlegal
      | _ => rfl
    have hknows : Knows Q P page := ⟨hQ _ ⟨rfl, rfl, rfl, rfl, rfl⟩ hnone, h, hpending⟩
    exact hknows.transition fun hlegal' => absurd hlegal' hlegal

section

variable (hclosed : KeptAlone browser.toEngine Q P)

include hclosed

/-- The state changes to one without a pass. -/
lemma transition_restates (h : Knows Q P page) {next : PageState} {updates : App → App}
    (hnext : next.hasPass = false)
    (hrestates : Restates page.app { updates page.app with state := next }) :
    (Checkout.transition browser next updates page).Ends (Knows Q P) (Knows Q P) := by
  exact h.transition fun _ => hclosed.leaves h.app hrestates hnext

lemma updateCountdown (h : Knows Q P page) :
    (updateCountdown browser page).Ends (Knows Q P) (Knows Q P) := by
  rcases updateCountdown_cases browser page with ⟨message, -, heq⟩ | ⟨-, heq⟩ | ⟨-, heq⟩
  · rw [heq]
    exact h
  · rw [heq]
    exact h
  · rw [heq]
    refine h.stopTimers.transition_restates hclosed rfl ?_
    rw [expiry]
    split <;> exact ⟨rfl, rfl, rfl, rfl, rfl⟩

lemma startCountdown (h : Knows Q P page) :
    (startCountdown browser page).Ends (Knows Q P) (Knows Q P) := by
  have hnone : Knows Q P { page with countdown := none } :=
    h.congr rfl rfl fun _ he => Or.inl he
  exact (hnone.updateCountdown hclosed).andThen fun _ h => h.congr rfl rfl fun _ he => Or.inl he

lemma scheduleStatusPoll (h : Knows Q P page) :
    (scheduleStatusPoll browser page).Ends (Knows Q P) (Knows Q P) := by
  refine (h.stopTimers.startCountdown hclosed).andThen fun page h => ?_
  split
  · exact h
  · exact (h.push_timer rfl).congr rfl rfl fun _ he => Or.inl he

lemma createPaymentSession (h : Knows Q P page) :
    Knows Q P (createPaymentSession browser page) := by
  have hstopped := h.stopTimers
  have hcreates : ∀ request, some (.create paymentRequestBody) = some request → P request :=
    fun request heq => Option.some.inj heq ▸ hclosed.creates
  rcases createPaymentSession_cases browser page with ⟨-, heq⟩ | ⟨-, heq⟩
  · rw [heq]
    refine Outcome.Ends.state (Outcome.Ends.andThen (P := Knows Q P) ?_ fun _ h => ?_)
    · exact hstopped.transition fun _ => hclosed.renewed _ hstopped.app
    · exact h.push hcreates
  · rw [heq]
    exact hstopped.push hcreates

lemma confirmPayment (h : Knows Q P page) :
    (confirmPayment browser page).Ends (Knows Q P) (Knows Q P) := by
  have hmoved : (Checkout.transition browser .confirmed
      (fun app => { app with statusText := "Payment confirmed" }) page).Ends
        (Knows Q P) (Knows Q P) := by
    refine h.transition fun hlegal => ?_
    refine hclosed.restates _ _ h.app ⟨rfl, rfl, rfl, rfl, rfl⟩ fun _ => ?_
    -- a pass is shown after one was detected, or is shown already
    rcases hlegal with hsame | hfrom
    · rw [hsame]
      rfl
    · cases hstate : page.app.state with
      | detected => rfl
      | _ => simp [hstate, transitions] at hfrom
  exact hmoved.andThen fun _ h => h.startCountdown hclosed

lemma failed (h : Knows Q P page) {updates : App → App}
    (hrestates : ∀ app, Restates app { updates app with state := .error }) :
    (Checkout.transition browser .error updates page).Ends (Knows Q P) (Knows Q P) :=
  h.transition_restates hclosed rfl (hrestates page.app)

lemma checkStatus (h : Knows Q P page) : Knows Q P (checkStatus browser page) := by
  rw [Checkout.checkStatus]
  split
  · rename_i htruthy
    refine Outcome.Ends.state (Outcome.Ends.caught (E := Knows Q P) ?_ fun _ _ h =>
      h.failed hclosed fun _ => ⟨rfl, rfl, rfl, rfl, rfl⟩)
    rw [convert]
    split
    · refine h.push ?_
      rintro request ⟨⟩
      exact hclosed.session _ h.app htruthy
    · exact h
  · exact h

/-! ### Answers -/

lemma createdSession (h : Knows Q P page) (data : Value)
    (hcreated : ∀ app, Q app → Q (withSession data app)) :
    (createdSession browser data page).Ends (Knows Q P) (Knows Q P) := by
  rw [Checkout.createdSession.eq_def]
  split
  · exact h
  · refine Outcome.Ends.andThen (P := Knows Q P) ?_ fun _ h => ?_
    · exact (h.assign (hcreated _ h.app)).refresh
    · exact (h.startCountdown hclosed).andThen fun _ h => h.scheduleStatusPoll hclosed

lemma handleStatus (h : Knows Q P page) {status : Value}
    (hname : ∃ name ∈ ["waiting", "confirmed", "expired"],
      asString (prop status "status") = some name)
    (hmerged : ∀ app, Restates (merge browser.toEngine status page.app) app →
      (app.state.hasPass = true → asString (prop status "status") = some "confirmed") → Q app) :
    (handleStatus browser status page).Ends (Knows Q P) (Knows Q P) := by
  obtain ⟨name, hmem, hname⟩ := hname
  have hwithout : ∀ app, Restates (merge browser.toEngine status page.app) app →
      app.state.hasPass = false → Q app := by
    intro app hrestates hnone
    refine hmerged app hrestates fun hpass => ?_
    rw [hnone] at hpass
    cases hpass
  rw [Checkout.handleStatus.eq_def]
  split
  · exact h
  · dsimp only
    rw [hname]
    simp only [List.mem_cons, List.not_mem_nil, or_false] at hmem
    rcases hmem with rfl | rfl | rfl
    · -- `waiting`
      refine Outcome.Ends.andThen (P := Knows Q P) ?_ fun _ h => h.scheduleStatusPoll hclosed
      split
      · refine Knows.refresh (h.assign ?_)
        exact hwithout _ ⟨rfl, rfl, rfl, rfl, rfl⟩ rfl
      · rename_i hstate
        refine (h.assign (hwithout _ ⟨rfl, rfl, rfl, rfl, rfl⟩ ?_)).render
        have hwaiting : (merge browser.toEngine status page.app).state = .waiting :=
          not_not.1 hstate
        rw [hwaiting]
        rfl
    · -- `confirmed`
      have hQ : ∀ app, Restates (merge browser.toEngine status page.app) app → Q app :=
        fun app hrestates => hmerged app hrestates fun _ => hname
      have hmerge := h.assign (hQ _ ⟨rfl, rfl, rfl, rfl, rfl⟩)
      refine (hmerge.detect hQ).andThen fun page h => ?_
      exact (h.push_timer rfl).congr rfl rfl fun _ he => Or.inl he
    · -- `expired`
      exact ended h.stored h.pending hwithout

lemma createEnds (h : Knows Q P page) (result : Except String Value)
    (hcreated : ∀ data, result = .ok data → ∀ app, Q app → Q (withSession data app)) :
    (createEnds browser result page).Ends (Knows Q P) (Knows Q P) := by
  refine Outcome.Ends.caught (E := Knows Q P) ?_ fun message page h =>
    h.failed hclosed fun _ => ⟨rfl, rfl, rfl, rfl, rfl⟩
  cases result with
  | ok data => exact h.createdSession hclosed data (hcreated data rfl)
  | error message => exact h

lemma statusEnds (h : Knows Q P page) (result : Except String Value)
    (hstatus : ∀ status, result = .ok status →
      (∃ name ∈ ["waiting", "confirmed", "expired"],
        asString (prop status "status") = some name) ∧
      ∀ app, Restates (merge browser.toEngine status page.app) app →
        (app.state.hasPass = true → asString (prop status "status") = some "confirmed") →
          Q app) :
    (statusEnds browser result page).Ends (Knows Q P) (Knows Q P) := by
  refine Outcome.Ends.caught (E := Knows Q P) ?_ fun message page h =>
    h.failed hclosed fun _ => ⟨rfl, rfl, rfl, rfl, rfl⟩
  cases result with
  | ok status => exact h.handleStatus hclosed (hstatus status rfl).1 (hstatus status rfl).2
  | error message => exact h

/-- A request fails for good. -/
lemma requestFails (h : Knows Q P page) (request : Request) (message : String) :
    (requestEnds browser request (.error message) page).Ends (Knows Q P) (Knows Q P) := by
  cases request with
  | create body =>
      have hends : (Checkout.createEnds browser (.error message) page).Ends (Knows Q P)
          (Knows Q P) := h.createEnds hclosed _ fun data hok => absurd hok (by simp)
      exact hends
  | status sessionId =>
      exact h.statusEnds hclosed (.error message) fun status hok => absurd hok (by simp)

/-- A fetch ends as its request does, or is tried again. -/
lemma fetchEnds (h : Knows Q P page) {request : Request} (retryCount : ℕ) {fetched : Fetched}
    (hok : ∀ body, fetched.result = .ok body →
      (requestEnds browser request (.ok body) page).Ends (Knows Q P) (Knows Q P))
    (hrequest : P request) :
    (fetchEnds browser request retryCount fetched page).Ends (Knows Q P) (Knows Q P) := by
  have hretried : Knows Q P (retried retryCount page) :=
    h.assign (hclosed.restates _ _ h.app ⟨rfl, rfl, rfl, rfl, rfl⟩ id)
  refine fetchEnds_ends hok ?_ ?_ ?_
  · intro message _ _
    exact h.requestFails hclosed request message
  · intro page' due hdrawn
    refine (hretried.redrawn hdrawn.redrawn).push ?_
    rintro request ⟨⟩
    exact hrequest
  · intro page' message hredrawn _
    exact (hretried.redrawn hredrawn).requestFails hclosed request message

/-! ### Loading -/

lemma restoreStored (h : Knows Q P page) {stored : App} (hstored : Q stored) :
    (restoreStored browser stored page).Ends (Knows Q P) (Knows Q P) := by
  refine Outcome.Ends.andThen (P := Knows Q P) (h.assign hstored).refresh fun page h => ?_
  split
  · split
    · exact h
    · split
      · exact h.transition_restates hclosed rfl ⟨rfl, rfl, rfl, rfl, rfl⟩
      · exact (h.startCountdown hclosed).andThen fun _ h => h.scheduleStatusPoll hclosed
  · split
    · exact h.startCountdown hclosed
    · split
      · exact h.render
      · exact h.createPaymentSession hclosed

/-- A page that is loaded knows what was saved. -/
lemma load {storage : Option App} (hstorage : ∀ stored, storage = some stored → Q stored)
    (clock : ℕ) (calls : List (PageState × PageState)) :
    Knows Q P (load browser storage clock calls) := by
  have hinit : ∀ page : Page, page.app = createInitialStore → page.pending = [] →
      (∀ stored, page.storage = some stored → Q stored) → Knows Q P page := by
    intro page happ hpending hstored
    refine ⟨happ ▸ hclosed.init, hstored, ?_⟩
    rw [hpending]
    exact nofun
  have hfresh : ∀ {page : Page}, Knows Q P page → (page.render.andThen fun page =>
      .done (Checkout.createPaymentSession browser page)).Ends (Knows Q P) (Knows Q P) := fun h =>
    h.render.andThen fun _ h => h.createPaymentSession hclosed
  refine Outcome.Ends.state ?_
  rw [restore]
  cases storage with
  | none =>
      dsimp only
      refine hfresh (hinit _ ?_ ?_ ?_)
      · rfl
      · rfl
      · exact fun stored hnone => absurd hnone (by simp)
  | some stored =>
      dsimp only
      refine Outcome.Ends.caught (E := Knows Q P) ?_ ?_
      · have hread := hclosed.reread stored (hstorage stored rfl)
        refine (hinit _ ?_ ?_ hstorage).restoreStored hclosed hread
        · rfl
        · rfl
      · intro message page h
        refine hfresh ⟨hclosed.init, fun stored hnone => absurd hnone (by simp), h.pending⟩

/-! ### Steps -/

/-- **What the page knows.** -/
theorem step (h : Knows Q P page) {a : Action} (hadmits : Admits browser.toEngine Q P page a)
    (hstep : Checkout.step browser page a = some page') : Knows Q P page' := by
  cases effect_of_step hstep with
  | elapse => exact h.congr rfl rfl fun _ he => Or.inl he
  | tick _ _ =>
      refine (Knows.updateCountdown hclosed ?_).state
      exact h.congr rfl rfl fun _ he => Or.inl he
  | poll _ _ => exact (h.remove _).checkStatus hclosed
  | confirm _ _ => exact ((h.remove _).confirmPayment hclosed).state
  | retry hget _ => exact (h.remove _).push (h.pending _ (mem_of_lookup hget))
  | @answer handle retryCount request fetched hget =>
      have hremoved := h.remove handle
      have hP : P request := h.pending _ (mem_of_lookup hget) request rfl
      refine (hremoved.fetchEnds hclosed retryCount (fun data hresult => ?_) hP).state
      cases request with
      | create body =>
          have hends : (Checkout.createEnds browser (.ok data) (page.remove handle)).Ends
              (Knows Q P) (Knows Q P) := by
            refine hremoved.createEnds hclosed _ ?_
            rintro data ⟨⟩
            exact hadmits.created handle fetched retryCount body data rfl hget hresult hP
          exact hends
      | status sessionId =>
          refine hremoved.statusEnds hclosed (.ok data) ?_
          rintro status ⟨⟩
          exact hadmits.answered handle fetched retryCount sessionId data rfl hget hresult hP
  | click _ => exact h.createPaymentSession hclosed
  | reload => exact load hclosed h.stored page.clock page.calls

end

end Knows

end Haske.Checkout
