import Haske.Checkout.Handlers

/-!
# Transitions of the checkout page

The handlers of the page assume the state they were started in.  A request is sent while
the payment is open, and its answer is handled as if the payment still were.  The countdown
does not respect this: it ends the session whether or not a request is on its way, and it
goes on ticking when a new session is created, for which no deadline is known yet.  Nor does
the handler of an exception: it fails the session, which may have expired just before.

If neither happens (`Calm`), then the event loop never holds more than one thing for the page,
what it holds belongs to the state the page is in (`Outstanding`), and what the page knows can
be drawn (`Sane`).  Then no call of `transition` is illegal (`transitions_legal`).
-/

namespace Haske.Checkout

open Json Js Script Machine

/-- What the request of a callback is for; a delay belongs to the request that is tried again. -/
def Callback.request : Callback → Option Request
  | .fetch request _ | .retry request _ _ => some request
  | _ => none

def Request.isStatus : Request → Bool
  | .status _ => true
  | .create _ => false

/-- The status of a payment is being asked for. -/
def Callback.asksStatus (callback : Callback) : Bool := callback.request.any Request.isStatus

/-- No call of `transition` was illegal. -/
def LegalCalls (page : Page) : Prop := ∀ call ∈ page.calls, Legal call.1 call.2

/-- What the page knows can be drawn, unless the session failed; and there is no button for
another try beside a pass. -/
structure Sane (page : Page) : Prop where
  calls : LegalCalls page
  draws : page.app.state ≠ .error → page.app.draws = true
  shown : page.app.state = .confirmed → page.failureActions = false

/-- The event loop holds at most one thing for the page, in a state it belongs to.  A session
may expire while it is being created. -/
inductive Outstanding (page : Page) : Prop
  | nothing (h : page.pending = [])
  | poll {handle due : ℕ} (h : page.pending = [(handle, .poll due)])
      (htimer : page.pollTimer = some handle) (hopen : page.app.state.isOpen = true)
      (hshown : page.failureActions = false)
  | confirm {handle due : ℕ} (h : page.pending = [(handle, .confirm due)])
      (htimer : page.transitionTimer = some handle) (hstate : page.app.state = .detected)
      (hshown : page.failureActions = false)
  | status {handle : ℕ} {callback : Callback} {sessionId : Option Value}
      (h : page.pending = [(handle, callback)])
      (hrequest : callback.request = some (.status sessionId))
      (hopen : page.app.state.isOpen = true) (hshown : page.failureActions = false)
  | create {handle : ℕ} {callback : Callback} {body : Value}
      (h : page.pending = [(handle, callback)])
      (hrequest : callback.request = some (.create body))
      (hstate : page.app.state.isOpen = true ∨ page.app.state = .expired)

/-- What the event loop holds belongs to the page while this stays the same. -/
lemma Outstanding.congr {page page' : Page} (h : Outstanding page)
    (hstate : page'.app.state = page.app.state)
    (hshown : page'.failureActions = page.failureActions) (hpending : page'.pending = page.pending)
    (hpoll : page'.pollTimer = page.pollTimer)
    (htransition : page'.transitionTimer = page.transitionTimer) : Outstanding page' := by
  cases h with
  | nothing h => exact .nothing (hpending.trans h)
  | poll h htimer hopen hnot =>
      exact .poll (hpending.trans h) (hpoll.trans htimer) (by rwa [hstate]) (hshown.trans hnot)
  | confirm h htimer hdetected hnot =>
      exact .confirm (hpending.trans h) (htransition.trans htimer) (hstate.trans hdetected)
        (hshown.trans hnot)
  | status h hrequest hopen hnot =>
      exact .status (hpending.trans h) hrequest (by rwa [hstate]) (hshown.trans hnot)
  | create h hrequest hopen => exact .create (hpending.trans h) hrequest (by rwa [hstate])

structure Orderly (page : Page) : Prop where
  sane : Sane page
  outstanding : Outstanding page

/-- Nothing is outstanding. -/
structure Clear (page : Page) : Prop where
  sane : Sane page
  pending : page.pending = []

lemma Clear.orderly {page : Page} (h : Clear page) : Orderly page := ⟨h.sane, .nothing h.pending⟩

/-- Nothing is outstanding, and the countdown can be started at this time. -/
structure Ready (clock : ℕ) (page : Page) : Prop where
  clear : Clear page
  clock : page.clock = clock
  state : page.app.state ≠ .error
  shown : page.app.state.isOpen = true → page.failureActions = false

/-- A page on which an exception is handled. -/
structure Failing (page : Page) : Prop where
  calls : LegalCalls page
  pending : page.pending = []
  state : page.app.state.isOpen = true ∨ page.app.state = .error

/-- The storage takes the snapshots of a page in this state. -/
def Browser.Takes (browser : Browser) (clock : ℕ) (state : PageState) : Prop :=
  ∀ app, app.state = state → browser.refuses clock app = none

/-- What an answer about a session holds can be drawn. -/
def drawable (body : Value) : Bool :=
  ["request_expires_at", "expires_at", "access_qr_png"].all fun name =>
    converts (orNull (prop body name))

/-! ### Saving and drawing -/

section

variable {browser : Browser} {page page' : Page} {clock : ℕ}

lemma LegalCalls.append (h : LegalCalls page) {next : PageState}
    (hlegal : Legal page.app.state next) (updates : App → App) :
    LegalCalls (moved next updates page) := by
  intro call hcall
  rcases List.mem_append.1 hcall with hcall | hcall
  · exact h call hcall
  · obtain rfl := List.mem_singleton.1 hcall
    exact hlegal

lemma Sane.congr (h : Sane page) (hcalls : page'.calls = page.calls) (happ : page'.app = page.app)
    (hshown : page'.failureActions = page.failureActions) : Sane page' where
  calls := by rw [LegalCalls, hcalls]; exact h.calls
  draws := by rw [happ]; exact h.draws
  shown := by rw [happ, hshown]; exact h.shown

lemma Sane.stopTimers (h : Sane page) : Sane page.stopTimers :=
  h.congr (stopTimers_calls page) (stopTimers_app page) (stopTimers_failureActions page)

lemma Clear.stopTimers (h : Clear page) : Clear page.stopTimers := by
  refine ⟨h.sane.stopTimers, ?_⟩
  have hsub := stopTimers_sublist page
  rw [h.pending] at hsub
  exact List.sublist_nil.1 hsub

lemma Ready.stopTimers (h : Ready clock page) : Ready clock page.stopTimers where
  clear := h.clear.stopTimers
  clock := (stopTimers_clock page).trans h.clock
  state := by rw [stopTimers_app]; exact h.state
  shown := by rw [stopTimers_app, stopTimers_failureActions]; exact h.shown

/-- A page that has been drawn is sane. -/
lemma Drawn.sane (hdrawn : Drawn page page') (hcalls : LegalCalls page) : Sane page' := by
  obtain ⟨⟨-, -⟩, hfailed, hdraws⟩ := hdrawn
  refine ⟨hcalls, fun _ => hdraws, fun hstate => ?_⟩
  rw [hfailed, hstate]
  rfl

lemma Drawn.clear (hdrawn : Drawn page page') (hcalls : LegalCalls page)
    (hpending : page.pending = []) : Clear page' :=
  ⟨hdrawn.sane hcalls, hdrawn.redrawn.pending.trans hpending⟩

/-- A page that has been drawn can go on. -/
lemma Drawn.ready (hdrawn : Drawn page page') (hcalls : LegalCalls page)
    (hpending : page.pending = []) (hclock : page.clock = clock)
    (hstate : page.app.state ≠ .error) : Ready clock page' := by
  have hsane := hdrawn.sane hcalls
  obtain ⟨⟨-, -⟩, hfailed, -⟩ := hdrawn
  refine ⟨⟨hsane, hpending⟩, hclock, hstate, fun hopen => ?_⟩
  rw [hfailed]
  cases hcase : page.app.state with
  | expired | error =>
      rw [hcase] at hopen
      cases hopen
  | _ => rfl

lemma draws_expiry (app : App) :
    ({ expiry app with state := .expired } : App).draws = app.draws := by
  rw [expiry]
  split
  · rfl
  · rfl

/-- The session or the pass ends, whether or not this is saved and drawn. -/
lemma Sane.expired (h : Sane page) (hlegal : Legal page.app.state .expired)
    (hstate : page.app.state ≠ .error) (hredrawn : Redrawn (moved .expired expiry page) page') :
    Sane page' := by
  obtain ⟨-, -⟩ := hredrawn
  refine ⟨h.calls.append hlegal expiry, fun _ => ?_, fun hconfirmed => ?_⟩
  · exact (draws_expiry page.app).trans (h.draws hstate)
  · cases hconfirmed

/-- The session fails. -/
lemma LegalCalls.failed (h : LegalCalls page) (hlegal : Legal page.app.state .error)
    {updates : App → App} (hredrawn : Redrawn (moved .error updates page) page') : Sane page' := by
  obtain ⟨-, -⟩ := hredrawn
  refine ⟨h.append hlegal updates, fun hstate => ?_, fun hstate => ?_⟩
  · exact absurd rfl hstate
  · cases hstate

lemma isOpen_cases {state : PageState} (h : state.isOpen = true) :
    state = .waiting ∨ state = .detected := by
  cases state with
  | waiting => exact Or.inl rfl
  | detected => exact Or.inr rfl
  | _ => exact absurd h (by decide)

lemma Redrawn.failing (hredrawn : Redrawn page page') (hcalls : LegalCalls page)
    (hpending : page.pending = [])
    (hstate : page.app.state.isOpen = true ∨ page.app.state = .error) : Failing page' := by
  obtain ⟨-, -⟩ := hredrawn
  exact ⟨hcalls, hpending, hstate⟩

lemma Failing.legal (h : Failing page) : Legal page.app.state .error := by
  rcases h.state with hopen | hstate
  · rcases isOpen_cases hopen with hstate | hstate <;> exact Or.inr (by rw [hstate]; decide)
  · exact Or.inl hstate

/-- The handler of an exception fails the session. -/
lemma Failing.transition (h : Failing page) (updates : App → App) :
    (transition browser .error updates page).Ends Orderly Orderly := by
  rw [transition_of_legal h.legal]
  have hclear : ∀ page', Redrawn (moved .error updates page) page' → Orderly page' := by
    intro page' hredrawn
    have hsane := h.calls.failed h.legal hredrawn
    obtain ⟨-, -⟩ := hredrawn
    exact ⟨hsane, .nothing h.pending⟩
  exact (refresh_ends _).mono (fun page' hdrawn => hclear page' hdrawn.redrawn)
    fun page' hfailed => hclear page' hfailed.1

/-! ### The countdown -/

lemma all_draws {app : App} (h : app.draws = true) {value : Option Value}
    (hvalue : value ∈ app.written ++ app.images) : converts (orNull value) = true :=
  List.all_eq_true.1 h value hvalue

/-- What can be drawn can be counted down to. -/
lemma exists_expiresInSeconds (engine : Engine) {value : Option Value}
    (h : converts (orNull value) = true) (now : ℕ) :
    ∃ left, expiresInSeconds engine value now = .ok left := by
  rw [expiresInSeconds.eq_def]
  split
  · exact ⟨_, rfl⟩
  · rw [if_pos h]
    split
    · exact ⟨_, rfl⟩
    · exact ⟨_, rfl⟩

lemma exists_target_left (engine : Engine) {app : App} (h : app.draws = true) (now : ℕ) :
    ∃ left, expiresInSeconds engine app.target now = .ok left := by
  refine exists_expiresInSeconds engine (all_draws h ?_) now
  rw [App.target]
  split
  · simp [App.written]
  · simp [App.written]

/-- An exception is one of the storage. -/
lemma Ready.updateCountdown (h : Ready clock page) :
    (updateCountdown browser page).Ends (Ready clock) fun page =>
      Clear page ∧ ¬ browser.Takes clock .expired := by
  rcases updateCountdown_cases browser page with ⟨message, herror, -⟩ | ⟨-, heq⟩ | ⟨hexpires, heq⟩
  · obtain ⟨left, hleft⟩ :=
      exists_target_left browser.toEngine (h.clear.sane.draws h.state) page.clock
    rw [hleft] at herror
    cases herror
  · rw [heq]
    exact h
  · have hstopped := h.stopTimers
    have hlegal : Legal page.stopTimers.app.state .expired := by
      rw [stopTimers_app]
      exact legal_expired hexpires.2
    have hclear : ∀ page', Redrawn (moved .expired expiry page.stopTimers) page' → Clear page' := by
      intro page' hredrawn
      have hsane := hstopped.clear.sane.expired hlegal hstopped.state hredrawn
      obtain ⟨-, -⟩ := hredrawn
      exact ⟨hsane, hstopped.clear.pending⟩
    rw [heq, transition_of_legal hlegal]
    refine (refresh_ends _).mono ?_ ?_
    · intro page' hdrawn
      have hcleared := hclear page' hdrawn.redrawn
      obtain ⟨⟨-, -⟩, -, -⟩ := hdrawn
      exact ⟨hcleared, hstopped.clock, nofun, nofun⟩
    · rintro page' ⟨hredrawn, hreason⟩
      refine ⟨hclear page' hredrawn, fun htakes => ?_⟩
      rcases hreason with hrefuses | hdraws | hconfirmed
      · refine hrefuses (Eq.trans ?_ (htakes (moved .expired expiry page.stopTimers).app rfl))
        exact congrArg (fun clock => browser.refuses clock _) hstopped.clock
      · have hsame := (draws_expiry page.stopTimers.app).symm.trans hdraws
        rw [hstopped.clear.sane.draws hstopped.state] at hsame
        cases hsame
      · cases hconfirmed

lemma Ready.countdown (h : Ready clock page) (countdown : Option ℕ) :
    Ready clock { page with countdown := countdown } :=
  ⟨⟨h.clear.sane.congr rfl rfl rfl, h.clear.pending⟩, h.clock, h.state, h.shown⟩

lemma Ready.startCountdown (h : Ready clock page) :
    (startCountdown browser page).Ends (Ready clock) fun page =>
      Clear page ∧ ¬ browser.Takes clock .expired :=
  (h.countdown none).updateCountdown.andThen fun _ h => h.countdown _

lemma push_pending (h : page.pending = []) (callback : Callback) :
    (page.push callback).pending = [(page.nextHandle, callback)] := by
  simp [Page.push, h]

lemma Ready.scheduleStatusPoll (h : Ready clock page) :
    (scheduleStatusPoll browser page).Ends Orderly fun page =>
      Clear page ∧ ¬ browser.Takes clock .expired := by
  refine h.stopTimers.startCountdown.andThen fun page h => ?_
  split
  · exact h.clear.orderly
  · rename_i hopen
    rw [not_or, Bool.not_eq_false, Bool.not_eq_false] at hopen
    exact ⟨h.clear.sane.congr rfl rfl rfl,
      .poll (push_pending h.clear.pending _) rfl hopen.2 (h.shown hopen.2)⟩

end

/-! ### The handlers -/

section

variable {browser : Browser} {page page' : Page} {clock : ℕ}

/-- A session is created from a page that has nothing outstanding but timers. -/
lemma Sane.createPaymentSession (h : Sane page) (hpending : page.stopTimers.pending = [])
    (hstate : page.app.state ≠ .confirmed) : Orderly (createPaymentSession browser page) := by
  have hstopped := h.stopTimers
  have happ := stopTimers_app page
  rcases createPaymentSession_cases browser page with ⟨hended, heq⟩ | ⟨hopen, heq⟩
  · have hlegal : Legal page.stopTimers.app.state .waiting := by
      rw [happ]
      rcases hended with hstate | hstate | hstate <;> exact Or.inr (by rw [hstate]; decide)
    have hcalls := hstopped.calls.append hlegal renewal
    -- a page that has just been loaded has nothing to forget
    have hdraws : (moved .waiting renewal page.stopTimers).app.draws = true := by
      show ({ renewal page.stopTimers.app with state := .waiting } : App).draws = true
      rw [renewal, happ]
      split
      · rfl
      · rename_i hother
        exact h.draws fun herror => hother (Or.inr herror)
    rw [heq, transition_of_legal hlegal]
    refine Outcome.Ends.state (Outcome.Ends.andThen
      (P := fun page => Clear page ∧ page.app.state = .waiting) ?_ ?_)
    · refine (refresh_ends _).mono ?_ ?_
      · intro page' hdrawn
        exact ⟨hdrawn.clear hcalls hpending, congrArg App.state hdrawn.redrawn.app⟩
      · rintro page' ⟨⟨-, -⟩, -⟩
        exact ⟨⟨hcalls, fun _ => hdraws, nofun⟩, .nothing hpending⟩
    · rintro page' ⟨hclear, hwaiting⟩
      refine ⟨hclear.sane.congr rfl rfl rfl,
        .create (push_pending hclear.pending _) rfl (Or.inl ?_)⟩
      show page'.app.state.isOpen = true
      rw [hwaiting]
      rfl
  · rw [heq]
    refine ⟨hstopped.congr rfl rfl rfl, .create (push_pending hpending _) rfl (Or.inl ?_)⟩
    show page.stopTimers.app.state.isOpen = true
    rw [happ]
    exact hopen.resolve_right hstate

/-- A session has been created, in whatever state the page is now. -/
lemma LegalCalls.createdSession (h : LegalCalls page) (hpending : page.pending = [])
    (htakes : browser.Takes page.clock .expired) {data : Value}
    (hnull : data = .null → page.app.state.isOpen = true) :
    (createdSession browser data page).Ends Orderly Failing := by
  have hnone : ∀ page', Clear page' ∧ ¬ browser.Takes page.clock .expired → Failing page' :=
    fun _ h => absurd htakes h.2
  rw [Checkout.createdSession.eq_def]
  split
  · exact ⟨h, hpending, Or.inl (hnull rfl)⟩
  · refine Outcome.Ends.andThen (P := Ready page.clock) ?_ fun page' hready => ?_
    · have hwaiting : PageState.waiting ≠ .error := by decide
      refine (refresh_ends _).mono ?_ ?_
      · intro page' hdrawn
        exact hdrawn.ready h hpending rfl hwaiting
      · intro page' hfailed
        exact hfailed.1.failing h hpending (Or.inl rfl)
    · refine (hready.startCountdown.mono (fun _ h => h) hnone).andThen fun _ hready => ?_
      exact hready.scheduleStatusPoll.mono (fun _ h => h) hnone

/-- The page in which a status request has just ended. -/
structure Asked (page : Page) : Prop where
  calls : LegalCalls page
  pending : page.pending = []
  isOpen : page.app.state.isOpen = true
  shown : page.failureActions = false

lemma Asked.failing (h : Asked page) : Failing page := ⟨h.calls, h.pending, Or.inl h.isOpen⟩

lemma Asked.detect (h : Asked page) : (detect browser page).Ends
    (fun page' => Ready page.clock page' ∧ page'.app.state = .detected) Failing := by
  rw [Checkout.detect]
  split
  · rename_i hstate
    have hlegal : Legal page.app.state .detected := Or.inr (by rw [hstate]; decide)
    rw [transition_of_legal hlegal]
    have hcalls := h.calls.append hlegal fun app => { app with statusText := "Payment detected" }
    have hdetected : PageState.detected ≠ .error := by decide
    refine (refresh_ends _).mono ?_ ?_
    · intro page' hdrawn
      exact ⟨hdrawn.ready hcalls h.pending rfl hdetected, congrArg App.state hdrawn.redrawn.app⟩
    · intro page' hfailed
      exact hfailed.1.failing hcalls h.pending (Or.inl rfl)
  · rename_i hstate
    have hdetected := (isOpen_cases h.isOpen).resolve_left hstate
    refine (render_ends page).mono ?_ ?_
    · intro page' hdrawn
      refine ⟨hdrawn.ready h.calls h.pending rfl (by rw [hdetected]; decide), ?_⟩
      rw [hdrawn.redrawn.app]
      exact hdetected
    · intro page' hfailed
      exact hfailed.1.failing h.calls h.pending (Or.inl h.isOpen)

/-- An answer that the session has expired is drawn at once; the others may fail before the
countdown ends the session. -/
lemma Asked.handleStatus (h : Asked page) (htakes : browser.Takes page.clock .expired)
    {status : Value} (hexpired : asString (prop status "status") = some "expired" →
      (merge browser.toEngine status page.app).draws = true) :
    (handleStatus browser status page).Ends Orderly Failing := by
  have hnone : ∀ page', Clear page' ∧ ¬ browser.Takes page.clock .expired → Failing page' :=
    fun _ h => absurd htakes h.2
  -- the body `null`, and then the statuses in the order of the source
  rw [Checkout.handleStatus.eq_def]
  split
  · exact h.failing
  · have hmerged : Asked { page with app := merge browser.toEngine status page.app } :=
      ⟨h.calls, h.pending, h.isOpen, h.shown⟩
    dsimp only
    split
    · rename_i hname
      have hlegal := legal_expired (Or.inl hmerged.isOpen)
      rw [transition_of_legal hlegal]
      have hcalls := hmerged.calls.append hlegal fun app =>
        { app with statusText := "Session expired" }
      refine (refresh_ends _).mono ?_ ?_
      · intro page' hdrawn
        exact (hdrawn.clear hcalls h.pending).orderly
      · rintro page' ⟨-, hrefuses | hdraws | hconfirmed⟩
        · exact absurd (htakes _ rfl) hrefuses
        · have hsame := hexpired hname
          rw [show (merge browser.toEngine status page.app).draws = false from hdraws] at hsame
          cases hsame
        · cases hconfirmed
    · refine hmerged.detect.andThen ?_
      rintro page' ⟨hready, hstate⟩
      refine ⟨hready.clear.sane.congr rfl rfl rfl,
        .confirm (push_pending hready.clear.pending _) rfl hstate (hready.shown ?_)⟩
      rw [hstate]
      rfl
    · refine hmerged.detect.andThen ?_
      rintro page' ⟨hready, -⟩
      exact hready.scheduleStatusPoll.mono (fun _ h => h) hnone
    · refine Outcome.Ends.andThen (P := Ready page.clock) ?_ fun page' hready =>
        hready.scheduleStatusPoll.mono (fun _ h => h) hnone
      split
      · have hwaiting : PageState.waiting ≠ .error := by decide
        refine (refresh_ends _).mono ?_ ?_
        · intro page' hdrawn
          exact hdrawn.ready h.calls h.pending rfl hwaiting
        · intro page' hfailed
          exact hfailed.1.failing h.calls h.pending (Or.inl rfl)
      · rename_i hstate
        have hwaiting : page.app.state = .waiting := not_not.1 hstate
        refine (render_ends _).mono ?_ ?_
        · intro page' hdrawn
          refine hdrawn.ready h.calls h.pending rfl ?_
          show page.app.state ≠ .error
          rw [hwaiting]
          decide
        · intro page' hfailed
          exact hfailed.1.failing h.calls h.pending (Or.inl h.isOpen)
    · have hfailing := hmerged.failing
      rw [transition_of_legal hfailing.legal]
      have hcalls := hmerged.calls.append hfailing.legal fun app =>
        { app with lastError := some "Unknown status payload", statusText := "Bad response" }
      refine (refresh_ends _).mono ?_ ?_
      · intro page' hdrawn
        exact (hdrawn.clear hcalls h.pending).orderly
      · intro page' hfailed
        exact hfailed.1.failing hcalls h.pending (Or.inr rfl)

lemma Asked.statusEnds (h : Asked page) (htakes : browser.Takes page.clock .expired)
    {result : Except String Value} (hexpired : ∀ status, result = .ok status →
      asString (prop status "status") = some "expired" →
        (merge browser.toEngine status page.app).draws = true) :
    (statusEnds browser result page).Ends Orderly Orderly := by
  refine Outcome.Ends.caught (E := Failing) ?_ fun _ _ h => h.transition _
  cases result with
  | ok status => exact h.handleStatus htakes (hexpired status rfl)
  | error message => exact h.failing

/-- A session may have expired meanwhile, if there is a payload. -/
lemma LegalCalls.createEnds (h : LegalCalls page) (hpending : page.pending = [])
    (htakes : browser.Takes page.clock .expired) {data : Value}
    (hnull : data = .null → page.app.state.isOpen = true) :
    (createEnds browser (.ok data) page).Ends Orderly Orderly :=
  (h.createdSession hpending htakes hnull).caught fun _ _ h => h.transition _

/-- A request that fails for good fails the session. -/
lemma Failing.requestEnds (h : Failing page) (request : Request) (message : String) :
    (requestEnds browser request (.error message) page).Ends Orderly Orderly := by
  cases request with
  | create body =>
      simp only [Checkout.requestEnds, Checkout.createEnds, Outcome.caught]
      exact h.transition _
  | status sessionId =>
      simp only [Checkout.requestEnds, Checkout.statusEnds, Outcome.caught]
      exact h.transition _

/-- A request is tried again. -/
lemma Drawn.retried {retryCount : ℕ} (hdrawn : Drawn (retried retryCount page) page')
    (hcalls : LegalCalls page) (hpending : page.pending = []) :
    Clear page' ∧ page'.app.state = page.app.state ∧
      page'.failureActions = page.app.state.failed := by
  refine ⟨hdrawn.clear hcalls hpending, ?_, hdrawn.shown⟩
  rw [hdrawn.redrawn.app]
  rfl

lemma not_failed_of_isOpen {state : PageState} (h : state.isOpen = true) :
    state.failed = false := by
  rcases isOpen_cases h with rfl | rfl
  · rfl
  · rfl

lemma Asked.fetchEnds (h : Asked page) (htakes : browser.Takes page.clock .expired)
    (sessionId : Option Value) (retryCount : ℕ) {fetched : Fetched}
    (hexpired : ∀ status, fetched.result = .ok status →
      asString (prop status "status") = some "expired" →
        (merge browser.toEngine status page.app).draws = true) :
    (fetchEnds browser (.status sessionId) retryCount fetched page).Ends Orderly Orderly := by
  refine fetchEnds_ends ?_ ?_ ?_ ?_
  · intro body hbody
    have hends : (Checkout.statusEnds browser (.ok body) page).Ends Orderly Orderly := by
      refine h.statusEnds htakes ?_
      rintro status ⟨⟩
      exact hexpired body hbody
    exact hends
  · intro message _ _
    exact h.failing.requestEnds _ message
  · intro page' due hdrawn
    obtain ⟨hclear, hstate, hfailed⟩ := hdrawn.retried h.calls h.pending
    refine ⟨hclear.sane.congr rfl rfl rfl, .status (push_pending hclear.pending _) rfl ?_ ?_⟩
    · show page'.app.state.isOpen = true
      rw [hstate]
      exact h.isOpen
    · show page'.failureActions = false
      rw [hfailed]
      exact not_failed_of_isOpen h.isOpen
  · intro page' message hredrawn _
    have hfailing := hredrawn.failing h.calls h.pending (Or.inl h.isOpen)
    exact hfailing.requestEnds _ message

/-- If the session has expired meanwhile, then the request does not fail for good. -/
lemma Clear.fetchEnds (h : Clear page) (htakes : browser.Takes page.clock .expired)
    (body : Value) {retryCount : ℕ} {fetched : Fetched}
    (hstate : page.app.state.isOpen = true ∨
      page.app.state = .expired ∧ fetched.result ≠ .ok .null ∧
        ∀ message, fetched.result = .error message → retryCount < maxRetries) :
    (fetchEnds browser (.create body) retryCount fetched page).Ends Orderly Orderly := by
  refine fetchEnds_ends ?_ ?_ ?_ ?_
  · intro data hdata
    have hends : (createEnds browser (.ok data) page).Ends Orderly Orderly := by
      refine h.sane.calls.createEnds h.pending htakes fun hnull => hstate.resolve_right ?_
      rintro ⟨-, hbody, -⟩
      exact hbody (hnull ▸ hdata)
    exact hends
  · intro message hmessage hmax
    have hfailing : Failing page := by
      refine ⟨h.sane.calls, h.pending, Or.inl (hstate.resolve_right ?_)⟩
      rintro ⟨-, -, hagain⟩
      exact absurd (hagain message hmessage) (Nat.not_lt.2 hmax)
    exact hfailing.requestEnds _ message
  · intro page' due hdrawn
    obtain ⟨hclear, hsame, -⟩ := hdrawn.retried h.sane.calls h.pending
    refine ⟨hclear.sane.congr rfl rfl rfl, .create (push_pending hclear.pending _) rfl ?_⟩
    show page'.app.state.isOpen = true ∨ page'.app.state = .expired
    rw [hsame]
    exact hstate.imp id And.left
  · intro page' message hredrawn hreason
    have hopen : page.app.state.isOpen = true := by
      refine hstate.resolve_right ?_
      rintro ⟨hexpired, -, -⟩
      -- a snapshot of an expired session is taken, and drawn as before
      rcases hreason with hrefuses | hdraws | hconfirmed
      · exact hrefuses (htakes _ hexpired)
      · have hsame := h.sane.draws (by rw [hexpired]; decide)
        rw [hdraws] at hsame
        cases hsame
      · rw [hexpired] at hconfirmed
        cases hconfirmed
    have hfailing := hredrawn.failing h.sane.calls h.pending (Or.inl hopen)
    exact hfailing.requestEnds _ message

lemma Clear.confirmPayment (h : Clear page) (hstate : page.app.state = .detected)
    (hshown : page.failureActions = false) :
    (confirmPayment browser page).Ends Orderly Orderly := by
  have hlegal : Legal page.app.state .confirmed := Or.inr (by rw [hstate]; decide)
  have hcalls := h.sane.calls.append hlegal
    fun app => { app with statusText := "Payment confirmed" }
  rw [Checkout.confirmPayment, transition_of_legal hlegal]
  refine Outcome.Ends.andThen (P := Ready page.clock) ((refresh_ends _).mono ?_ ?_)
    fun page' hready => ?_
  · intro page' hdrawn
    exact hdrawn.ready hcalls h.pending rfl nofun
  · rintro page' ⟨⟨-, hshown'⟩, -⟩
    refine ⟨⟨hcalls, fun _ => ?_, fun _ => ?_⟩, .nothing h.pending⟩
    · exact h.sane.draws (by rw [hstate]; decide)
    · exact hshown'.elim (fun heq => heq.trans hshown) fun heq => heq
  · exact hready.startCountdown.mono (fun _ h => h.clear.orderly) fun _ h => h.1.orderly

/-! ### Loading -/

lemma Clear.fresh (h : Clear page) (hinit : page.app.state = .init) :
    (page.render.andThen fun page => .done (createPaymentSession browser page)).Ends Orderly
      fun _ => False := by
  refine Outcome.Ends.andThen (P := fun page' => Clear page' ∧ page'.app.state = .init) ?_ ?_
  · refine (render_ends page).mono ?_ ?_
    · intro page' hdrawn
      refine ⟨hdrawn.clear h.sane.calls h.pending, ?_⟩
      rw [hdrawn.redrawn.app]
      exact hinit
    · rintro page' ⟨-, hdraws | hconfirmed⟩
      · have hsame := h.sane.draws (by rw [hinit]; decide)
        rw [hdraws] at hsame
        cases hsame
      · rw [hinit] at hconfirmed
        cases hconfirmed
  · rintro page' ⟨hclear, hstate⟩
    refine hclear.sane.createPaymentSession hclear.stopTimers.pending ?_
    rw [hstate]
    decide

/-- A snapshot that is restored was drawn first. -/
lemma LegalCalls.restoreStored (h : LegalCalls page) (hpending : page.pending = []) (stored : App) :
    (restoreStored browser stored page).Ends Orderly fun page =>
      LegalCalls page ∧ page.pending = [] := by
  have hcleared : ∀ page', Clear page' ∧ ¬ browser.Takes page.clock .expired →
      LegalCalls page' ∧ page'.pending = [] := fun _ h => ⟨h.1.sane.calls, h.1.pending⟩
  refine Outcome.Ends.andThen (P := fun page' => Clear page' ∧
    (page'.app.state ≠ .error → Ready page.clock page')) ?_ ?_
  · refine (refresh_ends _).mono ?_ ?_
    · intro page' hdrawn
      refine ⟨hdrawn.clear h hpending, fun hstate => hdrawn.ready h hpending rfl ?_⟩
      rwa [hdrawn.redrawn.app] at hstate
    · rintro page' ⟨⟨-, -⟩, -⟩
      exact ⟨h, hpending⟩
  · rintro page' ⟨hclear, hready⟩
    split
    · rename_i hopen
      have hready' : Ready page.clock page' := by
        refine hready fun herror => ?_
        rw [herror] at hopen
        cases hopen
      split
      · exact ⟨hclear.sane.calls, hclear.pending⟩
      · split
        · have hlegal := legal_expired (Or.inl hopen)
          rw [transition_of_legal hlegal]
          have hcalls := hclear.sane.calls.append hlegal fun app =>
            { app with statusText := "Recovered expired session" }
          refine (refresh_ends _).mono ?_ ?_
          · intro page'' hdrawn
            exact (hdrawn.clear hcalls hclear.pending).orderly
          · rintro page'' ⟨⟨-, -⟩, -⟩
            exact ⟨hcalls, hclear.pending⟩
        · refine (hready'.startCountdown.mono (fun _ h => h) hcleared).andThen fun _ hready => ?_
          exact hready.scheduleStatusPoll.mono (fun _ h => h) hcleared
    · split
      · rename_i hconfirmed
        have hready' : Ready page.clock page' := hready (by rw [hconfirmed]; decide)
        exact hready'.startCountdown.mono (fun _ h => h.clear.orderly) hcleared
      · rename_i hconfirmed
        split
        · refine (render_ends page').mono ?_ ?_
          · intro page'' hdrawn
            exact (hdrawn.clear hclear.sane.calls hclear.pending).orderly
          · rintro page'' ⟨⟨-, -⟩, -⟩
            exact ⟨hclear.sane.calls, hclear.pending⟩
        · exact hclear.sane.createPaymentSession hclear.stopTimers.pending hconfirmed

lemma orderly_load (storage : Option App) (clock : ℕ) {calls : List (PageState × PageState)}
    (hcalls : ∀ call ∈ calls, Legal call.1 call.2) :
    Orderly (load browser storage clock calls) := by
  have hinit : ∀ page : Page, page.app = createInitialStore → LegalCalls page →
      page.pending = [] → Clear page := by
    intro page happ hcalls hpending
    refine ⟨⟨hcalls, fun _ => ?_, fun hconfirmed => ?_⟩, hpending⟩
    · rw [happ]
      rfl
    · rw [happ] at hconfirmed
      cases hconfirmed
  refine Outcome.Ends.of_done ?_
  rw [restore]
  cases storage with
  | none =>
      dsimp only
      refine Clear.fresh (hinit _ ?_ ?_ ?_) ?_
      · rfl
      · exact hcalls
      · rfl
      · rfl
  | some stored =>
      dsimp only
      refine Outcome.Ends.caught (E := fun page => LegalCalls page ∧ page.pending = []) ?_ ?_
      · refine (LegalCalls.restoreStored ?_ ?_ stored.reread).mono (fun _ h => h) fun _ h => h
        · exact hcalls
        · rfl
      · rintro message page ⟨hcalls, hpending⟩
        refine Clear.fresh (hinit _ ?_ ?_ ?_) ?_
        · rfl
        · exact hcalls
        · exact hpending
        · rfl

end

/-! ### Runs -/

/-- The request fails for good, or there is nothing to create. -/
def Fetched.fails (fetched : Fetched) (retryCount : ℕ) : Bool :=
  match fetched.result with
  | .ok .null => true
  | .ok _ => false
  | .error _ => maxRetries ≤ retryCount

/-- If a session is said to have expired, then this can be drawn. -/
def Fetched.draws (fetched : Fetched) : Bool :=
  match fetched.result with
  | .ok body => asString (prop body "status") != some "expired" || drawable body
  | .error _ => true

/-- The exceptions that an answer leads to do not come after the session has expired. -/
def Harmless (page : Page) (fetched : Fetched) : Callback → Prop
  | .fetch (.create _) retryCount => page.app.state = .expired → fetched.fails retryCount = false
  | .fetch (.status _) _ => fetched.draws = true
  | _ => True

/-- The countdown does not end a session while its status is being asked for, nor is a new one
asked for while a request is on its way; and answers are harmless. -/
def Undisturbed (engine : Engine) (page : Page) : Action → Prop
  | .tick => TimeIsUp engine page → page.app.state.isOpen = true →
      ∀ e ∈ page.pending, e.2.asksStatus = false
  | .click => ∀ e ∈ page.pending, e.2.request.isSome = false
  | .answer handle fetched => (page.pending.lookup handle).elim True (Harmless page fetched)
  | _ => True

structure Calm (browser : Browser) (page : Page) (a : Action) : Prop where
  undisturbed : Undisturbed browser.toEngine page a
  takes : ∀ handle fetched, a = .answer handle fetched → browser.Takes page.clock .expired

section

variable {browser : Browser} {page page' : Page} {a : Action}

/-- A callback that is outstanding is the only one, in a state it belongs to. -/
lemma Outstanding.of_lookup (h : Outstanding page) {handle : ℕ} {callback : Callback}
    (hget : page.pending.lookup handle = some callback) :
    page.pending = [(handle, callback)] ∧
      (page.app.state.isOpen = true ∧ page.failureActions = false ∧
        (∀ due, callback = .confirm due → page.app.state = .detected) ∨
      (∃ body, callback.request = some (.create body)) ∧
        (page.app.state.isOpen = true ∨ page.app.state = .expired)) := by
  have hmem := mem_of_lookup hget
  cases h with
  | nothing hpending => exact absurd hmem (by simp [hpending])
  | poll hpending _ hopen hshown =>
      rw [hpending, List.mem_singleton] at hmem
      obtain ⟨rfl, rfl⟩ := Prod.mk.inj hmem
      exact ⟨hpending, Or.inl ⟨hopen, hshown, by simp⟩⟩
  | confirm hpending _ hstate hshown =>
      rw [hpending, List.mem_singleton] at hmem
      obtain ⟨rfl, rfl⟩ := Prod.mk.inj hmem
      exact ⟨hpending, Or.inl ⟨by rw [hstate]; rfl, hshown, fun _ _ => hstate⟩⟩
  | status hpending hrequest hopen hshown =>
      rw [hpending, List.mem_singleton] at hmem
      obtain ⟨rfl, rfl⟩ := Prod.mk.inj hmem
      refine ⟨hpending, Or.inl ⟨hopen, hshown, ?_⟩⟩
      rintro due rfl
      exact absurd hrequest (by simp [Callback.request])
  | create hpending hrequest hstate =>
      rw [hpending, List.mem_singleton] at hmem
      obtain ⟨rfl, rfl⟩ := Prod.mk.inj hmem
      exact ⟨hpending, Or.inr ⟨⟨_, hrequest⟩, hstate⟩⟩

/-- The page without the only thing it held. -/
lemma Orderly.clear_remove (h : Orderly page) {handle : ℕ} {callback : Callback}
    (hget : page.pending.lookup handle = some callback) : Clear (page.remove handle) :=
  ⟨h.sane.congr rfl rfl rfl, by simp [Page.remove, (h.outstanding.of_lookup hget).1]⟩

/-- What is left when the countdown ends the session or the pass. -/
lemma Orderly.expires (h : Orderly page) (hexpires : Expires browser.toEngine page)
    (hcalm : Undisturbed browser.toEngine page .tick) :
    page.stopTimers.pending = [] ∨ ∃ handle callback body,
      page.stopTimers.pending = [(handle, callback)] ∧
        callback.request = some (.create body) := by
  have hsub := stopTimers_sublist page
  cases h.outstanding with
  | nothing hpending =>
      rw [hpending] at hsub
      exact Or.inl (List.sublist_nil.1 hsub)
  | poll hpending htimer _ _ =>
      left
      rw [List.eq_nil_iff_forall_not_mem]
      intro e he
      obtain ⟨hmem, hpoll, -⟩ := mem_stopTimers.1 he
      rw [hpending, List.mem_singleton] at hmem
      exact hpoll (by rw [htimer, hmem])
  | confirm hpending htimer _ _ =>
      left
      rw [List.eq_nil_iff_forall_not_mem]
      intro e he
      obtain ⟨hmem, -, htransition⟩ := mem_stopTimers.1 he
      rw [hpending, List.mem_singleton] at hmem
      exact htransition (by rw [htimer, hmem])
  | status hpending hrequest hopen _ =>
      have hnone := hcalm hexpires.1 hopen _ (by rw [hpending]; exact List.mem_singleton_self _)
      rw [Callback.asksStatus, hrequest] at hnone
      cases hnone
  | @create handle callback body hpending hrequest _ =>
      rw [hpending] at hsub
      rcases List.sublist_singleton.1 hsub with hnone | hone
      · exact Or.inl hnone
      · exact Or.inr ⟨handle, callback, body, hone, hrequest⟩

lemma Orderly.updateCountdown (h : Orderly page)
    (hcalm : Undisturbed browser.toEngine page .tick) :
    (updateCountdown browser page).Ends Orderly Orderly := by
  rcases updateCountdown_cases browser page with ⟨message, -, heq⟩ | ⟨-, heq⟩ | ⟨hexpires, heq⟩
  · rw [heq]
    exact h
  · rw [heq]
    exact h
  · have happ := stopTimers_app page
    have hlegal : Legal page.stopTimers.app.state .expired := by
      rw [happ]
      exact legal_expired hexpires.2
    have hnot : page.stopTimers.app.state ≠ .error := by
      rw [happ]
      rintro herror
      have hstate := hexpires.2
      rw [herror] at hstate
      exact absurd hstate (by decide)
    have hends : ∀ page', Redrawn (moved .expired expiry page.stopTimers) page' →
        Orderly page' := by
      intro page' hredrawn
      refine ⟨h.sane.stopTimers.expired hlegal hnot hredrawn, ?_⟩
      have hpending : page'.pending = page.stopTimers.pending := hredrawn.pending
      have hstate : page'.app.state = .expired := congrArg App.state hredrawn.app
      rcases h.expires hexpires hcalm with hnone | ⟨handle, callback, body, hone, hrequest⟩
      · exact .nothing (hpending.trans hnone)
      · exact .create (hpending.trans hone) hrequest (Or.inr hstate)
    rw [heq, transition_of_legal hlegal]
    exact (refresh_ends _).mono (fun page' hdrawn => hends page' hdrawn.redrawn)
      fun page' hfailed => hends page' hfailed.1

/-- A request that is sent, or sent again. -/
lemma Clear.push_fetch (h : Clear page) {request : Request} (retryCount : ℕ)
    (hstate : page.app.state.isOpen = true ∧ page.failureActions = false ∨
      (∃ body, request = .create body) ∧
        (page.app.state.isOpen = true ∨ page.app.state = .expired)) :
    Orderly (page.push (.fetch request retryCount)) := by
  refine ⟨h.sane.congr rfl rfl rfl, ?_⟩
  have hpending := push_pending h.pending (.fetch request retryCount)
  cases request with
  | create body => exact .create hpending rfl (hstate.elim (fun h => Or.inl h.1) And.right)
  | status sessionId =>
      rcases hstate with ⟨hopen, hshown⟩ | ⟨⟨body, hbody⟩, -⟩
      · exact .status hpending rfl hopen hshown
      · cases hbody

/-- A poll finds the session that was drawn. -/
lemma Clear.checkStatus (h : Clear page) (hopen : page.app.state.isOpen = true)
    (hshown : page.failureActions = false) : Orderly (checkStatus browser page) := by
  have hdraws : page.app.draws = true := by
    refine h.sane.draws fun herror => ?_
    rw [herror] at hopen
    cases hopen
  have hconverts : converts (orNull page.app.sessionId) = true :=
    all_draws hdraws (by simp [App.written])
  rw [Checkout.checkStatus]
  split
  · rw [convert, if_pos (by simpa using hconverts)]
    exact h.push_fetch 0 (Or.inl ⟨hopen, hshown⟩)
  · exact h.orderly

lemma converts_or (engine : Engine) {value other : Option Value}
    (hvalue : converts (orNull value) = true) (hother : converts (orNull other) = true) :
    converts (orNull (engine.or value other)) = true := by
  rw [Engine.or]
  split
  · exact hvalue
  · exact hother

/-- What an answer holds is drawn with what is known. -/
lemma draws_merge (engine : Engine) {app : App} {body : Value} (h : app.draws = true)
    (hbody : drawable body = true) : (merge engine body app).draws = true := by
  have hprop : ∀ name ∈ ["request_expires_at", "expires_at", "access_qr_png"],
      converts (orNull (prop body name)) = true := List.all_eq_true.1 hbody
  refine List.all_eq_true.2 fun value hvalue => ?_
  simp only [App.written, App.images, merge, List.cons_append, List.nil_append, List.mem_cons,
    List.not_mem_nil, or_false] at hvalue
  rcases hvalue with rfl | rfl | rfl | rfl | rfl
  · exact all_draws h (by simp [App.written])
  · exact converts_or engine (hprop _ (by simp)) (all_draws h (by simp [App.written]))
  · exact converts_or engine (hprop _ (by simp)) (all_draws h (by simp [App.written]))
  · exact all_draws h (by simp [App.images, App.paymentProp])
  · exact hprop _ (by simp)

lemma Orderly.answered (h : Orderly page) {handle retryCount : ℕ} {request : Request}
    {fetched : Fetched} (hget : page.pending.lookup handle = some (.fetch request retryCount))
    (hharmless : Harmless page fetched (.fetch request retryCount))
    (htakes : browser.Takes page.clock .expired) :
    (fetchEnds browser request retryCount fetched (page.remove handle)).Ends Orderly Orderly := by
  have hclear := h.clear_remove hget
  obtain ⟨-, hstate⟩ := h.outstanding.of_lookup hget
  cases request with
  | create body =>
      refine hclear.fetchEnds htakes body ?_
      rcases hstate with ⟨hopen, -⟩ | ⟨-, hopen | hexpired⟩
      · exact Or.inl hopen
      · exact Or.inl hopen
      · have hfails := hharmless hexpired
        refine Or.inr ⟨hexpired, fun hnull => ?_, fun message hmessage => ?_⟩
        · rw [Fetched.fails, hnull] at hfails
          cases hfails
        · rw [Fetched.fails, hmessage, decide_eq_false_iff_not, Nat.not_le] at hfails
          exact hfails
  | status sessionId =>
      rcases hstate with ⟨hopen, hshown, -⟩ | ⟨⟨body, hbody⟩, -⟩
      · have hasked : Asked (page.remove handle) :=
          ⟨hclear.sane.calls, hclear.pending, hopen, hshown⟩
        refine hasked.fetchEnds htakes sessionId retryCount fun status hstatus hname => ?_
        refine draws_merge browser.toEngine (h.sane.draws fun herror => ?_) ?_
        · rw [herror] at hopen
          cases hopen
        · have hdraws : fetched.draws = true := hharmless
          rw [Fetched.draws, hstatus] at hdraws
          simpa [hname] using hdraws
      · cases hbody

lemma Orderly.step (h : Orderly page) (hcalm : Calm browser page a)
    (hstep : Checkout.step browser page a = some page') : Orderly page' := by
  have hundisturbed := hcalm.undisturbed
  cases effect_of_step hstep with
  | elapse =>
      exact ⟨h.sane.congr rfl rfl rfl, h.outstanding.congr rfl rfl rfl rfl rfl⟩
  | tick _ _ =>
      refine (Orderly.updateCountdown ?_ ?_).state
      · exact ⟨h.sane.congr rfl rfl rfl, h.outstanding.congr rfl rfl rfl rfl rfl⟩
      · exact hundisturbed
  | poll hget _ =>
      rcases (h.outstanding.of_lookup hget).2 with ⟨hopen, hshown, -⟩ | ⟨⟨body, hbody⟩, -⟩
      · exact (h.clear_remove hget).checkStatus hopen hshown
      · cases hbody
  | confirm hget _ =>
      rcases (h.outstanding.of_lookup hget).2 with ⟨-, hshown, hdetected⟩ | ⟨⟨body, hbody⟩, -⟩
      · exact ((h.clear_remove hget).confirmPayment (hdetected _ rfl) hshown).state
      · cases hbody
  | retry hget _ =>
      refine (h.clear_remove hget).push_fetch _ ?_
      rcases (h.outstanding.of_lookup hget).2 with ⟨hopen, hshown, -⟩ | ⟨⟨body, hbody⟩, hstate⟩
      · exact Or.inl ⟨hopen, hshown⟩
      · exact Or.inr ⟨⟨body, Option.some.inj hbody⟩, hstate⟩
  | answer hget =>
      have hharmless : (page.pending.lookup _).elim True (Harmless page _) := hundisturbed
      rw [hget] at hharmless
      exact (h.answered hget hharmless (hcalm.takes _ _ rfl)).state
  | click hshown =>
      refine h.sane.createPaymentSession ?_ fun hconfirmed => ?_
      · -- the buttons are shown, so no timer is outstanding
        cases h.outstanding with
        | nothing hpending =>
            have hsub := stopTimers_sublist page
            rw [hpending] at hsub
            exact List.sublist_nil.1 hsub
        | poll _ _ _ hnot | confirm _ _ _ hnot | status _ _ _ hnot =>
            rw [hshown] at hnot
            cases hnot
        | create hpending hrequest _ =>
            have hnone := hundisturbed _ (by rw [hpending]; exact List.mem_singleton_self _)
            rw [hrequest] at hnone
            cases hnone
      · have hnot := h.sane.shown hconfirmed
        rw [hshown] at hnot
        cases hnot
  | reload => exact orderly_load page.storage page.clock h.sane.calls

lemma orderly_of_run {storage : Option App} {clock : ℕ} {t : List (Page × Action)}
    (hrun : Run (step browser) (load browser storage clock []) t page)
    (hcalm : ∀ e ∈ t, Calm browser e.1 e.2) : Orderly page := by
  refine Run.invariant_of_guard (P := fun _ page => Orderly page) hrun hcalm ?_ ?_
  · exact orderly_load storage clock (by simp)
  · intro _ page a page' _ h hcalm hstep
    exact h.step hcalm hstep

/-- **Transitions are legal.**  In every run of the page, whatever the storage holds when it
is loaded and whatever it refuses, in which the countdown does not end a session while its
status is being asked for, no new session is asked for while a request is on its way, and the
answers are harmless to a session that has expired, every call of `transition` is allowed by
`TRANSITIONS`. -/
theorem transitions_legal {storage : Option App} {clock : ℕ} {t : List (Page × Action)}
    (hrun : Run (step browser) (load browser storage clock []) t page)
    (hcalm : ∀ e ∈ t, Calm browser e.1 e.2) :
    ∀ call ∈ page.calls, call.1 = call.2 ∨ call.2 ∈ transitions call.1 :=
  (orderly_of_run hrun hcalm).sane.calls

end

/-! ### Examples

A session that is created at time 0 and can be paid for until 900 seconds. -/

instance (page : Page) (fetched : Fetched) :
    (callback : Callback) → Decidable (Harmless page fetched callback)
  | .fetch (.create _) _ => inferInstanceAs (Decidable (_ → _ = false))
  | .fetch (.status _) _ => inferInstanceAs (Decidable (_ = true))
  | .poll _ | .confirm _ | .retry _ _ _ => .isTrue True.intro

instance (page : Page) (fetched : Fetched) :
    (callback : Option Callback) → Decidable (callback.elim True (Harmless page fetched))
  | none => .isTrue True.intro
  | some callback => inferInstanceAs (Decidable (Harmless page fetched callback))

instance (engine : Engine) (page : Page) : (a : Action) → Decidable (Undisturbed engine page a)
  | .tick => inferInstanceAs (Decidable (_ → _ → _))
  | .click => inferInstanceAs (Decidable (∀ e ∈ page.pending, _ = false))
  | .answer handle fetched =>
      inferInstanceAs (Decidable ((page.pending.lookup handle).elim True (Harmless page fetched)))
  | .elapse _ | .fire _ | .reload => .isTrue True.intro

/-- A browser whose storage takes everything. -/
def demoBrowser : Browser where
  truthyLiteral _ := true
  secondsLeft _ _ := none
  refuses _ _ := none

lemma calm_demo {page : Page} {a : Action} (h : Undisturbed demoBrowser.toEngine page a) :
    Calm demoBrowser page a :=
  ⟨h, fun _ _ _ _ _ => rfl⟩

def demoCreated (id : String) (deadline : ℕ) : Fetched :=
  .response 200 (.ok (.obj [("session_id", .str id), ("qr_payload", .str "web+stellar:"),
    ("request_expires_at", .nat deadline)]))

/-- An answer to a status request, for a pass that is valid until 3600 seconds. -/
def demoStatus (id : String) (deadline : ℕ) (status : String) : Value :=
  .obj [("session_id", .str id), ("status", .str status), ("request_expires_at", .nat deadline),
    ("expires_at", .nat 3600)]

/-- The session is created, and the first poll is under way. -/
def demoPoll (wait : ℕ) : List Action :=
  [.answer 1 (demoCreated "k3Jd82LmQw0Z" 900), .elapse wait, .fire 2]

def demoAnswer (status : String) : Action :=
  .answer 3 (.response 200 (.ok (demoStatus "k3Jd82LmQw0Z" 900 status)))

/-- Nobody pays, the session ends, and a new one is asked for.  The countdown ends this as well,
before it is there, and its first poll is under way. -/
def demoAgain : List Action :=
  demoPoll 3000 ++ [demoAnswer "waiting", .elapse 896001, .tick, .click, .elapse 1000, .tick,
    .answer 5 (demoCreated "p8Rt51XcVb3N" 1800), .elapse 3000, .fire 6]

def demoAnswerAgain : Action :=
  .answer 7 (.response 200 (.ok (demoStatus "p8Rt51XcVb3N" 1800 "confirmed")))

/-- The second session is paid for. -/
theorem transitions_legal_demo :
    ∃ t page, Run (step demoBrowser) (load demoBrowser none 0 []) t page ∧
      t.map Prod.snd = demoAgain ++ [demoAnswerAgain, .elapse 850, .fire 8] ∧
      page.app.state = .confirmed ∧
      ∀ call ∈ page.calls, call.1 = call.2 ∨ call.2 ∈ transitions call.1 := by
  obtain ⟨t, page, hrun, hactions, hcheck⟩ :
      ∃ t page, Run (step demoBrowser) (load demoBrowser none 0 []) t page ∧
      t.map Prod.snd = demoAgain ++ [demoAnswerAgain, .elapse 850, .fire 8] ∧
      ((t.all fun e => decide (Undisturbed demoBrowser.toEngine e.1 e.2)) &&
        decide (page.app.state = .confirmed)) = true :=
    exists_run_of_check _ (by decide +kernel)
  simp only [Bool.and_eq_true, List.all_eq_true, decide_eq_true_iff] at hcheck
  exact ⟨t, page, hrun, hactions, hcheck.2,
    transitions_legal hrun fun e he => calm_demo (hcheck.1 e he)⟩

/-- The countdown ends the session while the answer that confirms the payment is on its way:
850 ms after the answer the page tries to go from `EXPIRED` to `CONFIRMED`. -/
theorem illegal_transition :
    ∃ t page, Run (step demoBrowser) (load demoBrowser none 0 []) t page ∧
      t.map Prod.snd = demoPoll 896000 ++
        [.elapse 3001, .tick, demoAnswer "confirmed", .elapse 850, .fire 4] ∧
      (.expired, .confirmed) ∈ page.calls ∧
      ¬ (PageState.expired = .confirmed ∨ PageState.confirmed ∈ transitions .expired) := by
  obtain ⟨t, page, hrun, hactions, hcheck⟩ :
      ∃ t page, Run (step demoBrowser) (load demoBrowser none 0 []) t page ∧
      t.map Prod.snd = demoPoll 896000 ++
        [.elapse 3001, .tick, demoAnswer "confirmed", .elapse 850, .fire 4] ∧
      decide ((PageState.expired, PageState.confirmed) ∈ page.calls) = true :=
    exists_run_of_check _ (by decide +kernel)
  exact ⟨t, page, hrun, hactions, of_decide_eq_true hcheck, by decide⟩

/-- The answer that the session has expired cannot be drawn, and the handler of the exception
tries to go from `EXPIRED` to `ERROR`. -/
example : ∃ t page, Run (step demoBrowser) (load demoBrowser none 0 []) t page ∧
    (PageState.expired, PageState.error) ∈ page.calls := by
  obtain ⟨t, page, hrun, -, hcheck⟩ :
      ∃ t page, Run (step demoBrowser) (load demoBrowser none 0 []) t page ∧
      t.map Prod.snd = demoPoll 3000 ++ [.answer 3 (.response 200 (.ok (.obj
        [("status", .str "expired"), ("expires_at", .obj [("toString", .null)])])))] ∧
      decide ((PageState.expired, PageState.error) ∈ page.calls) = true :=
    exists_run_of_check _ (by decide +kernel)
  exact ⟨t, page, hrun, of_decide_eq_true hcheck⟩

end Haske.Checkout
