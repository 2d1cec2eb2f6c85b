import Haske.Client.Creating
import Haske.Client.Recovery

/-!
# What a page can come to show

Whatever happens to a page, it shows what it has shown before, nothing, an error, or what an
answer has brought; and it asks only for sessions whose ids it has shown or stored, or that an
answer has brought.  So a property of what is shown and one of the ids are kept if the answers
keep them (`Within.step`).
-/

namespace Haske.Recovery

open Json Js

/-- What is shown has the property `Q`, and every id that the page works with has `P`. -/
structure Within (Q : PaymentState → Prop) (P : String → Prop) (page : Hook) : Prop where
  store : Q page.store
  shown : ∀ id, page.store.sessionId = some id → P id
  stored : ∀ id, page.stored = some id → P id
  requested : ∀ id ∈ page.statusRequestCache, P id
  polling : ∀ id, page.poll.sessionId = some id → P id

/-- The two properties are kept by what the action brings. -/
structure Admits (Q : PaymentState → Prop) (P : String → Prop) (a : Action) : Prop where
  init : Q initialState
  setError : ∀ state message, Q state → Q (state.setError message)
  noted : ∀ (state : PaymentState) error, Q state → Q { state with error := error }
  created : ∀ requestId freshId outcomes payment, a = .createAnswer requestId freshId outcomes →
    createPayment requestId freshId outcomes = .ok payment →
    (∀ state, Q state → Q (state.created payment)) ∧
      ∃ id, asString (prop payment "session_id") = some id ∧ P id
  answered : ∀ sessionId requestId freshId outcomes statusResponse,
    a = .statusAnswer sessionId requestId freshId outcomes → P sessionId →
    getPaymentStatus requestId freshId outcomes = .ok statusResponse →
    (∀ state, Q state → Q (state.applyStatus (toSnapshot statusResponse))) ∧
      ∃ id, asString (prop statusResponse "session_id") = some id ∧ P id

variable {Q : PaymentState → Prop} {P : String → Prop} {page page' : Hook} {a : Action}

namespace Within

lemma mono {Q' : PaymentState → Prop} {P' : String → Prop} (h : Within Q P page)
    (hQ : ∀ state, Q state → Q' state) (hP : ∀ id, P id → P' id) : Within Q' P' page :=
  ⟨hQ _ h.store, fun id hid => hP id (h.shown id hid), fun id hid => hP id (h.stored id hid),
    fun id hid => hP id (h.requested id hid), fun id hid => hP id (h.polling id hid)⟩

/-- Ids are only dropped, and what is shown is the same. -/
lemma congr (h : Within Q P page) (hstore : page'.store = page.store)
    (hstored : page'.stored = page.stored ∨ page'.stored = none)
    (hrequested : page'.statusRequestCache ⊆ page.statusRequestCache)
    (hpolling : page'.poll.sessionId = page.poll.sessionId) : Within Q P page' := by
  refine ⟨?_, ?_, ?_, ?_, ?_⟩
  · rw [hstore]
    exact h.store
  · rw [hstore]
    exact h.shown
  · intro id hid
    rcases hstored with heq | hnone
    · exact h.stored id (heq ▸ hid)
    · rw [hnone] at hid
      cases hid
  · exact fun id hid => h.requested id (hrequested hid)
  · rw [hpolling]
    exact h.polling

/-- Something else is shown, of the same session or of none. -/
lemma withStore (h : Within Q P page) {store : PaymentState} (hQ : Q store)
    (hid : store.sessionId = page.store.sessionId ∨ store.sessionId = none) :
    Within Q P { page with store := store } := by
  refine ⟨hQ, ?_, h.stored, h.requested, h.polling⟩
  intro id hshown
  rcases hid with heq | hnone
  · exact h.shown id (heq.symm.trans hshown)
  · exact absurd (hnone.symm.trans hshown) (by simp)

lemma requestPaymentStatus {sessionId : String} (h : Within Q P page) (hid : P sessionId) :
    Within Q P (requestPaymentStatus sessionId page) := by
  rw [Recovery.requestPaymentStatus]
  split
  · exact h
  · refine ⟨h.store, h.shown, h.stored, ?_, h.polling⟩
    intro id hmem
    rcases List.mem_cons.1 hmem with rfl | hmem
    · exact hid
    · exact h.requested id hmem

lemma startPolling {sessionId : Option String} {status : PaymentStatus} (h : Within Q P page)
    (hid : ∀ id, sessionId = some id → P id) :
    Within Q P (startPolling sessionId status page) := by
  obtain ⟨phase, hphase⟩ := startPolling_eq sessionId status page
  rw [hphase]
  exact ⟨h.store, h.shown, h.stored, h.requested, hid⟩

lemma initializeSession (h : Within Q P page) : Within Q P (initializeSession page) := by
  rw [Recovery.initializeSession]
  split
  · exact ⟨h.store, h.shown, h.stored, h.requested, h.polling⟩
  · rename_i storedSessionId hstored
    split
    · exact ⟨h.store, h.shown, h.stored, h.requested, h.polling⟩
    · have hrequest := h.requestPaymentStatus (h.stored _ hstored)
      exact ⟨hrequest.store, hrequest.shown, hrequest.stored, hrequest.requested,
        hrequest.polling⟩

lemma setup (h : Within Q P page) : Within Q P (setup page) := by
  rw [Recovery.setup]
  have hinit : Within Q P (if page.initialized then { page with mounted := true }
      else Recovery.initializeSession { page with mounted := true, initialized := true }) := by
    split
    · exact ⟨h.store, h.shown, h.stored, h.requested, h.polling⟩
    · exact initializeSession ⟨h.store, h.shown, h.stored, h.requested, h.polling⟩
  exact hinit.startPolling hinit.polling

/-- A page that is loaded knows what is stored. -/
lemma load {stored : Option String} {clock : ℕ} (hQ : Q initialState)
    (hstored : ∀ id, stored = some id → P id) : Within Q P (load stored clock) := by
  refine setup ⟨hQ, ?_, hstored, ?_, ?_⟩
  · intro id hid
    cases hid
  · intro id hid
    cases hid
  · intro id hid
    cases hid

lemma createdSession (h : Within Q P page) {result : ApiResult}
    (herror : ∀ state message, Q state → Q (state.setError message))
    (hcreated : ∀ payment, result = .ok payment →
      (∀ state, Q state → Q (state.created payment)) ∧
        ∃ id, asString (prop payment "session_id") = some id ∧ P id) :
    Within Q P (createdSession result page) := by
  cases result with
  | error error => exact h.withStore (herror _ _ h.store) (Or.inl rfl)
  | ok payment =>
      obtain ⟨hQ, id, hid, hP⟩ := hcreated payment rfl
      refine ⟨hQ _ h.store, ?_, ?_, h.requested, h.polling⟩
      · intro id' hid'
        obtain rfl : id = id' := Option.some.inj (hid.symm.trans hid')
        exact hP
      · intro id' hid'
        simp only [Recovery.createdSession, persistSessionId, hid, Option.getD_some,
          Option.some.injEq] at hid'
        exact hid' ▸ hP

/-- Every call of `restartSession` that waits goes on. -/
lemma iterate {f : Hook → Hook} (hf : ∀ page, Within Q P page → Within Q P (f page))
    (h : Within Q P page) (n : ℕ) : Within Q P (Nat.iterate f n page) := by
  induction n generalizing page with
  | zero => exact h
  | succ n ih => exact ih (hf page h)

lemma sessionCreated (h : Within Q P page) {result : ApiResult}
    (herror : ∀ state message, Q state → Q (state.setError message))
    (hcreated : ∀ payment, result = .ok payment →
      (∀ state, Q state → Q (state.created payment)) ∧
        ∃ id, asString (prop payment "session_id") = some id ∧ P id) :
    Within Q P (sessionCreated result page) := by
  have hgoes : ∀ page, Within Q P page → Within Q P (Recovery.createdSession result page) :=
    fun page h => h.createdSession herror hcreated
  rw [Recovery.sessionCreated]
  have hfirst : Within Q P (if page.initial = .creating then
      Recovery.createdSession result { page with createSessionPromise := false, initial := .ended }
      else { page with createSessionPromise := false }) := by
    split
    · exact hgoes _ ⟨h.store, h.shown, h.stored, h.requested, h.polling⟩
    · exact ⟨h.store, h.shown, h.stored, h.requested, h.polling⟩
  have hall := iterate hgoes hfirst (if page.initial = .creating then
      Recovery.createdSession result { page with createSessionPromise := false, initial := .ended }
      else { page with createSessionPromise := false }).restarts
  exact ⟨hall.store, hall.shown, hall.stored, hall.requested, hall.polling⟩

section

variable {result : ApiResult} (h : Within Q P page)
  (herror : ∀ state message, Q state → Q (state.setError message))
  (hnoted : ∀ (state : PaymentState) error, Q state → Q { state with error := error })
  (hanswered : ∀ statusResponse, result = .ok statusResponse →
    (∀ state, Q state → Q (state.applyStatus (toSnapshot statusResponse))) ∧
      ∃ id, asString (prop statusResponse "session_id") = some id ∧ P id)

include h herror hanswered

lemma recovered : Within Q P (recovered result page) := by
  cases result with
  | ok statusResponse =>
      obtain ⟨hQ, id, hid, hP⟩ := hanswered statusResponse rfl
      have hshown : ∀ id', (page.store.applyStatus (toSnapshot statusResponse)).sessionId =
          some id' → P id' := by
        intro id' hid'
        obtain rfl : id = id' := Option.some.inj (hid.symm.trans hid')
        exact hP
      rw [Recovery.recovered]
      split
      · exact ⟨hQ _ h.store, hshown, nofun, h.requested, h.polling⟩
      · refine ⟨hQ _ h.store, hshown, ?_, h.requested, h.polling⟩
        intro id' hid'
        simp only [persistSessionId, hid, Option.getD_some, Option.some.injEq] at hid'
        exact hid' ▸ hP
  | error error =>
      rw [Recovery.recovered]
      split
      · exact ⟨h.store, h.shown, nofun, h.requested, h.polling⟩
      · exact ⟨herror _ _ h.store, h.shown, nofun, h.requested, h.polling⟩

include hnoted

lemma polled : Within Q P (polled result page) := by
  cases result with
  | ok statusResponse =>
      obtain ⟨hQ, id, hid, hP⟩ := hanswered statusResponse rfl
      have hshown : ∀ id', (page.store.applyStatus (toSnapshot statusResponse)).sessionId =
          some id' → P id' := by
        intro id' hid'
        obtain rfl : id = id' := Option.some.inj (hid.symm.trans hid')
        exact hP
      have hstore : Q (page.store.applyStatus (toSnapshot statusResponse)).clearError :=
        hnoted _ none (hQ _ h.store)
      rw [Recovery.polled]
      split
      · exact ⟨hstore, hshown, nofun, h.requested, h.polling⟩
      · exact ⟨hstore, hshown, h.stored, h.requested, h.polling⟩
  | error error =>
      rw [Recovery.polled]
      split
      · exact ⟨herror _ _ h.store, h.shown, nofun, h.requested, h.polling⟩
      · exact ⟨hnoted _ _ h.store, h.shown, h.stored, h.requested, h.polling⟩

end

/-- **What a page can come to show.** -/
theorem step (h : Within Q P page) (hadmits : Admits Q P a)
    (hstep : Recovery.step page a = some page') : Within Q P page' := by
  cases a with
  | statusAnswer sessionId requestId freshId outcomes =>
      rw [Recovery.step] at hstep
      split at hstep
      · rename_i hcache
        obtain rfl := Option.some.inj hstep
        have hid : P sessionId := h.requested sessionId (by simpa using hcache)
        have hanswered := fun statusResponse =>
          hadmits.answered sessionId requestId freshId outcomes statusResponse rfl hid
        have herased : Within Q P { page with
            statusRequestCache := page.statusRequestCache.erase sessionId } :=
          h.congr rfl (Or.inl rfl) List.erase_subset rfl
        have hfirst : Within Q P (if page.initial = .recovering sessionId then
            Recovery.recovered (getPaymentStatus requestId freshId outcomes)
              { page with statusRequestCache := page.statusRequestCache.erase sessionId }
            else { page with
              statusRequestCache := page.statusRequestCache.erase sessionId }) := by
          split
          · exact herased.recovered hadmits.setError hanswered
          · exact herased
        have hlast : ∀ page, Within Q P page → Within Q P
            (if page.poll.sessionId = some sessionId ∧ page.poll.phase = .requesting then
              Recovery.polled (getPaymentStatus requestId freshId outcomes) page
            else page) := by
          intro page h
          split
          · exact h.polled hadmits.setError hadmits.noted hanswered
          · exact h
        exact hlast _ hfirst
      · cases hstep
  | createAnswer requestId freshId outcomes =>
      cases effect_of_step hstep with
      | createAnswer =>
          exact h.sessionCreated hadmits.setError fun payment =>
            hadmits.created requestId freshId outcomes payment rfl
  | load =>
      cases effect_of_step hstep with
      | load => exact Within.load hadmits.init h.stored
  | cleanup =>
      cases effect_of_step hstep with
      | cleanup => exact h.congr rfl (Or.inl rfl) (List.Subset.refl _) rfl
  | setup =>
      cases effect_of_step hstep with
      | setup => exact h.setup
  | rerender =>
      cases effect_of_step hstep with
      | rerender => exact h.startPolling h.shown
  | elapse ms =>
      cases effect_of_step hstep with
      | elapse => exact h.congr rfl (Or.inl rfl) (List.Subset.refl _) rfl
  | poll =>
      rw [Recovery.step] at hstep
      split at hstep
      · rename_i due sessionId hphase hid
        split at hstep
        · obtain rfl := Option.some.inj hstep
          have hphase' : Within Q P (setPhase .requesting page) :=
            h.congr rfl (Or.inl rfl) (List.Subset.refl _) rfl
          exact hphase'.requestPaymentStatus (h.polling _ hid)
        · cases hstep
      · cases hstep
  | restartSession =>
      cases effect_of_step hstep with
      | restartSession =>
          exact (h.withStore hadmits.init (Or.inr rfl)).congr rfl (Or.inr rfl)
            (List.Subset.refl _) rfl

end Within

/-! ### What a page waits for -/

lemma createdSession_requests (result : ApiResult) (page : Hook) :
    (createdSession result page).createSessionPromise = page.createSessionPromise ∧
      (createdSession result page).statusRequestCache = page.statusRequestCache := by
  cases result with
  | ok payment => exact ⟨rfl, rfl⟩
  | error error => exact ⟨rfl, rfl⟩

/-- The answer to a creation ends the wait for it, and no other. -/
lemma sessionCreated_requests (result : ApiResult) (page : Hook) :
    (sessionCreated result page).createSessionPromise = false ∧
      (sessionCreated result page).statusRequestCache = page.statusRequestCache := by
  have hiterate : ∀ n page, (Nat.iterate (createdSession result) n page).createSessionPromise =
      page.createSessionPromise ∧
      (Nat.iterate (createdSession result) n page).statusRequestCache =
        page.statusRequestCache := by
    intro n
    induction n with
    | zero => exact fun page => ⟨rfl, rfl⟩
    | succ n ih =>
        intro page
        obtain ⟨hpromise, hcache⟩ := ih (createdSession result page)
        obtain ⟨hpromise', hcache'⟩ := createdSession_requests result page
        exact ⟨hpromise.trans hpromise', hcache.trans hcache'⟩
  obtain ⟨hpromise, hcache⟩ := hiterate _ (if page.initial = .creating then
      createdSession result { page with createSessionPromise := false, initial := .ended }
    else { page with createSessionPromise := false })
  rw [sessionCreated]
  refine ⟨hpromise.trans ?_, hcache.trans ?_⟩
  · split
    · exact (createdSession_requests result _).1
    · rfl
  · split
    · exact (createdSession_requests result _).2
    · rfl

/-- The answer about a session ends the wait for it. -/
lemma statusRequested_cache (sessionId : String) (result : ApiResult) (page : Hook) :
    (statusRequested sessionId result page).statusRequestCache =
      page.statusRequestCache.erase sessionId := by
  have hrecovered : ∀ page, (recovered result page).statusRequestCache =
      page.statusRequestCache := by
    intro page
    cases result with
    | ok statusResponse =>
        rw [recovered]
        split
        · rfl
        · rfl
    | error error =>
        rw [recovered]
        split
        · rfl
        · rfl
  have hpolled : ∀ page, (polled result page).statusRequestCache = page.statusRequestCache := by
    intro page
    cases result with
    | ok statusResponse =>
        rw [polled]
        split
        · rfl
        · rfl
    | error error =>
        rw [polled]
        split
        · rfl
        · rfl
  have hlast : ∀ page, (if page.poll.sessionId = some sessionId ∧
      page.poll.phase = .requesting then polled result page else page).statusRequestCache =
        page.statusRequestCache := by
    intro page
    split
    · exact hpolled page
    · rfl
  refine (hlast _).trans ?_
  split
  · exact hrecovered _
  · rfl

lemma requestPaymentStatus_nodup {sessionId : String} (h : page.statusRequestCache.Nodup) :
    (requestPaymentStatus sessionId page).statusRequestCache.Nodup := by
  rw [requestPaymentStatus]
  split
  · exact h
  · rename_i hnew
    exact List.nodup_cons.2 ⟨by simpa using hnew, h⟩

lemma setup_nodup (h : page.statusRequestCache.Nodup) : (setup page).statusRequestCache.Nodup := by
  have hinit : ∀ page : Hook, page.statusRequestCache.Nodup →
      (initializeSession page).statusRequestCache.Nodup := by
    intro page h
    rw [initializeSession]
    split
    · exact h
    · split
      · exact h
      · exact requestPaymentStatus_nodup h
  have hstart : ∀ page : Hook,
      (startPolling page.poll.sessionId page.poll.status page).statusRequestCache =
        page.statusRequestCache := by
    intro page
    obtain ⟨phase, hphase⟩ := startPolling_eq page.poll.sessionId page.poll.status page
    rw [hphase]
  rw [setup, hstart]
  split
  · exact h
  · exact hinit _ h

/-- A page waits for one answer about a session at a time. -/
lemma nodup_of_step (h : page.statusRequestCache.Nodup)
    (hstep : Recovery.step page a = some page') : page'.statusRequestCache.Nodup := by
  cases effect_of_step hstep with
  | load => exact setup_nodup List.nodup_nil
  | cleanup => exact h
  | setup => exact setup_nodup h
  | rerender =>
      obtain ⟨phase, hphase⟩ := startPolling_eq page.store.sessionId page.store.status page
      rw [hphase]
      exact h
  | elapse ms => exact h
  | poll sessionId => exact requestPaymentStatus_nodup h
  | createAnswer requestId freshId outcomes =>
      rw [(sessionCreated_requests _ page).2]
      exact h
  | statusAnswer sessionId requestId freshId outcomes =>
      rw [statusRequested_cache]
      exact h.erase sessionId
  | restartSession => exact h

end Haske.Recovery
