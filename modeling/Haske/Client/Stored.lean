import Haske.Client.Agreement
import Haske.Client.Recovery

/-!
# The id of a session that was paid for

The pass that was paid for can be recovered as long as the id of its session is in the
local storage.  A poll removes the id only if the server says that the session has expired
or does not exist.  The first effect removes it on every error: a page that is loaded while
the network is down loses the session (`stored_lost`).

`stored_kept` says that nothing else goes wrong.  In a run without `restartSession` all that
is removed are sessions that have ended, exactly if no recovery of a stored session fails
with another error than the status 404.
-/

namespace Haske.Recovery

open Json Js Machine

/-! ### Answers about a session -/

/-- The session has expired or does not exist. -/
def Ended : ApiResult → Prop
  | .ok statusResponse => asString (prop statusResponse "status") = some "expired"
  | .error error => error.status = some 404

/-- The answer is about this session. -/
def Names (sessionId : String) : ApiResult → Prop
  | .ok statusResponse => asString (prop statusResponse "session_id") = some sessionId
  | .error _ => True

/-- The server answers that the session has ended. -/
def Action.Ends (id : String) : Action → Prop
  | .statusAnswer sessionId requestId freshId outcomes =>
      sessionId = id ∧ Ended (getPaymentStatus requestId freshId outcomes)
  | _ => False

/-- The server answers about the session it was asked for. -/
def Action.Truthful : Action → Prop
  | .statusAnswer sessionId requestId freshId outcomes =>
      Names sessionId (getPaymentStatus requestId freshId outcomes)
  | _ => True

/-- The server answers about the session, if only that it does not exist. -/
def Settled : ApiResult → Prop
  | .ok _ => True
  | .error error => error.status = some 404

/-- If a stored session is recovered, then the server answers about it. -/
def Recovers (hook : Hook) : Action → Prop
  | .statusAnswer sessionId requestId freshId outcomes =>
      hook.initial = .recovering sessionId →
        Settled (getPaymentStatus requestId freshId outcomes)
  | _ => True

/-- Ids are removed from the storage only by an answer that their session has ended. -/
def RemovesOnlyEnded (t : List (Hook × Action)) : Prop :=
  ∀ hook a hook', (hook, a) ∈ t → step hook a = some hook' →
    ∀ id, id ≠ "" → hook.stored = some id → hook'.stored ≠ some id → a.Ends id

/-! ### Answers and the server -/

section

variable {id requestId freshId : String} {outcomes : ℕ → FetchOutcome}

/-- That a session has ended is said by a response. -/
lemma Ended.response (h : Ended (getPaymentStatus requestId freshId outcomes)) :
    ∃ n status text, outcomes n = .response status (some text) ∧
      (status = 404 ∨ (200 ≤ status ∧ status ≤ 299) ∧
        asString (prop (parseJsonSafely text) "status") = some "expired") := by
  cases hresult : getPaymentStatus requestId freshId outcomes with
  | ok statusResponse =>
      obtain ⟨n, status, text, houtcome, hok, rfl, -⟩ := request_ok hresult
      rw [hresult] at h
      exact ⟨n, status, text, houtcome, .inr ⟨hok, h⟩⟩
  | error error =>
      rw [hresult] at h
      obtain ⟨n, text, houtcome⟩ := request_status hresult h
      exact ⟨n, 404, text, houtcome, .inl rfl⟩

/-- The server sends this text about the session. -/
def Sent (id text : String) : Prop :=
  ∃ srv clock t s session now, Run (Haske.step srv) (.init clock) t s ∧
    s.sessions.lookup id = some session ∧ text = (toStatusResponse session now).toText

/-- The server is truthful. -/
lemma truthful_of_sent (h : ∀ n status text, outcomes n = .response status (some text) →
    200 ≤ status ∧ status ≤ 299 → Sent id text) :
    (Action.statusAnswer id requestId freshId outcomes).Truthful := by
  rw [Action.Truthful]
  cases hresult : getPaymentStatus requestId freshId outcomes with
  | error error => exact True.intro
  | ok statusResponse =>
      obtain ⟨n, status, text, houtcome, hok, rfl, -⟩ := request_ok hresult
      obtain ⟨srv, clock, t, s, session, now, hrun, hid, rfl⟩ := h n status text houtcome hok
      have hkey : session.paymentRequest.sessionId = id :=
        ((provenance_of_run hrun).session id session hid).1
      have hparse := parse_response (accessToken_sent hrun hid now).1
      -- `parseJsonSafely` does not look at an empty text
      have hempty : (toStatusResponse session now).toText ≠ "" := by
        intro heq
        have hnone : (Js.parse "").isNone := by decide +kernel
        rw [heq] at hparse
        rw [hparse] at hnone
        cases hnone
      rw [Names, parseJsonSafely, if_neg hempty, hparse, Option.getD_some, ← hkey]
      rfl

end

/-! ### The stored id is the one that is worked with -/

structure Tied (hook : Hook) : Prop where
  initialized : hook.initialized = true
  restarts : hook.restarts = 0
  shown : ∀ id, hook.store.sessionId = some id → hook.stored = some id ∨ hook.stored = none
  polled : ∀ id, hook.poll.sessionId = some id → hook.store.sessionId = some id
  creating : hook.initial = .creating →
    (hook.stored = none ∨ hook.stored = some "") ∧ hook.store.sessionId = none
  recovering : ∀ id, hook.initial = .recovering id →
    id ≠ "" ∧ hook.stored = some id ∧ hook.store.sessionId = none

section

variable {hook hook' : Hook} {a : Action} {id : String} {result : ApiResult}

/-- Only the requests, the time and the phase of a poll are changed. -/
lemma Tied.congr (h : Tied hook) (hinitialized : hook'.initialized = hook.initialized)
    (hrestarts : hook'.restarts = hook.restarts) (hstored : hook'.stored = hook.stored)
    (hstore : hook'.store.sessionId = hook.store.sessionId)
    (hpoll : hook'.poll.sessionId = hook.poll.sessionId ∨
      hook'.poll.sessionId = hook.store.sessionId)
    (hinitial : hook'.initial = hook.initial ∨ hook'.initial = .ended) : Tied hook' := by
  constructor
  case initialized => rw [hinitialized, h.initialized]
  case restarts => rw [hrestarts, h.restarts]
  case shown =>
    rw [hstored, hstore]
    exact h.shown
  case polled =>
    intro id hid
    rw [hstore]
    rcases hpoll with hpoll | hpoll
    · exact h.polled id (hpoll ▸ hid)
    · exact hpoll ▸ hid
  case creating =>
    intro hcreating
    rw [hstored, hstore]
    rcases hinitial with hinitial | hinitial
    · exact h.creating (hinitial ▸ hcreating)
    · exact absurd (hinitial ▸ hcreating) (by simp)
  case recovering =>
    intro id hrecovering
    rw [hstored, hstore]
    rcases hinitial with hinitial | hinitial
    · exact h.recovering id (hinitial ▸ hrecovering)
    · exact absurd (hinitial ▸ hrecovering) (by simp)

/-- Nothing is shown yet. -/
structure Blank (hook : Hook) : Prop where
  initialized : hook.initialized = true
  restarts : hook.restarts = 0
  store : hook.store.sessionId = none
  poll : hook.poll.sessionId = none

lemma Tied.blank (h : Tied hook) (hstore : hook.store.sessionId = none) : Blank hook := by
  refine ⟨h.initialized, h.restarts, hstore, ?_⟩
  cases hpoll : hook.poll.sessionId with
  | none => rfl
  | some id => exact absurd ((h.polled id hpoll).symm.trans hstore) (by simp)

/-- What is still blank is tied if the first effect knows the stored id. -/
lemma Blank.tied (h : Blank hook)
    (hcreating : hook.initial = .creating → hook.stored = none ∨ hook.stored = some "")
    (hrecovering : ∀ id, hook.initial = .recovering id → id ≠ "" ∧ hook.stored = some id) :
    Tied hook := by
  constructor
  case initialized => exact h.initialized
  case restarts => exact h.restarts
  case shown =>
    intro id hid
    exact absurd (hid.symm.trans h.store) (by simp)
  case polled =>
    intro id hid
    exact absurd (hid.symm.trans h.poll) (by simp)
  case creating => exact fun hinitial => ⟨hcreating hinitial, h.store⟩
  case recovering =>
    intro id hinitial
    obtain ⟨hid, hstored⟩ := hrecovering id hinitial
    exact ⟨hid, hstored, h.store⟩

/-- A session that is shown now, and still stored unless it has ended. -/
lemma Blank.shows (h : Blank hook) (hinitial : hook'.initial = .ended)
    (hinitialized : hook'.initialized = hook.initialized)
    (hrestarts : hook'.restarts = hook.restarts) (hpoll : hook'.poll = hook.poll)
    (hshown : ∀ id, hook'.store.sessionId = some id →
      hook'.stored = some id ∨ hook'.stored = none) : Tied hook' := by
  constructor
  case initialized => rw [hinitialized, h.initialized]
  case restarts => rw [hrestarts, h.restarts]
  case shown => exact hshown
  case polled =>
    intro id hid
    rw [hpoll, h.poll] at hid
    exact absurd hid (by simp)
  case creating =>
    intro hcreating
    exact absurd (hinitial.symm.trans hcreating) (by simp)
  case recovering =>
    intro id hrecovering
    exact absurd (hinitial.symm.trans hrecovering) (by simp)

lemma Blank.createAndStoreSession (h : Blank hook)
    (hstored : hook.stored = none ∨ hook.stored = some "") :
    Tied (createAndStoreSession hook) := by
  have hblank : Blank (Recovery.createAndStoreSession hook) :=
    ⟨h.initialized, h.restarts, h.store, h.poll⟩
  refine hblank.tied (fun _ => hstored) ?_
  intro id hid
  exact absurd hid (by simp [Recovery.createAndStoreSession])

lemma Blank.recoverStoredSession (h : Blank hook) (hid : id ≠ "")
    (hstored : hook.stored = some id) : Tied (recoverStoredSession id hook) := by
  obtain ⟨cache, hcache⟩ := requestPaymentStatus_eq id hook
  rw [Recovery.recoverStoredSession, hcache]
  refine Blank.tied ⟨h.initialized, h.restarts, h.store, h.poll⟩ (by simp) ?_
  intro other hother
  obtain rfl := Initial.recovering.inj hother
  exact ⟨hid, hstored⟩

lemma Blank.initializeSession (h : Blank hook) : Tied (initializeSession hook) := by
  rw [Recovery.initializeSession]
  split
  · rename_i hstored
    exact h.createAndStoreSession (.inl hstored)
  · rename_i hstored
    split
    · rename_i hempty
      exact h.createAndStoreSession (.inr (hempty ▸ hstored))
    · rename_i hid
      exact h.recoverStoredSession hid hstored

/-- The second effect is run for what is shown, or was. -/
lemma Tied.startPolling (h : Tied hook) {sessionId : Option String} (status : PaymentStatus)
    (hsession : sessionId = hook.poll.sessionId ∨ sessionId = hook.store.sessionId) :
    Tied (startPolling sessionId status hook) := by
  obtain ⟨phase, hphase⟩ := startPolling_eq sessionId status hook
  rw [hphase]
  exact h.congr rfl rfl rfl rfl hsession (.inl rfl)

lemma tied_load (stored : Option String) (clock : ℕ) : Tied (load stored clock) := by
  have hblank : Blank { freshHook stored clock with mounted := true, initialized := true } :=
    ⟨rfl, rfl, rfl, rfl⟩
  exact hblank.initializeSession.startPolling _ (.inl rfl)

lemma Tied.setup (h : Tied hook) : Tied (setup hook) := by
  have hmounted : Tied { hook with mounted := true } :=
    h.congr rfl rfl rfl rfl (.inl rfl) (.inl rfl)
  have hsetup : Recovery.setup hook =
      Recovery.startPolling hook.poll.sessionId hook.poll.status { hook with mounted := true } := by
    simp [Recovery.setup, h.initialized]
  rw [hsetup]
  exact hmounted.startPolling _ (.inl rfl)

lemma Tied.cleanup (h : Tied hook) : Tied (cleanup hook) :=
  h.congr rfl rfl rfl rfl (.inl rfl) (.inr rfl)

/-! ### Answers -/

lemma Blank.createdSession (h : Blank hook) (hinitial : hook.initial = .ended) :
    Tied (createdSession result hook) := by
  cases result with
  | error error =>
      have hblank : Blank (setError error.userMessage hook) :=
        ⟨h.initialized, h.restarts, h.store, h.poll⟩
      refine hblank.tied ?_ ?_
      · intro hcreating
        exact absurd (hinitial.symm.trans hcreating) (by simp)
      · intro id hrecovering
        exact absurd (hinitial.symm.trans hrecovering) (by simp)
  | ok payment =>
      refine h.shows hinitial rfl rfl rfl ?_
      intro id hid
      have hsession : asString (prop payment "session_id") = some id := hid
      left
      show some ((asString (prop payment "session_id")).getD "undefined") = some id
      rw [hsession, Option.getD_some]

lemma Tied.sessionCreated (h : Tied hook) : Tied (sessionCreated result hook) := by
  rw [sessionCreated_eq h.restarts]
  split
  · rename_i hcreating
    have hblank := h.blank (h.creating hcreating).2
    exact Blank.createdSession ⟨hblank.initialized, hblank.restarts, hblank.store, hblank.poll⟩ rfl
  · exact h.congr rfl rfl rfl rfl (.inl rfl) (.inl rfl)

/-- A session is created only if no id is stored. -/
lemma Tied.sessionCreated_stored (h : Tied hook) (hid : id ≠ "") (hstored : hook.stored = some id) :
    (Recovery.sessionCreated result hook).stored = some id := by
  rw [sessionCreated_eq h.restarts]
  split
  · rename_i hcreating
    rcases (h.creating hcreating).1 with hnone | hempty
    · exact absurd (hstored.symm.trans hnone) (by simp)
    · exact absurd (Option.some.inj (hstored.symm.trans hempty)) hid
  · exact hstored

lemma recovered_poll : (recovered result hook).poll = hook.poll := by
  cases result with
  | ok statusResponse =>
      rw [recovered]
      split
      · rfl
      · rfl
  | error error =>
      rw [recovered]
      split
      · rfl
      · rfl

/-- The first effect keeps the id if the session has not expired. -/
lemma stored_recovered_ok {statusResponse : Value} (hnames : Names id (.ok statusResponse)) :
    (recovered (.ok statusResponse) hook).stored =
      if asString (prop statusResponse "status") = some "expired" then none else some id := by
  have hsession : asString (prop statusResponse "session_id") = some id := hnames
  rw [recovered]
  split
  · rfl
  · rw [hsession]
    rfl

/-- It removes the id on every error. -/
lemma stored_recovered_error (error : ApiClientError) :
    (recovered (.error error) hook).stored = none := by
  rw [recovered]
  split
  · rfl
  · rfl

lemma Blank.recovered (h : Blank hook) : Tied (recovered result hook) := by
  cases result with
  | error error =>
      rw [Recovery.recovered]
      split
      · exact Blank.createAndStoreSession ⟨h.initialized, h.restarts, h.store, h.poll⟩ (.inl rfl)
      · -- an error is shown, but still no session
        refine h.shows rfl rfl rfl rfl ?_
        intro id hid
        have hid : hook.store.sessionId = some id := hid
        exact absurd (hid.symm.trans h.store) (by simp)
  | ok statusResponse =>
      rw [Recovery.recovered]
      split
      · exact h.shows rfl rfl rfl rfl fun _ _ => .inr rfl
      · refine h.shows rfl rfl rfl rfl ?_
        intro id hid
        have hsession : asString (prop statusResponse "session_id") = some id := hid
        left
        show some ((asString (prop statusResponse "session_id")).getD "undefined") = some id
        rw [hsession, Option.getD_some]

/-- A poll removes the id only if the session has ended. -/
lemma stored_polled (hook : Hook) (result : ApiResult) :
    (polled result hook).stored = hook.stored ∨ Ended result := by
  cases result with
  | ok statusResponse =>
      rw [polled]
      split
      · rename_i hexpired
        exact .inr hexpired
      · exact .inl rfl
  | error error =>
      rw [polled]
      split
      · rename_i hstatus
        exact .inr hstatus
      · exact .inl rfl

/-- The id of a session that is shown may be removed. -/
lemma Tied.clear (h : Tied hook) (hshown : hook.store.sessionId = some id) :
    Tied (clearPersistedSessionId hook) := by
  constructor
  case initialized => exact h.initialized
  case restarts => exact h.restarts
  case shown => exact fun _ _ => .inr rfl
  case polled => exact h.polled
  case creating =>
    intro hcreating
    exact absurd (hshown.symm.trans (h.creating hcreating).2) (by simp)
  case recovering =>
    intro other hrecovering
    exact absurd (hshown.symm.trans (h.recovering other hrecovering).2.2) (by simp)

lemma Tied.polledAnswer (h : Tied hook) (hpoll : hook.poll.sessionId = some id)
    (hnames : Names id result) : Tied (Recovery.polled result hook) := by
  have hshown := h.polled id hpoll
  cases result with
  | ok statusResponse =>
      -- the answer names the session that is shown already
      have hsession : asString (prop statusResponse "session_id") = hook.store.sessionId :=
        hnames.trans hshown.symm
      rw [Recovery.polled]
      split
      · exact (h.clear hshown).congr rfl rfl rfl hsession (.inl rfl) (.inl rfl)
      · exact h.congr rfl rfl rfl hsession (.inl rfl) (.inl rfl)
  | error error =>
      rw [Recovery.polled]
      split
      · exact (h.clear hshown).congr rfl rfl rfl rfl (.inl rfl) (.inl rfl)
      · exact h.congr rfl rfl rfl rfl (.inl rfl) (.inl rfl)

/-- What becomes of an answer about a session: it is for the first effect, for the second, or
for none of them. -/
inductive Handled (hook : Hook) (id : String) (result : ApiResult) (hook' : Hook) : Prop
  | recovered (hrecovering : hook.initial = .recovering id) (cache : List String)
      (h : hook' = Recovery.recovered result { hook with statusRequestCache := cache })
  | polled (hinitial : hook.initial ≠ .recovering id) (hpoll : hook.poll.sessionId = some id)
      (cache : List String)
      (h : hook' = Recovery.polled result { hook with statusRequestCache := cache })
  | ignored (hinitial : hook.initial ≠ .recovering id) (cache : List String)
      (h : hook' = { hook with statusRequestCache := cache })

lemma Tied.handled (h : Tied hook) (id : String) (result : ApiResult) :
    Handled hook id result (statusRequested id result hook) := by
  rw [statusRequested]
  by_cases hrecovering : hook.initial = .recovering id
  · -- nothing is polled while a stored session is recovered
    have hpoll := (h.blank (h.recovering id hrecovering).2.2).poll
    refine .recovered hrecovering (hook.statusRequestCache.erase id) ?_
    simp [hrecovering, recovered_poll, hpoll]
  · simp only [hrecovering, if_false]
    split
    · rename_i hpoll
      exact .polled hrecovering hpoll.1 _ rfl
    · exact .ignored hrecovering _ rfl

lemma Tied.statusRequested (h : Tied hook) (hnames : Names id result) :
    Tied (statusRequested id result hook) := by
  have hcache : ∀ cache, Tied { hook with statusRequestCache := cache } :=
    fun _ => h.congr rfl rfl rfl rfl (.inl rfl) (.inl rfl)
  cases h.handled id result with
  | recovered hrecovering cache heq =>
      rw [heq]
      exact ((hcache cache).blank (h.recovering id hrecovering).2.2).recovered
  | polled _ hpoll cache heq =>
      rw [heq]
      exact (hcache cache).polledAnswer hpoll hnames
  | ignored _ cache heq =>
      rw [heq]
      exact hcache cache

/-- **One step of the hook.** -/
lemma Tied.step (h : Tied hook) (hstep : Recovery.step hook a = some hook')
    (hrestart : a ≠ .restartSession) (htruthful : a.Truthful) : Tied hook' := by
  cases effect_of_step hstep with
  | load => exact tied_load hook.stored hook.clock
  | cleanup => exact h.cleanup
  | setup => exact h.setup
  | rerender => exact h.startPolling _ (.inr rfl)
  | elapse ms => exact h.congr rfl rfl rfl rfl (.inl rfl) (.inl rfl)
  | poll sessionId =>
      obtain ⟨cache, hcache⟩ := requestPaymentStatus_eq sessionId (setPhase .requesting hook)
      rw [hcache]
      exact h.congr rfl rfl rfl rfl (.inl rfl) (.inl rfl)
  | createAnswer requestId freshId outcomes => exact h.sessionCreated
  | statusAnswer sessionId requestId freshId outcomes => exact h.statusRequested htruthful
  | restartSession => exact absurd rfl hrestart

/-- How an answer about a session removes an id: it says that the session has ended, or it
is an error that ends the recovery. -/
lemma Tied.removed_of_answer (h : Tied hook) {sessionId : String}
    (hnames : Names sessionId result) (hstored : hook.stored = some id)
    (hremoved : (Recovery.statusRequested sessionId result hook).stored ≠ some id) :
    sessionId = id ∧ (Ended result ∨
      hook.initial = .recovering sessionId ∧ ¬ Settled result) := by
  cases h.handled sessionId result with
  | recovered hrecovering cache heq =>
      -- the session that is recovered is the stored one
      obtain ⟨-, hsession, -⟩ := h.recovering sessionId hrecovering
      obtain rfl : sessionId = id := Option.some.inj (hsession.symm.trans hstored)
      refine ⟨rfl, ?_⟩
      cases result with
      | ok statusResponse =>
          left
          rw [heq, stored_recovered_ok hnames] at hremoved
          by_contra hended
          exact hremoved (if_neg hended)
      | error error =>
          by_cases hstatus : error.status = some 404
          · exact .inl hstatus
          · exact .inr ⟨hrecovering, hstatus⟩
  | polled _ hpoll cache heq =>
      rw [heq] at hremoved
      rcases stored_polled { hook with statusRequestCache := cache } result with hkept | hended
      · exact absurd (hkept.trans hstored) hremoved
      · -- the session that is polled is shown, so it is the stored one
        rcases h.shown sessionId (h.polled sessionId hpoll) with hsession | hnone
        · exact ⟨Option.some.inj (hsession.symm.trans hstored), .inl hended⟩
        · exact absurd (hstored.symm.trans hnone) (by simp)
  | ignored _ cache heq =>
      rw [heq] at hremoved
      exact absurd hstored hremoved

/-- **How an id is removed.** -/
lemma Tied.removed_of_step (h : Tied hook) (hstep : Recovery.step hook a = some hook')
    (hrestart : a ≠ .restartSession) (htruthful : a.Truthful) (hid : id ≠ "")
    (hstored : hook.stored = some id) (hremoved : hook'.stored ≠ some id) :
    a.Ends id ∨ ¬ Recovers hook a := by
  cases effect_of_step hstep with
  | load =>
      have hload : (load hook.stored hook.clock).stored = hook.stored := setup_stored _
      exact absurd (hload.trans hstored) hremoved
  | cleanup => exact absurd hstored hremoved
  | setup => exact absurd ((setup_stored _).trans hstored) hremoved
  | rerender =>
      obtain ⟨phase, hphase⟩ := startPolling_eq hook.store.sessionId hook.store.status hook
      rw [hphase] at hremoved
      exact absurd hstored hremoved
  | elapse ms => exact absurd hstored hremoved
  | poll sessionId =>
      obtain ⟨cache, hcache⟩ := requestPaymentStatus_eq sessionId (setPhase .requesting hook)
      rw [hcache] at hremoved
      exact absurd hstored hremoved
  | createAnswer requestId freshId outcomes =>
      exact absurd (h.sessionCreated_stored hid hstored) hremoved
  | statusAnswer sessionId requestId freshId outcomes =>
      obtain ⟨heq, hended | ⟨hrecovering, hsettled⟩⟩ :=
        h.removed_of_answer htruthful hstored hremoved
      · exact .inl ⟨heq, hended⟩
      · exact .inr fun hrecovers => hsettled (hrecovers hrecovering)
  | restartSession => exact absurd rfl hrestart

/-- A recovery that the server does not answer removes the id of its session. -/
lemma Tied.removed_of_not_recovers (h : Tied hook) (hstep : Recovery.step hook a = some hook')
    (hrecovers : ¬ Recovers hook a) :
    ∃ id, id ≠ "" ∧ hook.stored = some id ∧ hook'.stored = none ∧ ¬ a.Ends id := by
  cases effect_of_step hstep with
  | statusAnswer sessionId requestId freshId outcomes =>
      rw [Recovers, Classical.not_imp] at hrecovers
      obtain ⟨hrecovering, hsettled⟩ := hrecovers
      obtain ⟨hid, hstored, -⟩ := h.recovering sessionId hrecovering
      cases hresult : getPaymentStatus requestId freshId outcomes with
      | ok statusResponse =>
          rw [hresult] at hsettled
          exact absurd True.intro hsettled
      | error error =>
          refine ⟨sessionId, hid, hstored, ?_, ?_⟩
          · cases h.handled sessionId (.error error) with
            | recovered _ cache heq => rw [heq, stored_recovered_error]
            | polled hinitial => exact absurd hrecovering hinitial
            | ignored hinitial => exact absurd hrecovering hinitial
          · rintro ⟨-, hended⟩
            rw [hresult] at hsettled hended
            exact hsettled hended
  | load => exact absurd True.intro hrecovers
  | cleanup => exact absurd True.intro hrecovers
  | setup => exact absurd True.intro hrecovers
  | rerender => exact absurd True.intro hrecovers
  | elapse ms => exact absurd True.intro hrecovers
  | poll sessionId => exact absurd True.intro hrecovers
  | createAnswer requestId freshId outcomes => exact absurd True.intro hrecovers
  | restartSession => exact absurd True.intro hrecovers

end

/-! ### Runs -/

section

variable {stored : Option String} {clock : ℕ} {t : List (Hook × Action)} {hook : Hook}

lemma tied_of_run (hrun : Run step (load stored clock) t hook)
    (hrestart : ∀ e ∈ t, e.2 ≠ .restartSession) (htruthful : ∀ e ∈ t, e.2.Truthful) :
    Tied hook := by
  refine Run.invariant_of_guard (P := fun _ hook => Tied hook)
    (G := fun _ a => a ≠ .restartSession ∧ a.Truthful) hrun ?_ (tied_load stored clock) ?_
  · exact fun e he => ⟨hrestart e he, htruthful e he⟩
  · intro t hook a hook' _ ih hguard hstep
    exact ih.step hstep hguard.1 hguard.2

/-- **A stored session survives.**  In a run without `restartSession`, in which the server
answers about the sessions it is asked for, ids are removed from the storage only by an
answer that their session has ended, exactly if the server answers whenever a stored session
is recovered. -/
theorem stored_kept (hrun : Run step (load stored clock) t hook)
    (hrestart : ∀ e ∈ t, e.2 ≠ .restartSession) (htruthful : ∀ e ∈ t, e.2.Truthful) :
    RemovesOnlyEnded t ↔ ∀ e ∈ t, Recovers e.1 e.2 := by
  -- what holds before a step of the run
  have hbefore : ∀ {hook₁ a}, (hook₁, a) ∈ t → Tied hook₁ := by
    intro hook₁ a hmem
    obtain ⟨t₁, t₂, hook₂, rfl, hrun₁, -⟩ := hrun.of_mem hmem
    exact tied_of_run hrun₁ (fun e he => hrestart e (by simp [he]))
      (fun e he => htruthful e (by simp [he]))
  constructor
  · rintro hremoves ⟨hook₁, a⟩ hmem
    by_contra hrecovers
    obtain ⟨t₁, t₂, hook₂, -, -, hstep, -⟩ := hrun.of_mem hmem
    obtain ⟨id, hid, hstored, hnone, hends⟩ :=
      (hbefore hmem).removed_of_not_recovers hstep hrecovers
    exact hends (hremoves hook₁ a hook₂ hmem hstep id hid hstored (by simp [hnone]))
  · intro hrecovers hook₁ a hook₂ hmem hstep id hid hstored hremoved
    rcases (hbefore hmem).removed_of_step hstep (hrestart _ hmem) (htruthful _ hmem) hid hstored
      hremoved with hends | hnot
    · exact hends
    · exact absurd (hrecovers _ hmem) hnot

end

/-! ### An example -/

instance : (result : ApiResult) → Decidable (Ended result)
  | .ok statusResponse => inferInstanceAs (Decidable (asString (prop statusResponse "status") = _))
  | .error error => inferInstanceAs (Decidable (error.status = _))

instance (sessionId : String) : (result : ApiResult) → Decidable (Names sessionId result)
  | .ok statusResponse =>
      inferInstanceAs (Decidable (asString (prop statusResponse "session_id") = _))
  | .error _ => .isTrue True.intro

instance : (result : ApiResult) → Decidable (Settled result)
  | .ok _ => .isTrue True.intro
  | .error error => inferInstanceAs (Decidable (error.status = _))

instance (id : String) : (a : Action) → Decidable (a.Ends id)
  | .statusAnswer _ _ _ _ => inferInstanceAs (Decidable (_ ∧ Ended _))
  | .load | .cleanup | .setup | .rerender | .elapse _ | .poll | .createAnswer _ _ _
  | .restartSession => .isFalse False.elim

instance : (a : Action) → Decidable a.Truthful
  | .statusAnswer _ _ _ _ => inferInstanceAs (Decidable (Names _ _))
  | .load | .cleanup | .setup | .rerender | .elapse _ | .poll | .createAnswer _ _ _
  | .restartSession => .isTrue True.intro

instance (hook : Hook) : (a : Action) → Decidable (Recovers hook a)
  | .statusAnswer _ _ _ _ => inferInstanceAs (Decidable (_ → Settled _))
  | .load | .cleanup | .setup | .rerender | .elapse _ | .poll | .createAnswer _ _ _
  | .restartSession => .isTrue True.intro

def demoId : String := "k3Jd82LmQw0Z"

/-- A session is created. -/
def demoCreate : Action :=
  .createAnswer "create" "fresh" fun _ => .response 200 (some
    ("\x7b\"session_id\":\"k3Jd82LmQw0Z\",\"destination\":\"GDEMO\",\"amount\":\"5\"," ++
      "\"asset\":\"XLM\",\"memo\":\"k3Jd82LmQw0Z\",\"qr_payload\":\"web+stellar:pay\"," ++
      "\"qr_png\":\"\",\"request_expires_at\":900\x7d"))

/-- Every fetch for the status of the session ends so. -/
def demoStatus (outcome : FetchOutcome) : Action :=
  .statusAnswer demoId "status" "fresh" fun _ => outcome

/-- A poll fails, and the session is still recovered; then it does not exist any more. -/
theorem stored_kept_demo :
    ∃ t hook, Run step (load none 0) t hook ∧
      t.map Prod.snd = [demoCreate, .rerender, .elapse 3000, .poll, demoStatus .failure, .load,
        demoStatus (.response 404 (some ""))] ∧
      (∃ e ∈ t, e.1.stored = some demoId) ∧ hook.stored = none ∧ RemovesOnlyEnded t := by
  obtain ⟨t, hook, hrun, hactions, hcheck⟩ : ∃ t hook, Run step (load none 0) t hook ∧
      t.map Prod.snd = [demoCreate, .rerender, .elapse 3000, .poll, demoStatus .failure, .load,
        demoStatus (.response 404 (some ""))] ∧
      ((t.any fun e => e.1.stored == some demoId) && hook.stored.isNone &&
        t.all fun e => decide (e.2.Truthful ∧ Recovers e.1 e.2)) = true :=
    exists_run_of_check _ (by decide +kernel)
  simp only [Bool.and_eq_true, List.any_eq_true, beq_iff_eq, Option.isNone_iff_eq_none,
    List.all_eq_true, decide_eq_true_iff] at hcheck
  obtain ⟨⟨hstored, hnone⟩, hsteps⟩ := hcheck
  have hrestart : ∀ a ∈ t.map Prod.snd, a ≠ .restartSession := by
    rw [hactions]
    simp [demoCreate, demoStatus]
  have hkept := stored_kept hrun (fun e he => hrestart e.2 (List.mem_map_of_mem he))
    fun e he => (hsteps e he).1
  exact ⟨t, hook, hrun, hactions, hstored, hnone, hkept.2 fun e he => (hsteps e he).2⟩

/-- The page is loaded anew while the network is down. -/
theorem stored_lost :
    ∃ t hook, Run step (load none 0) t hook ∧
      t.map Prod.snd = [demoCreate, .load, demoStatus .failure] ∧
      (∃ e ∈ t, e.1.stored = some demoId) ∧ hook.stored = none ∧
      ∀ e ∈ t, e.2 ≠ .restartSession ∧ e.2.Truthful ∧ ¬ e.2.Ends demoId := by
  obtain ⟨t, hook, hrun, hactions, hcheck⟩ : ∃ t hook, Run step (load none 0) t hook ∧
      t.map Prod.snd = [demoCreate, .load, demoStatus .failure] ∧
      ((t.any fun e => e.1.stored == some demoId) && hook.stored.isNone &&
        t.all fun e => decide (e.2.Truthful ∧ ¬ e.2.Ends demoId)) = true :=
    exists_run_of_check _ (by decide +kernel)
  simp only [Bool.and_eq_true, List.any_eq_true, beq_iff_eq, Option.isNone_iff_eq_none,
    List.all_eq_true, decide_eq_true_iff] at hcheck
  obtain ⟨⟨hstored, hnone⟩, hsteps⟩ := hcheck
  have hrestart : ∀ a ∈ t.map Prod.snd, a ≠ .restartSession := by
    rw [hactions]
    simp [demoCreate, demoStatus]
  exact ⟨t, hook, hrun, hactions, hstored, hnone,
    fun e he => ⟨hrestart e.2 (List.mem_map_of_mem he), hsteps e he⟩⟩

end Haske.Recovery
