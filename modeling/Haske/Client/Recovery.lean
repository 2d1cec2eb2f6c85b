import Haske.Client.Store
import Haske.Lib.Machine

/-!
# The session of the checkout

`useSessionRecovery` keeps the session of the checkout.  Its first effect takes up the
session whose id is in the local storage, or creates one; its second effect polls the status
of the session that the store shows; and the user can have a new session created when the
shown one has expired or failed.  Requests of the same kind share a promise as long as there
is no answer.

Everything but the storage and the clock is lost when the page is loaded anew.  The effects
may be cleaned up and set up again, as `StrictMode` does; an effect that was cleaned up
ignores the answers that come later.  When an answer comes, and which, is the environment's
choice, as is when React runs the second effect for what the store shows by then.

The storage is taken to work: its exceptions are not modelled.
-/

namespace Haske.Recovery

open Json Js

/-- `POLL_INTERVAL_MS`; the delay of every poll, the first one included. -/
def pollIntervalMs : ℕ := 3000

/-- What the first effect waits for. -/
inductive Initial where
  | ended
  | creating
  | recovering (storedSessionId : String)
deriving DecidableEq

inductive Phase where
  | off
  | waiting (due : ℕ)
  | requesting
deriving DecidableEq

/-- The second effect, with the session and the status that it was run for. -/
structure Poll where
  sessionId : Option String
  status : PaymentStatus
  phase : Phase

structure Hook where
  /-- The id in the local storage. -/
  stored : Option String
  clock : ℕ
  store : PaymentState
  /-- A session is being created. -/
  createSessionPromise : Bool
  /-- The sessions whose status is being requested. -/
  statusRequestCache : List String
  mounted : Bool
  initialized : Bool
  initial : Initial
  poll : Poll
  /-- How many calls of `restartSession` wait for the new session. -/
  restarts : ℕ

/-! ### Storage, requests and store -/

def persistSessionId (sessionId : Option String) (hook : Hook) : Hook :=
  { hook with stored := some (sessionId.getD "undefined") }

def clearPersistedSessionId (hook : Hook) : Hook := { hook with stored := none }

def requestNewSession (hook : Hook) : Hook := { hook with createSessionPromise := true }

def requestPaymentStatus (sessionId : String) (hook : Hook) : Hook :=
  if hook.statusRequestCache.contains sessionId then hook
  else { hook with statusRequestCache := sessionId :: hook.statusRequestCache }

lemma requestPaymentStatus_eq (sessionId : String) (hook : Hook) :
    ∃ cache, requestPaymentStatus sessionId hook = { hook with statusRequestCache := cache } := by
  rw [requestPaymentStatus]
  split
  · exact ⟨hook.statusRequestCache, rfl⟩
  · exact ⟨_, rfl⟩

def setError (message : String) (hook : Hook) : Hook :=
  { hook with store := hook.store.setError message }

def setRecoverableError (message : String) (hook : Hook) : Hook :=
  { hook with store := hook.store.setRecoverableError message }

def clearError (hook : Hook) : Hook := { hook with store := hook.store.clearError }

def applyStatus (statusResponse : Value) (hook : Hook) : Hook :=
  { hook with store := hook.store.applyStatus (toSnapshot statusResponse) }

def resetSession (hook : Hook) : Hook := { hook with store := initialState }

/-- What is done with the result of creating a session, by the first effect and by
`restartSession`. -/
def createdSession (result : ApiResult) (hook : Hook) : Hook :=
  match result with
  | .error error => setError error.userMessage hook
  | .ok payment =>
      let sessionId := asString (prop payment "session_id")
      let hook := persistSessionId sessionId hook
      { hook with
        store := hook.store.setSession sessionId payment (prop payment "request_expires_at") }

lemma createdSession_restarts (result : ApiResult) (hook : Hook) :
    (createdSession result hook).restarts = hook.restarts := by
  cases result with
  | ok payment => rfl
  | error error => rfl

/-! ### The first effect -/

def createAndStoreSession (hook : Hook) : Hook :=
  { requestNewSession hook with initial := .creating }

def recoverStoredSession (storedSessionId : String) (hook : Hook) : Hook :=
  { requestPaymentStatus storedSessionId hook with initial := .recovering storedSessionId }

/-- `initialize`. -/
def initializeSession (hook : Hook) : Hook :=
  match hook.stored with
  | none => createAndStoreSession hook
  | some storedSessionId =>
      if storedSessionId = "" then createAndStoreSession hook
      else recoverStoredSession storedSessionId hook

/-- `recoverStoredSession` and `initialize` go on with the result. -/
def recovered (result : ApiResult) (hook : Hook) : Hook :=
  let hook := { hook with initial := .ended }
  match result with
  | .ok statusResponse =>
      let hook := applyStatus statusResponse hook
      if asString (prop statusResponse "status") = some "expired" then
        clearPersistedSessionId hook
      else persistSessionId (asString (prop statusResponse "session_id")) hook
  | .error error =>
      -- `recoverStoredSession` throws the error, and `initialize` catches it
      let hook := clearPersistedSessionId hook
      if error.status = some 404 then createAndStoreSession hook
      else setError error.userMessage hook

/-! ### The second effect -/

def setPhase (phase : Phase) (hook : Hook) : Hook :=
  { hook with poll := { hook.poll with phase := phase } }

/-- `window.setTimeout(poll, POLL_INTERVAL_MS)`. -/
def schedulePoll (hook : Hook) : Hook := setPhase (.waiting (hook.clock + pollIntervalMs)) hook

/-- Run the effect for this session and this status. -/
def startPolling (sessionId : Option String) (status : PaymentStatus) (hook : Hook) : Hook :=
  let hook := { hook with poll := { sessionId := sessionId, status := status, phase := .off } }
  if sessionId = none ∨ sessionId = some "" ∨ status = .confirmed ∨ status = .expired then hook
  else schedulePoll hook

/-- Only the second effect is changed. -/
lemma startPolling_eq (sessionId : Option String) (status : PaymentStatus) (hook : Hook) :
    ∃ phase, startPolling sessionId status hook =
      { hook with poll := { sessionId := sessionId, status := status, phase := phase } } := by
  rw [startPolling]
  split
  · exact ⟨.off, rfl⟩
  · exact ⟨.waiting (hook.clock + pollIntervalMs), rfl⟩

/-- `poll` goes on with the result. -/
def polled (result : ApiResult) (hook : Hook) : Hook :=
  match result with
  | .ok statusResponse =>
      let hook := clearError (applyStatus statusResponse hook)
      if asString (prop statusResponse "status") = some "expired" then
        setPhase .off (clearPersistedSessionId hook)
      else schedulePoll hook
  | .error error =>
      if error.status = some 404 then
        setPhase .off (setError "Stored session no longer exists" (clearPersistedSessionId hook))
      else schedulePoll (setRecoverableError error.userMessage hook)

/-! ### Mounting -/

def cleanup (hook : Hook) : Hook := setPhase .off { hook with mounted := false, initial := .ended }

/-- Set up both effects, the second one for what was shown last. -/
def setup (hook : Hook) : Hook :=
  let hook := { hook with mounted := true }
  -- `initializedRef` outlives the effect, so the first effect is run once
  let hook := if hook.initialized then hook else initializeSession { hook with initialized := true }
  startPolling hook.poll.sessionId hook.poll.status hook

/-- A page before its effects are set up for the first time. -/
def freshHook (stored : Option String) (clock : ℕ) : Hook where
  stored := stored
  clock := clock
  store := initialState
  createSessionPromise := false
  statusRequestCache := []
  mounted := false
  initialized := false
  initial := .ended
  poll :=
    { sessionId := initialState.sessionId
      status := initialState.status
      phase := .off }
  restarts := 0

def load (stored : Option String) (clock : ℕ) : Hook := setup (freshHook stored clock)

lemma initializeSession_stored (hook : Hook) :
    (initializeSession hook).stored = hook.stored := by
  rw [initializeSession]
  split
  · rfl
  · rename_i storedSessionId _
    split
    · rfl
    · obtain ⟨cache, hcache⟩ := requestPaymentStatus_eq storedSessionId hook
      rw [recoverStoredSession, hcache]

lemma setup_stored (hook : Hook) : (setup hook).stored = hook.stored := by
  have hstart : ∀ hook' : Hook,
      (startPolling hook'.poll.sessionId hook'.poll.status hook').stored = hook'.stored := by
    intro hook'
    obtain ⟨phase, hphase⟩ := startPolling_eq hook'.poll.sessionId hook'.poll.status hook'
    rw [hphase]
  rw [setup, hstart]
  split
  · rfl
  · exact initializeSession_stored _

/-! ### The event loop -/

/-- `outcomes` says how the fetches of a request end, and the other parameters are the ids
that `request` draws. -/
inductive Action where
  | load
  | cleanup
  | setup
  /-- Another session or status is shown: React runs the second effect anew. -/
  | rerender
  | elapse (ms : ℕ)
  | poll
  | createAnswer (requestId freshId : String) (outcomes : ℕ → FetchOutcome)
  | statusAnswer (sessionId requestId freshId : String) (outcomes : ℕ → FetchOutcome)
  /-- The button that is shown when the session has expired or failed. -/
  | restartSession

/-- The new session is there, or could not be created. -/
def sessionCreated (result : ApiResult) (hook : Hook) : Hook :=
  let hook := { hook with createSessionPromise := false }
  let hook :=
    if hook.initial = .creating then createdSession result { hook with initial := .ended }
    else hook
  { Nat.iterate (createdSession result) hook.restarts hook with restarts := 0 }

/-- Without a restart only the first effect can wait for the new session. -/
lemma sessionCreated_eq {hook : Hook} (hrestarts : hook.restarts = 0) (result : ApiResult) :
    sessionCreated result hook =
      if hook.initial = .creating then
        createdSession result { hook with createSessionPromise := false, initial := .ended }
      else { hook with createSessionPromise := false } := by
  -- no call of `restartSession` goes on
  have hzero : ∀ hook' : Hook, hook'.restarts = 0 →
      { Nat.iterate (createdSession result) hook'.restarts hook' with restarts := 0 } = hook' := by
    intro hook' h
    cases hook'
    obtain rfl := h
    rfl
  rw [sessionCreated]
  by_cases hcreating : hook.initial = .creating
  · simp only [hcreating, if_true]
    exact hzero _ ((createdSession_restarts result _).trans hrestarts)
  · simp only [hcreating, if_false]
    exact hzero { hook with createSessionPromise := false } hrestarts

/-- The status of a session is there, or could not be requested. -/
def statusRequested (sessionId : String) (result : ApiResult) (hook : Hook) : Hook :=
  let hook := { hook with statusRequestCache := hook.statusRequestCache.erase sessionId }
  let hook := if hook.initial = .recovering sessionId then recovered result hook else hook
  if hook.poll.sessionId = some sessionId ∧ hook.poll.phase = .requesting then polled result hook
  else hook

def restart (hook : Hook) : Hook :=
  let hook := requestNewSession (resetSession (clearPersistedSessionId hook))
  { hook with restarts := hook.restarts + 1 }

def step (hook : Hook) : Action → Option Hook
  | .load => some (load hook.stored hook.clock)
  | .cleanup => if hook.mounted then some (cleanup hook) else none
  | .setup => if hook.mounted then none else some (setup hook)
  | .rerender =>
      if hook.mounted ∧
          ¬ (hook.poll.sessionId = hook.store.sessionId ∧
            hook.poll.status = hook.store.status) then
        some (startPolling hook.store.sessionId hook.store.status hook)
      else none
  | .elapse ms => some { hook with clock := hook.clock + ms }
  | .poll =>
      match hook.poll.phase, hook.poll.sessionId with
      | .waiting due, some sessionId =>
          if due ≤ hook.clock then
            some (requestPaymentStatus sessionId (setPhase .requesting hook))
          else none
      | _, _ => none
  | .createAnswer requestId freshId outcomes =>
      if hook.createSessionPromise then
        some (sessionCreated (createPayment requestId freshId outcomes) hook)
      else none
  | .statusAnswer sessionId requestId freshId outcomes =>
      if hook.statusRequestCache.contains sessionId then
        some (statusRequested sessionId (getPaymentStatus requestId freshId outcomes) hook)
      else none
  | .restartSession =>
      if hook.store.status = .expired ∨ hook.store.status = .error then some (restart hook)
      else none

/-! ### What a step does -/

/-- The steps, by what they do. -/
inductive Effect (hook : Hook) : Action → Hook → Prop
  | load : Effect hook .load (load hook.stored hook.clock)
  | cleanup : Effect hook .cleanup (cleanup hook)
  | setup : Effect hook .setup (setup hook)
  | rerender :
      Effect hook .rerender (startPolling hook.store.sessionId hook.store.status hook)
  | elapse (ms : ℕ) : Effect hook (.elapse ms) { hook with clock := hook.clock + ms }
  | poll (sessionId : String) :
      Effect hook .poll (requestPaymentStatus sessionId (setPhase .requesting hook))
  | createAnswer (requestId freshId : String) (outcomes : ℕ → FetchOutcome) :
      Effect hook (.createAnswer requestId freshId outcomes)
        (sessionCreated (createPayment requestId freshId outcomes) hook)
  | statusAnswer (sessionId requestId freshId : String) (outcomes : ℕ → FetchOutcome) :
      Effect hook (.statusAnswer sessionId requestId freshId outcomes)
        (statusRequested sessionId (getPaymentStatus requestId freshId outcomes) hook)
  | restartSession : Effect hook .restartSession (restart hook)

lemma effect_of_step {hook hook' : Hook} {a : Action} (h : step hook a = some hook') :
    Effect hook a hook' := by
  cases a with
  | load =>
      obtain rfl := Option.some.inj h
      exact .load
  | cleanup =>
      obtain ⟨-, rfl⟩ : _ ∧ cleanup hook = hook' := by simpa [step] using h
      exact .cleanup
  | setup =>
      obtain ⟨-, rfl⟩ : _ ∧ setup hook = hook' := by simpa [step] using h
      exact .setup
  | rerender =>
      rw [step] at h
      split at h
      · obtain rfl := Option.some.inj h
        exact .rerender
      · cases h
  | elapse ms =>
      obtain rfl := Option.some.inj h
      exact .elapse ms
  | poll =>
      rw [step] at h
      split at h
      · split at h
        · obtain rfl := Option.some.inj h
          exact .poll _
        · cases h
      · cases h
  | createAnswer requestId freshId outcomes =>
      rw [step] at h
      split at h
      · obtain rfl := Option.some.inj h
        exact .createAnswer requestId freshId outcomes
      · cases h
  | statusAnswer sessionId requestId freshId outcomes =>
      rw [step] at h
      split at h
      · obtain rfl := Option.some.inj h
        exact .statusAnswer sessionId requestId freshId outcomes
      · cases h
  | restartSession =>
      rw [step] at h
      split at h
      · obtain rfl := Option.some.inj h
        exact .restartSession
      · cases h

end Haske.Recovery
