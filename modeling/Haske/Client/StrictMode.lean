import Haske.Client.Stored

/-!
# Effects that are run twice

In development `StrictMode` cleans up every effect once and sets it up again.  The first
effect of `useSessionRecovery` then ignores the answers to the requests of its first run,
since that run was cancelled, and makes none in its second, since `initializedRef` says that
it was run.  Nobody else waits for the answers, and no button leads out of the status `INIT`,
so the checkout shows nothing for good (`Stuck.step`).

If the effects are cleaned up only after the first effect has got its answers, the checkout
leaves `INIT` (`left_init_iff`).
-/

namespace Haske.Recovery

open Machine Json Js

/-- Nothing is shown yet, and nothing has failed. -/
structure Starting (hook : Hook) : Prop extends Blank hook where
  status : hook.store.status = .init

/-- Somebody waits for every answer that is needed. -/
structure Alive (hook : Hook) : Prop where
  initialized : hook.initialized = true
  creating : hook.initial = .creating → hook.createSessionPromise = true
  recovering : ∀ id, hook.initial = .recovering id → id ∈ hook.statusRequestCache
  restarts : 0 < hook.restarts → hook.createSessionPromise = true
  waits : hook.store.status = .init → hook.initial ≠ .ended ∨ 0 < hook.restarts
  starting : hook.initial ≠ .ended → Starting hook

/-- Nothing is shown, and nobody waits for an answer. -/
structure Stuck (hook : Hook) : Prop extends Starting hook where
  initial : hook.initial = .ended

section

variable {hook hook' : Hook} {a : Action} {id : String} {result : ApiResult}

lemma Starting.congr (h : Starting hook) (hinitialized : hook'.initialized = hook.initialized)
    (hrestarts : hook'.restarts = hook.restarts) (hstore : hook'.store = hook.store)
    (hpoll : hook'.poll.sessionId = hook.poll.sessionId ∨
      hook'.poll.sessionId = hook.store.sessionId) : Starting hook' := by
  refine ⟨⟨?_, ?_, ?_, ?_⟩, ?_⟩
  · rw [hinitialized, h.initialized]
  · rw [hrestarts, h.restarts]
  · rw [hstore, h.store]
  · rcases hpoll with hpoll | hpoll
    · rw [hpoll, h.poll]
    · rw [hpoll, h.store]
  · rw [hstore, h.status]

/-- Only the requests to the server and the second effect are changed. -/
lemma Alive.congr (h : Alive hook) (hinitialized : hook'.initialized = hook.initialized)
    (hrestarts : hook'.restarts = hook.restarts) (hstore : hook'.store = hook.store)
    (hpoll : hook'.poll.sessionId = hook.poll.sessionId ∨
      hook'.poll.sessionId = hook.store.sessionId)
    (hinitial : hook'.initial = hook.initial)
    (hpromise : hook'.createSessionPromise = hook.createSessionPromise)
    (hcache : hook.statusRequestCache ⊆ hook'.statusRequestCache) : Alive hook' := by
  constructor
  case initialized => rw [hinitialized, h.initialized]
  case creating =>
    rw [hinitial, hpromise]
    exact h.creating
  case recovering =>
    intro id hid
    rw [hinitial] at hid
    exact hcache (h.recovering id hid)
  case restarts =>
    rw [hrestarts, hpromise]
    exact h.restarts
  case waits =>
    rw [hstore, hinitial, hrestarts]
    exact h.waits
  case starting =>
    rw [hinitial]
    exact fun hne => (h.starting hne).congr hinitialized hrestarts hstore hpoll

/-- Something is shown. -/
lemma Alive.of_shown (hinitialized : hook.initialized = true) (hinitial : hook.initial = .ended)
    (hrestarts : 0 < hook.restarts → hook.createSessionPromise = true)
    (hstatus : hook.store.status ≠ .init) : Alive hook := by
  constructor
  case initialized => exact hinitialized
  case creating =>
    intro hcreating
    exact absurd (hinitial.symm.trans hcreating) (by simp)
  case recovering =>
    intro id hrecovering
    exact absurd (hinitial.symm.trans hrecovering) (by simp)
  case restarts => exact hrestarts
  case waits => exact fun hinit => absurd hinit hstatus
  case starting => exact fun hne => absurd hinitial hne

lemma requestPaymentStatus_subset :
    hook.statusRequestCache ⊆ (requestPaymentStatus id hook).statusRequestCache := by
  rw [requestPaymentStatus]
  split
  · exact List.Subset.refl _
  · exact List.subset_cons_self _ _

lemma mem_requestPaymentStatus : id ∈ (requestPaymentStatus id hook).statusRequestCache := by
  rw [requestPaymentStatus]
  split
  · rename_i hcached
    exact List.contains_iff_mem.1 hcached
  · exact List.mem_cons_self

/-! ### Starting -/

lemma Starting.createAndStoreSession (h : Starting hook) :
    Alive (createAndStoreSession hook) := by
  constructor
  case initialized => exact h.initialized
  case creating => exact fun _ => rfl
  case recovering =>
    intro id hid
    exact absurd hid (by simp [Recovery.createAndStoreSession])
  case restarts => exact fun _ => rfl
  case waits => exact fun _ => .inl (by simp [Recovery.createAndStoreSession])
  case starting => exact fun _ => h.congr rfl rfl rfl (.inl rfl)

lemma Starting.recoverStoredSession (h : Starting hook) :
    Alive (recoverStoredSession id hook) := by
  have hmem : id ∈ (requestPaymentStatus id hook).statusRequestCache := mem_requestPaymentStatus
  obtain ⟨cache, hcache⟩ := requestPaymentStatus_eq id hook
  rw [hcache] at hmem
  rw [Recovery.recoverStoredSession, hcache]
  constructor
  case initialized => exact h.initialized
  case creating => simp
  case recovering =>
    intro other hother
    obtain rfl := Initial.recovering.inj hother
    exact hmem
  case restarts =>
    intro hpos
    exact absurd h.restarts (Nat.ne_of_gt hpos)
  case waits => exact fun _ => .inl (by simp)
  case starting => exact fun _ => h.congr rfl rfl rfl (.inl rfl)

lemma Starting.initializeSession (h : Starting hook) : Alive (initializeSession hook) := by
  rw [Recovery.initializeSession]
  split
  · exact h.createAndStoreSession
  · split
    · exact h.createAndStoreSession
    · exact h.recoverStoredSession

lemma Alive.startPolling (h : Alive hook) {sessionId : Option String} (status : PaymentStatus)
    (hsession : sessionId = hook.poll.sessionId ∨ sessionId = hook.store.sessionId) :
    Alive (startPolling sessionId status hook) := by
  obtain ⟨phase, hphase⟩ := startPolling_eq sessionId status hook
  rw [hphase]
  exact h.congr rfl rfl rfl hsession rfl rfl (List.Subset.refl _)

lemma alive_load (stored : Option String) (clock : ℕ) : Alive (load stored clock) := by
  have hstarting :
      Starting { freshHook stored clock with mounted := true, initialized := true } :=
    ⟨⟨rfl, rfl, rfl, rfl⟩, rfl⟩
  exact hstarting.initializeSession.startPolling _ (.inl rfl)

lemma setup_eq_of_initialized (h : hook.initialized = true) :
    setup hook =
      startPolling hook.poll.sessionId hook.poll.status { hook with mounted := true } := by
  simp [setup, h]

lemma Alive.setup (h : Alive hook) : Alive (setup hook) := by
  have hmounted : Alive { hook with mounted := true } :=
    h.congr rfl rfl rfl (.inl rfl) rfl rfl (List.Subset.refl _)
  rw [setup_eq_of_initialized h.initialized]
  exact hmounted.startPolling _ (.inl rfl)

/-! ### Answers -/

/-- Whatever the result is, it is shown. -/
lemma createdSession_eq (result : ApiResult) (hook : Hook) :
    ∃ stored store, createdSession result hook = { hook with stored := stored, store := store } ∧
      store.status ≠ .init := by
  cases result with
  | ok payment => exact ⟨_, _, rfl, by simp [PaymentState.setSession]⟩
  | error error => exact ⟨hook.stored, _, rfl, by simp [PaymentState.setError]⟩

lemma iterate_createdSession_eq (result : ApiResult) (hook : Hook) {n : ℕ} (hpos : 0 < n) :
    ∃ stored store, Nat.iterate (createdSession result) n hook =
        { hook with stored := stored, store := store } ∧ store.status ≠ .init := by
  induction n, hpos using Nat.le_induction generalizing hook with
  | base => exact createdSession_eq result hook
  | succ n _ ih =>
      obtain ⟨stored, store, hcreated, -⟩ := createdSession_eq result hook
      obtain ⟨stored', store', hiterate, hstatus⟩ :=
        ih { hook with stored := stored, store := store }
      refine ⟨stored', store', ?_, hstatus⟩
      rw [Function.iterate_succ_apply, hcreated, hiterate]

/-- A restart goes on, whatever has become of the effects. -/
lemma sessionCreated_restarts (hinitial : hook.initial = .ended) (hpos : 0 < hook.restarts)
    (result : ApiResult) :
    ∃ stored store, sessionCreated result hook =
        { hook with
          createSessionPromise := false
          restarts := 0
          stored := stored
          store := store } ∧ store.status ≠ .init := by
  obtain ⟨stored, store, hiterate, hstatus⟩ :=
    iterate_createdSession_eq result { hook with createSessionPromise := false } hpos
  refine ⟨stored, store, ?_, hstatus⟩
  have hcreating : ¬ hook.initial = .creating := by simp [hinitial]
  rw [sessionCreated]
  simp only [hcreating, if_false]
  rw [hiterate]

lemma Alive.sessionCreated (h : Alive hook) : Alive (sessionCreated result hook) := by
  rcases Nat.eq_zero_or_pos hook.restarts with hzero | hpos
  · rw [sessionCreated_eq hzero]
    split
    · -- the first effect goes on
      obtain ⟨stored, store, hcreated, hstatus⟩ := createdSession_eq result
        { hook with createSessionPromise := false, initial := .ended }
      rw [hcreated]
      refine .of_shown h.initialized rfl ?_ hstatus
      intro hpos
      exact absurd hzero (Nat.ne_of_gt hpos)
    · rename_i hcreating
      constructor
      case initialized => exact h.initialized
      case creating => exact fun hinitial => absurd hinitial hcreating
      case recovering => exact h.recovering
      case restarts =>
        intro hpos
        exact absurd hzero (Nat.ne_of_gt hpos)
      case waits => exact h.waits
      case starting => exact fun hne => (h.starting hne).congr rfl rfl rfl (.inl rfl)
  · -- nothing is restarted while the first effect waits
    have hinitial : hook.initial = .ended := by
      by_contra hne
      exact absurd (h.starting hne).restarts (Nat.ne_of_gt hpos)
    obtain ⟨stored, store, hcreated, hstatus⟩ := sessionCreated_restarts hinitial hpos result
    rw [hcreated]
    refine .of_shown h.initialized hinitial ?_ hstatus
    intro hpos'
    exact absurd hpos' (Nat.lt_irrefl 0)

lemma mapStatus_ne_init (status : Option String) : mapStatus status ≠ .init := by
  rw [mapStatus]
  split
  · simp
  · split
    · simp
    · split
      · simp
      · simp

/-- The first effect shows the session or an error, or goes on to create a session. -/
lemma Starting.recovered (h : Starting hook) : Alive (recovered result hook) := by
  have hrestarts : 0 < hook.restarts → hook.createSessionPromise = true := by
    intro hpos
    exact absurd h.restarts (Nat.ne_of_gt hpos)
  cases result with
  | ok statusResponse =>
      rw [Recovery.recovered]
      split
      · exact .of_shown h.initialized rfl hrestarts (mapStatus_ne_init _)
      · exact .of_shown h.initialized rfl hrestarts (mapStatus_ne_init _)
  | error error =>
      rw [Recovery.recovered]
      split
      · refine Starting.createAndStoreSession ?_
        exact h.congr rfl rfl rfl (.inl rfl)
      · exact .of_shown h.initialized rfl hrestarts (by simp [setError, PaymentState.setError])

/-- A poll shows a status or an error, or goes on. -/
lemma polled_eq (result : ApiResult) (hook : Hook) :
    ∃ stored store phase, polled result hook =
        { hook with stored := stored, store := store, poll := { hook.poll with phase := phase } } ∧
      (store.status ≠ .init ∨ store.status = hook.store.status) := by
  cases result with
  | ok statusResponse =>
      rw [polled]
      split
      · exact ⟨_, _, _, rfl, .inl (mapStatus_ne_init _)⟩
      · exact ⟨_, _, _, rfl, .inl (mapStatus_ne_init _)⟩
  | error error =>
      rw [polled]
      split
      · exact ⟨_, _, _, rfl, .inl (by simp [setError, PaymentState.setError])⟩
      · exact ⟨_, _, _, rfl, .inr rfl⟩

lemma Alive.polled (h : Alive hook) (hinitial : hook.initial = .ended) :
    Alive (polled result hook) := by
  obtain ⟨stored, store, phase, hpolled, hstatus⟩ := polled_eq result hook
  rw [hpolled]
  constructor
  case initialized => exact h.initialized
  case creating => exact h.creating
  case recovering => exact h.recovering
  case restarts => exact h.restarts
  case waits =>
    intro hinit
    rcases hstatus with hshown | hsame
    · exact absurd hinit hshown
    · exact h.waits (hsame.symm.trans hinit)
  case starting => exact fun hne => absurd hinitial hne

lemma Alive.statusRequested (h : Alive hook) : Alive (statusRequested id result hook) := by
  rw [Recovery.statusRequested]
  -- the first effect goes on before the poll does
  obtain ⟨hook₁, hhook₁, halive⟩ : ∃ hook₁, hook₁ =
      (if hook.initial = .recovering id then
        Recovery.recovered result { hook with
          statusRequestCache := hook.statusRequestCache.erase id }
      else { hook with statusRequestCache := hook.statusRequestCache.erase id }) ∧
      Alive hook₁ := by
    refine ⟨_, rfl, ?_⟩
    split
    · rename_i hrecovering
      have hstarting := h.starting (by simp [hrecovering])
      have herased : Starting
          { hook with statusRequestCache := hook.statusRequestCache.erase id } :=
        hstarting.congr rfl rfl rfl (.inl rfl)
      exact herased.recovered
    · rename_i hother
      constructor
      case initialized => exact h.initialized
      case creating => exact h.creating
      case recovering =>
        intro id' hid'
        have hne : id' ≠ id := by
          rintro rfl
          exact hother hid'
        exact (List.mem_erase_of_ne hne).2 (h.recovering id' hid')
      case restarts => exact h.restarts
      case waits => exact h.waits
      case starting => exact fun hne => (h.starting hne).congr rfl rfl rfl (.inl rfl)
  simp only [← hhook₁]
  split
  · rename_i hpoll
    refine halive.polled ?_
    by_contra hne
    exact absurd (hpoll.1.symm.trans (halive.starting hne).poll) (by simp)
  · exact halive

/-! ### Steps -/

lemma status_of_restart (h : step hook .restartSession = some hook') :
    hook.store.status = .expired ∨ hook.store.status = .error := by
  rw [step] at h
  split at h
  · assumption
  · cases h

/-- A clean-up does no harm once the first effect has ended. -/
lemma Alive.cleanup (h : Alive hook) (hinitial : hook.initial = .ended) :
    Alive (cleanup hook) :=
  h.congr rfl rfl rfl (.inl rfl) hinitial.symm rfl (List.Subset.refl _)

/-- A clean-up while the first effect waits. -/
lemma Starting.cleanup (h : Starting hook) : Stuck (cleanup hook) :=
  ⟨h.congr rfl rfl rfl (.inl rfl), rfl⟩

lemma Alive.step (h : Alive hook) (hstep : step hook a = some hook') (hload : a ≠ .load)
    (hcleanup : a = .cleanup → hook.initial = .ended) : Alive hook' := by
  cases effect_of_step hstep with
  | load => exact absurd rfl hload
  | cleanup => exact h.cleanup (hcleanup rfl)
  | setup => exact h.setup
  | rerender => exact h.startPolling _ (.inr rfl)
  | elapse ms => exact h.congr rfl rfl rfl (.inl rfl) rfl rfl (List.Subset.refl _)
  | poll sessionId =>
      have hsubset : (setPhase .requesting hook).statusRequestCache ⊆
          (requestPaymentStatus sessionId (setPhase .requesting hook)).statusRequestCache :=
        requestPaymentStatus_subset
      obtain ⟨cache, hcache⟩ := requestPaymentStatus_eq sessionId (setPhase .requesting hook)
      rw [hcache] at hsubset ⊢
      exact h.congr rfl rfl rfl (.inl rfl) rfl rfl hsubset
  | createAnswer requestId freshId outcomes => exact h.sessionCreated
  | statusAnswer sessionId requestId freshId outcomes => exact h.statusRequested
  | restartSession =>
      have hstatus : hook.store.status ≠ .init := by
        intro hinit
        rcases status_of_restart hstep with hexpired | herror
        · exact absurd (hinit.symm.trans hexpired) (by simp)
        · exact absurd (hinit.symm.trans herror) (by simp)
      have hinitial : hook.initial = .ended := by
        by_contra hne
        exact hstatus (h.starting hne).status
      constructor
      case initialized => exact h.initialized
      case creating => exact fun _ => rfl
      case recovering => exact h.recovering
      case restarts => exact fun _ => rfl
      case waits => exact fun _ => .inr (Nat.succ_pos hook.restarts)
      case starting => exact fun hne => absurd hinitial hne

/-- **Nothing leads out of `INIT`** when nobody waits for an answer. -/
lemma Stuck.step (h : Stuck hook) (hstep : step hook a = some hook') (hload : a ≠ .load) :
    Stuck hook' := by
  -- most steps change the requests and the second effect only
  have hsame : ∀ {hook'}, Starting hook' → hook'.initial = hook.initial → Stuck hook' :=
    fun hstarting hinitial => ⟨hstarting, hinitial.trans h.initial⟩
  have hpolling : ∀ {hook₁ : Hook} {sessionId : Option String} (status : PaymentStatus),
      Starting hook₁ → sessionId = none → hook₁.initial = hook.initial →
      Stuck (startPolling sessionId status hook₁) := by
    intro hook₁ sessionId status hstarting hnone hinitial
    obtain ⟨phase, hphase⟩ := startPolling_eq sessionId status hook₁
    rw [hphase]
    exact hsame (hstarting.congr rfl rfl rfl (.inl (hnone.trans hstarting.poll.symm))) hinitial
  cases effect_of_step hstep with
  | load => exact absurd rfl hload
  | cleanup => exact h.toStarting.cleanup
  | setup =>
      have hmounted : Starting { hook with mounted := true } :=
        h.toStarting.congr rfl rfl rfl (.inl rfl)
      rw [setup_eq_of_initialized h.initialized]
      exact hpolling _ hmounted h.poll rfl
  | rerender => exact hpolling _ h.toStarting h.store rfl
  | elapse ms => exact hsame (h.toStarting.congr rfl rfl rfl (.inl rfl)) rfl
  | poll sessionId =>
      obtain ⟨cache, hcache⟩ := requestPaymentStatus_eq sessionId (setPhase .requesting hook)
      rw [hcache]
      exact hsame (h.toStarting.congr rfl rfl rfl (.inl rfl)) rfl
  | createAnswer requestId freshId outcomes =>
      have hcreating : ¬ hook.initial = .creating := by simp [h.initial]
      rw [sessionCreated_eq h.restarts, if_neg hcreating]
      exact hsame (h.toStarting.congr rfl rfl rfl (.inl rfl)) rfl
  | statusAnswer sessionId requestId freshId outcomes =>
      have hrecovering : ¬ hook.initial = .recovering sessionId := by simp [h.initial]
      have hpoll : ¬ (hook.poll.sessionId = some sessionId ∧ hook.poll.phase = .requesting) := by
        simp [h.poll]
      simp only [statusRequested, hrecovering, if_false, hpoll]
      exact hsame (h.toStarting.congr rfl rfl rfl (.inl rfl)) rfl
  | restartSession =>
      rcases status_of_restart hstep with hexpired | herror
      · exact absurd (h.status.symm.trans hexpired) (by simp)
      · exact absurd (h.status.symm.trans herror) (by simp)

/-- When all requests are answered, something is shown. -/
lemma Alive.shown (h : Alive hook) (hcreated : hook.createSessionPromise = false)
    (hrequested : hook.statusRequestCache = []) : hook.store.status ≠ .init := by
  have hpromise : ¬ hook.createSessionPromise = true := by simp [hcreated]
  intro hinit
  rcases h.waits hinit with hne | hpos
  · cases hinitial : hook.initial with
    | ended => exact hne hinitial
    | creating => exact hpromise (h.creating hinitial)
    | recovering id =>
        have hmem := h.recovering id hinitial
        rw [hrequested] at hmem
        exact absurd hmem (by simp)
  · exact hpromise (h.restarts hpos)

end

/-! ### Runs -/

section

variable {stored : Option String} {clock : ℕ} {t : List (Hook × Action)} {hook : Hook}

/-- The effects are cleaned up only when the first one has ended. -/
def CleansUpEnded (t : List (Hook × Action)) : Prop :=
  ∀ e ∈ t, e.2 = .cleanup → e.1.initial = .ended

lemma cleansUpEnded_append {a : Action} :
    CleansUpEnded (t ++ [(hook, a)]) ↔
      CleansUpEnded t ∧ (a = .cleanup → hook.initial = .ended) := by
  simp [CleansUpEnded, or_imp, forall_and]

lemma alive_or_stuck_of_run (hrun : Run step (load stored clock) t hook)
    (hload : ∀ e ∈ t, e.2 ≠ .load) :
    (CleansUpEnded t ∧ Alive hook) ∨ (¬ CleansUpEnded t ∧ Stuck hook) := by
  refine Run.invariant_of_guard
    (P := fun t hook => (CleansUpEnded t ∧ Alive hook) ∨ (¬ CleansUpEnded t ∧ Stuck hook))
    (G := fun _ a => a ≠ .load) hrun hload ?_ ?_
  · exact .inl ⟨by simp [CleansUpEnded], alive_load stored clock⟩
  · rintro t hook a hook' - ih hload hstep
    rw [cleansUpEnded_append]
    rcases ih with ⟨hcalm, halive⟩ | ⟨hnot, hstuck⟩
    · by_cases hcleanup : a = .cleanup → hook.initial = .ended
      · exact .inl ⟨⟨hcalm, hcleanup⟩, halive.step hstep hload hcleanup⟩
      · -- this is where the answers get lost
        rw [Classical.not_imp] at hcleanup
        obtain ⟨rfl, hne⟩ := hcleanup
        refine .inr ⟨fun h => hne (h.2 rfl), ?_⟩
        cases effect_of_step hstep with
        | cleanup => exact (halive.starting hne).cleanup
    · exact .inr ⟨fun h => hnot h.1, hstuck.step hstep hload⟩

/-- **When the initialisation survives.**  Let a page be loaded, with any id stored or none,
and let all requests be answered in the end.  Then the store has left `INIT` if and only if
no clean-up came while the first effect waited for an answer. -/
theorem left_init_iff (hrun : Run step (load stored clock) t hook)
    (hload : ∀ e ∈ t, e.2 ≠ .load) (hcreated : hook.createSessionPromise = false)
    (hrequested : hook.statusRequestCache = []) :
    hook.store.status ≠ .init ↔ ∀ e ∈ t, e.2 = .cleanup → e.1.initial = .ended := by
  rcases alive_or_stuck_of_run hrun hload with ⟨hcalm, halive⟩ | ⟨hnot, hstuck⟩
  · exact iff_of_true (halive.shown hcreated hrequested) hcalm
  · exact iff_of_false (fun hne => hne hstuck.status) hnot

end

/-! ### An example -/

def Action.isCleanup : Action → Bool
  | .cleanup => true
  | _ => false

/-- A session that is gone is recovered and another one created, and only then the effects
are run again. -/
theorem left_init_iff_demo :
    ∃ t hook, Run step (load (some demoId) 0) t hook ∧
      t.map Prod.snd = [demoStatus (.response 404 (some "")), demoCreate, .cleanup, .setup] ∧
      hook.store.status ≠ .init := by
  obtain ⟨t, hook, hrun, hactions, hcheck⟩ : ∃ t hook,
      Run step (load (some demoId) 0) t hook ∧
      t.map Prod.snd = [demoStatus (.response 404 (some "")), demoCreate, .cleanup, .setup] ∧
      ((t.all fun e => e.2.isCleanup → e.1.initial = .ended) && !hook.createSessionPromise &&
        hook.statusRequestCache.isEmpty) = true :=
    exists_run_of_check _ (by decide +kernel)
  simp only [Bool.and_eq_true, Bool.not_eq_true', List.isEmpty_iff, List.all_eq_true,
    decide_eq_true_iff] at hcheck
  obtain ⟨⟨hended, hcreated⟩, hrequested⟩ := hcheck
  have hload : ∀ a ∈ t.map Prod.snd, a ≠ .load := by
    rw [hactions]
    simp [demoStatus, demoCreate]
  refine ⟨t, hook, hrun, hactions, ?_⟩
  refine (left_init_iff hrun (fun e he => hload e.2 (List.mem_map_of_mem he)) hcreated
    hrequested).2 ?_
  intro e he hcleanup
  exact hended e he (by rw [hcleanup]; rfl)

/-- The effects are run twice before the session is there, as `StrictMode` does. -/
theorem init_for_good :
    ∃ t hook, Run step (load none 0) t hook ∧
      t.map Prod.snd = [.cleanup, .setup, demoCreate] ∧
      hook.mounted = true ∧ hook.createSessionPromise = false ∧ hook.statusRequestCache = [] ∧
      hook.store.status = .init := by
  obtain ⟨t, hook, hrun, hactions, hcheck⟩ : ∃ t hook, Run step (load none 0) t hook ∧
      t.map Prod.snd = [.cleanup, .setup, demoCreate] ∧
      (hook.mounted && !hook.createSessionPromise && hook.statusRequestCache.isEmpty &&
        decide (hook.store.status = .init)) = true :=
    exists_run_of_check _ (by decide +kernel)
  simp only [Bool.and_eq_true, Bool.not_eq_true', List.isEmpty_iff, decide_eq_true_eq] at hcheck
  obtain ⟨⟨⟨hmounted, hcreated⟩, hrequested⟩, hinit⟩ := hcheck
  exact ⟨t, hook, hrun, hactions, hmounted, hcreated, hrequested, hinit⟩

end Haske.Recovery
