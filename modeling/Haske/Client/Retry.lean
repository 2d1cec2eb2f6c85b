import Haske.Client.Api

/-!
# How often a request is sent

The loop of `request` decides in two places whether to go on: after a response that is not
`ok`, by its status, and in the `catch` block, where a fetch that threw and a body that
could not be read meet, without one.  Both decide by the outcome of the fetch alone
(`FetchOutcome.Retriable`), so that a request is sent until the first outcome that is not
retriable or until the retries are used up, and its result is that of the last fetch
(`request_discipline`).  In particular a payment is asked for once (`createPayment_once`).
-/

namespace Haske

open Json

/-- The number of retries of a request. -/
def RequestConfig.limit (config : RequestConfig) : ℕ :=
  min (config.retries.getD maxRetries) maxRetries

/-- A response that is `ok` with a payload that the guard accepts. -/
def FetchOutcome.Accepted (validate : Value → Bool) : FetchOutcome → Prop
  | .response status (some text) =>
      (200 ≤ status ∧ status ≤ 299) ∧ validate (parseJsonSafely text) = true
  | _ => False

/-- An outcome after which the request may be sent again. -/
def FetchOutcome.Retriable (config : RequestConfig) : FetchOutcome → Prop
  | .response status (some _) =>
      config.repeatable = true ∧ status ∈ retryableStatusCodes
  | _ => config.repeatable = true

section

variable (validate : Value → Bool) (config : RequestConfig) (requestId : String)

/-- The loop of `request`, with the number of fetches it makes. -/
def countedLoop (outcomes : ℕ → FetchOutcome) (maxRetries : ℕ) (freshId : String) :
    (left attempt : ℕ) → ApiResult × ℕ
  | 0, _ => (.error (exhausted freshId maxRetries), 0)
  | left + 1, attempt =>
      match attemptResult validate config requestId attempt (outcomes attempt) with
      | .ok data => (.ok data, 1)
      | .error error =>
          if isRetryableError error attempt maxRetries then
            let rest := countedLoop outcomes maxRetries freshId left (attempt + 1)
            (rest.1, rest.2 + 1)
          else (.error error, 1)

/-- The number of fetches that a request makes. -/
def fetches (outcomes : ℕ → FetchOutcome) (freshId : String) : ℕ :=
  (countedLoop validate config requestId outcomes config.limit freshId (config.limit + 1) 0).2

end

section

variable {validate : Value → Bool} {config : RequestConfig} {requestId freshId : String}
  {outcomes : ℕ → FetchOutcome} {outcome : FetchOutcome} {attempt limit : ℕ}

/-- Counting does not change the result. -/
lemma countedLoop_fst (limit left attempt : ℕ) :
    (countedLoop validate config requestId outcomes limit freshId left attempt).1 =
      requestLoop validate config requestId outcomes limit freshId left attempt := by
  induction left generalizing attempt with
  | zero => rfl
  | succ left ih =>
      rw [countedLoop, requestLoop]
      cases attemptResult validate config requestId attempt (outcomes attempt) with
      | ok data => rfl
      | error error =>
          dsimp only
          split
          · exact ih (attempt + 1)
          · rfl

/-! ### One attempt -/

/-- No status that is retried is `ok`. -/
lemma not_ok_of_retryable {status : ℕ} (h : status ∈ retryableStatusCodes) :
    ¬ (200 ≤ status ∧ status ≤ 299) := by
  have hall : ∀ code ∈ retryableStatusCodes, ¬ (200 ≤ code ∧ code ≤ 299) := by decide
  exact hall status h

lemma attemptResult_isOk :
    (∃ data, attemptResult validate config requestId attempt outcome = .ok data) ↔
      outcome.Accepted validate := by
  constructor
  · rintro ⟨data, hdata⟩
    obtain ⟨status, text, rfl, hstatus, rfl, hvalid⟩ := attemptResult_ok hdata
    exact ⟨hstatus, hvalid⟩
  · intro h
    cases outcome with
    | response status text =>
        cases text with
        | none => exact h.elim
        | some text =>
            obtain ⟨hstatus, hvalid⟩ := h
            exact ⟨parseJsonSafely text, by simp [attemptResult, hstatus, hvalid]⟩
    | abort => exact h.elim
    | failure => exact h.elim

/-- A payload is the end of a request. -/
lemma not_retriable_of_ok {data : Value}
    (h : attemptResult validate config requestId attempt outcome = .ok data) :
    ¬ outcome.Retriable config := by
  obtain ⟨status, text, rfl, hstatus, -, -⟩ := attemptResult_ok h
  rintro ⟨-, hcode⟩
  exact not_ok_of_retryable hcode hstatus

/-- What an error says of its fetch, and how it differs from the one after the loop. -/
structure Describes (config : RequestConfig) (outcome : FetchOutcome) (attempt : ℕ)
    (error : ApiClientError) : Prop where
  retriable : error.retriable = true ↔ outcome.Retriable config
  retryCount : error.retryCount = attempt
  cause : error.code ≠ .unknown ∨ error.status ≠ none

lemma thrownError_describes {code : ApiErrorCode} {message : String}
    (hretriable : outcome.Retriable config ↔ config.repeatable = true) (hcode : code ≠ .unknown) :
    Describes config outcome attempt (thrownError config requestId code message attempt) where
  retriable := hretriable.symm
  retryCount := rfl
  cause := .inl hcode

lemma attemptResult_describes {error : ApiClientError}
    (h : attemptResult validate config requestId attempt outcome = .error error) :
    Describes config outcome attempt error := by
  rw [attemptResult.eq_def] at h
  split at h
  · rename_i status text
    dsimp only at h
    split at h
    · -- by the status
      obtain rfl := ApiResult.error.inj h
      refine ⟨?_, rfl, .inr (by simp [statusError])⟩
      simp [statusError, FetchOutcome.Retriable]
    · rename_i hstatus
      split at h
      · cases h
      · -- the guard refuses the payload
        obtain rfl := ApiResult.error.inj h
        refine ⟨iff_of_false (by simp [invalidResponse]) ?_, rfl, .inl (by simp [invalidResponse])⟩
        rintro ⟨-, hcode⟩
        exact hstatus (not_ok_of_retryable hcode)
  · obtain rfl := ApiResult.error.inj h
    exact thrownError_describes Iff.rfl (by decide)
  · obtain rfl := ApiResult.error.inj h
    exact thrownError_describes Iff.rfl (by decide)
  · obtain rfl := ApiResult.error.inj h
    exact thrownError_describes Iff.rfl (by decide)

/-! ### The loop -/

/-- The attempts from `attempt` to `last` are made, and the request ends with the last. -/
structure EndsAt (validate : Value → Bool) (config : RequestConfig) (requestId : String)
    (outcomes : ℕ → FetchOutcome) (limit attempt last : ℕ) (run : ApiResult × ℕ) : Prop where
  result : run.1 = attemptResult validate config requestId last (outcomes last)
  count : attempt + run.2 = last + 1
  le_limit : last ≤ limit
  retried : ∀ k, attempt ≤ k → k < last → (outcomes k).Retriable config
  stopped : ¬ (outcomes last).Retriable config ∨ last = limit

/-- The attempt that ends the request. -/
lemma EndsAt.here {result : ApiResult} (hle : attempt ≤ limit)
    (hresult : attemptResult validate config requestId attempt (outcomes attempt) = result)
    (hstopped : ¬ (outcomes attempt).Retriable config ∨ attempt = limit) :
    EndsAt validate config requestId outcomes limit attempt attempt (result, 1) where
  result := hresult.symm
  count := rfl
  le_limit := hle
  retried k hk hlast := by omega
  stopped := hstopped

/-- An attempt after which the request is sent again. -/
lemma EndsAt.again {last : ℕ} {run : ApiResult × ℕ}
    (h : EndsAt validate config requestId outcomes limit (attempt + 1) last run)
    (hretriable : (outcomes attempt).Retriable config) :
    EndsAt validate config requestId outcomes limit attempt last (run.1, run.2 + 1) where
  result := h.result
  count := by
    have hcount := h.count
    omega
  le_limit := h.le_limit
  retried k hk hlast := by
    rcases Nat.eq_or_lt_of_le hk with rfl | hlt
    · exact hretriable
    · exact h.retried k hlt hlast
  stopped := h.stopped

lemma exists_endsAt (left attempt : ℕ) (hlimit : attempt + left = limit) :
    ∃ last, EndsAt validate config requestId outcomes limit attempt last
      (countedLoop validate config requestId outcomes limit freshId (left + 1) attempt) := by
  -- on the attempts that are left after this one
  induction left generalizing attempt with
  | zero =>
      have hlast : attempt = limit := hlimit
      rw [countedLoop]
      cases hresult : attemptResult validate config requestId attempt (outcomes attempt) with
      | ok data => exact ⟨attempt, .here (Nat.le_of_eq hlast) hresult (.inr hlast)⟩
      | error error =>
          have hstop : ¬ isRetryableError error attempt limit = true := by
            simp [isRetryableError, hlast]
          dsimp only
          rw [if_neg hstop]
          exact ⟨attempt, .here (Nat.le_of_eq hlast) hresult (.inr hlast)⟩
  | succ left ih =>
      have hlt : attempt < limit := by omega
      rw [countedLoop]
      cases hresult : attemptResult validate config requestId attempt (outcomes attempt) with
      | ok data =>
          exact ⟨attempt,
            .here (Nat.le_of_lt hlt) hresult (.inl (not_retriable_of_ok hresult))⟩
      | error error =>
          have hdescribes := attemptResult_describes hresult
          have hgo : isRetryableError error attempt limit = true ↔
              (outcomes attempt).Retriable config := by
            rw [← hdescribes.retriable]
            simp [isRetryableError, hlt]
          dsimp only
          by_cases hretriable : (outcomes attempt).Retriable config
          · obtain ⟨last, hlast⟩ := ih (attempt + 1) (by omega)
            rw [if_pos (hgo.2 hretriable)]
            exact ⟨last, hlast.again hretriable⟩
          · rw [if_neg (mt hgo.1 hretriable)]
            exact ⟨attempt, .here (Nat.le_of_lt hlt) hresult (.inl hretriable)⟩

/-- How a request ends. -/
lemma exists_endsAt_request (validate : Value → Bool) (config : RequestConfig)
    (requestId freshId : String) (outcomes : ℕ → FetchOutcome) :
    ∃ last, EndsAt validate config requestId outcomes config.limit 0 last
      (request validate config requestId outcomes freshId,
        fetches validate config requestId outcomes freshId) := by
  obtain ⟨last, h⟩ : ∃ last, EndsAt validate config requestId outcomes config.limit 0 last
      (countedLoop validate config requestId outcomes config.limit freshId (config.limit + 1)
        0) := exists_endsAt config.limit 0 (Nat.zero_add _)
  refine ⟨last, ?_⟩
  rw [request, fetches, ← countedLoop_fst]
  exact h

lemma FetchOutcome.Retriable.repeatable (h : outcome.Retriable config) :
    config.repeatable = true := by
  cases outcome with
  | response status text =>
      cases text with
      | none => exact h
      | some text => exact h.1
  | abort => exact h
  | failure => exact h

/-- A request that is not safe to repeat ends with its first attempt. -/
lemma EndsAt.eq_zero {last : ℕ} {run : ApiResult × ℕ}
    (h : EndsAt validate config requestId outcomes limit 0 last run)
    (hrefuse : config.repeatable = false) : last = 0 := by
  by_contra hne
  have hretried := (h.retried 0 (Nat.le_refl 0) (Nat.pos_of_ne_zero hne)).repeatable
  rw [hrefuse] at hretried
  exact absurd hretried (by simp)

/-- **When a request is sent again.**  For all outcomes of its fetches, a request makes at
least one and at most `limit + 1` fetches.  All but the last are retriable, and the last is
not or there is no retry left.  The result is a payload if and only if the last response was
accepted, an error has the number of the retries, and the error after the loop is never
returned.  A request that is not safe to repeat is sent once. -/
theorem request_discipline (validate : Value → Bool) (config : RequestConfig)
    (requestId freshId : String) (outcomes : ℕ → FetchOutcome) :
    ∃ last ≤ config.limit,
      fetches validate config requestId outcomes freshId = last + 1 ∧
      (∀ k < last, (outcomes k).Retriable config) ∧
      (¬ (outcomes last).Retriable config ∨ last = config.limit) ∧
      ((∃ data, request validate config requestId outcomes freshId = .ok data) ↔
        (outcomes last).Accepted validate) ∧
      (∀ error, request validate config requestId outcomes freshId = .error error →
        error.retryCount = last) ∧
      request validate config requestId outcomes freshId ≠
        .error (exhausted freshId config.limit) ∧
      (config.method = .post → config.retryUnsafe = false → last = 0) := by
  obtain ⟨last, h⟩ := exists_endsAt_request validate config requestId freshId outcomes
  have hresult : request validate config requestId outcomes freshId =
      attemptResult validate config requestId last (outcomes last) := h.result
  have hcount : 0 + fetches validate config requestId outcomes freshId = last + 1 := h.count
  refine ⟨last, h.le_limit, by omega, fun k hk => h.retried k (Nat.zero_le k) hk, h.stopped,
    ?_, ?_, ?_, ?_⟩
  · rw [hresult]
    exact attemptResult_isOk
  · intro error herror
    exact (attemptResult_describes (hresult.symm.trans herror)).retryCount
  · intro hexhausted
    rcases (attemptResult_describes (hresult.symm.trans hexhausted)).cause with hcode | hstatus
    · exact hcode rfl
    · exact hstatus rfl
  · intro hmethod hrefuse
    exact h.eq_zero (by simp [RequestConfig.repeatable, hmethod, hrefuse])

/-- A payment is asked for once, whatever becomes of it. -/
theorem createPayment_once (requestId freshId : String) (outcomes : ℕ → FetchOutcome) :
    fetches isCreatePaymentResponse createPaymentConfig requestId outcomes freshId = 1 ∧
      createPayment requestId freshId outcomes =
        attemptResult isCreatePaymentResponse createPaymentConfig requestId 0 (outcomes 0) := by
  obtain ⟨last, h⟩ :=
    exists_endsAt_request isCreatePaymentResponse createPaymentConfig requestId freshId outcomes
  obtain rfl := h.eq_zero rfl
  exact ⟨(Nat.zero_add _).symm.trans h.count, h.result⟩

end

end Haske
