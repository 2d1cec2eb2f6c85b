import Haske.Lib.Js

/-!
# The client's view of the API

The guards that decide whether a payload is what the client expects, and `request`, which
makes of the outcomes of its fetches a result: the payload, or an error with a code, a
message and, if there was a response, its status.  A fetch that fails in a way that may pass
is tried again, after a delay that is not modelled.
-/

namespace Haske

open Json Js

/-! ### Guards -/

def isRecord : Value → Bool
  | .null => false
  | value => typeOf (some value) == "object"

/-- All these properties have this type. -/
def hasProps (value : Value) (type : String) (names : List String) : Bool :=
  names.all fun name => typeOf (prop value name) == type

def isPaymentRequest (value : Value) : Bool :=
  isRecord value && hasProps value "string"
    ["session_id", "destination", "amount", "asset", "memo", "qr_payload"]

def isCreatePaymentResponse (value : Value) : Bool :=
  isRecord value && hasProps value "string"
    ["session_id", "destination", "amount", "asset", "memo", "qr_payload", "qr_png"] &&
    hasProps value "number" ["request_expires_at"]

def isPaymentStatusResponse (value : Value) : Bool :=
  isRecord value && hasProps value "string" ["session_id", "status"] &&
    hasProps value "boolean" ["paid"] &&
    hasProps value "number" ["request_expires_at", "expires_at"] &&
    (prop value "payment_request").any isPaymentRequest

/-! ### Errors -/

inductive ApiErrorCode where
  | badRequest
  | unauthorized
  | forbidden
  | notFound
  | conflict
  | rateLimited
  | timeout
  | networkError
  | serverError
  | invalidResponse
  | unknown
deriving DecidableEq

structure ApiClientError where
  code : ApiErrorCode
  message : String
  userMessage : String
  status : Option ℕ
  retriable : Bool
  retryCount : ℕ
  requestId : String
  /-- The payload of the response; an exception that was caught is left out. -/
  details : Option Value

inductive ApiResult where
  | ok (data : Value)
  | error (error : ApiClientError)

def mapStatusCodeToErrorCode (status : ℕ) : ApiErrorCode :=
  if status = 400 then .badRequest
  else if status = 401 then .unauthorized
  else if status = 403 then .forbidden
  else if status = 404 then .notFound
  else if status = 409 then .conflict
  else if status = 429 then .rateLimited
  else if 500 ≤ status then .serverError
  else .unknown

def buildUserMessage (code : ApiErrorCode) (fallback : String) : String :=
  match code with
  | .timeout => "The request took too long. Check your connection and try again."
  | .networkError =>
      "We could not reach the payment service. Check your connection and try again."
  | .notFound => "The payment session could not be found."
  | .rateLimited => "Too many requests were sent. Wait a moment and try again."
  | .serverError => "The payment service is unavailable right now. Please retry shortly."
  | .invalidResponse => "The payment service returned an unexpected response."
  | _ => fallback

/-- The white space that `trim` removes in a script. -/
def isJsSpace (c : Char) : Bool :=
  (0x09 ≤ c.toNat && c.toNat ≤ 0x0D) || c.toNat == 0x20 || c.toNat == 0xA0 || c.toNat == 0xFEFF ||
    c.toNat == 0x1680 || (0x2000 ≤ c.toNat && c.toNat ≤ 0x200A) || c.toNat == 0x2028 ||
    c.toNat == 0x2029 || c.toNat == 0x202F || c.toNat == 0x205F || c.toNat == 0x3000

/-- A property that is a string and not blank. -/
def textProp (payload : Value) (name : String) : Option String :=
  (asString (prop payload name)).filter fun text => !text.toList.all isJsSpace

def normalizeErrorMessage (payload : Value) (fallback : String) : String :=
  if !isRecord payload then fallback
  else ((textProp payload "message").or (textProp payload "error")).getD fallback

/-! ### Requests -/

inductive Method where
  | get
  | post
deriving DecidableEq

structure RequestConfig where
  method : Method
  retries : Option ℕ
  retryUnsafe : Bool

/-- How a fetch ends: with a response, whose body is read as a text or cannot be read; with
the abort of the timeout; or with another exception. -/
inductive FetchOutcome where
  | response (status : ℕ) (text : Option String)
  | abort
  | failure
deriving DecidableEq

/-- `MAX_RETRIES`. -/
def maxRetries : ℕ := 3

/-- `RETRYABLE_STATUS_CODES`. -/
def retryableStatusCodes : List ℕ := [408, 425, 429, 500, 502, 503, 504]

def parseJsonSafely (text : String) : Value :=
  if text = "" then .null else (Js.parse text).getD .null

section

variable (validate : Value → Bool) (config : RequestConfig) (requestId : String)

/-- The method may be sent again. -/
def RequestConfig.repeatable : Bool := config.method = .get || config.retryUnsafe

/-- The error for an exception of a fetch. -/
def thrownError (code : ApiErrorCode) (message : String) (attempt : ℕ) : ApiClientError where
  code := code
  message := message
  userMessage := buildUserMessage code message
  status := none
  retriable := config.repeatable
  retryCount := attempt
  requestId := requestId
  details := none

/-- The error for a response that is not `ok`. -/
def statusError (status : ℕ) (payload : Value) (attempt : ℕ) : ApiClientError :=
  let code := mapStatusCodeToErrorCode status
  let message := normalizeErrorMessage payload ("Request failed with status " ++ toString status)
  { code := code
    message := message
    userMessage := buildUserMessage code message
    status := some status
    retriable := config.repeatable && retryableStatusCodes.contains status
    retryCount := attempt
    requestId := requestId
    details := some payload }

/-- The error for a payload that the guard refuses. -/
def invalidResponse (payload : Value) (attempt : ℕ) : ApiClientError where
  code := .invalidResponse
  message := "Response payload did not match the expected schema"
  userMessage := buildUserMessage .invalidResponse
    "Response payload did not match the expected schema"
  status := none
  retriable := false
  retryCount := attempt
  requestId := requestId
  details := some payload

/-- The result that an attempt would end the request with. -/
def attemptResult (attempt : ℕ) : FetchOutcome → ApiResult
  | .response status (some text) =>
      let payload := parseJsonSafely text
      if ¬ (200 ≤ status ∧ status ≤ 299) then
        .error (statusError config requestId status payload attempt)
      else if validate payload then .ok payload
      else .error (invalidResponse requestId payload attempt)
  | .response _ none =>
      .error (thrownError config requestId .networkError "Network request failed" attempt)
  | .abort => .error (thrownError config requestId .timeout "Request timed out" attempt)
  | .failure => .error (thrownError config requestId .networkError "Network request failed" attempt)

def isRetryableError (error : ApiClientError) (attempt maxRetries : ℕ) : Bool :=
  error.retriable && attempt < maxRetries

/-- The result after the loop, with an id of its own. -/
def exhausted (requestId : String) (maxRetries : ℕ) : ApiClientError where
  code := .unknown
  message := "Request failed after the maximum retry count"
  userMessage := buildUserMessage .unknown "Request failed after the maximum retry count"
  status := none
  retriable := false
  retryCount := maxRetries
  requestId := requestId
  details := none

/-- The loop over the attempts, of which `left` are left; `outcomes` says how each of them
ends. -/
def requestLoop (outcomes : ℕ → FetchOutcome) (maxRetries : ℕ) (freshId : String) :
    (left attempt : ℕ) → ApiResult
  | 0, _ => .error (exhausted freshId maxRetries)
  | left + 1, attempt =>
      match attemptResult validate config requestId attempt (outcomes attempt) with
      | .ok data => .ok data
      | .error error =>
          if isRetryableError error attempt maxRetries then
            requestLoop outcomes maxRetries freshId left (attempt + 1)
          else .error error

def request (outcomes : ℕ → FetchOutcome) (freshId : String) : ApiResult :=
  let limit := min (config.retries.getD maxRetries) maxRetries
  requestLoop validate config requestId outcomes limit freshId (limit + 1) 0

end

/-! ### What a result says about the responses -/

section

variable {validate : Value → Bool} {config : RequestConfig} {requestId freshId : String}
  {outcomes : ℕ → FetchOutcome} {outcome : FetchOutcome}

/-- The loop ends with the result of an attempt, or has no attempt left. -/
lemma requestLoop_eq (limit left attempt : ℕ) :
    (∃ n, requestLoop validate config requestId outcomes limit freshId left attempt =
        attemptResult validate config requestId n (outcomes n)) ∨
      requestLoop validate config requestId outcomes limit freshId left attempt =
        .error (exhausted freshId limit) := by
  -- on the attempts that are left
  induction left generalizing attempt with
  | zero => exact .inr rfl
  | succ left ih =>
      rw [requestLoop]
      cases hresult : attemptResult validate config requestId attempt (outcomes attempt) with
      | ok data => exact .inl ⟨attempt, hresult.symm⟩
      | error error =>
          dsimp only
          split
          · exact ih (attempt + 1)
          · exact .inl ⟨attempt, hresult.symm⟩

/-- A payload is read from a response that is `ok`, and the guard accepts it. -/
lemma attemptResult_ok {attempt : ℕ} {data : Value}
    (h : attemptResult validate config requestId attempt outcome = .ok data) :
    ∃ status text, outcome = .response status (some text) ∧ (200 ≤ status ∧ status ≤ 299) ∧
      parseJsonSafely text = data ∧ validate data = true := by
  rw [attemptResult.eq_def] at h
  split at h
  · rename_i status text
    dsimp only at h
    split at h
    · cases h
    · rename_i hstatus
      split at h
      · rename_i hvalid
        obtain rfl := ApiResult.ok.inj h
        exact ⟨status, text, rfl, not_not.1 hstatus, rfl, hvalid⟩
      · cases h
  · cases h
  · cases h
  · cases h

/-- An error with a status comes from a response with this status. -/
lemma attemptResult_status {attempt status : ℕ} {error : ApiClientError}
    (h : attemptResult validate config requestId attempt outcome = .error error)
    (hstatus : error.status = some status) :
    ∃ text, outcome = .response status (some text) := by
  rw [attemptResult.eq_def] at h
  split at h
  · rename_i responded text
    dsimp only at h
    split at h
    · -- only this error has a status
      obtain rfl := ApiResult.error.inj h
      obtain rfl := Option.some.inj hstatus
      exact ⟨text, rfl⟩
    · split at h
      · cases h
      · obtain rfl := ApiResult.error.inj h
        cases hstatus
  · obtain rfl := ApiResult.error.inj h
    cases hstatus
  · obtain rfl := ApiResult.error.inj h
    cases hstatus
  · obtain rfl := ApiResult.error.inj h
    cases hstatus

/-- A request ends with the result of an attempt, or with an error without a status. -/
lemma request_eq :
    (∃ n, request validate config requestId outcomes freshId =
        attemptResult validate config requestId n (outcomes n)) ∨
      ∃ limit, request validate config requestId outcomes freshId =
        .error (exhausted freshId limit) := by
  rw [request]
  rcases requestLoop_eq (min (config.retries.getD maxRetries) maxRetries) _ 0 with hn | hexhausted
  · exact .inl hn
  · exact .inr ⟨_, hexhausted⟩

lemma request_ok {data : Value}
    (h : request validate config requestId outcomes freshId = .ok data) :
    ∃ n status text, outcomes n = .response status (some text) ∧
      (200 ≤ status ∧ status ≤ 299) ∧ parseJsonSafely text = data ∧ validate data = true := by
  rcases request_eq with ⟨n, hn⟩ | ⟨limit, hn⟩
  · exact ⟨n, attemptResult_ok (hn.symm.trans h)⟩
  · cases hn.symm.trans h

lemma request_status {status : ℕ} {error : ApiClientError}
    (h : request validate config requestId outcomes freshId = .error error)
    (hstatus : error.status = some status) :
    ∃ n text, outcomes n = .response status (some text) := by
  rcases request_eq with ⟨n, hn⟩ | ⟨limit, hn⟩
  · exact ⟨n, attemptResult_status (hn.symm.trans h) hstatus⟩
  · obtain rfl := ApiResult.error.inj (hn.symm.trans h)
    cases hstatus

end

/-- How the requests of the client are configured. -/
def createPaymentConfig : RequestConfig where
  method := .post
  retries := none
  retryUnsafe := false

def getPaymentStatusConfig : RequestConfig where
  method := .get
  retries := none
  retryUnsafe := false

def createPayment (requestId freshId : String) (outcomes : ℕ → FetchOutcome) : ApiResult :=
  request isCreatePaymentResponse createPaymentConfig requestId outcomes freshId

def getPaymentStatus (requestId freshId : String) (outcomes : ℕ → FetchOutcome) : ApiResult :=
  request isPaymentStatusResponse getPaymentStatusConfig requestId outcomes freshId

end Haske
