import Haske.Lib.Js
import Haske.Lib.Machine
import Haske.Lib.Script

/-!
# The standalone checkout page

The page is one script: it asks for a payment, polls the status of the payment, counts down
to a deadline once a second, and shows the pass when the payment is confirmed.  What it
knows is in `App`, which it saves in the local storage; between two callbacks everything
else it has are the handles of its timers.

The event loop runs one callback after the other: a timer that is due, the countdown, the
end of a fetch, or a click on one of the buttons for another try, while they are shown.  The
order is the environment's, as are the time and the answers.  A fetch that fails is tried again
after a delay, up to three times, and is never aborted by the page itself.  Loading the page
anew forgets everything but the storage.

Each change is saved and drawn.  The storage may refuse a snapshot, and what an answer holds
may be no text (`Js.converts`); these are exceptions like that of an illegal transition.  What
the page draws is in `Haske.Checkout.View`.
-/

namespace Haske.Checkout

open Json Js Script

/-- `POLL_MS`. -/
def pollMs : ℕ := 3000

/-- `MAX_RETRIES`. -/
def maxRetries : ℕ := 3

/-- `STATES`. -/
inductive PageState where
  | init
  | waiting
  | detected
  | confirmed
  | expired
  | error
deriving DecidableEq

def PageState.name : PageState → String
  | init => "INIT"
  | waiting => "WAITING"
  | detected => "DETECTED"
  | confirmed => "CONFIRMED"
  | expired => "EXPIRED"
  | error => "ERROR"

/-- `TRANSITIONS`. -/
def transitions : PageState → List PageState
  | .init => [.waiting, .error]
  | .waiting => [.detected, .expired, .error]
  | .detected => [.confirmed, .expired, .error]
  | .confirmed => [.expired]
  | .expired => [.waiting]
  | .error => [.waiting]

/-- The transition is allowed. -/
def Legal (current next : PageState) : Prop := current = next ∨ next ∈ transitions current

instance (current next : PageState) : Decidable (Legal current next) :=
  inferInstanceAs (Decidable (_ ∨ _))

/-- The payment can still be made or is being confirmed. -/
def PageState.isOpen : PageState → Bool
  | .waiting | .detected => true
  | _ => false

/-- The session has come to an end without a pass that is valid. -/
def PageState.failed : PageState → Bool
  | .expired | .error => true
  | _ => false

structure App where
  state : PageState
  sessionId : Option Value
  requestExpiresAt : Option Value
  accessExpiresAt : Option Value
  paymentData : Option Value
  accessData : Option Value
  lastError : Option String
  retries : ℕ
  statusText : String

def createInitialStore : App where
  state := .init
  sessionId := some .null
  requestExpiresAt := some .null
  accessExpiresAt := some .null
  paymentData := some .null
  accessData := some .null
  lastError := none
  retries := 0
  statusText := "Session inactive"

/-- `app.paymentData?.name`. -/
def App.paymentProp (app : App) (name : String) : Option Value :=
  prop (orNull app.paymentData) name

/-- `app.accessData?.name`. -/
def App.accessProp (app : App) (name : String) : Option Value := prop (orNull app.accessData) name

/-- What `buildSnapshot` writes out.  A value that is falsy is replaced, and is none that could
not be written. -/
def App.written (app : App) : List (Option Value) :=
  [app.sessionId, app.requestExpiresAt, app.accessExpiresAt]

/-- The sources of the images. -/
def App.images (app : App) : List (Option Value) :=
  [app.paymentProp "qr_png", app.accessProp "access_qr_png"]

/-- The payment that is written below a pass. -/
def App.details (app : App) : List (Option Value) :=
  [app.accessProp "tx_hash", app.paymentProp "memo", app.paymentProp "asset"]

/-- The body of the request for a payment. -/
def paymentRequestBody : Value :=
  .obj [("amount", .str "10"), ("asset", .str "XLM"), ("event_id", .str "haske-demo-event")]

/-- What a request is for; a status request is made for a session. -/
inductive Request where
  | create (body : Value)
  | status (sessionId : Option Value)
deriving DecidableEq

/-- What is left open about the browser. -/
structure Browser extends Engine where
  /-- The exception with which the storage refuses a snapshot at some time, if it does. -/
  refuses : (clock : ℕ) → App → Option String

/-- What the event loop holds for the page: a timer with the time it is due, or a fetch. -/
inductive Callback where
  /-- `setTimeout(checkStatus, POLL_MS)`. -/
  | poll (due : ℕ)
  /-- The timer that is set when the payment is confirmed. -/
  | confirm (due : ℕ)
  | fetch (request : Request) (retryCount : ℕ)
  /-- The delay before a fetch is tried again. -/
  | retry (request : Request) (retryCount : ℕ) (due : ℕ)
deriving DecidableEq

structure Page where
  app : App
  /-- The snapshot in the local storage. -/
  storage : Option App
  /-- The buttons for another try are shown. -/
  failureActions : Bool
  clock : ℕ
  pollTimer : Option ℕ
  transitionTimer : Option ℕ
  /-- When the countdown is due, once it has been started. -/
  countdown : Option ℕ
  /-- What is outstanding, under its handle. -/
  pending : List (ℕ × Callback)
  nextHandle : ℕ
  /-- The calls of `transition` so far, with the state they were made in. -/
  calls : List (PageState × PageState)

namespace Page

def push (page : Page) (callback : Callback) : Page :=
  { page with
    pending := page.pending ++ [(page.nextHandle, callback)]
    nextHandle := page.nextHandle + 1 }

def remove (page : Page) (handle : ℕ) : Page :=
  { page with pending := page.pending.filter fun e => e.1 ≠ handle }

/-- `clearTimeout`, if there is a handle. -/
def clearTimeout (page : Page) : Option ℕ → Page
  | some handle => page.remove handle
  | none => page

def stopTimers (page : Page) : Page :=
  { (page.clearTimeout page.pollTimer).clearTimeout page.transitionTimer with
    pollTimer := none
    transitionTimer := none }

end Page

/-- `setTimeout` for the next poll. -/
def setPollTimer (page : Page) : Page :=
  { page.push (.poll (page.clock + pollMs)) with pollTimer := some page.nextHandle }

def setTransitionTimer (page : Page) : Page :=
  { page.push (.confirm (page.clock + 850)) with transitionTimer := some page.nextHandle }

/-- The values are made strings. -/
def convert (values : List (Option Value)) (page : Page) : Outcome Page :=
  if values.all fun value => converts (orNull value) then .done page
  else .thrown notPrimitive page

/-- `render`, as far as it can throw, and the buttons for another try. -/
def Page.render (page : Page) : Outcome Page :=
  (convert page.app.written page).andThen fun page =>
    let page := { page with failureActions := page.app.state.failed }
    (convert page.app.images page).andThen fun page =>
      if page.app.state = .confirmed then convert page.app.details page else .done page

/-- What `unixSeconds - Date.now() / 1000` leaves, or the exception. -/
def expiresInSeconds (engine : Engine) (unixSeconds : Option Value) (now : ℕ) :
    Except String (Option ℕ) :=
  match unixSeconds with
  | some (.nat n) => .ok (some ((1000 * n - now) / 1000))
  | value =>
      if engine.truthy value = false then .ok (some 0)
      else if converts (orNull value) then .ok (engine.secondsLeft (orNull value) now)
      else .error notPrimitive

/-- The deadline that is counted down to. -/
def App.target (app : App) : Option Value :=
  if app.state = .confirmed then app.accessExpiresAt else app.requestExpiresAt

/-- No whole second is left until the deadline. -/
def TimeIsUp (engine : Engine) (page : Page) : Prop :=
  expiresInSeconds engine page.app.target page.clock = .ok (some 0)

instance (engine : Engine) (page : Page) : Decidable (TimeIsUp engine page) :=
  inferInstanceAs (Decidable (_ = _))

/-- What `handleStatus` keeps of an answer, whatever its status. -/
def merge (engine : Engine) (status : Value) (app : App) : App :=
  { app with
    requestExpiresAt := engine.or (prop status "request_expires_at") app.requestExpiresAt
    accessExpiresAt := engine.or (prop status "expires_at") app.accessExpiresAt
    accessData := some status
    lastError := none
    retries := 0 }

section

variable (browser : Browser)

def Page.persist (page : Page) : Outcome Page :=
  match browser.refuses page.clock page.app with
  | some message => .thrown message page
  | none => .done { page with storage := some page.app }

/-- `persist(); render();`. -/
def Page.refresh (page : Page) : Outcome Page := (page.persist browser).andThen Page.render

def transition (nextState : PageState) (updates : App → App) (page : Page) : Outcome Page :=
  let page := { page with calls := page.calls ++ [(page.app.state, nextState)] }
  if page.app.state ≠ nextState ∧ nextState ∉ transitions page.app.state then
    .thrown ("Illegal transition " ++ page.app.state.name ++ " -> " ++ nextState.name) page
  else { page with app := { updates page.app with state := nextState } }.refresh browser

def hydrateDirect (snapshot : App) (page : Page) : Outcome Page :=
  { page with app := snapshot }.refresh browser

def updateCountdown (page : Page) : Outcome Page :=
  match expiresInSeconds browser.toEngine page.app.target page.clock with
  | .error message => .thrown message page
  | .ok secondsLeft =>
      let expired :=
        if secondsLeft = some 0 ∧ page.app.state.isOpen = true then
          transition browser .expired
            (fun app => { app with statusText := "Session expired", lastError := none })
            page.stopTimers
        else .done page
      expired.andThen fun page =>
        if secondsLeft = some 0 ∧ page.app.state = .confirmed then
          transition browser .expired (fun app => { app with statusText := "Pass expired" })
            page.stopTimers
        else .done page

def startCountdown (page : Page) : Outcome Page :=
  (updateCountdown browser { page with countdown := none }).andThen fun page =>
    .done { page with countdown := some (page.clock + 1000) }

def scheduleStatusPoll (page : Page) : Outcome Page :=
  (startCountdown browser page.stopTimers).andThen fun page =>
    if browser.truthy page.app.sessionId = false ∨ page.app.state.isOpen = false then .done page
    else .done (setPollTimer page)

/-- The start of `createPaymentSession`, up to the fetch. -/
def createPaymentSession (page : Page) : Page :=
  let page := page.stopTimers
  let started :=
    if page.app.state = .expired ∨ page.app.state = .error then
      transition browser .waiting (fun app => { app with
        sessionId := some .null
        requestExpiresAt := some .null
        accessExpiresAt := some .null
        paymentData := some .null
        accessData := some .null
        lastError := none
        retries := 0
        statusText := "Creating session" }) page
    else if page.app.state = .init then
      transition browser .waiting (fun app => { app with statusText := "Creating session" }) page
    else .done page
  -- an exception before the first `await` ends the call
  (started.andThen fun page => .done (page.push (.fetch (.create paymentRequestBody) 0))).state

/-- The exception for a property of a body that is `null`. -/
def nullProperty (name : String) : String :=
  "Cannot read properties of null (reading '" ++ name ++ "')"

/-- The rest of `createPaymentSession`, once the payload is there. -/
def createdSession (data : Value) (page : Page) : Outcome Page :=
  match data with
  | .null => .thrown (nullProperty "session_id") page
  | data =>
      let page := { page with app := { page.app with
        state := .waiting
        sessionId := prop data "session_id"
        requestExpiresAt := prop data "request_expires_at"
        paymentData := some data
        accessData := some .null
        accessExpiresAt := some .null
        lastError := none
        retries := 0
        statusText := "Secure session active" } }
      (page.refresh browser).andThen fun page =>
        (startCountdown browser page).andThen (scheduleStatusPoll browser)

/-- The handler of the exceptions in `checkStatus`. -/
def watcherOffline (message : String) (page : Page) : Outcome Page :=
  transition browser .error
    (fun app => { app with lastError := some message, statusText := "Watcher offline" }) page

/-- The start of `checkStatus`, up to the fetch, whose address contains the session. -/
def checkStatus (page : Page) : Page :=
  if browser.truthy page.app.sessionId then
    let sent := (convert [page.app.sessionId] page).andThen fun page =>
      .done (page.push (.fetch (.status page.app.sessionId) 0))
    (sent.caught (watcherOffline browser)).state
  else page

/-- A payment that was not known is known now. -/
def detect (page : Page) : Outcome Page :=
  if page.app.state = .waiting then
    transition browser .detected (fun app => { app with statusText := "Payment detected" }) page
  else page.render

def handleStatus (status : Value) (page : Page) : Outcome Page :=
  match status with
  | .null => .thrown (nullProperty "request_expires_at") page
  | status =>
      let page := { page with app := merge browser.toEngine status page.app }
      match asString (prop status "status") with
      | some "expired" =>
          transition browser .expired (fun app => { app with statusText := "Session expired" }) page
      | some "confirmed" =>
          (detect browser page).andThen fun page => .done (setTransitionTimer page)
      | some "detected" => (detect browser page).andThen (scheduleStatusPoll browser)
      | some "waiting" =>
          let shown :=
            if page.app.state ≠ .waiting then
              hydrateDirect browser
                { page.app with state := .waiting, statusText := "Secure session active" } page
            else page.render
          shown.andThen (scheduleStatusPoll browser)
      | _ =>
          transition browser .error (fun app => { app with
            lastError := some "Unknown status payload"
            statusText := "Bad response" }) page

/-- The callback of the timer that is set when the payment is confirmed. -/
def confirmPayment (page : Page) : Outcome Page :=
  (transition browser .confirmed
    (fun app => { app with statusText := "Payment confirmed" }) page).andThen
      (startCountdown browser)

/-- `createPaymentSession` from its `await`, the payload or the exception being there. -/
def createEnds (result : Except String Value) (page : Page) : Outcome Page :=
  let body :=
    match result with
    | .ok data => createdSession browser data page
    | .error message => .thrown message page
  body.caught fun message page =>
    transition browser .error
      (fun app => { app with lastError := some message, statusText := "Create failed" }) page

/-- `checkStatus` from its `await`, the payload or the exception being there. -/
def statusEnds (result : Except String Value) (page : Page) : Outcome Page :=
  let body :=
    match result with
    | .ok status => handleStatus browser status page
    | .error message => .thrown message page
  body.caught (watcherOffline browser)

/-- A request ends. -/
def requestEnds (request : Request) (result : Except String Value) (page : Page) : Outcome Page :=
  match request with
  | .create _ => createEnds browser result page
  | .status _ => statusEnds browser result page

/-- How a fetch ends: with a response, whose body is read as JSON or not, or an exception. -/
inductive Fetched where
  | response (status : ℕ) (body : Except String Value)
  | failure (message : String)

def Fetched.result : Fetched → Except String Value
  | .response status body =>
      if 200 ≤ status ∧ status ≤ 299 then body else .error ("HTTP " ++ toString status)
  | .failure message => .error message

/-- `fetchJson` from its `await`.  A snapshot that cannot be saved or drawn ends the request. -/
def fetchEnds (request : Request) (retryCount : ℕ) (fetched : Fetched) (page : Page) :
    Outcome Page :=
  match fetched.result with
  | .ok body => requestEnds browser request (.ok body) page
  | .error message =>
      if maxRetries ≤ retryCount then requestEnds browser request (.error message) page
      else
        let retries := retryCount + 1
        let page := { page with app := { page.app with
          retries := retries
          statusText := "Retry " ++ toString retries ++ "/" ++ toString maxRetries } }
        match page.refresh browser with
        | .done page => .done (page.push (.retry request retries (page.clock + 700 * retries)))
        | .thrown message page => requestEnds browser request (.error message) page

/-- A snapshot as it is read back: what was `undefined` is not in it. -/
def App.reread (app : App) : App :=
  { app with
    sessionId := some (orNull app.sessionId)
    requestExpiresAt := some (orNull app.requestExpiresAt)
    accessExpiresAt := some (orNull app.accessExpiresAt)
    paymentData := some (orNull app.paymentData)
    accessData := some (orNull app.accessData) }

def restoreStored (stored : App) (page : Page) : Outcome Page :=
  (hydrateDirect browser stored page).andThen fun page =>
    if page.app.state.isOpen = true then
      match expiresInSeconds browser.toEngine page.app.requestExpiresAt page.clock with
      | .error message => .thrown message page
      | .ok secondsLeft =>
          if secondsLeft = some 0 then
            transition browser .expired
              (fun app => { app with statusText := "Recovered expired session" }) page
          else (startCountdown browser page).andThen (scheduleStatusPoll browser)
    else if page.app.state = .confirmed then startCountdown browser page
    else if page.app.state = .expired ∨ page.app.state = .error then page.render
    else .done (createPaymentSession browser page)

def restore (page : Page) : Outcome Page :=
  let fresh (page : Page) :=
    page.render.andThen fun page => .done (createPaymentSession browser page)
  match page.storage with
  | none => fresh page
  | some stored =>
      (restoreStored browser stored.reread page).caught fun _ page =>
        fresh { page with storage := none, app := createInitialStore }

/-- The page is loaded. -/
def load (storage : Option App) (clock : ℕ) (calls : List (PageState × PageState)) : Page :=
  (restore browser
    { app := createInitialStore
      storage := storage
      failureActions := false
      clock := clock
      pollTimer := none
      transitionTimer := none
      countdown := none
      pending := []
      nextHandle := 1
      calls := calls }).state

/-- The page that is loaded for the first time. -/
def start (clock : ℕ) : Page := load browser none clock []

inductive Action where
  | elapse (ms : ℕ)
  /-- The interval of the countdown fires. -/
  | tick
  /-- A timer fires. -/
  | fire (handle : ℕ)
  /-- A fetch ends. -/
  | answer (handle : ℕ) (fetched : Fetched)
  /-- The user presses a button for another try. -/
  | click
  /-- The page is loaded again. -/
  | reload

def step (page : Page) : Action → Option Page
  | .elapse ms => some { page with clock := page.clock + ms }
  | .tick =>
      match page.countdown with
      | some due =>
          if due ≤ page.clock then
            some (updateCountdown browser { page with countdown := some (page.clock + 1000) }).state
          else none
      | none => none
  | .fire handle =>
      match page.pending.lookup handle with
      | some (.poll due) =>
          if due ≤ page.clock then some (checkStatus browser (page.remove handle)) else none
      | some (.confirm due) =>
          if due ≤ page.clock then some (confirmPayment browser (page.remove handle)).state
          else none
      | some (.retry request retryCount due) =>
          if due ≤ page.clock then
            some ((page.remove handle).push (.fetch request retryCount))
          else none
      | _ => none
  | .answer handle fetched =>
      match page.pending.lookup handle with
      | some (.fetch request retryCount) =>
          some (fetchEnds browser request retryCount fetched (page.remove handle)).state
      | _ => none
  | .click =>
      if page.failureActions = true then some (createPaymentSession browser page) else none
  | .reload => some (load browser page.storage page.clock page.calls)

end

end Haske.Checkout
