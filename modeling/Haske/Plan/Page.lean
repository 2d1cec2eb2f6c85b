import Haske.Checkout.Page

/-!
# The plan page

A button of the page creates an invoice, shows what was answered, and then asks for a report
about the invoice every two seconds and shows it: until a report is settled or has a pass,
until something fails, or until 90 seconds are over.  The buttons share one place for their
output, and each is disabled while its handler runs.

The poll is an interval, which does not wait for the answer to its last request.  So several
requests can be outstanding, their answers arrive in any order, and one that arrives after the
interval was cleared is still shown.

The event loop runs one callback after the other; the order, the time and the answers are the
environment's.  What an answer holds may be no text (`Js.converts`), and this is an exception that
ends the poll.
-/

namespace Haske.Plan

open Json Js

/-- The period of the poll. -/
def pollMs : ℕ := 2000

def timeoutMs : ℕ := 90000

/-! ### The output -/

/-- What the page shows as its output. -/
inductive Output where
  /-- As the page is loaded. -/
  | waiting
  | created (data : Value)
  | pending (invoiceId : Value)
  | status (payload : Value)
  | failed (message : String)
  /-- What was shown, with one more line. -/
  | timeout (output : Output)

mutual

/-- `JSON.stringify(value, null, 2)`, behind an indentation. -/
def pretty (large : ℕ → String) (indent : String) : Value → String
  | .arr [] => "[]"
  | .obj [] => "\x7b\x7d"
  | .arr (v :: vs) =>
      "[\n" ++ (",\n".intercalate (prettyElems large (indent ++ "  ") (v :: vs))) ++ "\n" ++
        indent ++ "]"
  | .obj (m :: ms) =>
      "\x7b\n" ++ (",\n".intercalate (prettyMembers large (indent ++ "  ") (m :: ms))) ++ "\n" ++
        indent ++ "\x7d"
  | v => stringify large v

def prettyElems (large : ℕ → String) (indent : String) : List Value → List String
  | [] => []
  | v :: vs => (indent ++ pretty large indent v) :: prettyElems large indent vs

def prettyMembers (large : ℕ → String) (indent : String) : List (String × Value) → List String
  | [] => []
  | (k, v) :: ms =>
      (indent ++ stringify large (.str k) ++ ": " ++ pretty large indent v) ::
        prettyMembers large indent ms

end

mutual

/-- The value as a string. -/
def asText (large : ℕ → String) : Value → String
  | .str s => s
  | .arr elems => ",".intercalate (asTextElems large elems)
  | .obj _ => "[object Object]"
  | v => stringify large v

/-- In an array, `null` is nothing. -/
def asTextElems (large : ℕ → String) : List Value → List String
  | [] => []
  | .null :: vs => "" :: asTextElems large vs
  | v :: vs => asText large v :: asTextElems large vs

end

/-- `${value}`. -/
def display (large : ℕ → String) : Option Value → String
  | none => "undefined"
  | some v => asText large v

/-- The line for a member, if it is there. -/
def optionalLine (engine : Engine) (large : ℕ → String) (label : String) (member : Option Value) :
    List String :=
  if engine.truthy member then [label ++ display large member] else []

def formatStatus (engine : Engine) (large : ℕ → String) (payload : Value) : String :=
  "\n".intercalate
    (["status: " ++ display large (prop payload "status"),
        "expires_at: " ++ display large (prop payload "expires_at")] ++
      optionalLine engine large "access_token: " (prop payload "access_token") ++
      optionalLine engine large "access_qr_png: " (prop payload "access_qr_png") ++
      optionalLine engine large "access_qr_ascii:\n" (prop payload "access_qr_ascii"))

/-- What `formatStatus` writes out.  A member that is falsy is left out, and is none that could
not be written. -/
def written (payload : Value) : List (Option Value) :=
  ["status", "expires_at", "access_token", "access_qr_png", "access_qr_ascii"].map (prop payload)

/-- The text that is shown. -/
def Output.text (engine : Engine) (large : ℕ → String) : Output → String
  | waiting => "Waiting for invoice..."
  | created data => pretty large "" data
  | pending invoiceId => "invoice_id: " ++ asText large invoiceId ++ "\nstatus: pending"
  | status payload => formatStatus engine large payload
  | failed message => "API error: " ++ message
  | timeout output => output.text engine large ++ "\nstatus: timeout"

/-! ### The page -/

/-- Where the click handler of a button is. -/
inductive Handler where
  | idle
  | requesting
  /-- It waits for the poll that has this interval. -/
  | polling (interval : ℕ)
deriving DecidableEq

/-- A call of `pollInvoiceStatus`. -/
structure Poll where
  button : ℕ
  invoiceId : Value
  startedAt : ℕ

/-- What the event loop holds for the page. -/
inductive Callback where
  /-- The fetch of a click handler. -/
  | create (button : ℕ)
  | interval (poll : Poll) (due : ℕ)
  /-- A fetch of a poll, which has this interval. -/
  | report (interval : ℕ) (poll : Poll)

structure Page where
  clock : ℕ
  output : Output
  handlers : ℕ → Handler
  /-- What is outstanding, under its handle. -/
  pending : List (ℕ × Callback)
  nextHandle : ℕ

/-- The page is loaded. -/
def load (clock nextHandle : ℕ) : Page where
  clock := clock
  output := .waiting
  handlers := fun _ => .idle
  pending := []
  nextHandle := nextHandle

namespace Page

def setHandler (page : Page) (button : ℕ) (handler : Handler) : Page :=
  { page with handlers := Function.update page.handlers button handler }

def push (page : Page) (callback : Callback) : Page :=
  { page with
    pending := page.pending ++ [(page.nextHandle, callback)]
    nextHandle := page.nextHandle + 1 }

def remove (page : Page) (handle : ℕ) : Page :=
  { page with pending := page.pending.filter fun e => e.1 ≠ handle }

/-- The interval is due again. -/
def reschedule (page : Page) (handle : ℕ) (poll : Poll) : Page :=
  { page with
    pending := page.pending.map fun e =>
      if e.1 = handle then (handle, .interval poll (page.clock + pollMs)) else e }

end Page

/-- What is made of the end of a fetch. -/
def outcome (what : String) : Checkout.Fetched → Except String Value
  | .response status body =>
      if 200 ≤ status ∧ status ≤ 299 then body
      else .error (what ++ " failed: " ++ toString status)
  | .failure message => .error message

/-- `clearInterval` and `resolve`, after the output; the handler goes on unless it has gone on
before. -/
def pollEnds (interval : ℕ) (poll : Poll) (output : Output) (page : Page) : Page :=
  let page := { page.remove interval with output := output }
  if page.handlers poll.button = .polling interval then page.setHandler poll.button .idle else page

def pollInvoiceStatus (button : ℕ) (invoiceId : Value) (page : Page) : Page :=
  let poll : Poll := { button := button, invoiceId := invoiceId, startedAt := page.clock }
  ({ page with output := .pending invoiceId }.push
    (.interval poll (page.clock + pollMs))).setHandler button (.polling page.nextHandle)

section

variable (engine : Engine)

/-- The click handler from its `await`. -/
def createEnds (button : ℕ) (result : Except String Value) (page : Page) : Page :=
  match result with
  | .error message => { page with output := .failed message }.setHandler button .idle
  | .ok data =>
      let page := { page with output := .created data }
      let invoiceId := prop data "invoice_id"
      if engine.truthy (some data) ∧ engine.truthy invoiceId then
        if converts (orNull invoiceId) then pollInvoiceStatus button (orNull invoiceId) page
        else { page with output := .failed notPrimitive }.setHandler button .idle
      else page.setHandler button .idle

/-- The interval fires. -/
def intervalFires (handle : ℕ) (poll : Poll) (page : Page) : Page :=
  if timeoutMs < page.clock - poll.startedAt then
    pollEnds handle poll (.timeout page.output) page
  else (page.reschedule handle poll).push (.report handle poll)

/-- The report ends the poll. -/
def IsFinal (payload : Value) : Prop :=
  asString (prop payload "status") = some "settled" ∨
    engine.truthy (prop payload "access_token") = true

instance (payload : Value) : Decidable (IsFinal engine payload) :=
  inferInstanceAs (Decidable (_ ∨ _))

/-- The callback of the interval from its `await`. -/
def reportEnds (interval : ℕ) (poll : Poll) (result : Except String Value) (page : Page) : Page :=
  match result with
  | .error message => pollEnds interval poll (.failed message) page
  | .ok .null => pollEnds interval poll (.failed (Checkout.nullProperty "status")) page
  | .ok payload =>
      if (written payload).all fun member => converts (orNull member) then
        if IsFinal engine payload then pollEnds interval poll (.status payload) page
        else { page with output := .status payload }
      else pollEnds interval poll (.failed notPrimitive) page

inductive Action where
  | elapse (ms : ℕ)
  /-- The user presses a button that is not disabled. -/
  | click (button : ℕ)
  /-- An interval fires. -/
  | fire (handle : ℕ)
  /-- A fetch ends. -/
  | answer (handle : ℕ) (fetched : Checkout.Fetched)
  | reload

def step (page : Page) : Action → Option Page
  | .elapse ms => some { page with clock := page.clock + ms }
  | .click button =>
      match page.handlers button with
      | .idle => some ((page.push (.create button)).setHandler button .requesting)
      | _ => none
  | .fire handle =>
      match page.pending.lookup handle with
      | some (.interval poll due) =>
          if due ≤ page.clock then some (intervalFires handle poll page) else none
      | _ => none
  | .answer handle fetched =>
      match page.pending.lookup handle with
      | some (.create button) =>
          some (createEnds engine button (outcome "Request" fetched) (page.remove handle))
      | some (.report interval poll) =>
          some (reportEnds engine interval poll (outcome "Status" fetched) (page.remove handle))
      | _ => none
  | .reload => some (load page.clock page.nextHandle)

/-! ### What a step does -/

lemma mem_of_lookup {pending : List (ℕ × Callback)} {handle : ℕ} {callback : Callback}
    (h : pending.lookup handle = some callback) : (handle, callback) ∈ pending := by
  obtain ⟨before, after, heq, -⟩ := List.lookup_eq_some_iff.1 h
  simp [heq]

/-- The steps of the page. -/
inductive Effect (page : Page) : Action → Page → Prop
  | elapse {ms : ℕ} : Effect page (.elapse ms) { page with clock := page.clock + ms }
  | click {button : ℕ} (h : page.handlers button = .idle) :
      Effect page (.click button) ((page.push (.create button)).setHandler button .requesting)
  | fire {handle due : ℕ} {poll : Poll}
      (h : (handle, .interval poll due) ∈ page.pending) (hdue : due ≤ page.clock) :
      Effect page (.fire handle) (intervalFires handle poll page)
  | created {handle button : ℕ} {fetched : Checkout.Fetched}
      (h : (handle, .create button) ∈ page.pending) :
      Effect page (.answer handle fetched)
        (createEnds engine button (outcome "Request" fetched) (page.remove handle))
  | reported {handle interval : ℕ} {poll : Poll} {fetched : Checkout.Fetched}
      (h : (handle, .report interval poll) ∈ page.pending) :
      Effect page (.answer handle fetched)
        (reportEnds engine interval poll (outcome "Status" fetched) (page.remove handle))
  | reload : Effect page .reload (load page.clock page.nextHandle)

variable {engine} {page page' : Page} {a : Action}

lemma effect_of_step (h : step engine page a = some page') : Effect engine page a page' := by
  cases a with
  | elapse ms =>
      obtain rfl := Option.some.inj h
      exact .elapse
  | click button =>
      cases hbutton : page.handlers button with
      | idle =>
          simp only [step, hbutton, Option.some.injEq] at h
          exact h ▸ .click hbutton
      | _ => simp [step, hbutton] at h
  | fire handle =>
      cases hcallback : page.pending.lookup handle with
      | none => simp [step, hcallback] at h
      | some callback =>
          cases callback with
          | interval poll due =>
              simp only [step, hcallback] at h
              split_ifs at h with hdue
              exact Option.some.inj h ▸ .fire (mem_of_lookup hcallback) hdue
          | _ => simp [step, hcallback] at h
  | answer handle fetched =>
      cases hcallback : page.pending.lookup handle with
      | none => simp [step, hcallback] at h
      | some callback =>
          cases callback with
          | create button =>
              simp only [step, hcallback, Option.some.injEq] at h
              exact h ▸ .created (mem_of_lookup hcallback)
          | report interval poll =>
              simp only [step, hcallback, Option.some.injEq] at h
              exact h ▸ .reported (mem_of_lookup hcallback)
          | interval poll due => simp [step, hcallback] at h
  | reload =>
      obtain rfl := Option.some.inj h
      exact .reload

end

end Haske.Plan
