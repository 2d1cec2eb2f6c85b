import Mathlib.Logic.Function.Basic
import Haske.AccessToken.Compact
import Haske.Lib.Machine
import Haske.Server.Session

/-!
# The Lightning proof service

The other way to pay: the node asks a Lightning gateway for an invoice, and issues a
compact pass when the gateway reports that the invoice was paid.  The service has two maps,
the sessions by invoice id and the index from payment hashes to invoice ids, each under its
own lock.

Any number of calls are under way at the same time.  A call can be interrupted between any
two of the steps below, each of which is the code that runs under one lock or on local data:

* `create_invoice` asks the gateway, makes the session from the gateway's answer, inserts it,
  and inserts the index entry;
* `handle_payment` looks up the invoice id in the index, and settles the session under the
  lock of the sessions;
* `check_invoice` reads the session.

What the environment decides is in the actions: the clock, the calls, the gateway's answers
and the random ids.  A call that has ended keeps its number and its result; the future of a
`create_invoice` can be dropped while it waits.
-/

namespace Haske.Lightning

open Machine

structure AppConfig where
  demoMode : Bool
  eventId : String
  invoiceExpirySecs : UInt64
  amountMsat : UInt64

inductive InvoiceStatus where
  | pending
  | settled
deriving DecidableEq

structure AccessSession where
  invoiceId : String
  paymentHash : String
  amountMsat : UInt64
  expiresAt : UInt64
  invoiceQrPng : String
  accessQrAscii : Option String
  status : InvoiceStatus
  accessToken : Option String
  accessQrPng : Option String
deriving DecidableEq

structure InvoiceResponse where
  invoiceId : String
  amountMsat : UInt64
  invoice : String
  invoiceQrPng : String
  invoiceQrAscii : String
  expiresAt : UInt64
deriving DecidableEq

structure StatusResponse where
  status : String
  expiresAt : UInt64
  accessToken : Option String
  accessQrPng : Option String
  accessQrAscii : Option String
deriving DecidableEq

inductive ProofError where
  | notFound
  | internal
deriving DecidableEq

def ProofError.text : ProofError → String
  | .notFound => "invoice not found"
  | .internal => "internal error"

structure LightningInvoice where
  invoice : String
  paymentHash : String
deriving DecidableEq

structure PaymentEvent where
  paymentHash : String
  amountMsat : UInt64
  timestamp : UInt64
deriving DecidableEq

/-- What the gateway's `create_invoice` is called with. -/
structure InvoiceRequest where
  amountMsat : UInt64
  memo : String
  expirySecs : UInt32

/-- What is fixed while the service runs. -/
structure ProofService where
  scheme : Signing.Scheme
  keypair : scheme.SigningKey
  qr : QrLibrary
  config : AppConfig
  /-- Whether additions that overflow panic or wrap. -/
  overflowChecks : Bool

section

variable (svc : ProofService)

/-- Fails if the configured expiry does not fit into 32 bits. -/
def ProofService.invoiceRequest (amountOverrideMsat : Option UInt64)
    (description : Option String) : Option InvoiceRequest :=
  let expiry := svc.config.invoiceExpirySecs
  if expiry.toNat < UInt32.size then
    some
      { amountMsat := amountOverrideMsat.getD svc.config.amountMsat
        memo := description.getD "Lightning Pass access"
        expirySecs := expiry.toUInt32 }
  else none

/-- The session that `create_invoice` makes for the gateway's invoice, and its answer, the
clock showing `now`.  Fails if the invoice cannot be drawn. -/
def ProofService.newSession (amountMsat : UInt64) (invoice : LightningInvoice)
    (invoiceId : String) (now : UInt64) : Option (AccessSession × InvoiceResponse) := do
  let expiresAt := now + svc.config.invoiceExpirySecs
  let invoiceQrPng ← renderPngDataUrl svc.qr invoice.invoice 320
  let invoiceQrAscii ← renderAsciiQr svc.qr invoice.invoice
  some
    ({ invoiceId := invoiceId
       paymentHash := invoice.paymentHash
       amountMsat := amountMsat
       expiresAt := expiresAt
       invoiceQrPng := invoiceQrPng
       accessQrAscii := none
       status := .pending
       accessToken := none
       accessQrPng := none },
     { invoiceId := invoiceId
       amountMsat := amountMsat
       invoice := invoice.invoice
       invoiceQrPng := invoiceQrPng
       invoiceQrAscii := invoiceQrAscii
       expiresAt := expiresAt })

/-- The pass for a payment hash and an expiry. -/
def ProofService.token (paymentHash : String) (expiresAt : UInt64) : String :=
  signCompactPayload svc.scheme
    { paymentHash := paymentHash, expiresAt := expiresAt, eventId := svc.config.eventId }
    svc.keypair

/-- What `handle_payment` makes of a pending session.  Fails if the pass cannot be drawn. -/
def ProofService.settle (event : PaymentEvent) (session : AccessSession) :
    Option AccessSession := do
  let token := svc.token event.paymentHash session.expiresAt
  let qrPng ← renderPngDataUrl svc.qr token 320
  let qrAscii ← renderAsciiQr svc.qr token
  some { session with
    status := .settled
    accessToken := some token
    accessQrPng := some qrPng
    accessQrAscii := some qrAscii }

/-- The line that is printed for a settled session in demo mode. -/
def demoLine (session : AccessSession) : String :=
  "[demo] access issued invoice_id=" ++ session.invoiceId ++ " hash=" ++ session.paymentHash ++
    " amount_msat=" ++ toString session.amountMsat.toNat ++ " expires_at=" ++
    toString session.expiresAt.toNat

end

def AccessSession.toStatusResponse (session : AccessSession) : StatusResponse where
  status :=
    match session.status with
    | .pending => "pending"
    | .settled => "settled"
  expiresAt := session.expiresAt
  accessToken := session.accessToken
  accessQrPng := session.accessQrPng
  accessQrAscii := session.accessQrAscii

abbrev AccessSessions := Finmap fun _ : String => AccessSession

abbrev PaymentIndex := Finmap fun _ : String => String

def checkInvoice (sessions : AccessSessions) (invoiceId : String) :
    Except ProofError StatusResponse :=
  match sessions.lookup invoiceId with
  | none => .error .notFound
  | some session => .ok session.toStatusResponse

/-! ### The machine -/

/-- Where a call has been interrupted, or how it has ended. -/
inductive Call where
  | idle
  | requested (request : InvoiceRequest)
  | invoiced (amountMsat : UInt64) (invoice : LightningInvoice)
  | made (session : AccessSession) (response : InvoiceResponse)
  | inserted (session : AccessSession) (response : InvoiceResponse)
  | created (result : Except ProofError InvoiceResponse)
  | received (event : PaymentEvent)
  | found (event : PaymentEvent) (invoiceId : String)
  | handled (event : PaymentEvent) (result : Except ProofError Unit)
  | checked (result : Except ProofError StatusResponse)
  /-- The call was dropped, or has panicked. -/
  | gone

structure State where
  clock : UInt64
  sessions : AccessSessions
  paymentIndex : PaymentIndex
  calls : ℕ → Call
  stdout : List String
  stderr : List String

inductive Action where
  /-- The clock shows a later time. -/
  | tick (now : UInt64)
  | createInvoice (i : ℕ) (amountOverrideMsat : Option UInt64) (description : Option String)
  /-- The gateway's answer to a call, `none` for an error. -/
  | gatewayAnswer (i : ℕ) (answer : Option LightningInvoice)
  | makeSession (i : ℕ) (invoiceId : Alphanumeric 12)
  | insertSession (i : ℕ)
  | insertIndex (i : ℕ)
  /-- The future of a `create_invoice` is dropped. -/
  | drop (i : ℕ)
  /-- The gateway reports a payment, and a task is spawned for it. -/
  | handlePayment (i : ℕ) (event : PaymentEvent)
  | lookupIndex (i : ℕ)
  | settle (i : ℕ)
  | checkInvoice (i : ℕ) (invoiceId : String)

/-- The call that takes the step. -/
def Action.call : Action → Option ℕ
  | .tick _ => none
  | .createInvoice i _ _ => some i
  | .gatewayAnswer i _ => some i
  | .makeSession i _ => some i
  | .insertSession i => some i
  | .insertIndex i => some i
  | .drop i => some i
  | .handlePayment i _ => some i
  | .lookupIndex i => some i
  | .settle i => some i
  | .checkInvoice i _ => some i

abbrev Trace := List (State × Action)

def State.init (clock : UInt64) : State where
  clock := clock
  sessions := ∅
  paymentIndex := ∅
  calls := fun _ => .idle
  stdout := []
  stderr := []

def State.setCall (s : State) (i : ℕ) (call : Call) : State :=
  { s with calls := Function.update s.calls i call }

/-- The `create_invoice` waits for the gateway or for a lock. -/
def Call.waits : Call → Bool
  | .requested _ | .made _ _ | .inserted _ _ => true
  | _ => false

/-- The task that was spawned for an event prints the error it ends with. -/
def failedLine (error : ProofError) : String :=
  "payment handling failed: " ++ error.text

section

variable (svc : ProofService)

def step (s : State) : Action → Option State
  | .tick now => if s.clock ≤ now then some { s with clock := now } else none
  | .createInvoice i amountOverrideMsat description =>
      match s.calls i with
      | .idle =>
          match svc.invoiceRequest amountOverrideMsat description with
          | some request => some (s.setCall i (.requested request))
          | none => some (s.setCall i (.created (.error .internal)))
      | _ => none
  | .gatewayAnswer i answer =>
      match s.calls i with
      | .requested request =>
          match answer with
          | some invoice => some (s.setCall i (.invoiced request.amountMsat invoice))
          | none => some (s.setCall i (.created (.error .internal)))
      | _ => none
  | .makeSession i invoiceId =>
      match s.calls i with
      | .invoiced amountMsat invoice =>
          -- the sum of the clock and the expiry panics in a build with overflow checks
          if svc.overflowChecks ∧ Overflows s.clock svc.config.invoiceExpirySecs then
            some (s.setCall i .gone)
          else
            match svc.newSession amountMsat invoice invoiceId.text s.clock with
            | some (session, response) => some (s.setCall i (.made session response))
            | none => some (s.setCall i (.created (.error .internal)))
      | _ => none
  | .insertSession i =>
      match s.calls i with
      | .made session response =>
          some { s.setCall i (.inserted session response) with
            sessions := s.sessions.insert session.invoiceId session }
      | _ => none
  | .insertIndex i =>
      match s.calls i with
      | .inserted session response =>
          some { s.setCall i (.created (.ok response)) with
            paymentIndex := s.paymentIndex.insert session.paymentHash session.invoiceId }
      | _ => none
  | .drop i => if (s.calls i).waits then some (s.setCall i .gone) else none
  | .handlePayment i event =>
      match s.calls i with
      | .idle => some (s.setCall i (.received event))
      | _ => none
  | .lookupIndex i =>
      match s.calls i with
      | .received event =>
          -- the index is unlocked again before the sessions are locked
          match s.paymentIndex.lookup event.paymentHash with
          | some invoiceId => some (s.setCall i (.found event invoiceId))
          | none => some (s.setCall i (.handled event (.ok ())))
      | _ => none
  | .settle i =>
      match s.calls i with
      | .found event invoiceId =>
          match s.sessions.lookup invoiceId with
          | none => some (s.setCall i (.handled event (.ok ())))
          | some session =>
              -- a duplicate event finds the session settled
              match session.status with
              | .settled => some (s.setCall i (.handled event (.ok ())))
              | .pending =>
                  match svc.settle event session with
                  | none =>
                      some { s.setCall i (.handled event (.error .internal)) with
                        stderr := s.stderr ++ [failedLine .internal] }
                  | some session' =>
                      some { s.setCall i (.handled event (.ok ())) with
                        sessions := s.sessions.insert invoiceId session'
                        stdout := s.stdout ++
                          if svc.config.demoMode then [demoLine session'] else [] }
      | _ => none
  | .checkInvoice i invoiceId =>
      match s.calls i with
      | .idle => some (s.setCall i (.checked (checkInvoice s.sessions invoiceId)))
      | _ => none

/-! ### What a step does -/

/-- The steps of the machine, one constructor for each branch. -/
inductive Effect (s : State) : Action → State → Prop
  | tick {now : UInt64} (h : s.clock ≤ now) : Effect s (.tick now) { s with clock := now }
  | requested {i : ℕ} {amountOverrideMsat : Option UInt64} {description : Option String}
      {request : InvoiceRequest} (h : s.calls i = .idle)
      (hrequest : svc.invoiceRequest amountOverrideMsat description = some request) :
      Effect s (.createInvoice i amountOverrideMsat description)
        (s.setCall i (.requested request))
  | refused {i : ℕ} {amountOverrideMsat : Option UInt64} {description : Option String}
      (h : s.calls i = .idle)
      (hrequest : svc.invoiceRequest amountOverrideMsat description = none) :
      Effect s (.createInvoice i amountOverrideMsat description)
        (s.setCall i (.created (.error .internal)))
  | invoiced {i : ℕ} {invoice : LightningInvoice} {request : InvoiceRequest}
      (h : s.calls i = .requested request) :
      Effect s (.gatewayAnswer i (some invoice))
        (s.setCall i (.invoiced request.amountMsat invoice))
  | gatewayFailed {i : ℕ} {request : InvoiceRequest} (h : s.calls i = .requested request) :
      Effect s (.gatewayAnswer i none) (s.setCall i (.created (.error .internal)))
  | made {i : ℕ} {invoiceId : Alphanumeric 12} {amountMsat : UInt64}
      {invoice : LightningInvoice} {session : AccessSession} {response : InvoiceResponse}
      (h : s.calls i = .invoiced amountMsat invoice)
      (hsum : ¬ (svc.overflowChecks ∧ Overflows s.clock svc.config.invoiceExpirySecs))
      (hnew : svc.newSession amountMsat invoice invoiceId.text s.clock =
        some (session, response)) :
      Effect s (.makeSession i invoiceId) (s.setCall i (.made session response))
  | makeFailed {i : ℕ} {invoiceId : Alphanumeric 12} {amountMsat : UInt64}
      {invoice : LightningInvoice} (h : s.calls i = .invoiced amountMsat invoice)
      (hsum : ¬ (svc.overflowChecks ∧ Overflows s.clock svc.config.invoiceExpirySecs))
      (hnew : svc.newSession amountMsat invoice invoiceId.text s.clock = none) :
      Effect s (.makeSession i invoiceId) (s.setCall i (.created (.error .internal)))
  | panicked {i : ℕ} {invoiceId : Alphanumeric 12} {amountMsat : UInt64}
      {invoice : LightningInvoice} (h : s.calls i = .invoiced amountMsat invoice)
      (hsum : svc.overflowChecks ∧ Overflows s.clock svc.config.invoiceExpirySecs) :
      Effect s (.makeSession i invoiceId) (s.setCall i .gone)
  | inserted {i : ℕ} {session : AccessSession} {response : InvoiceResponse}
      (h : s.calls i = .made session response) :
      Effect s (.insertSession i) { s.setCall i (.inserted session response) with
        sessions := s.sessions.insert session.invoiceId session }
  | indexed {i : ℕ} {session : AccessSession} {response : InvoiceResponse}
      (h : s.calls i = .inserted session response) :
      Effect s (.insertIndex i) { s.setCall i (.created (.ok response)) with
        paymentIndex := s.paymentIndex.insert session.paymentHash session.invoiceId }
  | dropped {i : ℕ} (h : (s.calls i).waits = true) : Effect s (.drop i) (s.setCall i .gone)
  | received {i : ℕ} {event : PaymentEvent} (h : s.calls i = .idle) :
      Effect s (.handlePayment i event) (s.setCall i (.received event))
  | found {i : ℕ} {event : PaymentEvent} {invoiceId : String}
      (h : s.calls i = .received event)
      (hindex : s.paymentIndex.lookup event.paymentHash = some invoiceId) :
      Effect s (.lookupIndex i) (s.setCall i (.found event invoiceId))
  | unknown {i : ℕ} {event : PaymentEvent} (h : s.calls i = .received event)
      (hindex : s.paymentIndex.lookup event.paymentHash = none) :
      Effect s (.lookupIndex i) (s.setCall i (.handled event (.ok ())))
  | missing {i : ℕ} {event : PaymentEvent} {invoiceId : String}
      (h : s.calls i = .found event invoiceId) (hget : s.sessions.lookup invoiceId = none) :
      Effect s (.settle i) (s.setCall i (.handled event (.ok ())))
  | duplicate {i : ℕ} {event : PaymentEvent} {invoiceId : String} {session : AccessSession}
      (h : s.calls i = .found event invoiceId)
      (hget : s.sessions.lookup invoiceId = some session) (hstatus : session.status = .settled) :
      Effect s (.settle i) (s.setCall i (.handled event (.ok ())))
  | failed {i : ℕ} {event : PaymentEvent} {invoiceId : String} {session : AccessSession}
      (h : s.calls i = .found event invoiceId)
      (hget : s.sessions.lookup invoiceId = some session) (hstatus : session.status = .pending)
      (hsettle : svc.settle event session = none) :
      Effect s (.settle i) { s.setCall i (.handled event (.error .internal)) with
        stderr := s.stderr ++ [failedLine .internal] }
  | settled {i : ℕ} {event : PaymentEvent} {invoiceId : String}
      {session session' : AccessSession} (h : s.calls i = .found event invoiceId)
      (hget : s.sessions.lookup invoiceId = some session) (hstatus : session.status = .pending)
      (hsettle : svc.settle event session = some session') :
      Effect s (.settle i) { s.setCall i (.handled event (.ok ())) with
        sessions := s.sessions.insert invoiceId session'
        stdout := s.stdout ++ if svc.config.demoMode then [demoLine session'] else [] }
  | checked {i : ℕ} {invoiceId : String} (h : s.calls i = .idle) :
      Effect s (.checkInvoice i invoiceId)
        (s.setCall i (.checked (checkInvoice s.sessions invoiceId)))

variable {svc} {s s' : State} {a : Action}

lemma effect_of_step (h : step svc s a = some s') : Effect svc s a s' := by
  cases a with
  | tick now =>
      rw [step] at h
      split at h
      · obtain rfl := Option.some.inj h
        exact .tick ‹_›
      · exact absurd h (by simp)
  | createInvoice i amountOverrideMsat description =>
      cases hcall : s.calls i with
      | idle =>
          cases hrequest : svc.invoiceRequest amountOverrideMsat description with
          | some request =>
              simp only [step, hcall, hrequest, Option.some.injEq] at h
              exact h ▸ .requested hcall hrequest
          | none =>
              simp only [step, hcall, hrequest, Option.some.injEq] at h
              exact h ▸ .refused hcall hrequest
      | _ => simp [step, hcall] at h
  | gatewayAnswer i answer =>
      cases hcall : s.calls i with
      | requested request =>
          cases answer with
          | some invoice =>
              simp only [step, hcall, Option.some.injEq] at h
              exact h ▸ .invoiced hcall
          | none =>
              simp only [step, hcall, Option.some.injEq] at h
              exact h ▸ .gatewayFailed hcall
      | _ => simp [step, hcall] at h
  | makeSession i invoiceId =>
      cases hcall : s.calls i with
      | invoiced amountMsat invoice =>
          simp only [step, hcall] at h
          split at h
          · obtain rfl := Option.some.inj h
            exact .panicked hcall ‹_›
          · cases hnew : svc.newSession amountMsat invoice invoiceId.text s.clock with
            | some pair =>
                simp only [hnew, Option.some.injEq] at h
                exact h ▸ .made hcall ‹_› hnew
            | none =>
                simp only [hnew, Option.some.injEq] at h
                exact h ▸ .makeFailed hcall ‹_› hnew
      | _ => simp [step, hcall] at h
  | insertSession i =>
      cases hcall : s.calls i with
      | made session response =>
          simp only [step, hcall, Option.some.injEq] at h
          exact h ▸ .inserted hcall
      | _ => simp [step, hcall] at h
  | insertIndex i =>
      cases hcall : s.calls i with
      | inserted session response =>
          simp only [step, hcall, Option.some.injEq] at h
          exact h ▸ .indexed hcall
      | _ => simp [step, hcall] at h
  | drop i =>
      rw [step] at h
      split at h
      · obtain rfl := Option.some.inj h
        exact .dropped ‹_›
      · exact absurd h (by simp)
  | handlePayment i event =>
      cases hcall : s.calls i with
      | idle =>
          simp only [step, hcall, Option.some.injEq] at h
          exact h ▸ .received hcall
      | _ => simp [step, hcall] at h
  | lookupIndex i =>
      cases hcall : s.calls i with
      | received event =>
          cases hindex : s.paymentIndex.lookup event.paymentHash with
          | some invoiceId =>
              simp only [step, hcall, hindex, Option.some.injEq] at h
              exact h ▸ .found hcall hindex
          | none =>
              simp only [step, hcall, hindex, Option.some.injEq] at h
              exact h ▸ .unknown hcall hindex
      | _ => simp [step, hcall] at h
  | settle i =>
      cases hcall : s.calls i with
      | found event invoiceId =>
          cases hget : s.sessions.lookup invoiceId with
          | none =>
              simp only [step, hcall, hget, Option.some.injEq] at h
              exact h ▸ .missing hcall hget
          | some session =>
              cases hstatus : session.status with
              | settled =>
                  simp only [step, hcall, hget, hstatus, Option.some.injEq] at h
                  exact h ▸ .duplicate hcall hget hstatus
              | pending =>
                  cases hsettle : svc.settle event session with
                  | none =>
                      simp only [step, hcall, hget, hstatus, hsettle, Option.some.injEq] at h
                      exact h ▸ .failed hcall hget hstatus hsettle
                  | some session' =>
                      simp only [step, hcall, hget, hstatus, hsettle, Option.some.injEq] at h
                      exact h ▸ .settled hcall hget hstatus hsettle
      | _ => simp [step, hcall] at h
  | checkInvoice i invoiceId =>
      cases hcall : s.calls i with
      | idle =>
          simp only [step, hcall, Option.some.injEq] at h
          exact h ▸ .checked hcall
      | _ => simp [step, hcall] at h

lemma step_of_effect (h : Effect svc s a s') : step svc s a = some s' := by
  cases h with
  | tick h => simp [step, h]
  | requested h hrequest => simp [step, h, hrequest]
  | refused h hrequest => simp [step, h, hrequest]
  | invoiced h => simp [step, h]
  | gatewayFailed h => simp [step, h]
  | made h hsum hnew => simp [step, h, hsum, hnew]
  | makeFailed h hsum hnew => simp [step, h, hsum, hnew]
  | panicked h hsum => simp [step, h, hsum]
  | inserted h => simp [step, h]
  | indexed h => simp [step, h]
  | dropped h => simp [step, h]
  | received h => simp [step, h]
  | found h hindex => simp [step, h, hindex]
  | unknown h hindex => simp [step, h, hindex]
  | missing h hget => simp [step, h, hget]
  | duplicate h hget hstatus => simp [step, h, hget, hstatus]
  | failed h hget hstatus hsettle => simp [step, h, hget, hstatus, hsettle]
  | settled h hget hstatus hsettle => simp [step, h, hget, hstatus, hsettle]
  | checked h => simp [step, h]

/-- **What a step does.** -/
theorem step_eq_some : step svc s a = some s' ↔ Effect svc s a s' :=
  ⟨effect_of_step, step_of_effect⟩

end

end Haske.Lightning
