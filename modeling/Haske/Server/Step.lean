import Mathlib.Logic.Function.Basic
import Haske.Lib.Machine
import Haske.Server.Session

/-!
# The server as a machine

The server runs one task for every HTTP request it is answering and a single payment
watcher.  A task or the watcher can be interrupted between any two of the steps below,
which are the stretches of code that run under a lock or on local data:

* creating a payment request draws a memo, reads the clock, inserts the session, and
  answers;
* a status request (both routes do the same) clones the session, and answers with the
  clock it reads then;
* the watcher, at a tick, clones the pending sessions, and then treats them one after
  the other: it looks for a payment, issues a pass and marks the session paid.  On an
  error, or if there is no payment, it goes on with the next session.

What the environment decides is in the actions: the clock, the requests, the random
strings, the order of the map's values, and Horizon's answers.  A client that goes away
cancels its task.

`step` is the machine and `Effect` lists what its steps do; the two are the same
(`step_eq_some`).
-/

namespace Haske

open Machine

/-- What is fixed while the server runs. -/
structure Server where
  scheme : Signing.Scheme
  signingKey : scheme.SigningKey
  qr : QrLibrary
  destinationAddress : String
  tokenTtlSecs : UInt64
  /-- Whether additions that overflow panic or wrap. -/
  overflowChecks : Bool

/-- Where a task has been interrupted. -/
inductive Task where
  | requested (paymentRequest : PaymentRequest) (eventId : String)
  | stamped (record : SessionRecord)
  | inserted (record : SessionRecord)
  | status (session : SessionRecord)

/-- Where the watcher has been interrupted; `rest` are the sessions it still has to
treat in this tick. -/
inductive Watcher where
  | waiting
  | lookup (session : SessionRecord) (rest : List SessionRecord)
  | found (payment : PaymentEvent) (session : SessionRecord) (rest : List SessionRecord)
  | issued (artifact : AccessArtifact) (session : SessionRecord) (rest : List SessionRecord)

structure State where
  clock : UInt64
  sessions : Sessions
  tasks : ℕ → Option Task
  watcher : Watcher

inductive Action where
  /-- The clock shows a later time. -/
  | tick (now : UInt64)
  | createRequest (i : ℕ) (body : CreatePaymentBody) (memo : Alphanumeric 12)
  | createClock (i : ℕ)
  | createInsert (i : ℕ)
  | createRespond (i : ℕ)
  | statusGet (i : ℕ) (sessionId : String)
  | statusRespond (i : ℕ)
  /-- The client of a task goes away. -/
  | cancel (i : ℕ)
  /-- The map's entries in the order they are visited, each with the reading of the
  clock for it. -/
  | watchSnapshot (visits : List (((_ : String) × SessionRecord) × UInt64))
  /-- The records of the page that Horizon returned, or `none` for an error. -/
  | watchLookup (page : Option (List PaymentRecord))
  | watchIssue (nonce : Alphanumeric 16)
  | watchMark

/-- The server when it starts. -/
def State.init (clock : UInt64) : State where
  clock := clock
  sessions := ∅
  tasks := fun _ => none
  watcher := .waiting

@[simp] lemma init_sessions (clock : UInt64) : (State.init clock).sessions = ∅ := rfl

@[simp] lemma init_tasks (clock : UInt64) (i : ℕ) : (State.init clock).tasks i = none := rfl

@[simp] lemma init_watcher (clock : UInt64) : (State.init clock).watcher = .waiting := rfl

def State.setTask (s : State) (i : ℕ) (task : Option Task) : State :=
  { s with tasks := Function.update s.tasks i task }

/-- The watcher goes on with the next session, or waits for the next tick. -/
def Watcher.next : List SessionRecord → Watcher
  | [] => .waiting
  | session :: rest => .lookup session rest

/-- The visits are to all the entries of the map, in some order, and the clock does not
go back. -/
def State.Visits (s : State) (visits : List (((_ : String) × SessionRecord) × UInt64)) : Prop :=
  (visits.map Prod.fst : Multiset ((_ : String) × SessionRecord)) = s.sessions.entries ∧
    (s.clock :: visits.map Prod.snd).IsChain (· ≤ ·)

instance (s : State) (visits : List (((_ : String) × SessionRecord) × UInt64)) :
    Decidable (s.Visits visits) :=
  inferInstanceAs (Decidable (_ ∧ _))

/-- The clock after the visits. -/
def State.lastReading (s : State) (visits : List (((_ : String) × SessionRecord) × UInt64)) :
    UInt64 :=
  (visits.map Prod.snd).getLast?.getD s.clock

def pendingSessions (visits : List (((_ : String) × SessionRecord) × UInt64)) :
    List SessionRecord :=
  (visits.filter fun visit => isPending visit.1.2 visit.2).map fun visit => visit.1.2

section

variable (srv : Server)

/-- `find_confirmed_payment` for a session, on the page that Horizon returned for its
destination. -/
def findPayment (session : SessionRecord) (records : List PaymentRecord) : Option PaymentEvent :=
  findConfirmedPayment records session.paymentRequest.destination session.paymentRequest.memo
    session.paymentRequest.amount session.paymentRequest.asset

/-- `issue_token` for a session. -/
def Server.issue (session : SessionRecord) (payment : PaymentEvent) (nonce : Alphanumeric 16) :
    Option AccessArtifact :=
  issueToken srv.scheme srv.qr srv.signingKey payment session.eventId session.expiresAt nonce

def step (s : State) : Action → Option State
  | .tick now => if s.clock ≤ now then some { s with clock := now } else none
  | .createRequest i body memo =>
      match s.tasks i with
      | none =>
          let request := body.toRequest
          let paymentRequest := createPaymentRequest srv.destinationAddress request memo
          some (s.setTask i (some (.requested paymentRequest request.eventId)))
      | some _ => none
  | .createClock i =>
      match s.tasks i with
      | some (.requested paymentRequest eventId) =>
          -- a task that panics is gone
          some (s.setTask i
            ((newSession srv.overflowChecks srv.tokenTtlSecs paymentRequest eventId s.clock).map
              .stamped))
      | _ => none
  | .createInsert i =>
      match s.tasks i with
      | some (.stamped record) =>
          some { s.setTask i (some (.inserted record)) with
            sessions := insertSession s.sessions record }
      | _ => none
  | .createRespond i =>
      match s.tasks i with
      | some (.inserted _) => some (s.setTask i none)
      | _ => none
  | .statusGet i sessionId =>
      match s.tasks i with
      | none =>
          -- an unknown session is answered with `NOT_FOUND` at once
          some (s.setTask i ((s.sessions.lookup sessionId).map .status))
      | some _ => none
  | .statusRespond i =>
      match s.tasks i with
      | some (.status _) => some (s.setTask i none)
      | _ => none
  | .cancel i =>
      match s.tasks i with
      | some _ => some (s.setTask i none)
      | none => none
  | .watchSnapshot visits =>
      match s.watcher with
      | .waiting =>
          if s.Visits visits then
            some { s with
              clock := s.lastReading visits
              watcher := Watcher.next (pendingSessions visits) }
          else none
      | _ => none
  | .watchLookup page =>
      match s.watcher with
      | .lookup session rest =>
          match page.bind (findPayment session) with
          | some payment => some { s with watcher := .found payment session rest }
          | none => some { s with watcher := Watcher.next rest }
      | _ => none
  | .watchIssue nonce =>
      match s.watcher with
      | .found payment session rest =>
          match srv.issue session payment nonce with
          | some artifact => some { s with watcher := .issued artifact session rest }
          | none => some { s with watcher := Watcher.next rest }
      | _ => none
  | .watchMark =>
      match s.watcher with
      | .issued artifact session rest =>
          let sessionId := session.paymentRequest.sessionId
          some { s with
            sessions := (markPaid s.sessions sessionId artifact).getD s.sessions
            watcher := Watcher.next rest }
      | _ => none

/-! ### What a step does -/

/-- The steps of the machine, one constructor for each branch. -/
inductive Effect (s : State) : Action → State → Prop
  | tick {now : UInt64} (h : s.clock ≤ now) : Effect s (.tick now) { s with clock := now }
  | createRequest {i : ℕ} {body : CreatePaymentBody} {memo : Alphanumeric 12}
      (h : s.tasks i = none) :
      Effect s (.createRequest i body memo) (s.setTask i (some (.requested
        (createPaymentRequest srv.destinationAddress body.toRequest memo)
        body.toRequest.eventId)))
  | createClock {i : ℕ} {paymentRequest : PaymentRequest} {eventId : String}
      {record : SessionRecord} (h : s.tasks i = some (.requested paymentRequest eventId))
      (hnew : newSession srv.overflowChecks srv.tokenTtlSecs paymentRequest eventId s.clock =
        some record) :
      Effect s (.createClock i) (s.setTask i (some (.stamped record)))
  | createPanic {i : ℕ} {paymentRequest : PaymentRequest} {eventId : String}
      (h : s.tasks i = some (.requested paymentRequest eventId))
      (hnew : newSession srv.overflowChecks srv.tokenTtlSecs paymentRequest eventId s.clock =
        none) :
      Effect s (.createClock i) (s.setTask i none)
  | createInsert {i : ℕ} {record : SessionRecord} (h : s.tasks i = some (.stamped record)) :
      Effect s (.createInsert i) { s.setTask i (some (.inserted record)) with
        sessions := insertSession s.sessions record }
  | createRespond {i : ℕ} {record : SessionRecord} (h : s.tasks i = some (.inserted record)) :
      Effect s (.createRespond i) (s.setTask i none)
  | statusGet {i : ℕ} {sessionId : String} {session : SessionRecord} (h : s.tasks i = none)
      (hget : s.sessions.lookup sessionId = some session) :
      Effect s (.statusGet i sessionId) (s.setTask i (some (.status session)))
  | statusUnknown {i : ℕ} {sessionId : String} (h : s.tasks i = none)
      (hget : s.sessions.lookup sessionId = none) :
      Effect s (.statusGet i sessionId) (s.setTask i none)
  | statusRespond {i : ℕ} {session : SessionRecord} (h : s.tasks i = some (.status session)) :
      Effect s (.statusRespond i) (s.setTask i none)
  | cancel {i : ℕ} {task : Task} (h : s.tasks i = some task) :
      Effect s (.cancel i) (s.setTask i none)
  | watchSnapshot {visits : List (((_ : String) × SessionRecord) × UInt64)}
      (h : s.watcher = .waiting) (hvisits : s.Visits visits) :
      Effect s (.watchSnapshot visits) { s with
        clock := s.lastReading visits
        watcher := Watcher.next (pendingSessions visits) }
  | lookupFound {page : Option (List PaymentRecord)} {session : SessionRecord}
      {rest : List SessionRecord} {payment : PaymentEvent} (h : s.watcher = .lookup session rest)
      (hfound : page.bind (findPayment session) = some payment) :
      Effect s (.watchLookup page) { s with watcher := .found payment session rest }
  | lookupNothing {page : Option (List PaymentRecord)} {session : SessionRecord}
      {rest : List SessionRecord} (h : s.watcher = .lookup session rest)
      (hfound : page.bind (findPayment session) = none) :
      Effect s (.watchLookup page) { s with watcher := Watcher.next rest }
  | issued {nonce : Alphanumeric 16} {payment : PaymentEvent} {session : SessionRecord}
      {rest : List SessionRecord} {artifact : AccessArtifact}
      (h : s.watcher = .found payment session rest)
      (hissue : srv.issue session payment nonce = some artifact) :
      Effect s (.watchIssue nonce) { s with watcher := .issued artifact session rest }
  | issueFailed {nonce : Alphanumeric 16} {payment : PaymentEvent} {session : SessionRecord}
      {rest : List SessionRecord} (h : s.watcher = .found payment session rest)
      (hissue : srv.issue session payment nonce = none) :
      Effect s (.watchIssue nonce) { s with watcher := Watcher.next rest }
  | marked {artifact : AccessArtifact} {session live : SessionRecord} {rest : List SessionRecord}
      (h : s.watcher = .issued artifact session rest)
      (hlive : s.sessions.lookup session.paymentRequest.sessionId = some live) :
      Effect s .watchMark { s with
        sessions := s.sessions.insert session.paymentRequest.sessionId (live.pay artifact)
        watcher := Watcher.next rest }
  | markUnknown {artifact : AccessArtifact} {session : SessionRecord} {rest : List SessionRecord}
      (h : s.watcher = .issued artifact session rest)
      (hlive : s.sessions.lookup session.paymentRequest.sessionId = none) :
      Effect s .watchMark { s with watcher := Watcher.next rest }

variable {srv} {s s' : State} {a : Action}

lemma effect_of_step (h : step srv s a = some s') : Effect srv s a s' := by
  cases a with
  | tick now =>
      rw [step] at h
      split at h
      · obtain rfl := Option.some.inj h
        exact .tick ‹_›
      · exact absurd h (by simp)
  | createRequest i body memo =>
      cases htask : s.tasks i with
      | none =>
          simp only [step, htask, Option.some.injEq] at h
          exact h ▸ .createRequest htask
      | some task => simp [step, htask] at h
  | createClock i =>
      rcases htask : s.tasks i with _ | (⟨paymentRequest, eventId⟩ | _ | _ | _)
      case some.requested =>
        simp only [step, htask, Option.some.injEq] at h
        cases hnew : newSession srv.overflowChecks srv.tokenTtlSecs paymentRequest eventId
            s.clock with
        | none => exact h ▸ hnew ▸ .createPanic htask hnew
        | some record => exact h ▸ hnew ▸ .createClock htask hnew
      all_goals simp [step, htask] at h
  | createInsert i =>
      rcases htask : s.tasks i with _ | (_ | ⟨record⟩ | _ | _)
      case some.stamped =>
        simp only [step, htask, Option.some.injEq] at h
        exact h ▸ .createInsert htask
      all_goals simp [step, htask] at h
  | createRespond i =>
      rcases htask : s.tasks i with _ | (_ | _ | ⟨record⟩ | _)
      case some.inserted =>
        simp only [step, htask, Option.some.injEq] at h
        exact h ▸ .createRespond htask
      all_goals simp [step, htask] at h
  | statusGet i sessionId =>
      cases htask : s.tasks i with
      | none =>
          simp only [step, htask, Option.some.injEq] at h
          cases hget : s.sessions.lookup sessionId with
          | none => exact h ▸ hget ▸ .statusUnknown htask hget
          | some session => exact h ▸ hget ▸ .statusGet htask hget
      | some task => simp [step, htask] at h
  | statusRespond i =>
      rcases htask : s.tasks i with _ | (_ | _ | _ | ⟨session⟩)
      case some.status =>
        simp only [step, htask, Option.some.injEq] at h
        exact h ▸ .statusRespond htask
      all_goals simp [step, htask] at h
  | cancel i =>
      cases htask : s.tasks i with
      | none => simp [step, htask] at h
      | some task =>
          simp only [step, htask, Option.some.injEq] at h
          exact h ▸ .cancel htask
  | watchSnapshot visits =>
      cases hwatcher : s.watcher with
      | waiting =>
          simp only [step, hwatcher] at h
          split at h
          · obtain rfl := Option.some.inj h
            exact .watchSnapshot hwatcher ‹_›
          · exact absurd h (by simp)
      | _ => simp [step, hwatcher] at h
  | watchLookup page =>
      cases hwatcher : s.watcher with
      | lookup session rest =>
          simp only [step, hwatcher] at h
          split at h
          · obtain rfl := Option.some.inj h
            exact .lookupFound hwatcher ‹_›
          · obtain rfl := Option.some.inj h
            exact .lookupNothing hwatcher ‹_›
      | _ => simp [step, hwatcher] at h
  | watchIssue nonce =>
      cases hwatcher : s.watcher with
      | found payment session rest =>
          simp only [step, hwatcher] at h
          split at h
          · obtain rfl := Option.some.inj h
            exact .issued hwatcher ‹_›
          · obtain rfl := Option.some.inj h
            exact .issueFailed hwatcher ‹_›
      | _ => simp [step, hwatcher] at h
  | watchMark =>
      cases hwatcher : s.watcher with
      | issued artifact session rest =>
          simp only [step, hwatcher, markPaid, Option.some.injEq] at h
          cases hlive : s.sessions.lookup session.paymentRequest.sessionId with
          | none =>
              rw [hlive] at h
              exact h ▸ .markUnknown hwatcher hlive
          | some live =>
              rw [hlive] at h
              exact h ▸ .marked hwatcher hlive
      | _ => simp [step, hwatcher] at h

lemma step_of_effect (h : Effect srv s a s') : step srv s a = some s' := by
  cases h with
  | tick h => simp [step, h]
  | createRequest h => simp [step, h]
  | createClock h hnew => simp [step, h, hnew]
  | createPanic h hnew => simp [step, h, hnew]
  | createInsert h => simp [step, h]
  | createRespond h => simp [step, h]
  | statusGet h hget => simp [step, h, hget]
  | statusUnknown h hget => simp [step, h, hget]
  | statusRespond h => simp [step, h]
  | cancel h => simp [step, h]
  | watchSnapshot h hvisits => simp [step, h, hvisits]
  | lookupFound h hfound => simp [step, h, hfound]
  | lookupNothing h hfound => simp [step, h, hfound]
  | issued h hissue => simp [step, h, hissue]
  | issueFailed h hissue => simp [step, h, hissue]
  | marked h hlive => simp [step, h, markPaid, hlive]
  | markUnknown h hlive => simp [step, h, markPaid, hlive]

/-- **What a step does.** -/
theorem step_eq_some : step srv s a = some s' ↔ Effect srv s a s' :=
  ⟨effect_of_step, step_of_effect⟩

end

/-! ### An example

A server that is asked for one payment at time 0, and the payment. -/

def demoServer (tokenTtlSecs : UInt64) : Server where
  scheme := Signing.Scheme.constant fun _ => true
  signingKey := ()
  qr := QrLibrary.total
  destinationAddress := "GDEST"
  tokenTtlSecs := tokenTtlSecs
  overflowChecks := true

def demoBody : CreatePaymentBody where
  amount := some "10.0000000"
  asset := none
  eventId := none

def demoMemo : Alphanumeric 12 where
  text := "k3Jd82LmQw0Z"
  length_eq := by decide
  alphanum := by decide

def otherMemo : Alphanumeric 12 where
  text := "p8Rt51XcVb3N"
  length_eq := by decide
  alphanum := by decide

/-- The session that is made for it. -/
def demoSession (tokenTtlSecs : UInt64) : SessionRecord where
  paymentRequest :=
    { createPaymentRequest "GDEST" demoBody.toRequest demoMemo with expiresAt := 900 }
  eventId := "demo-event"
  paid := false
  expiresAt := tokenTtlSecs
  txHash := none
  accessToken := none
  accessQrPng := none
  accessQrAscii := none

def demoRecord : PaymentRecord where
  id := "1"
  transactionHash := "3389e9f0"
  from_ := "GBUYER"
  to_ := "GDEST"
  amount := "10.0000000"
  assetType := "native"
  assetCode := none
  transactionSuccessful := true
  memo := some "k3Jd82LmQw0Z"
  ledger := some 51203
  recordType := "payment"

def demoCreate : List Action :=
  [.createRequest 0 demoBody demoMemo, .createClock 0, .createInsert 0, .createRespond 0]

/-- A snapshot taken at this time. -/
def demoSnapshot (tokenTtlSecs now : UInt64) : Action :=
  .watchSnapshot [(⟨demoMemo.text, demoSession tokenTtlSecs⟩, now)]

def demoSettle : List Action :=
  [.watchLookup (some [demoRecord]), .watchIssue demoNonce, .watchMark]

end Haske
