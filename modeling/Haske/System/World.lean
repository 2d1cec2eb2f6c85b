import Haske.Client.Creating
import Haske.Client.Recovery
import Haske.Server.Stable

/-!
# The server and the pages

The server, any number of pages in browsers, and what passes between them.  A page sends a
request and waits; the server takes it up in a task, and answers; the answer reaches the page
at any time later, or never, and what a page is told instead, an error status, a broken
connection or a timeout, can be anything.  All steps interleave.

`Honest` is what is taken for granted of the network and of the random memos: a page that
reads a body with a status of success reads one that the server sent as an answer to this
request, in a task that it began after the page had sent the request; and no memo is drawn
twice.
-/

namespace Haske

open Machine

/-- What a page requests. -/
inductive Request where
  | createPayment
  | getPaymentStatus (sessionId : String)
deriving DecidableEq

/-- An answer of the server, with the status 200. -/
structure Response where
  request : Request
  /-- When the server took up the request. -/
  since : ℕ
  text : String
deriving DecidableEq

structure World where
  /-- The number of steps so far. -/
  now : ℕ
  server : State
  /-- The request that a task answers, and when it was taken up. -/
  taken : ℕ → Request × ℕ
  responses : List Response
  pages : ℕ → Recovery.Hook
  /-- When a page last sent a request. -/
  sent : ℕ → Request → ℕ
  /-- When a memo was drawn; no step looks at this or at the next field. -/
  drawn : String → Option ℕ
  /-- The session that the status request which was taken up at some time found. -/
  found : ℕ → Option SessionRecord

/-- The page waits for the answer to this request. -/
def Recovery.Hook.awaits (page : Recovery.Hook) : Request → Bool
  | .createPayment => page.createSessionPromise
  | .getPaymentStatus sessionId => page.statusRequestCache.contains sessionId

def Recovery.Action.isLoad : Recovery.Action → Bool
  | .load => true
  | _ => false

/-- The task that takes up a request. -/
def Action.takes : Action → Option (ℕ × Request)
  | .createRequest i _ _ => some (i, .createPayment)
  | .statusGet i sessionId => some (i, .getPaymentStatus sessionId)
  | _ => none

/-- The task that answers with the status 200, and the body. -/
def State.answers (s : State) (srv : Server) : Action → Option (ℕ × String)
  | .createRespond i =>
      match s.tasks i with
      | some (.inserted record) =>
          (record.createResponse srv.qr).map fun response => (i, response.toText)
      | _ => none
  | .statusRespond i =>
      match s.tasks i with
      | some (.status session) => some (i, (toStatusResponse session s.clock).toText)
      | _ => none
  | _ => none

namespace World

inductive Action where
  | server (a : Haske.Action)
  | page (i : ℕ) (a : Recovery.Action)

/-- Nobody has been here before. -/
def init (clock : UInt64) : World where
  now := 0
  server := .init clock
  taken := fun _ => (.createPayment, 0)
  responses := []
  pages := fun _ => Recovery.freshHook none 0
  sent := fun _ _ => 0
  drawn := fun _ => none
  found := fun _ => none

def recordTaken (w : World) (a : Haske.Action) : ℕ → Request × ℕ :=
  match a.takes with
  | some (i, request) => Function.update w.taken i (request, w.now)
  | none => w.taken

def recordDrawn (w : World) : Haske.Action → String → Option ℕ
  | .createRequest _ _ memo => Function.update w.drawn memo.text (some w.now)
  | _ => w.drawn

def recordFound (w : World) : Haske.Action → ℕ → Option SessionRecord
  | .statusGet _ sessionId => Function.update w.found w.now (w.server.sessions.lookup sessionId)
  | _ => w.found

def recordResponse (srv : Server) (w : World) (a : Haske.Action) : List Response :=
  match w.server.answers srv a with
  | some (i, text) => ⟨(w.taken i).1, (w.taken i).2, text⟩ :: w.responses
  | none => w.responses

/-- A request is sent by a page that did not wait for it before. -/
def recordSent (w : World) (i : ℕ) (a : Recovery.Action) (page : Recovery.Hook) :
    Request → ℕ := fun request =>
  if page.awaits request = true ∧ (a.isLoad = true ∨ (w.pages i).awaits request = false) then w.now
  else w.sent i request

/-- A page has taken a step. -/
def withPage (w : World) (i : ℕ) (a : Recovery.Action) (page : Recovery.Hook) : World :=
  { w with
    now := w.now + 1
    pages := Function.update w.pages i page
    sent := Function.update w.sent i (w.recordSent i a page) }

def step (srv : Server) (w : World) : Action → Option World
  | .server a =>
      (Haske.step srv w.server a).map fun server =>
        { w with
          now := w.now + 1
          server := server
          taken := w.recordTaken a
          responses := w.recordResponse srv a
          drawn := w.recordDrawn a
          found := w.recordFound a }
  | .page i a => (Recovery.step (w.pages i) a).map (w.withPage i a)

/-- A body with a status of success was sent by the server as an answer to this request. -/
def Delivers (w : World) (i : ℕ) (request : Request) (outcomes : ℕ → FetchOutcome) : Prop :=
  ∀ n status text, outcomes n = .response status (some text) → 200 ≤ status ∧ status ≤ 299 →
    ∃ r ∈ w.responses, r.request = request ∧ w.sent i request ≤ r.since ∧ r.text = text

def Honest (w : World) : Action → Prop
  | .server (.createRequest _ _ memo) => w.drawn memo.text = none
  | .page i (.createAnswer _ _ outcomes) => w.Delivers i .createPayment outcomes
  | .page i (.statusAnswer sessionId _ _ outcomes) =>
      w.Delivers i (.getPaymentStatus sessionId) outcomes
  | _ => True

abbrev Trace := List (World × Action)

/-- Of the step nothing is taken for granted but that no memo is drawn twice. -/
def plain (w : World) : Action → Bool
  | .server (.createRequest _ _ memo) => (w.drawn memo.text).isNone
  | .page _ (.createAnswer _ _ _) => false
  | .page _ (.statusAnswer _ _ _ _) => false
  | _ => true

lemma honest_of_plain {w : World} {a : Action} (h : w.plain a = true) : w.Honest a := by
  cases a with
  | server a =>
      cases a with
      | createRequest i body memo => exact Option.isNone_iff_eq_none.1 h
      | _ => exact True.intro
  | page i a =>
      cases a with
      | createAnswer requestId freshId outcomes => cases h
      | statusAnswer sessionId requestId freshId outcomes => cases h
      | _ => exact True.intro

lemma step_page {srv : Server} {w : World} {i : ℕ} {a : Recovery.Action} {page : Recovery.Hook}
    (h : Recovery.step (w.pages i) a = some page) :
    w.step srv (.page i a) = some (w.withPage i a page) := by
  rw [step, h, Option.map_some]

end World

/-! ### What a request is told -/

section

variable {w : World} {i : ℕ} {requestId freshId : String} {outcomes : ℕ → FetchOutcome}

/-- A request that succeeds was answered by the server. -/
lemma World.Delivers.of_ok {request : Request} {validate : Json.Value → Bool}
    {config : RequestConfig} {data : Json.Value} (h : w.Delivers i request outcomes)
    (hok : Haske.request validate config requestId outcomes freshId = .ok data) :
    ∃ r ∈ w.responses, r.request = request ∧ w.sent i request ≤ r.since ∧
      parseJsonSafely r.text = data := by
  obtain ⟨n, status, text, houtcome, hstatus, rfl, -⟩ := request_ok hok
  obtain ⟨r, hr, hrequest, hsince, rfl⟩ := h n status text houtcome hstatus
  exact ⟨r, hr, hrequest, hsince, rfl⟩

/-- A text that is read is not the empty one. -/
lemma parseJsonSafely_of_parse {text : String} {v : Json.Value} (h : Js.parse text = some v) :
    parseJsonSafely text = v := by
  have hempty : text ≠ "" := by
    rintro rfl
    have hnone : (Js.parse "").isNone := by decide +kernel
    rw [h] at hnone
    cases hnone
  rw [parseJsonSafely, if_neg hempty, h, Option.getD_some]

/-- A body that is read and accepted ends the request. -/
lemma request_delivered {validate : Json.Value → Bool} {config : RequestConfig} {text : String}
    {v : Json.Value} (hread : parseJsonSafely text = v) (hvalid : validate v = true) :
    Haske.request validate config requestId (fun _ => .response 200 (some text)) freshId =
      .ok v := by
  have hattempt :
      attemptResult validate config requestId 0 (.response 200 (some text)) = .ok v := by
    rw [attemptResult.eq_def]
    simp [hread, hvalid]
  rw [Haske.request, requestLoop, hattempt]

end

end Haske
