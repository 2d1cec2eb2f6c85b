import Haske.Checkout.Knows
import Haske.Checkout.View
import Haske.System.Door
import Haske.System.Payment

/-!
# The standalone pages

The server, and besides the pages with the hook any number of browsers that have loaded the
standalone page, and whose storage takes what this saves.  Of the network it is taken for granted
that a standalone page that reads a body with a status of success reads one that the server sent
as an answer to this request, and that it is told about a session that was created for what the
server reads in its own request.

Whatever a standalone page draws, the server has: the code to scan and the link to the wallet
are those of the session of the page, and the code to show at the entry is that of a pass which
the verifier accepts (`drawn_of_run`).  It need not be the pass of the session of the page,
unless new sessions are asked for, and taken, only when no status is being asked for (`own_of_run`).

The body of its request asks for the amount `10`, which Horizon writes in another way.  So it
never shows a pass (`standalone_never_confirmed`).
-/

namespace Haske

open Json Js Script Machine Checkout

/-- The request as the server sees it. -/
def Checkout.Request.Reaches : Checkout.Request → Haske.Request → Prop
  | .create _, .createPayment => True
  | .status sessionId, .getPaymentStatus id => asString sessionId = some id
  | _, _ => False

/-- A browser whose storage takes everything. -/
def Checkout.Browser.taking (engine : Engine) : Browser :=
  { engine with refuses := fun _ _ => none }

/-- The server reads what the standalone page sends. -/
lemma read_paymentRequestBody :
    Serde.fromStr CreatePaymentBody.ofDoc paymentRequestBody.toText = some defaultPayload.toBody :=
  read_request defaultPayload

structure Site where
  world : World
  pages : ℕ → Page
  /-- The body of the creation that was taken up at some time; no step looks at this. -/
  bodies : ℕ → Option CreatePaymentBody

namespace Site

inductive Action where
  | world (a : World.Action)
  | page (i : ℕ) (a : Checkout.Action)

def init (engine : Engine) (clock : UInt64) (clocks : ℕ → ℕ) : Site where
  world := .init clock
  pages := fun i => start (.taking engine) (clocks i)
  bodies := fun _ => none

def recordBodies (w : Site) : World.Action → ℕ → Option CreatePaymentBody
  | .server (.createRequest _ body _) => Function.update w.bodies w.world.now (some body)
  | _ => w.bodies

def step (srv : Server) (engine : Engine) (w : Site) : Action → Option Site
  | .world a =>
      (w.world.step srv a).map fun world =>
        { w with
          world := world
          bodies := w.recordBodies a }
  | .page i a =>
      (Checkout.step (.taking engine) (w.pages i) a).map fun page =>
        { w with pages := Function.update w.pages i page }

/-- A body that is read was sent by the server, and what was created is what it read in the
request. -/
def Delivers (w : Site) (request : Checkout.Request) (fetched : Fetched) : Prop :=
  ∀ body, fetched.result = .ok body → ∃ r ∈ w.world.responses, request.Reaches r.request ∧
    Js.parse r.text = some body ∧
    ∀ sent, request = .create sent → ∃ asked,
      Serde.fromStr CreatePaymentBody.ofDoc sent.toText = some asked ∧
      w.bodies r.since = some asked

def Honest (w : Site) : Action → Prop
  | .world a => w.world.Honest a
  | .page i (.answer handle fetched) => ∀ request retryCount,
      (w.pages i).pending.lookup handle = some (.fetch request retryCount) →
      w.Delivers request fetched
  | .page _ _ => True

/-- New sessions are asked for, and taken, only when no status is being asked for. -/
def Patient (w : Site) : Action → Prop
  | .world _ => True
  | .page i a => Checkout.Patient (w.pages i) a

abbrev Trace := List (Site × Action)

def Action.ofWorld : Action → Option World.Action
  | .world a => some a
  | .page _ _ => none

/-- The steps that are not those of a standalone page. -/
def worldTrace (t : Trace) : World.Trace :=
  t.filterMap fun e => e.2.ofWorld.map fun a => (e.1.world, a)

/-- The session was created as the standalone page asks for. -/
def Own (w : Site) (id : String) : Prop :=
  ∃ live k, w.world.server.sessions.lookup id = some live ∧ w.world.drawn id = some k ∧
    w.bodies k = some defaultPayload.toBody

/-- The page has the request of the session, as the server sent it. -/
structure Requests (srv : Server) (w : Site) (app : App) (live : SessionRecord)
    (response : CreatePaymentResponse) : Prop where
  own : w.Own live.paymentRequest.sessionId
  kept : w.world.server.sessions.lookup live.paymentRequest.sessionId = some live
  sent : ∃ record : SessionRecord, live.order = record.order ∧
    record.createResponse srv.qr = some response
  sessionId : app.sessionId = some (.str live.paymentRequest.sessionId)
  paymentData : app.paymentData = some (readCreated response)

/-- The page has the pass of the session, as the server sent it. -/
structure Passes (w : Site) (app : App) (live : SessionRecord) (now : UInt64) : Prop where
  own : w.Own live.paymentRequest.sessionId
  kept : w.world.server.sessions.lookup live.paymentRequest.sessionId = some live
  token : live.accessToken.isSome = true
  accessData : app.accessData = some (readResponse (toStatusResponse live now))
  accessExpiresAt : live.expiresAt ≠ 0 → live.expiresAt.toNat < 2 ^ 53 →
    app.accessExpiresAt = some (.nat live.expiresAt.toNat)

/-- What the page knows is what the server has; if `own`, then of one session. -/
structure Grounded (srv : Server) (w : Site) (own : Prop) (app : App) : Prop where
  payment : (app.sessionId = some .null ∧ app.paymentData = some .null) ∨
    ∃ live response, w.Requests srv app live response
  pass : app.state.hasPass = true → ∃ live now, w.Passes app live now ∧
    (own → app.sessionId = some (.str live.paymentRequest.sessionId))

/-- What a page asks for: a payment with the body of the page, or the status of a session that
was created for it. -/
def OwnRequest (w : Site) : Checkout.Request → Prop
  | .create body => body = paymentRequestBody
  | .status sessionId => ∃ id, sessionId = some (.str id) ∧ w.Own id

end Site

variable {srv : Server} {engine : Engine} {clock : UInt64} {clocks : ℕ → ℕ} {own : Prop}
  {w w' : Site} {t : Site.Trace} {i : ℕ} {app app' : App}

namespace Site

/-! ### What a page does by itself -/

lemma Requests.congr {live : SessionRecord} {response : CreatePaymentResponse}
    (h : w.Requests srv app live response) (hsessionId : app'.sessionId = app.sessionId)
    (hpaymentData : app'.paymentData = app.paymentData) : w.Requests srv app' live response :=
  ⟨h.own, h.kept, h.sent, hsessionId.trans h.sessionId, hpaymentData.trans h.paymentData⟩

lemma Passes.congr {live : SessionRecord} {now : UInt64} (h : w.Passes app live now)
    (hdata : app'.accessData = app.accessData)
    (hexpires : app'.accessExpiresAt = app.accessExpiresAt) : w.Passes app' live now :=
  ⟨h.own, h.kept, h.token, hdata.trans h.accessData, fun hne hlt =>
    hexpires.trans (h.accessExpiresAt hne hlt)⟩

lemma Grounded.payment_congr (h : w.Grounded srv own app)
    (hsessionId : app'.sessionId = app.sessionId)
    (hpaymentData : app'.paymentData = app.paymentData) :
    (app'.sessionId = some .null ∧ app'.paymentData = some .null) ∨
      ∃ live response, w.Requests srv app' live response := by
  rcases h.payment with ⟨hid, hdata⟩ | ⟨live, response, hrequests⟩
  · exact Or.inl ⟨hsessionId.trans hid, hpaymentData.trans hdata⟩
  · exact Or.inr ⟨live, response, hrequests.congr hsessionId hpaymentData⟩

/-- A value that is there is read back from the storage. -/
lemma some_orNull {x : Option Value} {v : Value} (h : x = some v) : some (orNull x) = some v := by
  rw [h]
  rfl

lemma grounded_closed (w : Site) (own : Prop) :
    KeptAlone engine (w.Grounded srv own) w.OwnRequest where
  init := ⟨Or.inl ⟨rfl, rfl⟩, nofun⟩
  reread app h := by
    refine ⟨?_, fun hpass => ?_⟩
    · rcases h.payment with ⟨hid, hdata⟩ | ⟨live, response, hrequests⟩
      · exact Or.inl ⟨some_orNull hid, some_orNull hdata⟩
      · exact Or.inr ⟨live, response, hrequests.own, hrequests.kept, hrequests.sent,
          some_orNull hrequests.sessionId, some_orNull hrequests.paymentData⟩
    · obtain ⟨live, now, hpasses, hown⟩ := h.pass hpass
      refine ⟨live, now, ⟨hpasses.own, hpasses.kept, hpasses.token,
        some_orNull hpasses.accessData, fun hne hlt =>
          some_orNull (hpasses.accessExpiresAt hne hlt)⟩, fun howned => ?_⟩
      exact some_orNull (hown howned)
  restates app app' h hrestates hpasses := by
    refine ⟨h.payment_congr hrestates.sessionId hrestates.paymentData, fun hpass => ?_⟩
    obtain ⟨live, now, hlive, hown⟩ := h.pass (hpasses hpass)
    exact ⟨live, now, hlive.congr hrestates.accessData hrestates.accessExpiresAt,
      fun howned => hrestates.sessionId.trans (hown howned)⟩
  renewed app h := by
    refine ⟨?_, nofun⟩
    by_cases hended : app.state = .expired ∨ app.state = .error
    · left
      rw [renewal, if_pos hended]
      exact ⟨rfl, rfl⟩
    · rw [renewal, if_neg hended]
      exact h.payment_congr rfl rfl
  session app h htruthy := by
    rcases h.payment with ⟨hid, -⟩ | ⟨live, response, hrequests⟩
    · rw [hid] at htruthy
      cases htruthy
    · exact ⟨_, hrequests.sessionId, hrequests.own⟩
  creates := rfl

/-! ### What a page is told -/

/-- What is created is shown. -/
lemma Grounded.created (hserved : Served srv clock w.world) {fetched : Fetched} {data : Value}
    (hdelivers : w.Delivers (.create paymentRequestBody) fetched)
    (hok : fetched.result = .ok data) (app : App) :
    w.Grounded srv own (withSession data app) := by
  obtain ⟨r, hr, hreaches, hparse, hasked⟩ := hdelivers data hok
  -- the server has read the body of the page
  have hbody : w.bodies r.since = some defaultPayload.toBody := by
    obtain ⟨asked, hread, hbody⟩ := hasked _ rfl
    rwa [← Option.some.inj (hread.symm.trans read_paymentRequestBody)]
  have hrequest : r.request = .createPayment := by
    cases hrequest : r.request with
    | createPayment => rfl
    | getPaymentStatus id =>
        rw [hrequest] at hreaches
        exact hreaches.elim
  obtain ⟨record, live, response, hlive, horder, hresponse, hread, hdrawn⟩ :=
    created_of_tells (hserved.response r hr) hrequest
  obtain rfl : data = readCreated response := (parseJsonSafely_of_parse hparse).symm.trans hread
  have hpaid : live.paymentRequest = record.paymentRequest :=
    congrArg Order.paymentRequest horder
  refine ⟨Or.inr ⟨live, response, ?_, ?_, ⟨record, horder, hresponse⟩, ?_, rfl⟩, nofun⟩
  · rw [hpaid]
    exact ⟨live, r.since, hlive, hdrawn, hbody⟩
  · rw [hpaid]
    exact hlive
  · rw [hpaid]
    exact (shownAs_created hresponse).sessionId

/-- An answer about a session that is complete or not paid has one of three names. -/
lemma statusOf_mem {session : SessionRecord} (hcons : session.Consistent) (now : UInt64) :
    statusOf session now ∈ ["waiting", "confirmed", "expired"] ∧
      (statusOf session now = "confirmed" → session.accessToken.isSome = true) := by
  rcases hcons with hunset | ⟨artifact, hholds⟩
  · rw [statusOf, hunset.accessToken, hunset.paid, hunset.txHash]
    by_cases hdeadline : session.paymentRequest.expiresAt ≤ now
    · simp [hdeadline]
    · simp [hdeadline]
  · rw [statusOf, hholds.accessToken]
    simp

lemma statusOf_answer (session : SessionRecord) (now : UInt64) :
    asString (prop (readResponse (toStatusResponse session now)) "status") =
      some (statusOf session now) := rfl

/-- What is found of the session of a request is shown. -/
lemma Grounded.answered (hserved : Served srv clock w.world) (h : w.Grounded srv own app)
    {sessionId : Option Value} {fetched : Fetched} {status : Value}
    (hdelivers : w.Delivers (.status sessionId) fetched) (hok : fetched.result = .ok status)
    (hid : w.OwnRequest (.status sessionId)) (hsame : own → sessionId = app.sessionId) :
    (∃ name ∈ ["waiting", "confirmed", "expired"],
      asString (prop status "status") = some name) ∧
    ∀ app', Restates (merge engine status app) app' →
      (app'.state.hasPass = true → asString (prop status "status") = some "confirmed") →
        w.Grounded srv own app' := by
  obtain ⟨id, rfl, hown⟩ := hid
  obtain ⟨r, hr, hreaches, hparse, -⟩ := hdelivers status hok
  have hrequest : r.request = .getPaymentStatus id := by
    cases hrequest : r.request with
    | createPayment =>
        rw [hrequest] at hreaches
        exact hreaches.elim
    | getPaymentStatus id' =>
        rw [hrequest] at hreaches
        rw [Option.some.inj hreaches]
  obtain ⟨session, now, hkey, hcons, ⟨live, hlive, -, hset⟩, -, -, hread, -⟩ :=
    status_of_tells hserved (hserved.response r hr) hrequest
  subst hkey
  obtain rfl : status = readResponse (toStatusResponse session now) :=
    (parseJsonSafely_of_parse hparse).symm.trans hread
  obtain ⟨hname, hconfirmed⟩ := statusOf_mem hcons now
  refine ⟨⟨_, hname, statusOf_answer session now⟩, fun app' hrestates hpass => ?_⟩
  refine ⟨h.payment_congr hrestates.sessionId hrestates.paymentData, fun hhas => ?_⟩
  have htoken : session.accessToken.isSome = true := by
    refine hconfirmed (Option.some.inj ?_)
    rw [← hpass hhas, statusOf_answer]
  obtain rfl := hset (not_unset_of_token htoken)
  refine ⟨live, now, ⟨hown, hlive, htoken, hrestates.accessData, fun hne hlt => ?_⟩, ?_⟩
  · rw [hrestates.accessExpiresAt]
    show engine.or (some (.nat (toDouble live.expiresAt.toNat))) _ = _
    rw [toDouble_of_lt hlt, Engine.or, if_pos]
    rw [Engine.truthy, bne_iff_ne]
    exact fun hzero => hne (UInt64.toNat_inj.1 hzero)
  · intro howned
    rw [hrestates.sessionId]
    exact (hsame howned).symm

/-! ### The server goes on -/

/-- The site after a step that is not one of a standalone page. -/
def withWorld (w : Site) (a : World.Action) (world : World) : Site :=
  { w with
    world := world
    bodies := w.recordBodies a }

lemma recordBodies_of_lt {a : World.Action} {k : ℕ} (hk : k < w.world.now) :
    w.recordBodies a k = w.bodies k := by
  cases a with
  | server a =>
      cases a with
      | createRequest i body memo => exact Function.update_of_ne (Nat.ne_of_lt hk) _ _
      | _ => rfl
  | page i a => rfl

section

variable {a : World.Action} {world : World}

/-- The sessions in the map stay. -/
lemma lookup_of_world (hserved : Served srv clock w.world)
    (hstep : w.world.step srv a = some world) {id : String} {live : SessionRecord}
    (hlive : w.world.server.sessions.lookup id = some live) :
    ∃ live', world.server.sessions.lookup id = some live' ∧ live'.order = live.order ∧
      (¬ live.Unset → live' = live) := by
  cases a with
  | server a =>
      simp only [World.step, Option.map_eq_some_iff] at hstep
      obtain ⟨server, hserver, rfl⟩ := hstep
      exact lookup_of_distinct hserved.distinct hserver hlive
  | page i a =>
      simp only [World.step, Option.map_eq_some_iff] at hstep
      obtain ⟨page, -, rfl⟩ := hstep
      exact ⟨live, hlive, rfl, fun _ => rfl⟩

lemma drawn_of_world (hhonest : w.world.Honest a) (hstep : w.world.step srv a = some world)
    {id : String} {k : ℕ} (hid : w.world.drawn id = some k) : world.drawn id = some k := by
  cases a with
  | server a =>
      simp only [World.step, Option.map_eq_some_iff] at hstep
      obtain ⟨server, -, rfl⟩ := hstep
      exact World.recordDrawn_mono hhonest hid
  | page i a =>
      simp only [World.step, Option.map_eq_some_iff] at hstep
      obtain ⟨page, -, rfl⟩ := hstep
      exact hid

variable (hserved : Served srv clock w.world) (hhonest : w.world.Honest a)
  (hstep : w.world.step srv a = some world)

include hserved hhonest hstep

lemma Own.onward {id : String} (h : w.Own id) : (w.withWorld a world).Own id := by
  obtain ⟨live, k, hlive, hdrawn, hbody⟩ := h
  obtain ⟨live', hlive', -⟩ := lookup_of_world hserved hstep hlive
  refine ⟨live', k, hlive', drawn_of_world hhonest hstep hdrawn, ?_⟩
  exact (recordBodies_of_lt (hserved.drawn id k hdrawn)).trans hbody

lemma Grounded.onward (h : w.Grounded srv own app) :
    (w.withWorld a world).Grounded srv own app := by
  refine ⟨?_, fun hpass => ?_⟩
  · rcases h.payment with hnone | ⟨live, response, hrequests⟩
    · exact Or.inl hnone
    · obtain ⟨live', hlive', horder, -⟩ := lookup_of_world hserved hstep hrequests.kept
      have hrequest : live'.paymentRequest = live.paymentRequest :=
        congrArg Order.paymentRequest horder
      obtain ⟨record, hrecord, hresponse⟩ := hrequests.sent
      refine Or.inr ⟨live', response, ?_, ?_, ⟨record, horder.trans hrecord, hresponse⟩, ?_,
        hrequests.paymentData⟩
      · rw [hrequest]
        exact hrequests.own.onward hserved hhonest hstep
      · rw [hrequest]
        exact hlive'
      · rw [hrequest]
        exact hrequests.sessionId
  · obtain ⟨live, now, hpasses, hown⟩ := h.pass hpass
    obtain ⟨live', hlive', -, hset⟩ := lookup_of_world hserved hstep hpasses.kept
    obtain rfl := hset (not_unset_of_token hpasses.token)
    exact ⟨live', now, ⟨hpasses.own.onward hserved hhonest hstep, hlive', hpasses.token,
      hpasses.accessData, hpasses.accessExpiresAt⟩, hown⟩

end

/-- What the other pages know is no part of it. -/
lemma Grounded.withPages (h : w.Grounded srv own app) (pages : ℕ → Page) :
    Grounded srv { w with pages := pages } own app := by
  refine ⟨?_, fun hpass => ?_⟩
  · rcases h.payment with hnone | ⟨live, response, hrequests⟩
    · exact Or.inl hnone
    · exact Or.inr ⟨live, response, hrequests.own, hrequests.kept, hrequests.sent,
        hrequests.sessionId, hrequests.paymentData⟩
  · obtain ⟨live, now, hpasses, hown⟩ := h.pass hpass
    exact ⟨live, now, ⟨hpasses.own, hpasses.kept, hpasses.token, hpasses.accessData,
      hpasses.accessExpiresAt⟩, hown⟩

/-! ### Runs -/

/-- The session was asked for with this body. -/
def AskedFor (t : Trace) (w : Site) : Prop :=
  ∀ id k body, w.world.drawn id = some k → w.bodies k = some body →
    ∃ memo, memo.text = id ∧ Asked (World.serverTrace (worldTrace t)) body memo

structure Sound (srv : Server) (engine : Engine) (clock : UInt64) (own : Prop) (t : Trace)
    (w : Site) : Prop where
  served : Served srv clock w.world
  knows : ∀ i, Knows (w.Grounded srv own) w.OwnRequest (w.pages i)
  current : own → ∀ i, Current (w.pages i)
  asked : AskedFor t w

lemma worldTrace_snoc (t : Trace) (w : Site) (a : World.Action) :
    worldTrace (t ++ [(w, .world a)]) = worldTrace t ++ [(w.world, a)] := by
  rw [worldTrace, List.filterMap_append]
  rfl

lemma worldTrace_page (t : Trace) (w : Site) (i : ℕ) (a : Checkout.Action) :
    worldTrace (t ++ [(w, .page i a)]) = worldTrace t := by
  rw [worldTrace, List.filterMap_append]
  exact List.append_nil _

lemma AskedFor.onward (h : AskedFor t w) (hserved : Served srv clock w.world)
    {a : World.Action} {world : World} (hstep : w.world.step srv a = some world) :
    AskedFor (t ++ [(w, .world a)]) (w.withWorld a world) := by
  intro id k body hdrawn hbody
  rw [worldTrace_snoc, World.serverTrace, List.filterMap_append]
  -- a memo that was drawn before was asked for before
  have hold : w.world.drawn id = some k → ∃ memo, memo.text = id ∧
      Asked (World.serverTrace (worldTrace t) ++
        ([(w.world, a)].filterMap fun e => e.2.ofServer.map fun a => (e.1.server, a)))
        body memo := by
    intro hdrawn
    have hbody' := (recordBodies_of_lt (hserved.drawn id k hdrawn)).symm.trans hbody
    obtain ⟨memo, hmemo, hasked⟩ := h id k body hdrawn hbody'
    exact ⟨memo, hmemo, Asked.append hasked _⟩
  cases a with
  | page i a =>
      simp only [World.step, Option.map_eq_some_iff] at hstep
      obtain ⟨page, -, rfl⟩ := hstep
      exact hold hdrawn
  | server a =>
      simp only [World.step, Option.map_eq_some_iff] at hstep
      obtain ⟨server, -, rfl⟩ := hstep
      cases a with
      | createRequest j body' memo =>
          by_cases hid : id = memo.text
          · subst hid
            have hk : w.world.now = k := by
              have hnow : (Function.update w.world.drawn memo.text (some w.world.now)) memo.text =
                some k := hdrawn
              rw [Function.update_self] at hnow
              exact Option.some.inj hnow
            subst hk
            have hsame : (Function.update w.bodies w.world.now (some body')) w.world.now =
              some body := hbody
            rw [Function.update_self] at hsame
            obtain rfl := Option.some.inj hsame
            exact ⟨memo, rfl, w.world.server, j, List.mem_append_right _ List.mem_cons_self⟩
          · refine hold ?_
            have hother : (Function.update w.world.drawn memo.text (some w.world.now)) id =
              some k := hdrawn
            rwa [Function.update_of_ne hid] at hother
      | _ => exact hold hdrawn

/-- The page as it is loaded. -/
lemma init_pages (i : ℕ) : (Site.init engine clock clocks).pages i =
    load (.taking engine) none (clocks i) [] := rfl

lemma sound_init (srv : Server) (engine : Engine) (clock : UInt64) (clocks : ℕ → ℕ)
    (own : Prop) : Sound srv engine clock own [] (.init engine clock clocks) := by
  refine ⟨Served.init srv clock, fun i => ?_, fun _ i => ?_, ?_⟩
  · rw [init_pages]
    exact Knows.load (grounded_closed _ own) (fun stored hnone => absurd hnone (by simp)) _ _
  · rw [init_pages]
    exact (idle_load none (clocks i) []).current
  · intro id k body hdrawn
    cases hdrawn

lemma Sound.step (h : Sound srv engine clock own t w) {a : Action} (hhonest : w.Honest a)
    (hpatient : own → w.Patient a) (hstep : w.step srv engine a = some w') :
    Sound srv engine clock own (t ++ [(w, a)]) w' := by
  cases a with
  | world a =>
      simp only [Site.step, Option.map_eq_some_iff] at hstep
      obtain ⟨world, hworld, rfl⟩ := hstep
      refine ⟨h.served.step hhonest hworld, fun i => ?_, h.current, h.asked.onward h.served hworld⟩
      refine (h.knows i).mono (fun app happ => happ.onward h.served hhonest hworld) ?_
      intro request hrequest
      cases request with
      | create body => exact hrequest
      | status sessionId =>
          obtain ⟨id, rfl, hown⟩ := hrequest
          exact ⟨id, rfl, hown.onward h.served hhonest hworld⟩
  | page j a =>
      simp only [Site.step, Option.map_eq_some_iff] at hstep
      obtain ⟨page, hpage, rfl⟩ := hstep
      have hknows := h.knows j
      have hadmits : Admits engine (w.Grounded srv own) w.OwnRequest (w.pages j) a := by
        refine ⟨?_, ?_⟩
        · rintro handle fetched retryCount body data rfl hget hok rfl app -
          exact Grounded.created h.served (hhonest _ _ hget) hok app
        · rintro handle fetched retryCount sessionId status rfl hget hok hid
          refine hknows.app.answered h.served (hhonest _ _ hget) hok hid fun howned => ?_
          exact h.current howned j _ (mem_of_lookup hget) sessionId rfl
      have hnext := hknows.step (grounded_closed w own) hadmits hpage
      refine ⟨h.served, fun i => ?_, fun howned i => ?_, ?_⟩
      · have hold : Knows (w.Grounded srv own) w.OwnRequest (Function.update w.pages j page i) := by
          by_cases hij : i = j
          · subst hij
            rw [Function.update_self]
            exact hnext
          · rw [Function.update_of_ne hij]
            exact h.knows i
        refine hold.mono (fun app happ => happ.withPages _) fun request hrequest => ?_
        cases request with
        | create body => exact hrequest
        | status sessionId => exact hrequest
      · by_cases hij : i = j
        · subst hij
          simp only [Function.update_self]
          exact (h.current howned i).step (hpatient howned) hpage
        · simp only [Function.update_of_ne hij]
          exact h.current howned i
      · intro id k body hdrawn hbody
        rw [worldTrace_page]
        exact h.asked id k body hdrawn hbody

lemma sound_of_run (hrun : Run (Site.step srv engine) (.init engine clock clocks) t w)
    (hhonest : ∀ e ∈ t, e.1.Honest e.2) (hpatient : own → ∀ e ∈ t, e.1.Patient e.2) :
    Sound srv engine clock own t w := by
  refine Run.invariant_of_guard
    (P := fun t w => Sound srv engine clock own t w)
    (G := fun w a => w.Honest a ∧ (own → w.Patient a)) hrun ?_
    (sound_init srv engine clock clocks own) ?_
  · exact fun e he => ⟨hhonest e he, fun howned => hpatient howned e he⟩
  · rintro t w a w' - h ⟨hhonest, hpatient⟩ hstep
    exact h.step hhonest hpatient hstep

/-- The rest of the site takes a run of its own. -/
lemma world_of_run (hrun : Run (Site.step srv engine) (.init engine clock clocks) t w) :
    Run (World.step srv) (.init clock) (worldTrace t) w.world := by
  refine Run.project Site.world Action.ofWorld hrun ?_ ?_
  · rintro w (a | ⟨i, a⟩) w' b hstep ⟨⟩
    simp only [Site.step, Option.map_eq_some_iff] at hstep
    obtain ⟨world, hworld, rfl⟩ := hstep
    exact hworld
  · rintro w (a | ⟨i, a⟩) w' hstep hskip
    · cases hskip
    · simp only [Site.step, Option.map_eq_some_iff] at hstep
      obtain ⟨page, -, rfl⟩ := hstep
      rfl

lemma honest_of_worldTrace (hhonest : ∀ e ∈ t, e.1.Honest e.2) :
    ∀ e ∈ worldTrace t, e.1.Honest e.2 := by
  intro e he
  obtain ⟨⟨w, a⟩, hmem, heq⟩ := List.mem_filterMap.1 he
  cases a with
  | world a =>
      obtain rfl := Option.some.inj heq
      exact hhonest _ hmem
  | page i a => cases heq

/-! ### What is drawn -/

/-- The pass that is shown is drawn, and opens. -/
lemma Passes.draws (engine : Engine) (hserved : Served srv clock w.world) (hS : srv.scheme.Correct)
    {live : SessionRecord} {now : UInt64} (h : w.Passes app live now)
    (hstate : app.state = .confirmed) :
    ∃ text png, live.accessToken = some text ∧ renderPngDataUrl srv.qr text 320 = some png ∧
      (render engine app).accessQr = some (.str png) ∧ srv.Opens text live.expiresAt := by
  obtain ⟨text, htext⟩ := Option.isSome_iff_exists.1 h.token
  obtain ⟨token, hexpires, rfl, png, himage, hrender⟩ := hserved.issued h.kept htext
  refine ⟨_, png, htext, hrender, render_accessQr.2 ⟨hstate, ?_, truthy_png hrender engine⟩, ?_⟩
  · rw [App.accessProp, h.accessData]
    show some (ofOption (live.accessQrPng.map .str)) = _
    rw [himage]
    rfl
  · rw [← hexpires]
    exact opens_of_rendering hS (Rendering.refl _)

/-- The code to scan is that of the session. -/
lemma Requests.paymentQr_eq {live : SessionRecord} {response : CreatePaymentResponse}
    (h : w.Requests srv app live response) {code : Value}
    (hcode : (render engine app).paymentQr = some code) :
    ∃ png, renderPngDataUrl srv.qr live.paymentRequest.qrPayload 320 = some png ∧
      code = .str png := by
  obtain ⟨record, horder, hresponse⟩ := h.sent
  obtain ⟨png, hrender, rfl⟩ := createResponse_eq_some hresponse
  obtain ⟨-, hprop, -⟩ := render_paymentQr.1 hcode
  rw [App.paymentProp, h.paymentData] at hprop
  have hrequest : live.paymentRequest = record.paymentRequest :=
    congrArg Order.paymentRequest horder
  rw [hrequest]
  exact ⟨png, hrender, (Option.some.inj hprop).symm⟩

lemma Requests.shownAs {live : SessionRecord} {response : CreatePaymentResponse}
    (h : w.Requests srv app live response) :
    live.paymentRequest.ShownAs (orNull app.paymentData) := by
  obtain ⟨record, horder, hresponse⟩ := h.sent
  have hrequest : live.paymentRequest = record.paymentRequest :=
    congrArg Order.paymentRequest horder
  rw [hrequest, h.paymentData]
  exact shownAs_created hresponse

/-- A page that has a code or a link has a session. -/
lemma Grounded.requests (h : w.Grounded srv own app) {name : String} {v : Value}
    (hprop : app.paymentProp name = some v) :
    ∃ live response, w.Requests srv app live response := by
  rcases h.payment with ⟨-, hdata⟩ | hrequests
  · rw [App.paymentProp, hdata] at hprop
    cases hprop
  · exact hrequests

end Site

open Site in
/-- **What a standalone page draws.**  In every run of the server and of any number of pages, in
which the answers that arrive were sent, a standalone page that draws a code to scan, or has a
link to the wallet, has a session in the server's map, and these are the code and the link of
its request; a standalone page that shows a pass draws the code that the server made of the pass
of a session, this pass is accepted until the session expires, and the page counts down to that
time, if a script reads the time as it is; and it draws one of the two codes at most. -/
theorem drawn_of_run (hrun : Run (Site.step srv engine) (.init engine clock clocks) t w)
    (hhonest : ∀ e ∈ t, e.1.Honest e.2) (hS : srv.scheme.Correct) (i : ℕ) :
    (∀ code, (render engine (w.pages i).app).paymentQr = some code →
      ∃ live png, (w.pages i).app.sessionId = some (.str live.paymentRequest.sessionId) ∧
        w.world.server.sessions.lookup live.paymentRequest.sessionId = some live ∧
        renderPngDataUrl srv.qr live.paymentRequest.qrPayload 320 = some png ∧
        code = .str png) ∧
    (∀ link, (render engine (w.pages i).app).wallet = some link →
      ∃ live, (w.pages i).app.sessionId = some (.str live.paymentRequest.sessionId) ∧
        w.world.server.sessions.lookup live.paymentRequest.sessionId = some live ∧
        link = .str live.paymentRequest.qrPayload) ∧
    ((w.pages i).app.state = .confirmed →
      ∃ live text png,
        w.world.server.sessions.lookup live.paymentRequest.sessionId = some live ∧
        live.accessToken = some text ∧ renderPngDataUrl srv.qr text 320 = some png ∧
        (render engine (w.pages i).app).accessQr = some (.str png) ∧
        srv.Opens text live.expiresAt ∧
        (live.expiresAt ≠ 0 → live.expiresAt.toNat < 2 ^ 53 → ∀ ms,
          expiresInSeconds engine (w.pages i).app.target ms =
            .ok (some ((1000 * live.expiresAt.toNat - ms) / 1000)))) ∧
    ((render engine (w.pages i).app).paymentQr = none ∨
      (render engine (w.pages i).app).accessQr = none) := by
  have hsound : Sound srv engine clock False t w := Site.sound_of_run hrun hhonest False.elim
  have hgrounded := (hsound.knows i).app
  refine ⟨fun code hcode => ?_, fun link hlink => ?_, fun hstate => ?_, (one_code engine _).1⟩
  · obtain ⟨-, hprop, -⟩ := render_paymentQr.1 hcode
    obtain ⟨live, response, hrequests⟩ := hgrounded.requests hprop
    obtain ⟨png, hrender, heq⟩ := hrequests.paymentQr_eq hcode
    exact ⟨live, png, hrequests.sessionId, hrequests.kept, hrender, heq⟩
  · obtain ⟨-, hprop, -⟩ := render_wallet.1 hlink
    obtain ⟨live, response, hrequests⟩ := hgrounded.requests hprop
    refine ⟨live, hrequests.sessionId, hrequests.kept, ?_⟩
    rw [App.paymentProp, hrequests.shownAs.qrPayload] at hprop
    exact (Option.some.inj hprop).symm
  · obtain ⟨live, now, hpasses, -⟩ := hgrounded.pass (by rw [hstate]; rfl)
    obtain ⟨text, png, htext, hrender, hdraws, hopens⟩ :=
      hpasses.draws engine hsound.served hS hstate
    refine ⟨live, text, png, hpasses.kept, htext, hrender, hdraws, hopens, fun hne hlt ms => ?_⟩
    rw [App.target, if_pos hstate, hpasses.accessExpiresAt hne hlt, expiresInSeconds]

open Site in
/-- **The pass of the session of the page.**  If in such a run new sessions are asked for, and
taken, only when no status is being asked for, then a standalone page that shows a pass shows
that of its own session, with the request for payment of this session. -/
theorem own_of_run (hrun : Run (Site.step srv engine) (.init engine clock clocks) t w)
    (hhonest : ∀ e ∈ t, e.1.Honest e.2) (hpatient : ∀ e ∈ t, e.1.Patient e.2)
    (hS : srv.scheme.Correct) (hstate : (w.pages i).app.state = .confirmed) :
    ∃ live text png, (w.pages i).app.sessionId = some (.str live.paymentRequest.sessionId) ∧
      w.world.server.sessions.lookup live.paymentRequest.sessionId = some live ∧
      live.paymentRequest.ShownAs (orNull (w.pages i).app.paymentData) ∧
      live.accessToken = some text ∧ renderPngDataUrl srv.qr text 320 = some png ∧
      (render engine (w.pages i).app).accessQr = some (.str png) := by
  have hsound : Sound srv engine clock True t w := Site.sound_of_run hrun hhonest fun _ => hpatient
  have hgrounded := (hsound.knows i).app
  obtain ⟨live, now, hpasses, hown⟩ := hgrounded.pass (by rw [hstate]; rfl)
  obtain ⟨text, png, htext, hrender, hdraws, -⟩ :=
    hpasses.draws engine hsound.served hS hstate
  have hsessionId := hown True.intro
  refine ⟨live, text, png, hsessionId, hpasses.kept, ?_, htext, hrender, hdraws⟩
  rcases hgrounded.payment with ⟨hnone, -⟩ | ⟨live', response, hrequests⟩
  · rw [hsessionId] at hnone
    cases hnone
  · have hsame := hrequests.sessionId.symm.trans hsessionId
    have hid : live'.paymentRequest.sessionId = live.paymentRequest.sessionId :=
      Value.str.inj (Option.some.inj hsame)
    have hkept := hrequests.kept
    rw [hid, hpasses.kept] at hkept
    rw [Option.some.inj hkept]
    exact hrequests.shownAs

open Site in
/-- **A standalone page never shows a pass.**  In every run of the server and of any number of
pages, in which the answers that arrive were sent and the amounts on all pages of records are
written as Horizon does, no standalone page ever knows of a payment, whatever is paid. -/
theorem standalone_never_confirmed
    (hrun : Run (Site.step srv engine) (.init engine clock clocks) t w)
    (hhonest : ∀ e ∈ t, e.1.Honest e.2)
    (hspelled : ∀ s page, (s, .watchLookup (some page)) ∈ World.serverTrace (worldTrace t) →
      ∀ record ∈ page, ∃ n, record.amount = horizonAmount n) (i : ℕ) :
    (w.pages i).app.state ≠ .detected ∧ (w.pages i).app.state ≠ .confirmed ∧
      (render engine (w.pages i).app).accessQr = none := by
  have hsound : Sound srv engine clock False t w := Site.sound_of_run hrun hhonest False.elim
  have hworld := world_of_run hrun
  have hnone : (w.pages i).app.state.hasPass ≠ true := by
    intro hpass
    obtain ⟨live, now, hpasses, -⟩ := (hsound.knows i).app.pass hpass
    obtain ⟨-, k, -, hdrawn, hbody⟩ := hpasses.own
    obtain ⟨memo, hmemo, hasked⟩ := hsound.asked _ k _ hdrawn hbody
    have hkept := hpasses.kept
    rw [← hmemo] at hkept
    obtain ⟨s, page, record, hmem, hrecord, hamount⟩ := amount_of_token (server_of_run hworld)
      (drawnApart_of_run hworld (honest_of_worldTrace hhonest)).1 hkept hpasses.token hasked
    obtain ⟨n, hn⟩ := hspelled s page hmem record hrecord
    exact unspelled_default n (hamount.symm.trans hn)
  have hconfirmed : (w.pages i).app.state ≠ .confirmed := by
    intro hstate
    rw [hstate] at hnone
    exact hnone rfl
  refine ⟨?_, hconfirmed, ?_⟩
  · intro hstate
    rw [hstate] at hnone
    exact hnone rfl
  · rw [Option.eq_none_iff_forall_ne_some]
    intro code hcode
    exact hconfirmed (render_accessQr.1 hcode).1

/-! ### An example

A page asks for ten units, and a record is returned that is written as the page does it.  Then
the same with a record as Horizon writes it. -/

namespace Site

/-- Of the step nothing is taken for granted but that no memo is drawn twice. -/
def plain (w : Site) : Action → Bool
  | .world a => w.world.plain a
  | .page _ (.answer _ _) => false
  | .page _ _ => true

lemma honest_of_plain {a : Action} (h : w.plain a = true) : w.Honest a := by
  cases a with
  | world a => exact World.honest_of_plain h
  | page i a =>
      cases a with
      | answer handle fetched => cases h
      | _ => exact True.intro

instance (w : Site) : (a : Action) → Decidable (w.Patient a)
  | .world _ => .isTrue True.intro
  | .page i a => inferInstanceAs (Decidable (Checkout.Patient (w.pages i) a))

/-- Such a step, in which the records are those of ten units, if they are restricted. -/
def checked (ten : Bool) (w : Site) (a : Action) : Bool :=
  w.plain a && decide (w.Patient a) && (!ten || a.ofWorld.all World.Action.tenOnly)

lemma checked_spec {ten : Bool} {a : Action} (h : checked ten w a = true) :
    w.Honest a ∧ w.Patient a ∧ (ten = true → a.ofWorld.all World.Action.tenOnly = true) := by
  simp only [checked, Bool.and_eq_true, decide_eq_true_iff, Bool.or_eq_true,
    Bool.not_eq_true'] at h
  obtain ⟨⟨hplain, hpatient⟩, hten⟩ := h
  refine ⟨honest_of_plain hplain, hpatient, fun htrue => ?_⟩
  rcases hten with hfalse | hall
  · rw [htrue] at hfalse
    cases hfalse
  · exact hall

abbrev demoStep : Site → Action → Option Site := Site.step (demoServer 300) plainEngine

/-- The session is created, and the answer is under way. -/
def demoStart : Site := endOf demoStep (.init plainEngine 0 fun _ => 0)
  ([Haske.Action.createRequest 0 defaultPayload.toBody demoMemo, .createClock 0,
    .createInsert 0, .createRespond 0].map fun a => .world (.server a))

def demoCreatedAnswer : Action :=
  .page 0 (.answer 1 (.response 200 (.ok (readCreated defaultResponse))))

/-- The page shows the session. -/
def demoWaiting : Site := endOf demoStep demoStart [demoCreatedAnswer]

/-- A record that is returned for the session, with this amount. -/
def demoLookup (amount : String) : List Action :=
  [Haske.Action.watchSnapshot [(⟨demoMemo.text, defaultSession⟩, 0)],
    .watchLookup (some [{ demoRecord with amount := amount }])].map fun a => .world (.server a)

/-- The session ends, the user asks for another one, and the answer is under way. -/
def demoRenewed : Site := endOf demoStep demoWaiting
  ([.page 0 (.elapse 899001), .page 0 .tick, .page 0 .click] ++
    [Haske.Action.tick 900, .createRequest 2 defaultPayload.toBody otherMemo, .createClock 2,
      .createInsert 2, .createRespond 2].map fun a => .world (.server a))

/-- The other session. -/
def demoOther : SessionRecord :=
  (demoRenewed.world.server.sessions.lookup otherMemo.text).getD defaultSession

def demoOtherResponse : CreatePaymentResponse :=
  (demoOther.createResponse (demoServer 300).qr).getD defaultResponse

def demoRenewedAnswer : Action :=
  .page 0 (.answer 3 (.response 200 (.ok (readCreated demoOtherResponse))))

/-- The page shows the other session. -/
def demoTaken : Site := endOf demoStep demoRenewed [demoRenewedAnswer]

/-- The other session is paid for, and the answer to the first poll is under way. -/
def demoPolled : Site := endOf demoStep demoTaken
  ([Haske.Action.watchSnapshot
      [(⟨demoMemo.text, defaultSession⟩, 900), (⟨otherMemo.text, demoOther⟩, 900)],
    .watchLookup (some [{ demoRecord with amount := "10", memo := some otherMemo.text }]),
    .watchIssue demoNonce, .watchMark].map (fun a => .world (.server a)) ++
  [.page 0 (.elapse 3000), .page 0 (.fire 4), .world (.server (.statusGet 1 otherMemo.text)),
    .world (.server (.statusRespond 1))])

/-- The session as the poll finds it. -/
def demoPaid : SessionRecord := (demoPolled.world.found 13).getD defaultSession

def demoStatusAnswer : Action :=
  .page 0 (.answer 5 (.response 200 (.ok (readResponse (toStatusResponse demoPaid 900)))))

/-- The page knows of the payment. -/
def demoDetected : Site := endOf demoStep demoPolled [demoStatusAnswer]

/-- The page shows the pass. -/
def demoConfirmed : Site := endOf demoStep demoDetected
  [.page 0 (.elapse 850), .page 0 (.fire 6)]

/-- An answer that was sent arrives. -/
lemma honest_of_sent {w : Site} {handle retryCount : ℕ} {request : Checkout.Request}
    {body : Value} {r : Response}
    (hget : (w.pages 0).pending.lookup handle = some (.fetch request retryCount))
    (hr : r ∈ w.world.responses) (hreaches : request.Reaches r.request)
    (hparse : Js.parse r.text = some body)
    (hbody : ∀ sent, request = .create sent → sent = paymentRequestBody ∧
      w.bodies r.since = some defaultPayload.toBody) :
    w.Honest (.page 0 (.answer handle (.response 200 (.ok body)))) := by
  intro request' retryCount' hget' body' hok
  obtain ⟨rfl, rfl⟩ := Callback.fetch.inj (Option.some.inj (hget.symm.trans hget'))
  have hsame : (Except.ok body : Except String Value) = .ok body' := hok
  rw [← Except.ok.inj hsame]
  refine ⟨r, hr, hreaches, hparse, fun sent hrequest => ?_⟩
  obtain ⟨rfl, hasked⟩ := hbody sent hrequest
  exact ⟨_, read_paymentRequestBody, hasked⟩

/-- What is said of every step of the example. -/
def Fine (ten : Bool) (t : Trace) : Prop :=
  ∀ e ∈ t, e.1.Honest e.2 ∧ e.1.Patient e.2 ∧
    (ten = true → e.2.ofWorld.all World.Action.tenOnly = true)

lemma Fine.append {ten : Bool} {t t' : Trace} (h : Fine ten t) (h' : Fine ten t') :
    Fine ten (t ++ t') := by
  intro e he
  rcases List.mem_append.1 he with he | he
  · exact h e he
  · exact h' e he

lemma fine_of_checked {ten : Bool} {t : Trace} (h : ∀ e ∈ t, checked ten e.1 e.2 = true) :
    Fine ten t := fun e he => checked_spec (h e he)

lemma fine_answer {ten : Bool} {w : Site} {handle : ℕ} {fetched : Fetched}
    (h : w.Honest (.page 0 (.answer handle fetched)))
    (hpatient : w.Patient (.page 0 (.answer handle fetched))) :
    Fine ten [(w, .page 0 (.answer handle fetched))] := by
  intro e he
  rw [List.mem_singleton.1 he]
  exact ⟨h, hpatient, fun _ => rfl⟩

/-- The run up to the page that shows the session. -/
lemma run_demoWaiting (ten : Bool) :
    ∃ t, Run demoStep (.init plainEngine 0 fun _ => 0) t demoWaiting ∧ Fine ten t := by
  obtain ⟨t₁, hrun₁, hchecked₁⟩ : ∃ t,
      Run demoStep (.init plainEngine 0 fun _ => 0) t demoStart ∧
        ∀ e ∈ t, checked ten e.1 e.2 = true := by
    cases ten with
    | false => exact exists_run_endOf (by decide +kernel)
    | true => exact exists_run_endOf (by decide +kernel)
  have hstep : demoStep demoStart demoCreatedAnswer = some demoWaiting :=
    step_endOf (by decide +kernel)
  have hresponses : demoStart.world.responses = [⟨.createPayment, 0, defaultResponse.toText⟩] :=
    by decide +kernel
  have hget : (demoStart.pages 0).pending.lookup 1 =
      some (.fetch (.create paymentRequestBody) 0) := by decide +kernel
  have hhonest : demoStart.Honest demoCreatedAnswer :=
    honest_of_sent (r := ⟨.createPayment, 0, defaultResponse.toText⟩) hget
      (by rw [hresponses]; exact List.mem_singleton_self _) True.intro
      (parse_created defaultResponse) fun _ hsent =>
        ⟨(Checkout.Request.create.inj hsent).symm, by decide +kernel⟩
  exact ⟨_, hrun₁.snoc hstep,
    (fine_of_checked hchecked₁).append (fine_answer hhonest (by decide +kernel))⟩

/-- The run up to the page that shows the other session. -/
lemma run_demoTaken :
    ∃ t, Run demoStep (.init plainEngine 0 fun _ => 0) t demoTaken ∧ Fine false t := by
  obtain ⟨t₁, hrun₁, hfine₁⟩ := run_demoWaiting false
  obtain ⟨t₂, hrun₂, hchecked₂⟩ : ∃ t, Run demoStep demoWaiting t demoRenewed ∧
      ∀ e ∈ t, checked false e.1 e.2 = true := exists_run_endOf (by decide +kernel)
  have hstep : demoStep demoRenewed demoRenewedAnswer = some demoTaken :=
    step_endOf (by decide +kernel)
  have hresponses : demoRenewed.world.responses =
      [⟨.createPayment, 5, demoOtherResponse.toText⟩,
        ⟨.createPayment, 0, defaultResponse.toText⟩] := by decide +kernel
  have hget : (demoRenewed.pages 0).pending.lookup 3 =
      some (.fetch (.create paymentRequestBody) 0) := by decide +kernel
  have hhonest : demoRenewed.Honest demoRenewedAnswer :=
    honest_of_sent (r := ⟨.createPayment, 5, demoOtherResponse.toText⟩) hget
      (by rw [hresponses]; exact List.mem_cons_self) True.intro
      (parse_created demoOtherResponse) fun _ hsent =>
        ⟨(Checkout.Request.create.inj hsent).symm, by decide +kernel⟩
  exact ⟨_, (hrun₁.append hrun₂).snoc hstep, (hfine₁.append (fine_of_checked hchecked₂)).append
    (fine_answer hhonest (by decide +kernel))⟩

/-- What is told about a session that is paid for is the same at all times. -/
lemma Sound.parsed (h : Sound srv engine clock own t w) {r : Response}
    (hr : r ∈ w.world.responses) {id : String} (hrequest : r.request = .getPaymentStatus id)
    {session : SessionRecord} (hfound : w.world.found r.since = some session)
    (htoken : session.accessToken.isSome = true) (now : UInt64) :
    Js.parse r.text = some (readResponse (toStatusResponse session now)) := by
  obtain ⟨session', now', -, -, -, -, hfound', hparse, -⟩ :=
    parsed_of_tells h.served (h.served.response r hr) hrequest
  obtain rfl := Option.some.inj (hfound.symm.trans hfound')
  rw [hparse, toStatusResponse, toStatusResponse, statusOf, statusOf, if_pos htoken, if_pos htoken]

/-- What the page reads of the session that is paid for. -/
lemma demoPaid_read {t : Trace} (hrun : Run demoStep (.init plainEngine 0 fun _ => 0) t demoPolled)
    (hfine : Fine false t) :
    ∃ r ∈ demoPolled.world.responses, r.request = .getPaymentStatus otherMemo.text ∧
      Js.parse r.text = some (readResponse (toStatusResponse demoPaid 900)) := by
  have hsound : Sound (demoServer 300) plainEngine 0 False t demoPolled :=
    Site.sound_of_run hrun (fun e he => (hfine e he).1) False.elim
  obtain ⟨r, hr, hrequest, hsince⟩ : ∃ r ∈ demoPolled.world.responses,
      r.request = .getPaymentStatus otherMemo.text ∧ r.since = 13 := by decide +kernel
  refine ⟨r, hr, hrequest, hsound.parsed hr hrequest ?_ (by decide +kernel) 900⟩
  rw [hsince]
  decide +kernel

lemma run_demoConfirmed :
    ∃ t, Run demoStep (.init plainEngine 0 fun _ => 0) t demoConfirmed ∧ Fine false t := by
  obtain ⟨t₁, hrun₁, hfine₁⟩ := run_demoTaken
  obtain ⟨t₂, hrun₂, hchecked₂⟩ : ∃ t, Run demoStep demoTaken t demoPolled ∧
      ∀ e ∈ t, checked false e.1 e.2 = true := exists_run_endOf (by decide +kernel)
  have hrun := hrun₁.append hrun₂
  have hfine := hfine₁.append (fine_of_checked hchecked₂)
  have hstep : demoStep demoPolled demoStatusAnswer = some demoDetected :=
    step_endOf (by decide +kernel)
  have hget : (demoPolled.pages 0).pending.lookup 5 =
      some (.fetch (.status (some (.str otherMemo.text))) 0) := by decide +kernel
  obtain ⟨r, hr, hrequest, hparse⟩ := demoPaid_read hrun hfine
  have hreaches : (Checkout.Request.status (some (.str otherMemo.text))).Reaches r.request := by
    rw [hrequest]
    exact rfl
  have hhonest : demoPolled.Honest demoStatusAnswer :=
    honest_of_sent hget hr hreaches hparse nofun
  obtain ⟨t₃, hrun₃, hchecked₃⟩ : ∃ t, Run demoStep demoDetected t demoConfirmed ∧
      ∀ e ∈ t, checked false e.1 e.2 = true := exists_run_endOf (by decide +kernel)
  exact ⟨_, (hrun.snoc hstep).append hrun₃,
    (hfine.append (fine_answer hhonest (by decide +kernel))).append (fine_of_checked hchecked₃)⟩

end Site

theorem drawn_of_run_demo :
    ∃ t w live text png, Run Site.demoStep (.init plainEngine 0 fun _ => 0) t w ∧
      w.world.server.sessions.lookup live.paymentRequest.sessionId = some live ∧
      live.accessToken = some text ∧
      renderPngDataUrl (demoServer 300).qr text 320 = some png ∧
      (render plainEngine (w.pages 0).app).accessQr = some (.str png) ∧
      (demoServer 300).Opens text live.expiresAt := by
  obtain ⟨t, hrun, hfine⟩ := Site.run_demoConfirmed
  obtain ⟨-, -, hpass, -⟩ :=
    drawn_of_run hrun (fun e he => (hfine e he).1) Signing.Scheme.constant_correct 0
  obtain ⟨live, text, png, hlive, htext, hrender, hdraws, hopens, -⟩ := hpass (by decide +kernel)
  exact ⟨t, _, live, text, png, hrun, hlive, htext, hrender, hdraws, hopens⟩

theorem own_of_run_demo :
    ∃ t w live text png, Run Site.demoStep (.init plainEngine 0 fun _ => 0) t w ∧
      (w.pages 0).app.state = .confirmed ∧
      (w.pages 0).app.sessionId = some (.str live.paymentRequest.sessionId) ∧
      w.world.server.sessions.lookup live.paymentRequest.sessionId = some live ∧
      live.paymentRequest.ShownAs (orNull (w.pages 0).app.paymentData) ∧
      live.accessToken = some text ∧
      renderPngDataUrl (demoServer 300).qr text 320 = some png ∧
      (render plainEngine (w.pages 0).app).accessQr = some (.str png) := by
  obtain ⟨t, hrun, hfine⟩ := Site.run_demoConfirmed
  have hstate : (Site.demoConfirmed.pages 0).app.state = .confirmed := by decide +kernel
  obtain ⟨live, text, png, hown⟩ := own_of_run hrun (fun e he => (hfine e he).1)
    (fun e he => (hfine e he).2.1) Signing.Scheme.constant_correct hstate
  exact ⟨t, _, live, text, png, hrun, hstate, hown⟩

lemma Site.tenOnly_of_fine {t : Site.Trace} (h : Site.Fine true t) :
    ∀ e ∈ Site.worldTrace t, e.2.tenOnly = true := by
  intro e he
  obtain ⟨⟨w, a⟩, hmem, heq⟩ := List.mem_filterMap.1 he
  cases a with
  | world a =>
      obtain rfl := Option.some.inj heq
      have hten := (h _ hmem).2.2 rfl
      simpa [Site.Action.ofWorld] using hten
  | page i a => cases heq

/-- Ten units are paid, and the page still waits. -/
theorem standalone_never_confirmed_demo :
    ∃ t w, Run Site.demoStep (.init plainEngine 0 fun _ => 0) t w ∧
      (w.pages 0).app.state = .waiting ∧
      (w.pages 0).app.sessionId = some (.str demoMemo.text) ∧
      (w.pages 0).app.state ≠ .detected ∧ (w.pages 0).app.state ≠ .confirmed ∧
      (render plainEngine (w.pages 0).app).accessQr = none := by
  obtain ⟨t₁, hrun₁, hfine₁⟩ := Site.run_demoWaiting true
  obtain ⟨t₂, w, hrun₂, hchecked₂⟩ : ∃ t w, Run Site.demoStep Site.demoWaiting t w ∧
      (∀ e ∈ t, Site.checked true e.1 e.2 = true) ∧ (w.pages 0).app.state = .waiting ∧
      (w.pages 0).app.sessionId = some (.str demoMemo.text) := by
    obtain ⟨t, hrun, hchecked⟩ : ∃ t, Run Site.demoStep Site.demoWaiting t
        (endOf Site.demoStep Site.demoWaiting (Site.demoLookup (horizonAmount 100000000))) ∧
        ∀ e ∈ t, Site.checked true e.1 e.2 = true := exists_run_endOf (by decide +kernel)
    exact ⟨t, _, hrun, hchecked, by decide +kernel, rfl⟩
  obtain ⟨hchecked₂, hstate, hsessionId⟩ := hchecked₂
  have hfine := hfine₁.append (Site.fine_of_checked hchecked₂)
  refine ⟨_, w, hrun₁.append hrun₂, hstate, hsessionId, ?_⟩
  exact standalone_never_confirmed (hrun₁.append hrun₂) (fun e he => (hfine e he).1)
    (spelled_of_tenOnly (Site.tenOnly_of_fine hfine)) 0

end Haske
