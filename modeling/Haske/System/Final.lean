import Haske.System.Shown

/-!
# A pass is not taken back

A page that has shown the pass of a session never shows this session as one that waits or that
has expired, however often it is loaded again and whatever answers are under way
(`confirmed_kept`).  The server does not forget a payment; but that is not enough, as an older
answer could arrive later.  It cannot: a page waits for one answer about a session at a time,
and what a later request finds is never older.
-/

namespace Haske

open Json Js Machine

variable {srv : Server} {clock : UInt64} {w w' : World} {i : ℕ} {id : String}

/-! ### Requests in time -/

/-- A request that a page waits for after a step is sent by the step, or was before. -/
lemma World.recordSent_cases {a : Recovery.Action} {page : Recovery.Hook} {request : Request}
    (hawaits : page.awaits request = true) :
    w.recordSent i a page request = w.now ∨
      (w.pages i).awaits request = true ∧ w.recordSent i a page request = w.sent i request := by
  rw [World.recordSent]
  split
  · exact Or.inl rfl
  · rename_i hold
    refine Or.inr ⟨?_, rfl⟩
    by_contra hnone
    exact hold ⟨hawaits, Or.inr (by simpa using hnone)⟩

/-- A page that creates a session began to after all the sessions that it works with were. -/
def World.Ordered (w : World) (i : ℕ) : Prop :=
  (w.pages i).awaits .createPayment = true →
    Recovery.Within (fun _ => True)
      (fun id => ∃ k, w.drawn id = some k ∧ k < w.sent i .createPayment) (w.pages i)

/-- The sessions in the map were created. -/
lemma Served.drawn_of_lookup (h : Served srv clock w) {live : SessionRecord}
    (hlive : w.server.sessions.lookup id = some live) : ∃ k, w.drawn id = some k ∧ k < w.now := by
  obtain ⟨t, hrun, -, hdrawn⟩ := h.reached
  have hmem := mem_memos_of_inUse hrun (Or.inl ⟨live, hlive⟩)
  obtain ⟨k, hk⟩ := Option.ne_none_iff_exists'.1 (hdrawn id hmem)
  exact ⟨k, hk, h.drawn id k hk⟩

/-- After the answer to a creation a page does not wait for one. -/
lemma awaits_of_createAnswer {page page' : Recovery.Hook} {requestId freshId : String}
    {outcomes : ℕ → FetchOutcome}
    (hstep : Recovery.step page (.createAnswer requestId freshId outcomes) = some page') :
    page.awaits .createPayment = true ∧ page'.awaits .createPayment = false := by
  rw [Recovery.step] at hstep
  split at hstep
  · rename_i hpromise
    obtain rfl := Option.some.inj hstep
    exact ⟨hpromise, (Recovery.sessionCreated_requests _ page).1⟩
  · cases hstep

/-- Nor for one about a session after the answer about it. -/
lemma awaits_of_statusAnswer {page page' : Recovery.Hook} {sessionId requestId freshId : String}
    {outcomes : ℕ → FetchOutcome} (hnodup : page.statusRequestCache.Nodup)
    (hstep : Recovery.step page (.statusAnswer sessionId requestId freshId outcomes) =
      some page') :
    sessionId ∈ page.statusRequestCache ∧
      page'.awaits (.getPaymentStatus sessionId) = false := by
  rw [Recovery.step] at hstep
  split at hstep
  · rename_i hcache
    obtain rfl := Option.some.inj hstep
    refine ⟨by simpa using hcache, ?_⟩
    rw [Recovery.Hook.awaits, Recovery.statusRequested_cache]
    simpa using hnodup.not_mem_erase
  · cases hstep

lemma World.Ordered.step (h : w.Ordered i) (hserved : Served srv clock w)
    (hinformed : w.Informed i) {a : World.Action} (hhonest : w.Honest a)
    (hstep : w.step srv a = some w') : w'.Ordered i := by
  cases a with
  | server a =>
      simp only [World.step, Option.map_eq_some_iff] at hstep
      obtain ⟨server, hserver, rfl⟩ := hstep
      intro hawaits
      refine (h hawaits).mono (fun _ _ => True.intro) ?_
      rintro id ⟨k, hdrawn, hk⟩
      exact ⟨k, World.recordDrawn_mono hhonest hdrawn, hk⟩
  | page j a =>
      simp only [World.step, Option.map_eq_some_iff] at hstep
      obtain ⟨page, hpage, rfl⟩ := hstep
      by_cases hij : i = j
      · subst hij
        have hnext := Recovery.Within.step hinformed (admits_of_served hserved hhonest) hpage
        rw [World.Ordered]
        dsimp only [World.withPage]
        rw [Function.update_self, Function.update_self]
        intro hawaits
        rcases World.recordSent_cases hawaits with hnow | ⟨hold, hsent⟩
        · -- the creation begins now, and the page works with sessions that are in the map
          rw [hnow]
          refine hnext.mono (fun _ _ => True.intro) ?_
          rintro id ⟨live, hlive⟩
          exact hserved.drawn_of_lookup hlive
        · rw [hsent]
          refine Recovery.Within.step (h hold) ?_ hpage
          refine ⟨True.intro, fun _ _ _ => True.intro, fun _ _ _ => True.intro, ?_, ?_⟩
          · rintro requestId freshId outcomes payment rfl -
            rw [(awaits_of_createAnswer hpage).2] at hawaits
            cases hawaits
          · rintro sessionId requestId freshId outcomes statusResponse rfl hP hok
            obtain ⟨r, hr, hrequest, -, rfl⟩ := World.Delivers.of_ok hhonest hok
            obtain ⟨session, now, hid, -, -, -, -, hread, -⟩ :=
              status_of_tells hserved (hserved.response r hr) hrequest
            refine ⟨fun _ _ => True.intro, sessionId, ?_, hP⟩
            rw [hread, ← hid]
            rfl
      · rw [World.Ordered]
        dsimp only [World.withPage]
        rw [Function.update_of_ne hij, Function.update_of_ne hij]
        exact h

/-! ### Sessions that are paid for good -/

/-- The session is paid, and so are all the answers about it that can still reach the page. -/
structure World.Secured (w : World) (i : ℕ) (id : String) : Prop where
  paid : ∃ live, w.server.sessions.lookup id = some live ∧ live.accessToken.isSome
  answers : ∃ k ≤ w.now,
    (∀ k' session, k ≤ k' → w.found k' = some session →
      session.paymentRequest.sessionId = id → session.accessToken.isSome) ∧
    ((w.pages i).awaits (.getPaymentStatus id) = true → k ≤ w.sent i (.getPaymentStatus id))
  creation : ∃ k, w.drawn id = some k ∧
    ((w.pages i).awaits .createPayment = true → k < w.sent i .createPayment)

/-- If the session is shown, then with its pass, or with an error. -/
def KeepsPass (id : String) (store : PaymentState) : Prop :=
  store.sessionId = some id → store.status = .confirmed ∨ store.status = .error

lemma World.Secured.of_server (h : w.Secured i id) (hserved : Served srv clock w)
    {a : Haske.Action} (hhonest : w.Honest (.server a))
    (hstep : w.step srv (.server a) = some w') : w'.Secured i id := by
  simp only [World.step, Option.map_eq_some_iff] at hstep
  obtain ⟨server, hserver, rfl⟩ := hstep
  obtain ⟨live, hlive, htoken⟩ := h.paid
  constructor
  case paid =>
    obtain ⟨live', hlive', -, hsame⟩ := lookup_of_distinct hserved.distinct hserver hlive
    obtain rfl := hsame (not_unset_of_token htoken)
    exact ⟨live', hlive', htoken⟩
  case answers =>
    obtain ⟨k, hk, hfound, hsent⟩ := h.answers
    refine ⟨k, Nat.le_succ_of_le hk, ?_, hsent⟩
    intro k' session hle hk' hid
    rcases World.recordFound_inv hk' with hold | ⟨-, id', hid'⟩
    · exact hfound k' session hle hold hid
    · -- what is found now is in the map
      obtain rfl : id' = id := (hserved.session hid').1.symm.trans hid
      rw [hlive, Option.some.injEq] at hid'
      exact hid' ▸ htoken
  case creation =>
    obtain ⟨k, hk, hsent⟩ := h.creation
    exact ⟨k, World.recordDrawn_mono hhonest hk, hsent⟩

lemma World.Secured.of_page (h : w.Secured i id) (hserved : Served srv clock w) {j : ℕ}
    {a : Recovery.Action} (hstep : w.step srv (.page j a) = some w') : w'.Secured i id := by
  simp only [World.step, Option.map_eq_some_iff] at hstep
  obtain ⟨page, -, rfl⟩ := hstep
  obtain ⟨k, hk, hfound, hsent⟩ := h.answers
  obtain ⟨born, hborn, hcreation⟩ := h.creation
  by_cases hij : i = j
  · subst hij
    refine ⟨h.paid, ⟨k, Nat.le_succ_of_le hk, hfound, ?_⟩, born, hborn, ?_⟩
    · dsimp only [World.withPage]
      rw [Function.update_self, Function.update_self]
      intro hawaits
      rcases World.recordSent_cases hawaits with hnow | ⟨hold, hsame⟩
      · rw [hnow]
        exact hk
      · rw [hsame]
        exact hsent hold
    · dsimp only [World.withPage]
      rw [Function.update_self, Function.update_self]
      intro hawaits
      rcases World.recordSent_cases hawaits with hnow | ⟨hold, hsame⟩
      · rw [hnow]
        exact hserved.drawn id born hborn
      · rw [hsame]
        exact hcreation hold
  · refine ⟨h.paid, ⟨k, Nat.le_succ_of_le hk, hfound, ?_⟩, born, hborn, ?_⟩
    · dsimp only [World.withPage]
      rw [Function.update_of_ne hij, Function.update_of_ne hij]
      exact hsent
    · dsimp only [World.withPage]
      rw [Function.update_of_ne hij, Function.update_of_ne hij]
      exact hcreation

lemma World.Secured.step (h : w.Secured i id) (hserved : Served srv clock w) {a : World.Action}
    (hhonest : w.Honest a) (hstep : w.step srv a = some w') : w'.Secured i id := by
  cases a with
  | server a => exact h.of_server hserved hhonest hstep
  | page j a => exact h.of_page hserved hstep

/-- A session is secured when its pass is shown. -/
lemma World.Secured.of_answer (hserved : Served srv clock w) (hordered : w.Ordered i)
    (hnodup : (w.pages i).statusRequestCache.Nodup) {requestId freshId : String}
    {outcomes : ℕ → FetchOutcome} {page : Recovery.Hook} {sessionId : String} {r : Response}
    (hpage : Recovery.step (w.pages i) (.statusAnswer sessionId requestId freshId outcomes) =
      some page)
    (hstep : w.step srv (.page i (.statusAnswer sessionId requestId freshId outcomes)) = some w')
    (hr : r ∈ w.responses) (hrequest : r.request = .getPaymentStatus sessionId)
    {store : PaymentState}
    (hconfirmed : (store.applyStatus (toSnapshot (parseJsonSafely r.text))).status = .confirmed) :
    w'.Secured i sessionId := by
  simp only [World.step, hpage, Option.map_some, Option.some.injEq] at hstep
  subst hstep
  obtain ⟨session, now, rfl, hcons, ⟨live, hlive, -, hsame⟩, -, hfound, hread, -⟩ :=
    status_of_tells hserved (hserved.response r hr) hrequest
  obtain ⟨hcached, hended⟩ := awaits_of_statusAnswer hnodup hpage
  rw [hread] at hconfirmed
  have hsome := (confirmed_applyStatus hcons now store).1 hconfirmed
  obtain rfl := hsame (not_unset_of_token hsome)
  have hlt := (hserved.found _ _ hfound).1
  obtain ⟨born, hborn, hnow⟩ := hserved.drawn_of_lookup hlive
  refine ⟨⟨live, hlive, hsome⟩, ⟨r.since, Nat.le_succ_of_le (Nat.le_of_lt hlt), ?_, ?_⟩, born,
    hborn, ?_⟩
  · intro k' session' hle hk' hid
    -- what was found later is what was found here
    obtain rfl := hserved.later _ _ _ _ hle hfound hk' hid.symm (not_unset_of_token hsome)
    exact hsome
  · dsimp only [World.withPage]
    rw [Function.update_self, hended]
    intro hawaits
    cases hawaits
  · dsimp only [World.withPage]
    rw [Function.update_self, Function.update_self]
    intro hawaits
    rcases World.recordSent_cases hawaits with hsent | ⟨hold, hsent⟩
    · rw [hsent]
      exact hnow
    · obtain ⟨k, hk, hlt'⟩ := (hordered hold).requested _ hcached
      obtain rfl := Option.some.inj (hborn.symm.trans hk)
      rw [hsent]
      exact hlt'

/-- All that a page with its requests keeps to. -/
structure World.Sound (srv : Server) (clock : UInt64) (w : World) (i : ℕ) : Prop where
  served : Served srv clock w
  informed : w.Informed i
  ordered : w.Ordered i
  nodup : (w.pages i).statusRequestCache.Nodup
  secured : ∀ id, (w.pages i).store.status = .confirmed → (w.pages i).store.sessionId = some id →
    w.Secured i id

lemma World.Sound.secured_page (h : w.Sound srv clock i) {a : Recovery.Action}
    (hhonest : w.Honest (.page i a)) (hstep : w.step srv (.page i a) = some w') {id : String}
    (hconfirmed : (w'.pages i).store.status = .confirmed)
    (hid : (w'.pages i).store.sessionId = some id) : w'.Secured i id := by
  have hwithin : Recovery.Within (fun store => ∀ id, store.status = .confirmed →
      store.sessionId = some id → w'.Secured i id) (fun _ => True) (w.pages i) := by
    refine ⟨?_, fun _ _ => True.intro, fun _ _ => True.intro, fun _ _ => True.intro,
      fun _ _ => True.intro⟩
    intro id hconfirmed hid
    exact (h.secured id hconfirmed hid).step h.served hhonest hstep
  have hstep' := hstep
  simp only [World.step, Option.map_eq_some_iff] at hstep'
  obtain ⟨page, hpage, rfl⟩ := hstep'
  dsimp only [World.withPage] at hconfirmed hid
  rw [Function.update_self] at hconfirmed hid
  refine (hwithin.step ?_ hpage).store id hconfirmed hid
  refine ⟨?_, ?_, fun _ _ hstore => hstore, ?_, ?_⟩
  · intro id hnone
    cases hnone
  · intro state message _ id hfailed
    cases hfailed
  · rintro requestId freshId outcomes payment rfl hok
    obtain ⟨r, hr, hrequest, -, rfl⟩ := World.Delivers.of_ok hhonest hok
    obtain ⟨record, live, response, -, -, hresponse, hread, -⟩ :=
      created_of_tells (h.served.response r hr) hrequest
    refine ⟨?_, record.paymentRequest.sessionId, ?_, True.intro⟩
    · intro state _ id hwaiting
      cases hwaiting
    · rw [hread, (shownAs_created hresponse).sessionId]
      rfl
  · rintro sessionId requestId freshId outcomes statusResponse rfl - hok
    obtain ⟨r, hr, hrequest, -, rfl⟩ := World.Delivers.of_ok hhonest hok
    obtain ⟨session, now, hkey, -, -, -, -, hread, -⟩ :=
      status_of_tells h.served (h.served.response r hr) hrequest
    have hnamed : asString (prop (parseJsonSafely r.text) "session_id") = some sessionId := by
      rw [hread, ← hkey]
      rfl
    refine ⟨?_, sessionId, hnamed, True.intro⟩
    intro store _ id hconfirmed hid
    obtain rfl : sessionId = id := Option.some.inj (hnamed.symm.trans hid)
    exact World.Secured.of_answer h.served h.ordered h.nodup hpage hstep hr hrequest hconfirmed

lemma World.Sound.step (h : w.Sound srv clock i) {a : World.Action} (hhonest : w.Honest a)
    (hstep : w.step srv a = some w') : w'.Sound srv clock i := by
  refine ⟨h.served.step hhonest hstep, h.informed.step h.served hhonest hstep,
    h.ordered.step h.served h.informed hhonest hstep, ?_, ?_⟩
  · cases a with
    | server a =>
        simp only [World.step, Option.map_eq_some_iff] at hstep
        obtain ⟨server, -, rfl⟩ := hstep
        exact h.nodup
    | page j a =>
        simp only [World.step, Option.map_eq_some_iff] at hstep
        obtain ⟨page, hpage, rfl⟩ := hstep
        by_cases hij : i = j
        · subst hij
          dsimp only [World.withPage]
          rw [Function.update_self]
          exact Recovery.nodup_of_step h.nodup hpage
        · dsimp only [World.withPage]
          rw [Function.update_of_ne hij]
          exact h.nodup
  · intro id hconfirmed hid
    -- what is shown is the same, unless the page takes the step
    have hold : (w'.pages i) = w.pages i → w'.Secured i id := by
      intro hsame
      rw [hsame] at hconfirmed hid
      exact (h.secured id hconfirmed hid).step h.served hhonest hstep
    cases a with
    | server a =>
        simp only [World.step, Option.map_eq_some_iff] at hstep
        obtain ⟨server, -, rfl⟩ := hstep
        exact hold rfl
    | page j a =>
        by_cases hij : i = j
        · subst hij
          exact h.secured_page hhonest hstep hconfirmed hid
        · simp only [World.step, Option.map_eq_some_iff] at hstep
          obtain ⟨page, -, rfl⟩ := hstep
          exact hold (Function.update_of_ne hij _ _)

theorem sound_of_run {t : World.Trace} (hrun : Run (World.step srv) (.init clock) t w)
    (hhonest : ∀ e ∈ t, e.1.Honest e.2) (i : ℕ) : w.Sound srv clock i := by
  refine Run.invariant_of_guard (P := fun _ w => w.Sound srv clock i) hrun hhonest ?_
    fun _ _ _ _ _ h hhonest hstep => h.step hhonest hstep
  refine ⟨Served.init srv clock, World.informed_init clock i, ?_, List.nodup_nil, ?_⟩
  · intro hawaits
    cases hawaits
  · intro id hnone
    cases hnone

/-! ### The pass stays -/

lemma KeepsPass.step (h : KeepsPass id (w.pages i).store) (hsound : w.Sound srv clock i)
    (hsecured : w.Secured i id) {a : World.Action} (hhonest : w.Honest a)
    (hstep : w.step srv a = some w') : KeepsPass id (w'.pages i).store := by
  cases a with
  | server a =>
      simp only [World.step, Option.map_eq_some_iff] at hstep
      obtain ⟨server, -, rfl⟩ := hstep
      exact h
  | page j a =>
      simp only [World.step, Option.map_eq_some_iff] at hstep
      obtain ⟨page, hpage, rfl⟩ := hstep
      by_cases hij : i = j
      · subst hij
        dsimp only [World.withPage]
        rw [Function.update_self]
        have hwithin : Recovery.Within (KeepsPass id) (fun _ => True) (w.pages i) :=
          ⟨h, fun _ _ => True.intro, fun _ _ => True.intro, fun _ _ => True.intro,
            fun _ _ => True.intro⟩
        refine (hwithin.step ?_ hpage).store
        refine ⟨?_, fun _ _ _ _ => Or.inr rfl, fun _ _ hstore => hstore, ?_, ?_⟩
        · intro hnone
          cases hnone
        · rintro requestId freshId outcomes payment rfl hok
          obtain ⟨r, hr, hrequest, hsince, rfl⟩ := World.Delivers.of_ok hhonest hok
          obtain ⟨record, live, response, -, -, hresponse, hread, hdrawn⟩ :=
            created_of_tells (hsound.served.response r hr) hrequest
          have hnamed : asString (prop (parseJsonSafely r.text) "session_id") =
              some record.paymentRequest.sessionId := by
            rw [hread, (shownAs_created hresponse).sessionId]
            rfl
          refine ⟨?_, _, hnamed, True.intro⟩
          intro store _ hid
          -- this session was created after the one with the pass
          obtain ⟨born, hborn, hbefore⟩ := hsecured.creation
          obtain rfl : record.paymentRequest.sessionId = id :=
            Option.some.inj (hnamed.symm.trans hid)
          obtain rfl := Option.some.inj (hdrawn.symm.trans hborn)
          exact absurd (hbefore (awaits_of_createAnswer hpage).1) (Nat.not_lt.2 hsince)
        · rintro sessionId requestId freshId outcomes statusResponse rfl - hok
          obtain ⟨r, hr, hrequest, hsince, rfl⟩ := World.Delivers.of_ok hhonest hok
          obtain ⟨session, now, hkey, hcons, -, -, hfound, hread, -⟩ :=
            status_of_tells hsound.served (hsound.served.response r hr) hrequest
          have hnamed : asString (prop (parseJsonSafely r.text) "session_id") =
              some sessionId := by
            rw [hread, ← hkey]
            rfl
          refine ⟨?_, sessionId, hnamed, True.intro⟩
          intro store _ hid
          obtain rfl : sessionId = id := Option.some.inj (hnamed.symm.trans hid)
          -- the answer is about what was found after the payment
          obtain ⟨k, -, hpaid, hsent⟩ := hsecured.answers
          have hawaits : (w.pages i).awaits (.getPaymentStatus sessionId) = true := by
            simpa [Recovery.Hook.awaits] using (awaits_of_statusAnswer hsound.nodup hpage).1
          have hsome := hpaid _ _ (Nat.le_trans (hsent hawaits) hsince) hfound hkey
          rw [hread]
          exact Or.inl ((confirmed_applyStatus hcons now store).2 hsome)
      · dsimp only [World.withPage]
        rw [Function.update_of_ne hij]
        exact h

/-- **A pass is not taken back.**  In every run of the server and of any number of pages, in
which the answers that arrive were sent, a page that has shown the pass of a session never
shows this session in another way than with this pass, or with an error. -/
theorem confirmed_kept {t₁ t₂ : World.Trace} {w₁ w₂ : World}
    (hrun₁ : Run (World.step srv) (.init clock) t₁ w₁) (hrun₂ : Run (World.step srv) w₁ t₂ w₂)
    (hhonest : ∀ e ∈ t₁ ++ t₂, e.1.Honest e.2)
    (hconfirmed : (w₁.pages i).store.status = .confirmed)
    (hid₁ : (w₁.pages i).store.sessionId = some id)
    (hid₂ : (w₂.pages i).store.sessionId = some id) :
    (w₂.pages i).store.status = .error ∨
      (w₂.pages i).store.status = .confirmed ∧
        (w₂.pages i).store.accessToken = (w₁.pages i).store.accessToken := by
  have hsound₁ := sound_of_run hrun₁ (fun e he => hhonest e (by simp [he])) i
  have hsound₂ := sound_of_run (hrun₁.append hrun₂) hhonest i
  obtain ⟨id₁, live₁, hid, hlive₁, htoken, hpass₁, -⟩ :=
    hsound₁.informed.store.confirmed hconfirmed
  obtain rfl := Option.some.inj (hid₁.symm.trans hid)
  have hall : w₂.Sound srv clock i ∧ w₂.Secured i id ∧ KeepsPass id (w₂.pages i).store ∧
      w₂.server.sessions.lookup id = some live₁ := by
    refine Run.invariant_of_guard (P := fun _ w => w.Sound srv clock i ∧ w.Secured i id ∧
      KeepsPass id (w.pages i).store ∧ w.server.sessions.lookup id = some live₁) hrun₂
      (fun e he => hhonest e (by simp [he]))
      ⟨hsound₁, hsound₁.secured id hconfirmed hid₁, fun _ => Or.inl hconfirmed, hlive₁⟩ ?_
    rintro t w a w' - ⟨hsound, hsecured, hkeeps, hlive⟩ hhonest hstep
    refine ⟨hsound.step hhonest hstep, hsecured.step hsound.served hhonest hstep,
      hkeeps.step hsound hsecured hhonest hstep, ?_⟩
    cases a with
    | server a =>
        simp only [World.step, Option.map_eq_some_iff] at hstep
        obtain ⟨server, hserver, rfl⟩ := hstep
        obtain ⟨live', hlive', -, hsame⟩ :=
          lookup_of_distinct hsound.served.distinct hserver hlive
        exact hsame (not_unset_of_token htoken) ▸ hlive'
    | page j a =>
        simp only [World.step, Option.map_eq_some_iff] at hstep
        obtain ⟨page, -, rfl⟩ := hstep
        exact hlive
  obtain ⟨-, -, hkeeps, hlive⟩ := hall
  rcases hkeeps hid₂ with hconfirmed₂ | herror
  · obtain ⟨id₂, live₂, hid, hlive₂, -, hpass₂, -⟩ :=
      hsound₂.informed.store.confirmed hconfirmed₂
    obtain rfl := Option.some.inj (hid₂.symm.trans hid)
    obtain rfl := Option.some.inj (hlive.symm.trans hlive₂)
    exact Or.inr ⟨hconfirmed₂, hpass₂.trans hpass₁.symm⟩
  · exact Or.inl herror

/-! ### An example

The page that shows the pass is loaded again, and recovers the session. -/

def demoReloaded : World := endOf (World.step (demoServer 300)) demoConfirmed
  [.page 0 .load, .server (.statusGet 2 demoMemo.text), .server (.statusRespond 2)]

def demoRecovered : World := demoReloaded.withPage 0 demoStatusAnswer
  (Recovery.statusRequested demoMemo.text (.ok (readResponse (toStatusResponse demoPaid 0)))
    (demoReloaded.pages 0))

theorem confirmed_kept_demo :
    ∃ t₁ t₂ w₁ w₂, Run (World.step (demoServer 300)) (.init 0) t₁ w₁ ∧
      Run (World.step (demoServer 300)) w₁ t₂ w₂ ∧
      (w₁.pages 0).store.status = .confirmed ∧
      (w₂.pages 0).store.sessionId = some demoMemo.text ∧
      ((w₂.pages 0).store.status = .error ∨ (w₂.pages 0).store.status = .confirmed ∧
        (w₂.pages 0).store.accessToken = (w₁.pages 0).store.accessToken) := by
  obtain ⟨t₁, hrun₁, hhonest₁⟩ := run_demoConfirmed
  obtain ⟨t₂, hrun₂, hplain₂⟩ : ∃ t,
      Run (World.step (demoServer 300)) demoConfirmed t demoReloaded ∧
        ∀ e ∈ t, e.1.plain e.2 = true := exists_run_endOf (by decide +kernel)
  have hstep : demoReloaded.step (demoServer 300) (.page 0 demoStatusAnswer) =
      some demoRecovered := by
    refine World.step_page ?_
    rw [demoStatusAnswer, Recovery.step, if_pos (by decide +kernel), demoPaid_read]
  have hresponses : demoReloaded.responses =
      ⟨.getPaymentStatus demoMemo.text, 17, (toStatusResponse demoPaid 0).toText⟩ ::
        demoPolled.responses := rfl
  have hhonest : demoReloaded.Honest (.page 0 demoStatusAnswer) :=
    honest_of_delivered
      (r := ⟨.getPaymentStatus demoMemo.text, 17, (toStatusResponse demoPaid 0).toText⟩)
      (by rw [hresponses]; exact List.mem_cons_self) rfl (by decide +kernel)
  have hall : ∀ e ∈ t₁ ++ (t₂ ++ [(demoReloaded, .page 0 demoStatusAnswer)]),
      e.1.Honest e.2 := by
    intro e he
    rw [List.mem_append, List.mem_append, List.mem_singleton] at he
    rcases he with he | he | rfl
    · exact hhonest₁ e he
    · exact World.honest_of_plain (hplain₂ e he)
    · exact hhonest
  have hshown : (demoConfirmed.pages 0).store.status = .confirmed := by decide +kernel
  have hid : (demoRecovered.pages 0).store.sessionId = some demoMemo.text := by decide +kernel
  exact ⟨t₁, _, _, _, hrun₁, hrun₂.snoc hstep, hshown, hid,
    confirmed_kept hrun₁ (hrun₂.snoc hstep) hall hshown (by decide +kernel) hid⟩

end Haske
