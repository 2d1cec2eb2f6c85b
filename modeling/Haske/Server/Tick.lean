import Haske.Server.Deadlines

/-!
# What a tick of the watcher does

A tick begins with a snapshot of the pending sessions and is over when the watcher waits
again.  A session that the snapshot includes is paid for in this tick, if the lookups for
it and the issuing of its pass succeed and a matching payment is on the pages they return
(`paid_after_tick`): until then it is in the watcher's queue.

The snapshot leaves out the sessions past their deadline.  So a payment that was made
before the deadline is lost if the next tick comes after it (`late_tick_loses`).
-/

namespace Haske

open Signing Machine

/-- A step of a tick that serves a session: what Horizon returns for it contains a matching
payment, its pass can be issued, and no other session is inserted under its id. -/
def serves (srv : Server) (id : String) (s : State) : Action → Bool
  | .createInsert i =>
      match s.tasks i with
      | some (.stamped record) => record.paymentRequest.sessionId ≠ id
      | _ => true
  | .watchSnapshot _ => false
  | .watchLookup page =>
      match s.watcher with
      | .lookup session _ => session.paymentRequest.sessionId ≠ id || page.any fun records =>
          records.any fun record => record.Matches session.paymentRequest.destination
            session.paymentRequest.memo session.paymentRequest.amount session.paymentRequest.asset
      | _ => true
  | .watchIssue nonce =>
      match s.watcher with
      | .found payment session _ =>
          session.paymentRequest.sessionId ≠ id || (srv.issue session payment nonce).isSome
      | _ => true
  | _ => true

/-- The session is paid, or the watcher is going to treat it. -/
def Attended (session : SessionRecord) (s : State) : Prop :=
  ∃ live, s.sessions.lookup session.paymentRequest.sessionId = some live ∧
    live.order = session.order ∧ (live.paid = true ∨ session ∈ s.watcher.queue)

variable {srv : Server} {clock : UInt64} {t : Trace} {s s' : State} {a : Action}
  {session : SessionRecord}

/-- A step that serves the session keeps its entry, or pays for it. -/
lemma Rewrites.of_serves {live live' : SessionRecord} {id : String}
    (h : Rewrites s id live a live') (hserves : serves srv id s a = true) :
    live' = live ∨ ∃ artifact, live' = live.pay artifact := by
  cases h with
  | kept => exact Or.inl rfl
  | replaced hi hid =>
      rw [serves, hi] at hserves
      exact absurd hid (of_decide_eq_true hserves)
  | paid _ _ => exact Or.inr ⟨_, rfl⟩

/-- The watcher only goes on from the session when it is paid. -/
lemma queue_of_serves (hserves : serves srv session.paymentRequest.sessionId s a = true)
    (hstep : step srv s a = some s') (hqueue : session ∈ s.watcher.queue) :
    session ∈ s'.watcher.queue ∨ ∀ live,
      s.sessions.lookup session.paymentRequest.sessionId = some live →
      ∃ artifact, s'.sessions.lookup session.paymentRequest.sessionId =
        some (live.pay artifact) := by
  -- going on from another session keeps this one
  have hnext : ∀ {x rest}, s.watcher.queue = x :: rest → x ≠ session →
      session ∈ (Watcher.next rest).queue := by
    intro x rest heq hne
    rw [heq, List.mem_cons] at hqueue
    rw [queue_next]
    exact hqueue.resolve_left (Ne.symm hne)
  cases effect_of_step hstep with
  | watchSnapshot _ _ => exact absurd hserves (by simp [serves])
  | lookupFound hw _ =>
      rw [hw] at hqueue
      exact Or.inl hqueue
  | @lookupNothing page x rest hw hnone =>
      refine Or.inl (hnext (by rw [hw]; rfl) ?_)
      rintro rfl
      -- a matching record is on the page
      cases page with
      | none => simp [serves, hw] at hserves
      | some records =>
          have hmatch : ∃ record ∈ records, record.Matches x.paymentRequest.destination
              x.paymentRequest.memo x.paymentRequest.amount x.paymentRequest.asset := by
            simpa [serves, hw] using hserves
          have hsome := findConfirmedPayment_isSome.2 hmatch
          rw [Option.bind_some, findPayment] at hnone
          rw [hnone] at hsome
          exact absurd hsome (by simp)
  | issued hw _ =>
      rw [hw] at hqueue
      exact Or.inl hqueue
  | @issueFailed nonce payment x rest hw hnone =>
      refine Or.inl (hnext (by rw [hw]; rfl) ?_)
      rintro rfl
      simp [serves, hw, hnone] at hserves
  | @marked artifact x live rest hw hlive =>
      by_cases hx : x = session
      · subst hx
        refine Or.inr fun live' hlive' => ⟨artifact, ?_⟩
        rw [hlive, Option.some.injEq] at hlive'
        rw [← hlive']
        exact Finmap.lookup_insert _
      · exact Or.inl (hnext (by rw [hw]; rfl) hx)
  | @markUnknown artifact x rest hw hnone =>
      by_cases hx : x = session
      · subst hx
        refine Or.inr fun live hlive => ?_
        rw [hnone] at hlive
        exact absurd hlive (by simp)
      · exact Or.inl (hnext (by rw [hw]; rfl) hx)
  | _ => exact Or.inl hqueue

lemma Attended.step (h : Attended session s)
    (hserves : serves srv session.paymentRequest.sessionId s a = true)
    (hstep : step srv s a = some s') : Attended session s' := by
  obtain ⟨live, hlive, horder, hstate⟩ := h
  obtain ⟨live', hlive', hrewrites⟩ := lookup_of_step hstep hlive
  rcases hrewrites.of_serves hserves with rfl | ⟨artifact, rfl⟩
  · refine ⟨live', hlive', horder, ?_⟩
    rcases hstate with hpaid | hqueue
    · exact Or.inl hpaid
    · rcases queue_of_serves hserves hstep hqueue with hqueue | hpays
      · exact Or.inr hqueue
      · obtain ⟨artifact, hpay⟩ := hpays live' hlive
        rw [hlive', Option.some.injEq] at hpay
        exact Or.inl (hpay ▸ (live'.pay_holds artifact).paid)
  · exact ⟨_, hlive', horder, Or.inl (live.pay_holds artifact).paid⟩

/-- The snapshot at the beginning of a tick attends to the sessions that are paid and to
those it visits before their deadline. -/
lemma attended_of_snapshot (hrun : Run (step srv) (.init clock) t s)
    {visits : List (((_ : String) × SessionRecord) × UInt64)}
    (hstep : step srv s (.watchSnapshot visits) = some s') {id : String} {now : UInt64}
    (hvisit : ((⟨id, session⟩, now) : ((_ : String) × SessionRecord) × UInt64) ∈ visits)
    (hpending : session.paid = true ∨ now < session.paymentRequest.expiresAt) :
    session.paymentRequest.sessionId = id ∧ Attended session s' := by
  cases effect_of_step hstep with
  | watchSnapshot _ hvisits =>
      have hid : s.sessions.lookup id = some session := lookup_of_visit hvisits.1 hvisit
      have hkey := ((provenance_of_run hrun).session id session hid).1
      refine ⟨hkey, session, by rw [hkey]; exact hid, rfl, ?_⟩
      by_cases hpaid : session.paid = true
      · exact Or.inl hpaid
      · -- it is pending at the moment of the visit
        refine Or.inr ?_
        rw [queue_next, pendingSessions, List.mem_map]
        refine ⟨_, List.mem_filter.2 ⟨hvisit, ?_⟩, rfl⟩
        simpa [isPending, hpaid] using hpending.resolve_left hpaid

/-- **A tick pays for the sessions it is served.**  Let a tick begin with a snapshot that
visits a session, and visits it before its deadline unless it is paid already.  If every
step of the tick serves the session, then when the tick is over the session is paid and
has a pass. -/
theorem paid_after_tick {t' : Trace} {s₀ s₁ : State} (hrun : Run (step srv) (.init clock) t s₀)
    {visits : List (((_ : String) × SessionRecord) × UInt64)}
    (hsnapshot : step srv s₀ (.watchSnapshot visits) = some s₁) {id : String} {now : UInt64}
    (hvisit : ((⟨id, session⟩, now) : ((_ : String) × SessionRecord) × UInt64) ∈ visits)
    (hpending : session.paid = true ∨ now < session.paymentRequest.expiresAt)
    (htick : Run (step srv) s₁ t' s) (hserves : ∀ e ∈ t', serves srv id e.1 e.2 = true)
    (hover : s.watcher = .waiting) :
    ∃ live, s.sessions.lookup id = some live ∧ live.order = session.order ∧
      live.paid = true ∧ live.accessToken.isSome := by
  obtain ⟨rfl, hattended⟩ := attended_of_snapshot hrun hsnapshot hvisit hpending
  obtain ⟨live, hlive, horder, hstate⟩ : Attended session s := by
    refine Run.invariant_of_guard (P := fun _ s => Attended session s)
      (G := fun s a => serves srv session.paymentRequest.sessionId s a = true)
      htick hserves hattended ?_
    intro t s a s' _ h hserves hstep
    exact h.step hserves hstep
  -- no session is left to treat
  have hpaid : live.paid = true := by
    rcases hstate with hpaid | hqueue
    · exact hpaid
    · rw [hover] at hqueue
      exact absurd hqueue (by simp [Watcher.queue])
  have hall := (hrun.snoc hsnapshot).append htick
  obtain ⟨artifact, hholds⟩ :=
    ((provenance_of_run hall).session _ live hlive).2.1.holds_of_paid hpaid
  exact ⟨live, hlive, horder, hpaid, by rw [hholds.accessToken]; rfl⟩

theorem paid_after_tick_demo :
    ∃ t t' s₀ s₁ s, Run (step (demoServer 300)) (.init 0) t s₀ ∧
      step (demoServer 300) s₀ (demoSnapshot 300 0) = some s₁ ∧
      Run (step (demoServer 300)) s₁ t' s ∧ t'.map Prod.snd = demoSettle ∧
      ∃ live, s.sessions.lookup demoMemo.text = some live ∧
        live.order = (demoSession 300).order ∧ live.paid = true ∧ live.accessToken.isSome := by
  obtain ⟨t, s, hrun, hactions, hcheck⟩ : ∃ t s, Run (step (demoServer 300)) (.init 0) t s ∧
      t.map Prod.snd = demoCreate ++ demoSnapshot 300 0 :: demoSettle ∧
      ((((t.drop 4).tail.all fun e => serves (demoServer 300) demoMemo.text e.1 e.2) : Bool) &&
        s.watcher.queue.isEmpty) = true :=
    exists_run_of_check _ (by decide +kernel)
  obtain ⟨t, t', rfl, hcreate, hrest⟩ := List.map_eq_append_iff.1 hactions
  obtain ⟨⟨s₀, a⟩, t', rfl, rfl, hsettle⟩ := List.map_eq_cons_iff.1 hrest
  have hlength : t.length = 4 := by
    rw [← List.length_map Prod.snd, hcreate]
    rfl
  rw [Bool.and_eq_true, List.drop_left' hlength, List.tail_cons, List.all_eq_true] at hcheck
  obtain ⟨hserves, hover⟩ := hcheck
  obtain ⟨s', hrun₀, hrun'⟩ := hrun.split
  obtain ⟨rfl, s₁, hstep, htick⟩ := hrun'.cons_inv
  exact ⟨t, t', s₀, s₁, s, hrun₀, hstep, htick, hsettle, paid_after_tick hrun₀ hstep
    (List.mem_singleton.2 rfl) (Or.inr (by decide)) htick hserves (queue_isEmpty.1 hover)⟩

/-- A payment made one second before the deadline, with ticks at 898 and at 903. -/
theorem late_tick_loses :
    ∃ t s₀ s₁ visits session, Run (step (demoServer 300)) (.init 0) t s₀ ∧
      899 < session.paymentRequest.expiresAt ∧ (∀ e ∈ t, e.1.clock < 899) ∧ 899 ≤ s₀.clock ∧
      s₀.sessions.lookup demoMemo.text = some session ∧
      step (demoServer 300) s₀ (.watchSnapshot visits) = some s₁ ∧ s₁.watcher = .waiting ∧
      s₁.sessions.lookup demoMemo.text = some session ∧ session.paid = false ∧
      session.accessToken = none := by
  obtain ⟨t, s₀, hrun, -, hcheck⟩ : ∃ t s, Run (step (demoServer 300)) (.init 0) t s ∧
      t.map Prod.snd = demoCreate ++ [demoSnapshot 300 898, .watchLookup (some []), .tick 903] ∧
      ((t.all fun e => e.1.clock < 899) && decide (899 ≤ s.clock) &&
        decide (s.sessions.lookup demoMemo.text = some (demoSession 300)) &&
        decide (s.Visits [(⟨demoMemo.text, demoSession 300⟩, 903)]) &&
        s.watcher.queue.isEmpty) = true :=
    exists_run_of_check _ (by decide +kernel)
  simp only [Bool.and_eq_true, List.all_eq_true, decide_eq_true_eq] at hcheck
  obtain ⟨⟨⟨⟨hbefore, hclock⟩, hlookup⟩, hvisits⟩, hover⟩ := hcheck
  exact ⟨t, s₀, _, _, demoSession 300, hrun, by decide, hbefore, hclock, hlookup,
    step_of_effect (.watchSnapshot (queue_isEmpty.1 hover) hvisits), rfl, hlookup, rfl, rfl⟩

end Haske
