import Haske.Server.Creation
import Haske.System.World

/-!
# What the server says

Every answer of the server is about a session in its map: an answer to a creation about the
one that was made for this request, and an answer to a status request about what the request
found.  What was found is the session as it is now, or as it was before it was paid; and what
a later request finds is never older (`Served`).
-/

namespace Haske

open Machine

/-- The session is in the map, as it is here or paid since. -/
def State.Continues (s : State) (session : SessionRecord) : Prop :=
  ∃ live, s.sessions.lookup session.paymentRequest.sessionId = some live ∧
    live.order = session.order ∧ (¬ session.Unset → live = session)

/-- The id of the session that a task creates. -/
def Task.creates : Task → Option String
  | .requested paymentRequest _ => some paymentRequest.sessionId
  | .stamped record => some record.paymentRequest.sessionId
  | .inserted record => some record.paymentRequest.sessionId
  | .status _ => none

/-- What an answer says. -/
def Response.Tells (srv : Server) (w : World) (r : Response) : Prop :=
  match r.request with
  | .createPayment => ∃ record response, w.server.Keeps record ∧
      record.createResponse srv.qr = some response ∧ r.text = response.toText ∧
      w.drawn record.paymentRequest.sessionId = some r.since
  | .getPaymentStatus sessionId => ∃ session now,
      session.paymentRequest.sessionId = sessionId ∧ w.found r.since = some session ∧
      now ≤ w.server.clock ∧ r.text = (toStatusResponse session now).toText

/-- The memos of a run of the server differ, and were drawn. -/
def World.DrawnApart (w : World) (t : Haske.Trace) : Prop :=
  (memos t).Nodup ∧ ∀ id ∈ memos t, w.drawn id ≠ none

structure Served (srv : Server) (clock : UInt64) (w : World) : Prop where
  reached : ∃ t, Run (step srv) (.init clock) t w.server ∧ w.DrawnApart t
  drawn : ∀ id k, w.drawn id = some k → k < w.now
  creating : ∀ i task id, w.server.tasks i = some task → task.creates = some id →
    ∃ k, w.taken i = (.createPayment, k) ∧ w.drawn id = some k
  status : ∀ i session, w.server.tasks i = some (.status session) →
    ∃ k, w.taken i = (.getPaymentStatus session.paymentRequest.sessionId, k) ∧
      w.found k = some session
  found : ∀ k session, w.found k = some session →
    k < w.now ∧ session.Consistent ∧ w.server.Continues session
  later : ∀ k₁ k₂ session₁ session₂, k₁ ≤ k₂ → w.found k₁ = some session₁ →
    w.found k₂ = some session₂ →
    session₁.paymentRequest.sessionId = session₂.paymentRequest.sessionId →
    ¬ session₁.Unset → session₂ = session₁
  response : ∀ r ∈ w.responses, r.Tells srv w

variable {srv : Server} {clock : UInt64} {w w' : World}

namespace Served

lemma distinct (h : Served srv clock w) : Distinct w.server := by
  obtain ⟨t, hrun, hmemos, -⟩ := h.reached
  exact distinct_of_run hrun (drawsFresh_of_nodup hrun hmemos)

/-- Of the server, a session in the map is what its run made of it. -/
lemma session (h : Served srv clock w) {id : String} {live : SessionRecord}
    (hid : w.server.sessions.lookup id = some live) :
    live.paymentRequest.sessionId = id ∧ live.Consistent := by
  obtain ⟨t, hrun, -, -⟩ := h.reached
  obtain ⟨hkey, hcons, -, -⟩ := (provenance_of_run hrun).session id live hid
  exact ⟨hkey, hcons⟩

lemma init (srv : Server) (clock : UInt64) : Served srv clock (.init clock) := by
  refine ⟨⟨[], Run.nil, List.nodup_nil, ?_⟩, ?_, ?_, ?_, ?_, ?_, ?_⟩
  · intro id hid
    exact absurd hid (by simp [memos])
  · intro id k hk
    exact absurd hk (by simp [World.init])
  · intro i task id hi
    exact absurd hi (by simp [World.init])
  · intro i session hi
    exact absurd hi (by simp [World.init])
  · intro k session hk
    exact absurd hk (by simp [World.init])
  · intro k₁ k₂ session₁ session₂ _ hk
    exact absurd hk (by simp [World.init])
  · intro r hr
    exact absurd hr (by simp [World.init])

end Served

/-! ### Steps of the server -/

section

variable {s s' : State} {a : Action}

lemma State.Continues.step {session : SessionRecord} (h : s.Continues session)
    (hdistinct : Distinct s) (hstep : Haske.step srv s a = some s') : s'.Continues session := by
  obtain ⟨live, hlive, horder, hsame⟩ := h
  obtain ⟨live', hlive', horder', hsame'⟩ := lookup_of_distinct hdistinct hstep hlive
  refine ⟨live', hlive', horder'.trans horder, fun hset => ?_⟩
  obtain rfl := hsame hset
  exact hsame' hset

/-- A task that takes up a request had none before. -/
lemma tasks_of_takes (hstep : step srv s a = some s') {i : ℕ} {request : Request}
    (htakes : a.takes = some (i, request)) : s.tasks i = none := by
  cases effect_of_step hstep with
  | createRequest hi =>
      obtain ⟨rfl, -⟩ := Prod.mk.inj (Option.some.inj htakes)
      exact hi
  | statusGet hi _ =>
      obtain ⟨rfl, -⟩ := Prod.mk.inj (Option.some.inj htakes)
      exact hi
  | statusUnknown hi _ =>
      obtain ⟨rfl, -⟩ := Prod.mk.inj (Option.some.inj htakes)
      exact hi
  | _ => exact absurd htakes (by simp [Action.takes])

end

namespace World

variable {a : Haske.Action} {s' : State}

/-- The request of a task stays. -/
lemma recordTaken_of_task (hstep : Haske.step srv w.server a = some s') {i : ℕ} {task : Task}
    (hi : w.server.tasks i = some task) : w.recordTaken a i = w.taken i := by
  rw [recordTaken]
  cases htakes : a.takes with
  | none => rfl
  | some taken =>
      obtain ⟨j, request⟩ := taken
      have hne : i ≠ j := by
        rintro rfl
        rw [tasks_of_takes hstep htakes] at hi
        cases hi
      exact Function.update_of_ne hne _ _

lemma recordTaken_self {i : ℕ} {request : Request} (htakes : a.takes = some (i, request)) :
    w.recordTaken a i = (request, w.now) := by
  simp only [recordTaken, htakes, Function.update_self]

lemma recordDrawn_mono (hhonest : w.Honest (.server a)) {id : String} {k : ℕ}
    (hid : w.drawn id = some k) : w.recordDrawn a id = some k := by
  cases a with
  | createRequest i body memo =>
      have hne : id ≠ memo.text := by
        rintro rfl
        rw [hhonest] at hid
        cases hid
      exact (Function.update_of_ne hne _ _).trans hid
  | _ => exact hid

lemma recordDrawn_inv {id : String} {k : ℕ} (hid : w.recordDrawn a id = some k) :
    w.drawn id = some k ∨ k = w.now := by
  cases a with
  | createRequest i body memo =>
      by_cases hmemo : id = memo.text
      · subst hmemo
        rw [recordDrawn, Function.update_self, Option.some.injEq] at hid
        exact Or.inr hid.symm
      · rw [recordDrawn, Function.update_of_ne hmemo] at hid
        exact Or.inl hid
  | _ => exact Or.inl hid

/-- Only a memo that was never drawn is drawn. -/
lemma DrawnApart.snoc {t : Haske.Trace} (h : w.DrawnApart t) (hhonest : w.Honest (.server a))
    (hdrawn : w'.drawn = w.recordDrawn a) (s : State) : w'.DrawnApart (t ++ [(s, a)]) := by
  have hmono : ∀ id, w.drawn id ≠ none → w'.drawn id ≠ none := by
    intro id hid
    obtain ⟨k, hk⟩ := Option.ne_none_iff_exists'.1 hid
    rw [hdrawn, recordDrawn_mono hhonest hk]
    exact Option.some_ne_none k
  rw [DrawnApart, memos_append, List.nodup_append]
  cases a with
  | createRequest i body memo =>
      have hnew : w'.drawn memo.text ≠ none := by
        rw [hdrawn, recordDrawn, Function.update_self]
        exact Option.some_ne_none _
      refine ⟨⟨h.1, List.nodup_singleton _, ?_⟩, ?_⟩
      · rintro id hid id' hid' rfl
        obtain rfl : id = memo.text := by simpa [memos] using hid'
        exact h.2 _ hid hhonest
      · intro id hid
        rw [List.mem_append] at hid
        rcases hid with hid | hid
        · exact hmono id (h.2 id hid)
        · obtain rfl : id = memo.text := by simpa [memos] using hid
          exact hnew
  | _ =>
      refine ⟨⟨h.1, List.nodup_nil, ?_⟩, ?_⟩
      · intro id hid id' hid'
        cases hid'
      · intro id hid
        exact hmono id (h.2 id (by simpa [memos] using hid))

lemma recordFound_of_lt {k : ℕ} (hk : k < w.now) : w.recordFound a k = w.found k := by
  cases a with
  | statusGet i sessionId => exact Function.update_of_ne (Nat.ne_of_lt hk) _ _
  | _ => rfl

lemma recordFound_inv {k : ℕ} {session : SessionRecord}
    (hk : w.recordFound a k = some session) :
    w.found k = some session ∨
      k = w.now ∧ ∃ id, w.server.sessions.lookup id = some session := by
  cases a with
  | statusGet i sessionId =>
      by_cases hnow : k = w.now
      · subst hnow
        rw [recordFound, Function.update_self] at hk
        exact Or.inr ⟨rfl, sessionId, hk⟩
      · rw [recordFound, Function.update_of_ne hnow] at hk
        exact Or.inl hk
  | _ => exact Or.inl hk

/-- An answer is one that was given before, or is given by a task now. -/
lemma recordResponse_inv {r : Response} (hr : r ∈ w.recordResponse srv a) :
    r ∈ w.responses ∨ ∃ i text, w.server.answers srv a = some (i, text) ∧
      r = ⟨(w.taken i).1, (w.taken i).2, text⟩ := by
  rw [recordResponse] at hr
  cases hanswer : w.server.answers srv a with
  | none => exact Or.inl (by simpa only [hanswer] using hr)
  | some answer =>
      obtain ⟨i, text⟩ := answer
      simp only [hanswer, List.mem_cons] at hr
      rcases hr with rfl | hr
      · exact Or.inr ⟨i, text, rfl, rfl⟩
      · exact Or.inl hr

end World

/-- The two kinds of tasks that answer. -/
lemma answers_eq_some {s : State} {a : Action} {i : ℕ} {text : String}
    (h : s.answers srv a = some (i, text)) :
    (∃ record response, s.tasks i = some (.inserted record) ∧
        record.createResponse srv.qr = some response ∧ text = response.toText) ∨
      ∃ session, s.tasks i = some (.status session) ∧
        text = (toStatusResponse session s.clock).toText := by
  cases a with
  | createRespond j =>
      rw [State.answers] at h
      split at h
      · rename_i record htask
        obtain ⟨response, hresponse, heq⟩ := Option.map_eq_some_iff.1 h
        obtain ⟨rfl, rfl⟩ := Prod.mk.inj heq
        exact Or.inl ⟨record, response, htask, hresponse, rfl⟩
      · cases h
  | statusRespond j =>
      rw [State.answers] at h
      split at h
      · rename_i session htask
        obtain ⟨rfl, rfl⟩ := Prod.mk.inj (Option.some.inj h)
        exact Or.inr ⟨session, htask, rfl⟩
      · cases h
  | _ => cases h

/-- What was said stays true. -/
lemma Response.Tells.server {a : Action} {server : State} {r : Response} (h : r.Tells srv w)
    (hserved : Served srv clock w) (hhonest : w.Honest (.server a))
    (hstep : step srv w.server a = some server)
    (hserver : w'.server = server) (hdrawn : w'.drawn = w.recordDrawn a)
    (hfound : w'.found = w.recordFound a) : r.Tells srv w' := by
  subst hserver
  rw [Response.Tells] at h ⊢
  cases hrequest : r.request with
  | createPayment =>
      simp only [hrequest] at h ⊢
      obtain ⟨record, response, hkeeps, hresponse, htext, hsince⟩ := h
      refine ⟨record, response, hkeeps.step hserved.distinct hstep, hresponse, htext, ?_⟩
      rw [hdrawn]
      exact World.recordDrawn_mono hhonest hsince
  | getPaymentStatus sessionId =>
      simp only [hrequest] at h ⊢
      obtain ⟨session, now, hid, hsession, hclock, htext⟩ := h
      refine ⟨session, now, hid, ?_, UInt64.le_trans hclock (clock_le_of_step hstep), htext⟩
      rw [hfound, World.recordFound_of_lt (hserved.found _ _ hsession).1]
      exact hsession

/-! ### All steps -/

namespace Served

variable {a : Action} {server : State}

lemma creating_server (h : Served srv clock w) (hhonest : w.Honest (.server a))
    (hstep : step srv w.server a = some server) {i : ℕ} {task : Task} {id : String}
    (hi : server.tasks i = some task) (hid : task.creates = some id) :
    ∃ k, w.recordTaken a i = (.createPayment, k) ∧ w.recordDrawn a id = some k := by
  -- a task that was there before has kept its request
  have hold : ∀ {task}, w.server.tasks i = some task → task.creates = some id →
      ∃ k, w.recordTaken a i = (.createPayment, k) ∧ w.recordDrawn a id = some k := by
    intro task hi hid
    obtain ⟨k, htaken, hdrawn⟩ := h.creating i task id hi hid
    refine ⟨k, ?_, World.recordDrawn_mono hhonest hdrawn⟩
    rw [World.recordTaken_of_task hstep hi, htaken]
  rcases task_of_step hstep hi with ⟨hi, -⟩ | henters
  · exact hold hi hid
  · cases henters with
    | @requested body memo =>
        obtain rfl : memo.text = id := Option.some.inj hid
        exact ⟨w.now, World.recordTaken_self rfl, Function.update_self _ _ _⟩
    | @stamped paymentRequest eventId record hrequested hnew =>
        refine hold hrequested ?_
        rw [Task.creates, ← sessionId_of_newSession hnew]
        exact hid
    | inserted hstamped => exact hold hstamped hid
    | status _ => exact absurd hid (by simp [Task.creates])

lemma status_server (h : Served srv clock w) (hstep : step srv w.server a = some server) {i : ℕ}
    {session : SessionRecord} (hi : server.tasks i = some (.status session)) :
    ∃ k, w.recordTaken a i = (.getPaymentStatus session.paymentRequest.sessionId, k) ∧
      w.recordFound a k = some session := by
  rcases task_of_step hstep hi with ⟨hi, -⟩ | henters
  · obtain ⟨k, htaken, hfound⟩ := h.status i session hi
    refine ⟨k, ?_, ?_⟩
    · rw [World.recordTaken_of_task hstep hi, htaken]
    · rw [World.recordFound_of_lt (h.found k session hfound).1, hfound]
  · cases henters with
    | status hget =>
        refine ⟨w.now, ?_, ?_⟩
        · rw [(h.session hget).1]
          exact World.recordTaken_self rfl
        · exact (Function.update_self _ _ _).trans hget

lemma found_server (h : Served srv clock w) (hstep : step srv w.server a = some server) {k : ℕ}
    {session : SessionRecord} (hk : w.recordFound a k = some session) :
    k < w.now + 1 ∧ session.Consistent ∧ server.Continues session := by
  rcases World.recordFound_inv hk with hk | ⟨rfl, id, hid⟩
  · obtain ⟨hlt, hcons, hcontinues⟩ := h.found k session hk
    exact ⟨Nat.lt_succ_of_lt hlt, hcons, hcontinues.step h.distinct hstep⟩
  · obtain ⟨hkey, hcons⟩ := h.session hid
    have hcontinues : w.server.Continues session :=
      ⟨session, by rw [hkey]; exact hid, rfl, fun _ => rfl⟩
    exact ⟨Nat.lt_succ_self _, hcons, hcontinues.step h.distinct hstep⟩

lemma later_server (h : Served srv clock w) {k₁ k₂ : ℕ} {session₁ session₂ : SessionRecord}
    (hk : k₁ ≤ k₂) (hk₁ : w.recordFound a k₁ = some session₁)
    (hk₂ : w.recordFound a k₂ = some session₂)
    (hid : session₁.paymentRequest.sessionId = session₂.paymentRequest.sessionId)
    (hset : ¬ session₁.Unset) : session₂ = session₁ := by
  rcases World.recordFound_inv hk₂ with hold₂ | ⟨rfl, id, hlookup⟩
  · -- nothing is found now, so both were found before
    have hlt : k₁ < w.now := Nat.lt_of_le_of_lt hk (h.found k₂ session₂ hold₂).1
    rw [World.recordFound_of_lt hlt] at hk₁
    exact h.later k₁ k₂ session₁ session₂ hk hk₁ hold₂ hid hset
  · rcases World.recordFound_inv hk₁ with hold₁ | ⟨rfl, -⟩
    · -- the session that was found before is what the map has now
      obtain ⟨live, hlive, -, hsame⟩ := (h.found k₁ session₁ hold₁).2.2
      rw [hid, (h.session hlookup).1, hlookup, Option.some.injEq] at hlive
      exact hlive.trans (hsame hset)
    · exact Option.some.inj (hk₂.symm.trans hk₁)

lemma response_server (h : Served srv clock w) (hhonest : w.Honest (.server a))
    (hstep : step srv w.server a = some server) (hserver : w'.server = server)
    (hdrawn : w'.drawn = w.recordDrawn a) (hfound : w'.found = w.recordFound a) {r : Response}
    (hr : r ∈ w.recordResponse srv a) : r.Tells srv w' := by
  have htells : r.Tells srv w := by
    rcases World.recordResponse_inv hr with hr | ⟨i, text, hanswer, rfl⟩
    · exact h.response r hr
    · rcases answers_eq_some hanswer with ⟨record, response, hi, hresponse, rfl⟩ |
        ⟨session, hi, rfl⟩
      · obtain ⟨t, hrun, hmemos, -⟩ := h.reached
        have hkeeps := keeps_of_task hrun (drawsFresh_of_nodup hrun hmemos) i record hi
        obtain ⟨k, htaken, hdrawn⟩ := h.creating i _ _ hi rfl
        simp only [Response.Tells, htaken]
        exact ⟨record, response, hkeeps, hresponse, rfl, hdrawn⟩
      · obtain ⟨k, htaken, hfound⟩ := h.status i session hi
        simp only [Response.Tells, htaken]
        exact ⟨session, w.server.clock, rfl, hfound, UInt64.le_refl _, rfl⟩
  exact htells.server h hhonest hstep hserver hdrawn hfound

lemma of_server (h : Served srv clock w) (hhonest : w.Honest (.server a))
    (hstep : w.step srv (.server a) = some w') : Served srv clock w' := by
  simp only [World.step, Option.map_eq_some_iff] at hstep
  obtain ⟨server, hserver, rfl⟩ := hstep
  refine ⟨?_, ?_, ?_, ?_, ?_, ?_, ?_⟩
  · obtain ⟨t, hrun, hmemos, hdrawn⟩ := h.reached
    exact ⟨_, hrun.snoc hserver, World.DrawnApart.snoc ⟨hmemos, hdrawn⟩ hhonest rfl _⟩
  · intro id k hk
    rcases World.recordDrawn_inv hk with hk | rfl
    · exact Nat.lt_succ_of_lt (h.drawn id k hk)
    · exact Nat.lt_succ_self _
  · exact fun i task id hi hid => h.creating_server hhonest hserver hi hid
  · exact fun i session hi => h.status_server hserver hi
  · exact fun k session hk => h.found_server hserver hk
  · exact fun k₁ k₂ session₁ session₂ hk hk₁ hk₂ hid hset => h.later_server hk hk₁ hk₂ hid hset
  · exact fun r hr => h.response_server hhonest hserver rfl rfl rfl hr

/-- A step of a page changes nothing of this. -/
lemma of_page (h : Served srv clock w) {i : ℕ} {a : Recovery.Action}
    (hstep : w.step srv (.page i a) = some w') : Served srv clock w' := by
  simp only [World.step, Option.map_eq_some_iff] at hstep
  obtain ⟨page, -, rfl⟩ := hstep
  refine ⟨h.reached, ?_, h.creating, h.status, ?_, h.later, h.response⟩
  · exact fun id k hk => Nat.lt_succ_of_lt (h.drawn id k hk)
  · intro k session hk
    obtain ⟨hlt, hrest⟩ := h.found k session hk
    exact ⟨Nat.lt_succ_of_lt hlt, hrest⟩

theorem step (h : Served srv clock w) {a : World.Action} (hhonest : w.Honest a)
    (hstep : w.step srv a = some w') : Served srv clock w' := by
  cases a with
  | server a => exact h.of_server hhonest hstep
  | page i a => exact h.of_page hstep

end Served

/-- **What the server says is so.** -/
theorem served_of_run {t : World.Trace} (hrun : Run (World.step srv) (.init clock) t w)
    (hhonest : ∀ e ∈ t, e.1.Honest e.2) : Served srv clock w :=
  Run.invariant_of_guard (P := fun _ w => Served srv clock w) hrun hhonest (Served.init srv clock)
    fun _ _ _ _ _ h hhonest hstep => h.step hhonest hstep

end Haske
