import Haske.Server.Fresh

/-!
# What becomes of a session

Inserting a session replaces what the map has under its id, and marking one as paid
overwrites what is stored in it.  Neither happens to a session that is there or paid, as
long as no memo is drawn while it is in use: a session whose creation was answered stays in
the map with its order, it is never half paid, and once it is paid it does not change any
more (`sessions_stable`).
-/

namespace Haske

open Machine

/-- The session that was made is in the map, with the order it was made with. -/
def State.Keeps (s : State) (record : SessionRecord) : Prop :=
  ∃ live, s.sessions.lookup record.paymentRequest.sessionId = some live ∧
    live.order = record.order

/-- The token that a step stores in the session with this id. -/
def stored (id : String) (s : State) : Action → Option String
  | .watchMark =>
      match s.watcher with
      | .issued artifact session _ =>
          if session.paymentRequest.sessionId = id ∧ (s.sessions.lookup id).isSome then
            some artifact.token
          else none
      | _ => none
  | _ => none

/-- The tokens stored in the run in the session with this id. -/
def storedTokens (id : String) (t : Trace) : List String :=
  t.filterMap fun e => stored id e.1 e.2

variable {srv : Server} {clock : UInt64} {t : Trace} {s s' : State} {a : Action}

/-! ### One step -/

/-- A step keeps the order of an entry of the map, and all of it if something is set. -/
lemma lookup_of_distinct (h : Distinct s) (hstep : step srv s a = some s') {id : String}
    {live : SessionRecord} (hlive : s.sessions.lookup id = some live) :
    ∃ live', s'.sessions.lookup id = some live' ∧ live'.order = live.order ∧
      (¬ live.Unset → live' = live) := by
  obtain ⟨live', hlive', hrewrites⟩ := lookup_of_step hstep hlive
  refine ⟨live', hlive', ?_⟩
  rcases hrewrites.of_distinct h hlive with rfl | ⟨artifact, -, -, -, hunset, rfl, -⟩
  · exact ⟨rfl, fun _ => rfl⟩
  · exact ⟨rfl, fun hset => absurd hunset hset⟩

/-- A step that stores a token in a session stores it in one that has none. -/
lemma stored_of_step (h : Distinct s) (hfrom : Provenance srv t s)
    (hstep : step srv s a = some s') (id : String) :
    ((s'.sessions.lookup id).bind SessionRecord.accessToken).toList =
      ((s.sessions.lookup id).bind SessionRecord.accessToken).toList ++
        (stored id s a).toList := by
  cases effect_of_step hstep with
  | @createInsert i record hi =>
      -- the session that is inserted has no token, and replaces none
      by_cases hkey : id = record.paymentRequest.sessionId
      · have hopening := opening_of_stamped hi hkey.symm
        have hunset := (hfrom.task i _ hi).1
        rw [h.opening i id hopening, hkey, insertSession, Finmap.lookup_insert, Option.bind_some,
          hunset.accessToken]
        rfl
      · rw [insertSession, Finmap.lookup_insert_of_ne _ hkey]
        simp [stored]
  | @marked artifact session live rest hw hlive =>
      by_cases hkey : id = session.paymentRequest.sessionId
      · -- the watcher marks a session that is unset
        subst hkey
        obtain ⟨copied, hcopied, -, hunset⟩ :=
          h.queue session (by rw [hw]; exact List.mem_cons_self)
        rw [hlive, Option.some.injEq] at hcopied
        subst hcopied
        simp [stored, hw, hlive, hunset.accessToken, (live.pay_holds artifact).accessToken]
      · simp [stored, hw, Finmap.lookup_insert_of_ne _ hkey, Ne.symm hkey]
  | @markUnknown artifact session rest hw hlive =>
      have hnone : stored id s .watchMark = none := by
        simp only [stored, hw, ite_eq_right_iff, reduceCtorEq, imp_false, not_and]
        rintro rfl
        simp [hlive]
      simp [hnone]
  | _ => simp [stored, State.setTask]

/-! ### Runs -/

/-- What the distinct states of a run keep from one step to the next stays. -/
lemma stays_of_distinct {P : State → Prop} {t₁ t₂ : Trace} {s₁ : State}
    (hrun₁ : Run (step srv) (.init clock) t₁ s₁) (hrun₂ : Run (step srv) s₁ t₂ s)
    (hfresh : ∀ e ∈ t₁ ++ t₂, DrawsFresh e.1 e.2) (h₁ : P s₁)
    (hkeep : ∀ s a s', Distinct s → P s → step srv s a = some s' → P s') : P s := by
  have hfresh₁ : ∀ e ∈ t₁, DrawsFresh e.1 e.2 := fun e he => hfresh e (by simp [he])
  have hboth : Distinct s ∧ P s := by
    refine Run.invariant_of_guard (P := fun _ s => Distinct s ∧ P s) hrun₂
      (fun e he => hfresh e (by simp [he])) ⟨distinct_of_run hrun₁ hfresh₁, h₁⟩ ?_
    rintro t s a s' hrun ⟨hdistinct, h⟩ hnew hstep
    exact ⟨hdistinct.step (provenance_of_run (hrun₁.append hrun)) hnew hstep,
      hkeep s a s' hdistinct h hstep⟩
  exact hboth.2

lemma State.Keeps.step {record : SessionRecord} (h : s.Keeps record) (hdistinct : Distinct s)
    (hstep : Haske.step srv s a = some s') : s'.Keeps record := by
  obtain ⟨live, hlive, horder⟩ := h
  obtain ⟨live', hlive', horder', -⟩ := lookup_of_distinct hdistinct hstep hlive
  exact ⟨live', hlive', horder'.trans horder⟩

/-- The session that a task has inserted is in the map. -/
lemma keeps_of_task (hrun : Run (step srv) (.init clock) t s)
    (hfresh : ∀ e ∈ t, DrawsFresh e.1 e.2) :
    ∀ i record, s.tasks i = some (.inserted record) → s.Keeps record := by
  refine stays_of_distinct (P := fun s => ∀ i record, s.tasks i = some (.inserted record) →
    s.Keeps record) Run.nil hrun hfresh ?_ ?_
  · intro i record hi
    exact absurd hi (by simp)
  · intro s a s' hdistinct h hstep i record hi
    rcases task_of_step hstep hi with ⟨hold, -⟩ | henters
    · exact (h i record hold).step hdistinct hstep
    · cases henters with
      | inserted hstamped =>
          simp only [step, hstamped, Option.some.injEq] at hstep
          subst hstep
          exact ⟨record, Finmap.lookup_insert _, rfl⟩

/-- The tokens stored in a session are the one it has. -/
lemma storedTokens_eq (hrun : Run (step srv) (.init clock) t s)
    (hfresh : ∀ e ∈ t, DrawsFresh e.1 e.2) (id : String) :
    storedTokens id t = ((s.sessions.lookup id).bind SessionRecord.accessToken).toList := by
  have hboth : Distinct s ∧ storedTokens id t =
      ((s.sessions.lookup id).bind SessionRecord.accessToken).toList := by
    refine Run.invariant_of_guard (P := fun t s => Distinct s ∧ storedTokens id t =
      ((s.sessions.lookup id).bind SessionRecord.accessToken).toList) hrun hfresh ?_ ?_
    · have hnil : Run (step srv) (.init clock) [] (.init clock) := Run.nil
      exact ⟨distinct_of_run hnil (by simp), by simp [storedTokens]⟩
    · rintro t s a s' hrun ⟨hdistinct, ih⟩ hnew hstep
      have hfrom := provenance_of_run hrun
      refine ⟨hdistinct.step hfrom hnew hstep, ?_⟩
      rw [stored_of_step hdistinct hfrom hstep, ← ih, storedTokens, List.filterMap_append]
      cases hstored : stored id s a with
      | none => simp [storedTokens, hstored]
      | some token => simp [storedTokens, hstored]
  exact hboth.2

/-- **Sessions are kept.**  In every run in which no memo is drawn while it is in use, every
session that the create handler has answered for is found by every later request for it,
with the payment request, the event and the expiry it was made with; the fields of a payment
are all unset or all set; a session in which one of them is set does not change any more;
and the tokens that were ever stored in a session are the one it has. -/
theorem sessions_stable (hrun : Run (step srv) (.init clock) t s)
    (hfresh : ∀ e ∈ t, DrawsFresh e.1 e.2) :
    (∀ t₁ s₁ i record t₂, t = t₁ ++ (s₁, .createRespond i) :: t₂ →
      s₁.tasks i = some (.inserted record) →
      s.Keeps record ∧
        ∀ s₂ j, (s₂, .statusGet j record.paymentRequest.sessionId) ∈ t₂ → s₂.Keeps record) ∧
    (∀ id session, s.sessions.lookup id = some session → session.Consistent) ∧
    (∀ t₁ t₂ s₁ id session, t = t₁ ++ t₂ → Run (step srv) (.init clock) t₁ s₁ →
      Run (step srv) s₁ t₂ s → s₁.sessions.lookup id = some session → ¬ session.Unset →
      s.sessions.lookup id = some session) ∧
    ∀ id, (storedTokens id t).length ≤ 1 ∧
      storedTokens id t = ((s.sessions.lookup id).bind SessionRecord.accessToken).toList := by
  refine ⟨?_, ?_, ?_, ?_⟩
  · rintro t₁ s₁ i record t₂ rfl hi
    obtain ⟨s₀, hrun₁, hrun₂⟩ := hrun.split
    obtain ⟨rfl, s₁', hstep, hrun₂⟩ := hrun₂.cons_inv
    have hkeeps : s₁.Keeps record :=
      keeps_of_task hrun₁ (fun e he => hfresh e (by simp [he])) i record hi
    -- the handler's answer is followed by any part of the rest of the run
    have hlater : ∀ {u s₂}, (∀ e ∈ u, e ∈ t₂) → Run (step srv) s₁' u s₂ → s₂.Keeps record := by
      intro u s₂ hu hrun'
      refine stays_of_distinct (P := fun s => s.Keeps record) hrun₁ (Run.cons hstep hrun') ?_
        hkeeps fun s a s' hdistinct h hstep => h.step hdistinct hstep
      intro e he
      simp only [List.mem_append, List.mem_cons] at he
      refine hfresh e ?_
      simp only [List.mem_append, List.mem_cons]
      exact he.imp_right (Or.imp_right (hu e))
    refine ⟨hlater (fun _ he => he) hrun₂, ?_⟩
    intro s₂ j hmem
    obtain ⟨u, v, -, rfl, hrun', -, -⟩ := hrun₂.of_mem hmem
    exact hlater (fun e he => by simp [he]) hrun'
  · intro id session hid
    exact ((provenance_of_run hrun).session id session hid).2.1
  · rintro t₁ t₂ s₁ id session rfl hrun₁ hrun₂ hid hset
    refine stays_of_distinct (P := fun s => s.sessions.lookup id = some session) hrun₁ hrun₂
      hfresh hid ?_
    intro s a s' hdistinct hid hstep
    obtain ⟨live, hlive, -, hsame⟩ := lookup_of_distinct hdistinct hstep hid
    rwa [hsame hset] at hlive
  · intro id
    have heq := storedTokens_eq hrun hfresh id
    refine ⟨?_, heq⟩
    rw [heq]
    exact Option.length_toList_le

/-- One session is made, paid for, and asked for: one token has been stored, and it is in the
session that is found. -/
theorem sessions_stable_demo :
    ∃ t s live token, Run (step (demoServer 300)) (.init 0) t s ∧
      t.map Prod.snd = demoCreate ++ [demoSnapshot 300 0] ++ demoSettle ++
        [.statusGet 1 demoMemo.text] ∧
      s.sessions.lookup demoMemo.text = some live ∧ live.Consistent ∧
      live.accessToken = some token ∧ storedTokens demoMemo.text t = [token] := by
  obtain ⟨t, s, hrun, hactions, hcheck⟩ : ∃ t s, Run (step (demoServer 300)) (.init 0) t s ∧
      t.map Prod.snd = demoCreate ++ [demoSnapshot 300 0] ++ demoSettle ++
        [.statusGet 1 demoMemo.text] ∧
      (decide (memos t).Nodup &&
        (s.sessions.lookup demoMemo.text).any fun live => live.accessToken.isSome) = true :=
    exists_run_of_check _ (by decide +kernel)
  rw [Bool.and_eq_true, decide_eq_true_iff, Option.any_eq_true] at hcheck
  obtain ⟨hmemos, live, hlive, hsome⟩ := hcheck
  obtain ⟨token, htoken⟩ := Option.isSome_iff_exists.1 hsome
  obtain ⟨-, hcons, -, hstored⟩ := sessions_stable hrun (drawsFresh_of_nodup hrun hmemos)
  refine ⟨t, s, live, token, hrun, hactions, hlive, hcons _ live hlive, htoken, ?_⟩
  rw [(hstored demoMemo.text).2, hlive, Option.bind_some, htoken]
  rfl

end Haske
