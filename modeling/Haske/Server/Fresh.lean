import Haske.Server.Invariant

/-!
# Fresh memos

The session id of a session is its memo, so two sessions with the same memo would be one
entry of the map.  If no memo is drawn while it is in use, then the sessions of the tasks
that have not inserted theirs yet are not in the map, and the watcher, which works on
copies, finds every session it has copied in the map, with the same order and not yet paid
(`Distinct`).

Every id in use was drawn as a memo in the run, so a run in which no memo is drawn twice
is of this kind (`drawsFresh_of_nodup`).
-/

namespace Haske

open Machine

/-- The memos drawn in the run. -/
def memos (t : Trace) : List String :=
  t.filterMap fun e =>
    match e.2 with
    | .createRequest _ _ memo => some memo.text
    | _ => none

/-- The id of the session that a task is going to insert. -/
def Task.opening : Task → Option String
  | .requested paymentRequest _ => some paymentRequest.sessionId
  | .stamped record => some record.paymentRequest.sessionId
  | _ => none

def State.opening (s : State) (i : ℕ) : Option String := (s.tasks i).bind Task.opening

structure Fresh (t : Trace) (s : State) : Prop where
  opening : ∀ i id, s.opening i = some id → id ∈ memos t ∧ s.sessions.lookup id = none
  opening_inj : ∀ i j id, s.opening i = some id → s.opening j = some id → i = j
  session : ∀ id session, s.sessions.lookup id = some session → id ∈ memos t
  queue : ∀ session ∈ s.watcher.queue, ∃ live,
    s.sessions.lookup session.paymentRequest.sessionId = some live ∧
      live.order = session.order ∧ live.Unset
  queue_nodup : (s.watcher.queue.map fun session => session.paymentRequest.sessionId).Nodup

/-- The id is that of a session in the map, or of one that a task is going to insert. -/
def InUse (s : State) (id : String) : Prop :=
  (∃ session, s.sessions.lookup id = some session) ∨ ∃ i, s.opening i = some id

/-- If the step draws a memo, then one that is not in use. -/
def DrawsFresh (s : State) : Action → Prop
  | .createRequest _ _ memo => ¬ InUse s memo.text
  | _ => True

section

variable {srv : Server} {clock : UInt64} {t t' : Trace} {s s' : State} {a : Action}

/-! ### What a step does to the ids in use -/

/-- A task is going to insert what it was going to insert before, unless it has done so, or
has just drawn a memo. -/
lemma opening_of_step (h : step srv s a = some s') {j : ℕ} {id : String}
    (hj : s'.opening j = some id) :
    (s.opening j = some id ∧ a ≠ .createInsert j) ∨
      ∃ body memo, a = .createRequest j body memo ∧ memo.text = id := by
  obtain ⟨task, htask, hid⟩ := Option.bind_eq_some_iff.1 hj
  rcases task_of_step h htask with ⟨hold, hne⟩ | henters
  · exact Or.inl ⟨by rw [State.opening, hold]; exact hid, hne⟩
  · cases henters with
    | @requested body memo => exact Or.inr ⟨body, memo, rfl, Option.some.inj hid⟩
    | @stamped paymentRequest eventId record hi hnew =>
        have hmade := (newSession_eq_some hnew).2
        have hsame : record.paymentRequest.sessionId = paymentRequest.sessionId := by
          have heq := congrArg PaymentRequest.sessionId hmade.paymentRequest_eq
          exact heq
        refine Or.inl ⟨?_, by simp⟩
        rw [State.opening, hi, Option.bind_some, Task.opening, ← hsame]
        exact hid
    | inserted _ => exact absurd hid (by simp [Task.opening])
    | status _ => exact absurd hid (by simp [Task.opening])

lemma opening_of_stamped {i : ℕ} {record : SessionRecord} {id : String}
    (hi : s.tasks i = some (.stamped record)) (hkey : record.paymentRequest.sessionId = id) :
    s.opening i = some id := by
  rw [State.opening, hi, ← hkey]
  rfl

lemma inUse_of_step (h : step srv s a = some s') {id : String} (hid : InUse s' id) :
    InUse s id ∨ ∃ i body memo, a = .createRequest i body memo ∧ memo.text = id := by
  rcases hid with ⟨session, hid⟩ | ⟨j, hj⟩
  · rcases lookup_of_step_inv h hid with ⟨old, hold, -⟩ | ⟨i, -, hi, hkey⟩
    · exact Or.inl (Or.inl ⟨old, hold⟩)
    · exact Or.inl (Or.inr ⟨i, opening_of_stamped hi hkey⟩)
  · rcases opening_of_step h hj with ⟨hold, -⟩ | ⟨body, memo, ha, hmemo⟩
    · exact Or.inl (Or.inr ⟨j, hold⟩)
    · exact Or.inr ⟨j, body, memo, ha, hmemo⟩

/-! ### Memos that were not drawn before -/

lemma memos_append (t t' : Trace) : memos (t ++ t') = memos t ++ memos t' :=
  List.filterMap_append

/-- The ids in use were drawn in the run. -/
lemma mem_memos_of_inUse (hrun : Run (step srv) (.init clock) t s) {id : String}
    (hid : InUse s id) : id ∈ memos t := by
  refine Run.invariant (P := fun t s => InUse s id → id ∈ memos t) hrun ?_ ?_ hid
  · rintro (⟨session, h⟩ | ⟨i, h⟩)
    · exact absurd h (by simp)
    · exact absurd h (by simp [State.opening])
  · intro t s a s' _ ih hstep hid
    rw [memos_append, List.mem_append]
    rcases inUse_of_step hstep hid with hold | ⟨i, body, memo, rfl, rfl⟩
    · exact Or.inl (ih hold)
    · exact Or.inr (by simp [memos])

/-- If no memo is drawn twice in a run, none is drawn while it is in use. -/
theorem drawsFresh_of_nodup (hrun : Run (step srv) (.init clock) t s)
    (hmemos : (memos t).Nodup) : ∀ e ∈ t, DrawsFresh e.1 e.2 := by
  rintro ⟨s₁, a⟩ hmem
  obtain ⟨t₁, t₂, -, rfl, hrun₁, -, -⟩ := hrun.of_mem hmem
  cases a with
  | createRequest i body memo =>
      intro huse
      have hdrawn := mem_memos_of_inUse hrun₁ huse
      rw [memos_append] at hmemos
      refine (List.nodup_append.1 hmemos).2.2 _ hdrawn memo.text ?_ rfl
      simp [memos]
  | _ => exact True.intro

/-! ### Nothing is overwritten -/

structure Distinct (s : State) : Prop where
  opening : ∀ i id, s.opening i = some id → s.sessions.lookup id = none
  opening_inj : ∀ i j id, s.opening i = some id → s.opening j = some id → i = j
  queue : ∀ session ∈ s.watcher.queue, ∃ live,
    s.sessions.lookup session.paymentRequest.sessionId = some live ∧
      live.order = session.order ∧ live.Unset
  queue_nodup : (s.watcher.queue.map fun session => session.paymentRequest.sessionId).Nodup

/-- A step keeps an entry of the map, or pays for one that is unset and at the head of the
watcher's queue. -/
lemma Rewrites.of_distinct {id : String} {live live' : SessionRecord} (h : Distinct s)
    (hlive : s.sessions.lookup id = some live) (hrewrites : Rewrites s id live a live') :
    live' = live ∨ ∃ artifact session rest, a = .watchMark ∧ live.Unset ∧
      live' = live.pay artifact ∧ s.watcher.queue = session :: rest ∧
      session.paymentRequest.sessionId = id := by
  cases hrewrites with
  | kept => exact Or.inl rfl
  | @replaced i record hi hid =>
      rw [h.opening i id (opening_of_stamped hi hid)] at hlive
      exact absurd hlive (by simp)
  | @paid artifact session rest hw hid =>
      have hqueue : s.watcher.queue = session :: rest := by rw [hw]; rfl
      obtain ⟨copied, hcopied, -, hunset⟩ := h.queue session (by simp [hqueue])
      rw [hid, hlive, Option.some.injEq] at hcopied
      exact Or.inr ⟨artifact, session, rest, rfl, hcopied ▸ hunset, rfl, hqueue, hid⟩

/-- A snapshot has each session once, as it is in the map. -/
lemma Distinct.snapshot (hfrom : Provenance srv t s)
    {visits : List (((_ : String) × SessionRecord) × UInt64)} (hvisits : s.Visits visits) :
    (∀ session ∈ pendingSessions visits,
      s.sessions.lookup session.paymentRequest.sessionId = some session ∧ session.Unset) ∧
    ((pendingSessions visits).map fun session => session.paymentRequest.sessionId).Nodup := by
  constructor
  · intro session hsession
    obtain ⟨id, now, hid, hpending⟩ := mem_pendingSessions hvisits.1 hsession
    obtain ⟨hkey, hcons, -⟩ := hfrom.session id session hid
    refine ⟨by rw [hkey]; exact hid, hcons.unset_of_unpaid ?_⟩
    simp only [isPending, Bool.and_eq_true, Bool.not_eq_true'] at hpending
    exact hpending.1
  · -- the ids of the visited sessions are the keys of the map
    have hkeys : ((visits.map Prod.fst).map Sigma.fst).Nodup := by
      have hnodup := s.sessions.nodupKeys
      rw [← hvisits.1] at hnodup
      simpa [Multiset.coe_nodupKeys, List.NodupKeys, List.keys] using hnodup
    have hids : (pendingSessions visits).map (fun r => r.paymentRequest.sessionId) =
        (visits.filter fun visit => isPending visit.1.2 visit.2).map fun visit => visit.1.1 := by
      rw [pendingSessions, List.map_map]
      refine List.map_congr_left fun visit hvisit => ?_
      have hmem : s.sessions.lookup visit.1.1 = some visit.1.2 :=
        lookup_of_visit hvisits.1 (List.mem_filter.1 hvisit).1
      exact (hfrom.session _ _ hmem).1
    rw [hids]
    rw [List.map_map] at hkeys
    exact hkeys.sublist (List.Sublist.map _ List.filter_sublist)

/-- The sessions still to be treated are not the one that is marked. -/
lemma Distinct.queue_step (h : Distinct s) (hstep : step srv s a = some s')
    {session live : SessionRecord} (hsession : session ∈ s'.watcher.queue)
    (hlive : s.sessions.lookup session.paymentRequest.sessionId = some live) :
    s'.sessions.lookup session.paymentRequest.sessionId = some live := by
  obtain ⟨live', hlive', hrewrites⟩ := lookup_of_step hstep hlive
  rcases hrewrites.of_distinct h hlive with rfl | ⟨-, marked, rest, rfl, -, -, hqueue, hid⟩
  · exact hlive'
  · have hnodup := h.queue_nodup
    rw [hqueue, List.map_cons, List.nodup_cons] at hnodup
    rw [queue_of_mark hstep, hqueue, List.tail_cons] at hsession
    exact absurd (hid ▸ List.mem_map_of_mem hsession) hnodup.1

lemma Distinct.step (h : Distinct s) (hfrom : Provenance srv t s) (hnew : DrawsFresh s a)
    (hstep : step srv s a = some s') : Distinct s' := by
  refine ⟨?_, ?_, ?_, ?_⟩
  · -- what is still to be inserted is not in the map
    intro j id hj
    cases hid : s'.sessions.lookup id with
    | none => rfl
    | some session =>
        exfalso
        have hinv := lookup_of_step_inv hstep hid
        rcases opening_of_step hstep hj with ⟨hj, hne⟩ | ⟨body, memo, rfl, rfl⟩
        · rcases hinv with ⟨old, hold, -⟩ | ⟨i, rfl, hi, hkey⟩
          · rw [h.opening j id hj] at hold
            exact absurd hold (by simp)
          · -- only the task itself inserts under the id it has
            exact hne (by rw [h.opening_inj i j id (opening_of_stamped hi hkey) hj])
        · rcases hinv with ⟨old, hold, -⟩ | ⟨i, ha, -⟩
          · exact hnew (Or.inl ⟨old, hold⟩)
          · exact absurd ha (by simp)
  · -- a step draws one memo at most, and it is not in use
    intro i j id hi hj
    rcases opening_of_step hstep hi with ⟨hi, -⟩ | ⟨body, memo, rfl, rfl⟩
    · rcases opening_of_step hstep hj with ⟨hj, -⟩ | ⟨body, memo, rfl, rfl⟩
      · exact h.opening_inj i j id hi hj
      · exact absurd (Or.inr ⟨i, hi⟩) hnew
    · rcases opening_of_step hstep hj with ⟨hj, -⟩ | ⟨body', memo', ha, -⟩
      · exact absurd (Or.inr ⟨j, hj⟩) hnew
      · exact (Action.createRequest.inj ha).1
  · intro session hsession
    rcases queue_of_step hstep with heq | heq | ⟨visits, rfl, hvisits, heq⟩
    · obtain ⟨live, hlive, hrest⟩ := h.queue session (heq ▸ hsession)
      exact ⟨live, h.queue_step hstep hsession hlive, hrest⟩
    · obtain ⟨live, hlive, hrest⟩ := h.queue session (List.mem_of_mem_tail (heq ▸ hsession))
      exact ⟨live, h.queue_step hstep hsession hlive, hrest⟩
    · -- a snapshot copies what is in the map, and changes nothing there
      obtain ⟨hlive, hunset⟩ := (Distinct.snapshot hfrom hvisits).1 session (heq ▸ hsession)
      obtain ⟨live', hlive', hrewrites⟩ := lookup_of_step hstep hlive
      cases hrewrites with
      | kept => exact ⟨session, hlive', rfl, hunset⟩
  · rcases queue_of_step hstep with heq | heq | ⟨visits, rfl, hvisits, heq⟩
    · rw [heq]
      exact h.queue_nodup
    · rw [heq]
      exact h.queue_nodup.sublist (List.Sublist.map _ (List.tail_sublist _))
    · rw [heq]
      exact (Distinct.snapshot hfrom hvisits).2

/-- **Nothing is overwritten.**  If no memo is drawn while it is in use, the end of the run
is `Distinct`. -/
theorem distinct_of_run (hrun : Run (step srv) (.init clock) t s)
    (hfresh : ∀ e ∈ t, DrawsFresh e.1 e.2) : Distinct s := by
  refine Run.invariant_of_guard (P := fun _ s => Distinct s) hrun hfresh ?_ ?_
  · refine ⟨?_, ?_, ?_, ?_⟩
    · intro i id hi
      exact absurd hi (by simp [State.opening])
    · intro i j id hi
      exact absurd hi (by simp [State.opening])
    · intro session hsession
      exact absurd hsession (by simp)
    · simp
  · intro t s a s' hrun h hnew hstep
    exact h.step (provenance_of_run hrun) hnew hstep

/-- If no memo is drawn twice in a run, its end is `Fresh`. -/
theorem fresh_of_run (hrun : Run (step srv) (.init clock) t s) (hmemos : (memos t).Nodup) :
    Fresh t s := by
  have h := distinct_of_run hrun (drawsFresh_of_nodup hrun hmemos)
  exact ⟨fun i id hi => ⟨mem_memos_of_inUse hrun (Or.inr ⟨i, hi⟩), h.opening i id hi⟩,
    h.opening_inj, fun id session hid => mem_memos_of_inUse hrun (Or.inl ⟨session, hid⟩),
    h.queue, h.queue_nodup⟩

end

end Haske
