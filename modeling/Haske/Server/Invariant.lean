import Haske.Server.Step

/-!
# Where everything in a state comes from

What holds in every state the server can reach, relative to the trace that led there and
whatever the memos are: the deadlines of a session come from one reading of the clock, a
session in the map from an insertion, a payment the watcher has found from a page of
Horizon's that was returned for this session, and a pass it is about to store from that
payment.  All of this is `Provenance`, which every step preserves
(`Provenance.of_effect`).
-/

namespace Haske

open Machine

abbrev Trace := List (State × Action)

/-! ### Small facts about states -/

section

variable {s : State} {i j : ℕ} {task : Task} {new : Option Task}

/-- A task after one task has changed is the new one or was there before. -/
lemma tasks_setTask (h : (s.setTask i new).tasks j = some task) :
    (j = i ∧ new = some task) ∨ (j ≠ i ∧ s.tasks j = some task) := by
  by_cases hj : j = i
  · subst hj
    simp only [State.setTask, Function.update_self] at h
    exact Or.inl ⟨rfl, h⟩
  · simp only [State.setTask, Function.update_of_ne hj] at h
    exact Or.inr ⟨hj, h⟩

/-- The sessions the watcher has still to treat in this tick. -/
def Watcher.queue : Watcher → List SessionRecord
  | .waiting => []
  | .lookup session rest => session :: rest
  | .found _ session rest => session :: rest
  | .issued _ session rest => session :: rest

@[simp] lemma queue_waiting : Watcher.queue .waiting = [] := rfl

@[simp] lemma queue_next (rest : List SessionRecord) : (Watcher.next rest).queue = rest := by
  cases rest with
  | nil => rfl
  | cons session rest => rfl

lemma queue_isEmpty {w : Watcher} : w.queue.isEmpty = true ↔ w = .waiting := by
  cases w with
  | waiting => simp [Watcher.queue]
  | _ => simp [Watcher.queue]

/-- What is visited is in the map. -/
lemma lookup_of_visit {sessions : Sessions}
    {visits : List (((_ : String) × SessionRecord) × UInt64)}
    (hvisits : (visits.map Prod.fst : Multiset ((_ : String) × SessionRecord)) = sessions.entries)
    {visit : ((_ : String) × SessionRecord) × UInt64} (h : visit ∈ visits) :
    sessions.lookup visit.1.1 = some visit.1.2 := by
  refine Finmap.mem_lookup_iff.2 ?_
  rw [← hvisits, Multiset.mem_coe]
  exact List.mem_map_of_mem h

/-- The sessions that a snapshot yields are in the map and pending. -/
lemma mem_pendingSessions {sessions : Sessions}
    {visits : List (((_ : String) × SessionRecord) × UInt64)}
    (hvisits : (visits.map Prod.fst : Multiset ((_ : String) × SessionRecord)) = sessions.entries)
    {session : SessionRecord} (h : session ∈ pendingSessions visits) :
    ∃ id now, sessions.lookup id = some session ∧ isPending session now = true := by
  rw [pendingSessions, List.mem_map] at h
  obtain ⟨visit, hvisit, rfl⟩ := h
  rw [List.mem_filter] at hvisit
  exact ⟨visit.1.1, visit.2, lookup_of_visit hvisits hvisit.1, hvisit.2⟩

/-- The clock does not go back. -/
lemma clock_le_lastReading {visits : List (((_ : String) × SessionRecord) × UInt64)}
    (hvisits : s.Visits visits) : s.clock ≤ s.lastReading visits := by
  obtain ⟨-, hchain⟩ := hvisits
  rw [State.lastReading]
  generalize visits.map Prod.snd = readings at hchain
  generalize s.clock = clock at hchain
  induction readings generalizing clock with
  | nil => exact UInt64.le_refl _
  | cons now readings ih =>
      rw [List.isChain_cons_cons] at hchain
      rw [List.getLast?_cons, Option.getD_some]
      exact UInt64.le_trans hchain.1 (ih now hchain.2)

variable {srv : Server} {s' : State} {a : Action}

lemma clock_le_of_step (h : step srv s a = some s') : s.clock ≤ s'.clock := by
  cases effect_of_step h with
  | tick hle => exact hle
  | watchSnapshot _ hvisits => exact clock_le_lastReading hvisits
  | _ => exact UInt64.le_refl _

/-- What a step makes of an entry of the map. -/
inductive Rewrites (s : State) (id : String) (live : SessionRecord) :
    Action → SessionRecord → Prop
  | kept {a : Action} : Rewrites s id live a live
  | replaced {i : ℕ} {record : SessionRecord} (h : s.tasks i = some (.stamped record))
      (hid : record.paymentRequest.sessionId = id) : Rewrites s id live (.createInsert i) record
  | paid {artifact : AccessArtifact} {session : SessionRecord} {rest : List SessionRecord}
      (h : s.watcher = .issued artifact session rest)
      (hid : session.paymentRequest.sessionId = id) :
      Rewrites s id live .watchMark (live.pay artifact)

/-- An entry of the map is never removed. -/
lemma lookup_of_step (h : step srv s a = some s') {id : String} {live : SessionRecord}
    (hid : s.sessions.lookup id = some live) :
    ∃ live', s'.sessions.lookup id = some live' ∧ Rewrites s id live a live' := by
  cases effect_of_step h with
  | @createInsert i record hi =>
      by_cases hkey : record.paymentRequest.sessionId = id
      · exact ⟨record, by rw [← hkey]; exact Finmap.lookup_insert _, .replaced hi hkey⟩
      · refine ⟨live, ?_, .kept⟩
        show (s.sessions.insert _ record).lookup id = some live
        rw [Finmap.lookup_insert_of_ne _ (Ne.symm hkey), hid]
  | @marked artifact session old rest hw hold =>
      by_cases hkey : session.paymentRequest.sessionId = id
      · subst hkey
        rw [hid, Option.some.injEq] at hold
        subst hold
        exact ⟨_, Finmap.lookup_insert _, .paid hw rfl⟩
      · refine ⟨live, ?_, .kept⟩
        rw [Finmap.lookup_insert_of_ne _ (Ne.symm hkey), hid]
  | _ => exact ⟨live, hid, .kept⟩

/-- An entry of the map after a step was there before, and is kept, replaced or paid; or it
is inserted. -/
lemma lookup_of_step_inv (h : step srv s a = some s') {id : String} {session : SessionRecord}
    (hid : s'.sessions.lookup id = some session) :
    (∃ old, s.sessions.lookup id = some old ∧ Rewrites s id old a session) ∨
      ∃ i, a = .createInsert i ∧ s.tasks i = some (.stamped session) ∧
        session.paymentRequest.sessionId = id := by
  cases hold : s.sessions.lookup id with
  | some old =>
      obtain ⟨live, hlive, hrewrites⟩ := lookup_of_step h hold
      obtain rfl := Option.some.inj (hlive.symm.trans hid)
      exact Or.inl ⟨old, rfl, hrewrites⟩
  | none =>
      right
      cases effect_of_step h with
      | @createInsert i record hi =>
          by_cases hkey : id = record.paymentRequest.sessionId
          · rw [hkey] at hid
            obtain rfl := Option.some.inj ((Finmap.lookup_insert _).symm.trans hid)
            exact ⟨i, rfl, hi, hkey.symm⟩
          · simp only [insertSession, Finmap.lookup_insert_of_ne _ hkey, hold] at hid
            exact absurd hid (by simp)
      | @marked artifact copied live rest hw hlive =>
          -- a payment is stored only in a session that is there
          have hkey : id ≠ copied.paymentRequest.sessionId := by
            rintro rfl
            rw [hold] at hlive
            exact absurd hlive (by simp)
          rw [Finmap.lookup_insert_of_ne _ hkey, hold] at hid
          exact absurd hid (by simp)
      | _ => exact absurd (hold.symm.trans hid) (by simp)

/-- The task that a step puts in place. -/
inductive Enters (srv : Server) (s : State) (j : ℕ) : Action → Task → Prop
  | requested {body : CreatePaymentBody} {memo : Alphanumeric 12} :
      Enters srv s j (.createRequest j body memo) (.requested
        (createPaymentRequest srv.destinationAddress body.toRequest memo) body.toRequest.eventId)
  | stamped {paymentRequest : PaymentRequest} {eventId : String} {record : SessionRecord}
      (h : s.tasks j = some (.requested paymentRequest eventId))
      (hnew : newSession srv.overflowChecks srv.tokenTtlSecs paymentRequest eventId s.clock =
        some record) : Enters srv s j (.createClock j) (.stamped record)
  | inserted {record : SessionRecord} (h : s.tasks j = some (.stamped record)) :
      Enters srv s j (.createInsert j) (.inserted record)
  | status {id : String} {session : SessionRecord}
      (hget : s.sessions.lookup id = some session) :
      Enters srv s j (.statusGet j id) (.status session)

/-- A task after a step was there before, or is put in place by the step. -/
lemma task_of_step (h : step srv s a = some s') (hj : s'.tasks j = some task) :
    (s.tasks j = some task ∧ a ≠ .createInsert j) ∨ Enters srv s j a task := by
  -- a task that ends puts nothing in place
  have hgone : ∀ {i}, (s.setTask i none).tasks j = some task → s.tasks j = some task := by
    intro i htask
    rcases tasks_setTask htask with ⟨-, heq⟩ | ⟨-, htask⟩
    · exact absurd heq (by simp)
    · exact htask
  cases effect_of_step h with
  | createRequest _ =>
      rcases tasks_setTask hj with ⟨rfl, ⟨⟩⟩ | ⟨-, htask⟩
      · exact Or.inr .requested
      · exact Or.inl ⟨htask, by simp⟩
  | createClock hi hnew =>
      rcases tasks_setTask hj with ⟨rfl, ⟨⟩⟩ | ⟨-, htask⟩
      · exact Or.inr (.stamped hi hnew)
      · exact Or.inl ⟨htask, by simp⟩
  | createInsert hi =>
      rcases tasks_setTask hj with ⟨rfl, ⟨⟩⟩ | ⟨hji, htask⟩
      · exact Or.inr (.inserted hi)
      · exact Or.inl ⟨htask, by simpa using Ne.symm hji⟩
  | statusGet _ hget =>
      rcases tasks_setTask hj with ⟨rfl, ⟨⟩⟩ | ⟨-, htask⟩
      · exact Or.inr (.status hget)
      · exact Or.inl ⟨htask, by simp⟩
  | createPanic _ _ => exact Or.inl ⟨hgone hj, by simp⟩
  | createRespond _ => exact Or.inl ⟨hgone hj, by simp⟩
  | statusUnknown _ _ => exact Or.inl ⟨hgone hj, by simp⟩
  | statusRespond _ => exact Or.inl ⟨hgone hj, by simp⟩
  | cancel _ => exact Or.inl ⟨hgone hj, by simp⟩
  | _ => exact Or.inl ⟨hj, by simp⟩

/-- What the watcher has still to treat after a step. -/
lemma queue_of_step (h : step srv s a = some s') :
    s'.watcher.queue = s.watcher.queue ∨ s'.watcher.queue = s.watcher.queue.tail ∨
      ∃ visits, a = .watchSnapshot visits ∧ s.Visits visits ∧
        s'.watcher.queue = pendingSessions visits := by
  -- the watcher goes on with the next session
  have hnext : ∀ {session rest}, s.watcher.queue = session :: rest →
      (Watcher.next rest).queue = s.watcher.queue.tail := by
    intro session rest hqueue
    rw [hqueue, queue_next, List.tail_cons]
  cases effect_of_step h with
  | watchSnapshot _ hvisits => exact Or.inr (Or.inr ⟨_, rfl, hvisits, queue_next _⟩)
  | lookupFound hw _ => exact Or.inl (by rw [hw]; rfl)
  | lookupNothing hw _ => exact Or.inr (Or.inl (hnext (by rw [hw]; rfl)))
  | issued hw _ => exact Or.inl (by rw [hw]; rfl)
  | issueFailed hw _ => exact Or.inr (Or.inl (hnext (by rw [hw]; rfl)))
  | marked hw _ => exact Or.inr (Or.inl (hnext (by rw [hw]; rfl)))
  | markUnknown hw _ => exact Or.inr (Or.inl (hnext (by rw [hw]; rfl)))
  | _ => exact Or.inl rfl

lemma queue_of_mark (h : step srv s .watchMark = some s') :
    s'.watcher.queue = s.watcher.queue.tail := by
  cases effect_of_step h with
  | marked hw _ => rw [hw]; exact queue_next _
  | markUnknown hw _ => rw [hw]; exact queue_next _

end

/-! ### Where things come from -/

section

variable (srv : Server) (t : Trace)

/-- The order was made in the run, for a request, with its deadlines counted from
`now`. -/
def StampedAt (order : Order) (now : UInt64) : Prop :=
  ∃ s i request memo, (s, .createClock i) ∈ t ∧ s.clock = now ∧
    s.tasks i = some (.requested (createPaymentRequest srv.destinationAddress request memo)
      request.eventId) ∧
    order.MadeFrom srv.tokenTtlSecs (createPaymentRequest srv.destinationAddress request memo)
      request.eventId now

/-- A session with this order was inserted in the run. -/
def Inserted (order : Order) : Prop :=
  ∃ s i record, (s, .createInsert i) ∈ t ∧ s.tasks i = some (.stamped record) ∧
    record.order = order

/-- The payment was found in the run, on a page that was returned to a lookup for the
session. -/
def Looked (session : SessionRecord) (payment : PaymentEvent) : Prop :=
  ∃ s rest records, (s, .watchLookup (some records)) ∈ t ∧ s.watcher = .lookup session rest ∧
    findPayment session records = some payment

/-- The artifact was issued for a payment that was found for the session. -/
def IssuedFor (session : SessionRecord) (artifact : AccessArtifact) : Prop :=
  ∃ payment nonce, Looked t session payment ∧ srv.issue session payment nonce = some artifact

/-- A task's data come from the run. -/
def TaskFrom : Task → Prop
  | .requested paymentRequest eventId => ∃ request memo,
      paymentRequest = createPaymentRequest srv.destinationAddress request memo ∧
        eventId = request.eventId
  | .stamped record => record.Unset ∧ ∃ now, StampedAt srv t record.order now
  | .inserted _ => True
  | .status _ => True

/-- What the watcher has found or issued comes from the run. -/
def WatcherFrom : Watcher → Prop
  | .found payment session _ => Looked t session payment
  | .issued artifact session _ => IssuedFor srv t session artifact
  | _ => True

/-- Everything in the state comes from the run. -/
structure Provenance (s : State) : Prop where
  task : ∀ i task, s.tasks i = some task → TaskFrom srv t task
  session : ∀ id session, s.sessions.lookup id = some session →
    session.paymentRequest.sessionId = id ∧ session.Consistent ∧
      (∃ now, StampedAt srv t session.order now) ∧ Inserted t session.order
  queue : ∀ session ∈ s.watcher.queue, ∃ now, StampedAt srv t session.order now
  watcher : WatcherFrom srv t s.watcher

end

section

variable {srv : Server} {t t' : Trace}

lemma StampedAt.mono (ht : t ⊆ t') {order : Order} {now : UInt64} (h : StampedAt srv t order now) :
    StampedAt srv t' order now := by
  obtain ⟨s, i, request, memo, hmem, hrest⟩ := h
  exact ⟨s, i, request, memo, ht hmem, hrest⟩

lemma Inserted.mono (ht : t ⊆ t') {order : Order} (h : Inserted t order) : Inserted t' order := by
  obtain ⟨s, i, record, hmem, hrest⟩ := h
  exact ⟨s, i, record, ht hmem, hrest⟩

lemma Looked.mono (ht : t ⊆ t') {session : SessionRecord} {payment : PaymentEvent}
    (h : Looked t session payment) : Looked t' session payment := by
  obtain ⟨s, rest, records, hmem, hfound⟩ := h
  exact ⟨s, rest, records, ht hmem, hfound⟩

lemma IssuedFor.mono (ht : t ⊆ t') {session : SessionRecord} {artifact : AccessArtifact}
    (h : IssuedFor srv t session artifact) : IssuedFor srv t' session artifact := by
  obtain ⟨payment, nonce, hlooked, hissue⟩ := h
  exact ⟨payment, nonce, hlooked.mono ht, hissue⟩

lemma TaskFrom.mono (ht : t ⊆ t') {task : Task} (h : TaskFrom srv t task) :
    TaskFrom srv t' task := by
  cases task with
  | stamped record => exact ⟨h.1, h.2.imp fun _ hnow => hnow.mono ht⟩
  | _ => exact h

lemma Provenance.mono (ht : t ⊆ t') {s : State} (h : Provenance srv t s) :
    Provenance srv t' s where
  task i task hi := (h.task i task hi).mono ht
  session id session hid := by
    obtain ⟨hkey, hcons, ⟨now, hnow⟩, hins⟩ := h.session id session hid
    exact ⟨hkey, hcons, ⟨now, hnow.mono ht⟩, hins.mono ht⟩
  queue session hs := (h.queue session hs).imp fun _ hnow => hnow.mono ht
  watcher := by
    have hw := h.watcher
    revert hw
    cases s.watcher with
    | found payment session rest => exact Looked.mono ht
    | issued artifact session rest => exact IssuedFor.mono ht
    | _ => exact fun _ => True.intro

lemma watcherFrom_next (rest : List SessionRecord) : WatcherFrom srv t (Watcher.next rest) := by
  cases rest with
  | nil => exact True.intro
  | cons session rest => exact True.intro

/-- A step that changes one task keeps `Provenance` if the new task comes from the run. -/
lemma Provenance.setTask {s : State} (h : Provenance srv t s) {i : ℕ} {new : Option Task}
    (hnew : ∀ task, new = some task → TaskFrom srv t task) :
    Provenance srv t (s.setTask i new) where
  task j task hj := by
    rcases tasks_setTask hj with ⟨-, hj⟩ | ⟨-, hj⟩
    · exact hnew task hj
    · exact h.task j task hj
  session := h.session
  queue := h.queue
  watcher := h.watcher

/-- Going on with the next session keeps `Provenance`. -/
lemma Provenance.next {s : State} (h : Provenance srv t s) {session : SessionRecord}
    {rest : List SessionRecord} (hqueue : s.watcher.queue = session :: rest) :
    Provenance srv t { s with watcher := Watcher.next rest } where
  task := h.task
  session := h.session
  queue r hr := by
    rw [queue_next] at hr
    exact h.queue r (hqueue ▸ List.mem_cons_of_mem _ hr)
  watcher := watcherFrom_next _

lemma Provenance.of_effect {s s' : State} {a : Action} (h : Provenance srv t s)
    (hmem : (s, a) ∈ t) (heffect : Effect srv s a s') : Provenance srv t s' := by
  cases heffect with
  | tick _ => exact ⟨h.task, h.session, h.queue, h.watcher⟩
  | createRequest _ =>
      refine h.setTask ?_
      rintro task ⟨⟩
      exact ⟨_, _, rfl, rfl⟩
  | @createClock i paymentRequest eventId record hi hnew =>
      refine h.setTask ?_
      rintro task ⟨⟩
      obtain ⟨hunset, hmade⟩ := newSession_eq_some hnew
      obtain ⟨request, memo, rfl, rfl⟩ := h.task i _ hi
      exact ⟨hunset, s.clock, s, i, request, memo, hmem, rfl, hi, hmade⟩
  | createPanic _ _ => exact h.setTask (by simp)
  | @createInsert i record hi =>
      -- the entry of the map is what the task has stamped
      obtain ⟨hunset, hnow⟩ := h.task i _ hi
      have h' : Provenance srv t (s.setTask i (some (.inserted record))) := by
        refine h.setTask ?_
        rintro task ⟨⟩
        exact True.intro
      refine ⟨h'.task, ?_, h'.queue, h'.watcher⟩
      intro id session hid
      by_cases hkey : id = record.paymentRequest.sessionId
      · subst hkey
        simp only [insertSession, Finmap.lookup_insert, Option.some.injEq] at hid
        subst hid
        exact ⟨rfl, Or.inl hunset, hnow, s, i, record, hmem, hi, rfl⟩
      · simp only [insertSession, Finmap.lookup_insert_of_ne _ hkey] at hid
        exact h.session id session hid
  | createRespond _ => exact h.setTask (by simp)
  | statusGet _ _ =>
      refine h.setTask ?_
      rintro task ⟨⟩
      exact True.intro
  | statusUnknown _ _ => exact h.setTask (by simp)
  | statusRespond _ => exact h.setTask (by simp)
  | cancel _ => exact h.setTask (by simp)
  | watchSnapshot _ hvisits =>
      refine ⟨h.task, h.session, ?_, watcherFrom_next _⟩
      intro session hsession
      rw [queue_next] at hsession
      -- what is copied is in the map
      obtain ⟨id, -, hid, -⟩ := mem_pendingSessions hvisits.1 hsession
      exact (h.session id session hid).2.2.1
  | @lookupFound page session rest payment hw hfound =>
      have hqueue := h.queue
      rw [hw] at hqueue
      obtain ⟨records, rfl, hrecords⟩ := Option.bind_eq_some_iff.1 hfound
      exact ⟨h.task, h.session, hqueue, s, rest, records, hmem, hw, hrecords⟩
  | lookupNothing hw _ => exact h.next (by rw [hw]; rfl)
  | @issued nonce payment session rest artifact hw hissue =>
      have hqueue := h.queue
      have hlooked := h.watcher
      rw [hw] at hqueue hlooked
      exact ⟨h.task, h.session, hqueue, payment, nonce, hlooked, hissue⟩
  | issueFailed hw _ => exact h.next (by rw [hw]; rfl)
  | @marked artifact session live rest hw hlive =>
      have h' := h.next (by rw [hw]; rfl : s.watcher.queue = session :: rest)
      refine ⟨h'.task, ?_, h'.queue, h'.watcher⟩
      intro id r hid
      by_cases hkey : id = session.paymentRequest.sessionId
      · subst hkey
        rw [Finmap.lookup_insert, Option.some.injEq] at hid
        subst hid
        obtain ⟨hkey, -, hnow, hins⟩ := h.session _ live hlive
        exact ⟨hkey, Or.inr ⟨artifact, live.pay_holds artifact⟩, hnow, hins⟩
      · rw [Finmap.lookup_insert_of_ne _ hkey] at hid
        exact h.session id r hid
  | markUnknown hw _ => exact h.next (by rw [hw]; rfl)

/-- **Everything comes from the run.** -/
theorem provenance_of_run {clock : UInt64} {s : State}
    (hrun : Run (step srv) (.init clock) t s) : Provenance srv t s := by
  refine Run.invariant hrun ?_ ?_
  · refine ⟨?_, ?_, ?_, True.intro⟩
    · intro i task hi
      exact absurd hi (by simp)
    · intro id session hid
      exact absurd hid (by simp)
    · intro session hsession
      exact absurd hsession (by simp)
  · intro t s a s' _ ih hstep
    have hsub : t ⊆ t ++ [(s, a)] := List.subset_append_left _ _
    exact (ih.mono hsub).of_effect (by simp) (effect_of_step hstep)

end

end Haske
