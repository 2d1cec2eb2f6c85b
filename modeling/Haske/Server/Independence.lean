import Haske.Server.Invariant

/-!
# Sessions do not get in each other's way

The watcher treats the sessions of a snapshot one after the other, in the order in which the
map yields them, while other tasks insert sessions and read them.  What it does to a session
depends only on what the provider and the access service answer for it: a session for which
one of them fails is passed over, and the next one is treated as if it had been the first.
So the order does not matter, nor do the failures (`tick_independent`).

The answers in a tick are any functions of the session, and not only what Horizon and the
issuing of passes can return.  The server's own ticks are among these ticks
(`tick_of_run`).
-/

namespace Haske

open Machine

/-- What the services answer in a tick: `find_confirmed_payment` for each session, and
`issue_token` for the payment that was found. -/
structure Answers where
  Error : Type
  findConfirmedPayment : SessionRecord → Except Error (Option PaymentEvent)
  issueToken : SessionRecord → PaymentEvent → Except Error AccessArtifact

/-- The part of the server's state that matters to a tick. -/
structure TickState where
  sessions : Sessions
  watcher : Watcher

inductive TickAction where
  /-- A create handler inserts a session. -/
  | insert (record : SessionRecord)
  /-- A status handler reads a session. -/
  | get (sessionId : String)
  /-- The watcher goes on to its next call. -/
  | watch

/-- The state after a snapshot that visits the entries in this order. -/
def TickState.start (sessions : Sessions)
    (visits : List (((_ : String) × SessionRecord) × UInt64)) : TickState where
  sessions := sessions
  watcher := Watcher.next (pendingSessions visits)

/-- The records that are inserted. -/
def insertions (t : List (TickState × TickAction)) : List SessionRecord :=
  t.filterMap fun e => match e.2 with
    | .insert record => some record
    | _ => none

/-- Every session is under its own id. -/
def Keyed (sessions : Sessions) : Prop :=
  ∀ id session, sessions.lookup id = some session → session.paymentRequest.sessionId = id

section

variable (answers : Answers)

/-- A tick, step by step; a session is inserted under an id that is not in the map. -/
def tickStep (s : TickState) : TickAction → Option TickState
  | .insert record =>
      if s.sessions.lookup record.paymentRequest.sessionId = none then
        some { s with sessions := insertSession s.sessions record }
      else none
  | .get _ => some s
  | .watch =>
      match s.watcher with
      | .waiting => none
      | .lookup session rest =>
          match answers.findConfirmedPayment session with
          | .error _ => some { s with watcher := Watcher.next rest }
          | .ok none => some { s with watcher := Watcher.next rest }
          | .ok (some payment) => some { s with watcher := .found payment session rest }
      | .found payment session rest =>
          match answers.issueToken session payment with
          | .error _ => some { s with watcher := Watcher.next rest }
          | .ok artifact => some { s with watcher := .issued artifact session rest }
      | .issued artifact session rest =>
          let sessionId := session.paymentRequest.sessionId
          some
            { sessions := (markPaid s.sessions sessionId artifact).getD s.sessions
              watcher := Watcher.next rest }

/-- The artifact that a session gets, if both services succeed for it. -/
def Answers.artifactFor (session : SessionRecord) : Option AccessArtifact :=
  match answers.findConfirmedPayment session with
  | .ok (some payment) => (answers.issueToken session payment).toOption
  | _ => none

/-- What is made of a session once those in `done` are treated. -/
def Answers.settle (done : List SessionRecord) (session : SessionRecord) : SessionRecord :=
  if session ∈ done then (answers.artifactFor session).elim session session.pay else session

/-- What the watcher has in hand is what was answered for the session. -/
def Answers.Agrees : Watcher → Prop
  | .found payment session _ => answers.findConfirmedPayment session = .ok (some payment)
  | .issued artifact session _ => answers.artifactFor session = some artifact
  | _ => True

/-- The sessions of `done` are treated, those of the queue are not, and nothing else has
happened but the insertions. -/
structure Treated (sessions : Sessions) (pending inserted done : List SessionRecord)
    (s : TickState) : Prop where
  queue : pending = done ++ s.watcher.queue
  watcher : answers.Agrees s.watcher
  old : ∀ id session, sessions.lookup id = some session →
    s.sessions.lookup id = some (answers.settle done session)
  new : ∀ id, sessions.lookup id = none → ∀ record,
    s.sessions.lookup id = some record ↔
      record ∈ inserted ∧ record.paymentRequest.sessionId = id

end

section

variable {answers : Answers} {sessions : Sessions} {pending inserted done : List SessionRecord}
  {s s' : TickState} {session : SessionRecord} {rest : List SessionRecord}

lemma SessionRecord.pay_pay (session : SessionRecord) (artifact : AccessArtifact) :
    (session.pay artifact).pay artifact = session.pay artifact := rfl

lemma Answers.agrees_next (rest : List SessionRecord) : answers.Agrees (Watcher.next rest) := by
  cases rest with
  | nil => exact True.intro
  | cons session rest => exact True.intro

/-- Treating another session makes no difference to this one. -/
lemma settle_append_of_ne {other : SessionRecord} (h : session ≠ other) :
    answers.settle (done ++ [other]) session = answers.settle done session := by
  simp [Answers.settle, h]

/-- A session that gets no artifact is left as it is. -/
lemma settle_append_of_none {other : SessionRecord} (h : answers.artifactFor other = none) :
    answers.settle (done ++ [other]) session = answers.settle done session := by
  by_cases hsame : session = other
  · subst hsame
    simp [Answers.settle, h]
  · exact settle_append_of_ne hsame

/-- A session that gets one is paid, even if it was before. -/
lemma settle_append_self {artifact : AccessArtifact}
    (h : answers.artifactFor session = some artifact) :
    answers.settle (done ++ [session]) session = (answers.settle done session).pay artifact := by
  by_cases hdone : session ∈ done
  · simp [Answers.settle, h, hdone, SessionRecord.pay_pay]
  · simp [Answers.settle, h, hdone]

/-- The session that the watcher passes over is done. -/
lemma Treated.pass (h : Treated answers sessions pending inserted done s)
    (hqueue : s.watcher.queue = session :: rest) (hnone : answers.artifactFor session = none) :
    Treated answers sessions pending inserted (done ++ [session])
      { s with watcher := Watcher.next rest } where
  queue := by
    rw [queue_next, h.queue, hqueue]
    simp
  watcher := Answers.agrees_next rest
  old id live hid := by
    rw [settle_append_of_none hnone]
    exact h.old id live hid
  new := h.new

/-- The session that the watcher marks is done. -/
lemma Treated.mark (h : Treated answers sessions pending inserted done s)
    (hkeyed : Keyed sessions)
    (hpending : ∀ session ∈ pending, ∃ id, sessions.lookup id = some session)
    {artifact : AccessArtifact} (hw : s.watcher = .issued artifact session rest) :
    Treated answers sessions pending inserted (done ++ [session])
      { sessions := (markPaid s.sessions session.paymentRequest.sessionId artifact).getD
          s.sessions
        watcher := Watcher.next rest } := by
  have hagrees : answers.artifactFor session = some artifact := by
    have hagrees := h.watcher
    rwa [hw] at hagrees
  have hqueue : s.watcher.queue = session :: rest := by rw [hw]; rfl
  have hmem : session ∈ pending := by
    rw [h.queue, hqueue]
    simp
  -- it is in the map, under its own id
  obtain ⟨id, hid⟩ := hpending session hmem
  have hkey := hkeyed id session hid
  subst hkey
  have hlive := h.old _ session hid
  rw [markPaid, hlive, Option.map_some, Option.getD_some]
  refine ⟨?_, Answers.agrees_next rest, ?_, ?_⟩
  · rw [queue_next, h.queue, hqueue]
    simp
  · intro id live hlookup
    by_cases hsame : id = session.paymentRequest.sessionId
    · subst hsame
      obtain rfl := Option.some.inj (hid.symm.trans hlookup)
      rw [Finmap.lookup_insert, settle_append_self hagrees]
    · have hne : live ≠ session := by
        rintro rfl
        exact hsame (hkeyed id live hlookup).symm
      rw [Finmap.lookup_insert_of_ne _ hsame, settle_append_of_ne hne]
      exact h.old id live hlookup
  · intro id hnone record
    have hne : id ≠ session.paymentRequest.sessionId := by
      rintro rfl
      rw [hid] at hnone
      exact absurd hnone (by simp)
    rw [Finmap.lookup_insert_of_ne _ hne]
    exact h.new id hnone record

/-- An insertion under an id of its own. -/
lemma Treated.insert (h : Treated answers sessions pending inserted done s)
    {record : SessionRecord}
    (hfresh : s.sessions.lookup record.paymentRequest.sessionId = none) :
    Treated answers sessions pending (inserted ++ [record]) done
      { s with sessions := insertSession s.sessions record } where
  queue := h.queue
  watcher := h.watcher
  old id live hid := by
    have hlive := h.old id live hid
    have hne : id ≠ record.paymentRequest.sessionId := by
      rintro rfl
      rw [hlive] at hfresh
      exact absurd hfresh (by simp)
    rw [insertSession, Finmap.lookup_insert_of_ne _ hne]
    exact hlive
  new id hnone other := by
    by_cases hsame : id = record.paymentRequest.sessionId
    · subst hsame
      rw [insertSession, Finmap.lookup_insert, Option.some.injEq]
      constructor
      · rintro rfl
        exact ⟨by simp, rfl⟩
      · rintro ⟨hmem, hid⟩
        rcases List.mem_append.1 hmem with hmem | hmem
        · -- nothing was inserted under the id before
          have hother := (h.new _ hnone other).2 ⟨hmem, hid⟩
          rw [hfresh] at hother
          exact absurd hother (by simp)
        · exact (List.mem_singleton.1 hmem).symm
    · rw [insertSession, Finmap.lookup_insert_of_ne _ hsame, h.new id hnone other]
      constructor
      · rintro ⟨hmem, hid⟩
        exact ⟨List.mem_append_left _ hmem, hid⟩
      · rintro ⟨hmem, hid⟩
        rcases List.mem_append.1 hmem with hmem | hmem
        · exact ⟨hmem, hid⟩
        · rw [List.mem_singleton.1 hmem] at hid
          exact absurd hid.symm hsame

lemma insertions_append (t : List (TickState × TickAction)) (s : TickState) (a : TickAction) :
    insertions (t ++ [(s, a)]) = insertions t ++ insertions [(s, a)] := by
  rw [insertions, List.filterMap_append]
  rfl

lemma Treated.step (h : Treated answers sessions pending inserted done s)
    (hkeyed : Keyed sessions)
    (hpending : ∀ session ∈ pending, ∃ id, sessions.lookup id = some session) {a : TickAction}
    (hstep : tickStep answers s a = some s') :
    ∃ done', Treated answers sessions pending (inserted ++ insertions [(s, a)]) done' s' := by
  cases a with
  | insert record =>
      rw [tickStep] at hstep
      split at hstep
      · obtain rfl := Option.some.inj hstep
        exact ⟨done, h.insert ‹_›⟩
      · exact absurd hstep (by simp)
  | get sessionId =>
      obtain rfl := Option.some.inj hstep
      refine ⟨done, ?_⟩
      rw [show insertions [(s, .get sessionId)] = [] from rfl, List.append_nil]
      exact h
  | watch =>
      rw [show insertions [(s, .watch)] = [] from rfl, List.append_nil]
      cases hw : s.watcher with
      | waiting => simp [tickStep, hw] at hstep
      | lookup session rest =>
          have hqueue : s.watcher.queue = session :: rest := by rw [hw]; rfl
          simp only [tickStep, hw] at hstep
          cases hfound : answers.findConfirmedPayment session with
          | error e =>
              simp only [hfound, Option.some.injEq] at hstep
              subst hstep
              exact ⟨_, h.pass hqueue (by simp [Answers.artifactFor, hfound])⟩
          | ok found =>
              cases found with
              | none =>
                  simp only [hfound, Option.some.injEq] at hstep
                  subst hstep
                  exact ⟨_, h.pass hqueue (by simp [Answers.artifactFor, hfound])⟩
              | some payment =>
                  simp only [hfound, Option.some.injEq] at hstep
                  subst hstep
                  exact ⟨done, h.queue.trans (by rw [hqueue]; rfl), hfound, h.old, h.new⟩
      | found payment session rest =>
          have hqueue : s.watcher.queue = session :: rest := by rw [hw]; rfl
          have hfound : answers.findConfirmedPayment session = .ok (some payment) := by
            have hagrees := h.watcher
            rwa [hw] at hagrees
          simp only [tickStep, hw] at hstep
          cases hissue : answers.issueToken session payment with
          | error e =>
              simp only [hissue, Option.some.injEq] at hstep
              subst hstep
              have hnone : answers.artifactFor session = none := by
                simp [Answers.artifactFor, hfound, hissue, Except.toOption]
              exact ⟨_, h.pass hqueue hnone⟩
          | ok artifact =>
              simp only [hissue, Option.some.injEq] at hstep
              subst hstep
              have hsome : answers.artifactFor session = some artifact := by
                simp [Answers.artifactFor, hfound, hissue, Except.toOption]
              exact ⟨done, h.queue.trans (by rw [hqueue]; rfl), hsome, h.old, h.new⟩
      | issued artifact session rest =>
          simp only [tickStep, hw, Option.some.injEq] at hstep
          subst hstep
          exact ⟨_, h.mark hkeyed hpending hw⟩

/-- What the sessions are at any time in a tick. -/
lemma treated_of_run (hkeyed : Keyed sessions)
    {visits : List (((_ : String) × SessionRecord) × UInt64)}
    (hpending : ∀ session ∈ pendingSessions visits, ∃ id, sessions.lookup id = some session)
    {t : List (TickState × TickAction)}
    (hrun : Run (tickStep answers) (.start sessions visits) t s) :
    ∃ done, Treated answers sessions (pendingSessions visits) (insertions t) done s := by
  refine Run.invariant (P := fun t s => ∃ done,
    Treated answers sessions (pendingSessions visits) (insertions t) done s) hrun ?_ ?_
  · refine ⟨[], ?_, Answers.agrees_next _, ?_, ?_⟩
    · rw [TickState.start, queue_next, List.nil_append]
    · intro id session hid
      exact hid
    · intro id hnone record
      exact iff_of_false (by simp [TickState.start, hnone]) (by simp [insertions])
  · rintro t s a s' - ⟨done, h⟩ hstep
    rw [insertions_append]
    exact h.step hkeyed hpending hstep

/-! ### The snapshot -/

variable {visits visits' : List (((_ : String) × SessionRecord) × UInt64)}

/-- An entry is visited once, so it is pending if and only if it is at its visit. -/
lemma mem_pendingSessions_iff (hkeyed : Keyed sessions)
    (hvisits : (visits.map Prod.fst : Multiset ((_ : String) × SessionRecord)) = sessions.entries)
    {id : String} {now : UInt64}
    (hvisit : ((⟨id, session⟩, now) : ((_ : String) × SessionRecord) × UInt64) ∈ visits) :
    session ∈ pendingSessions visits ↔ isPending session now = true := by
  rw [pendingSessions, List.mem_map]
  constructor
  · rintro ⟨⟨⟨id', live⟩, now'⟩, hmem, heq⟩
    obtain rfl : live = session := heq
    obtain ⟨hvisit', hpending⟩ := List.mem_filter.1 hmem
    have hid : id' = id := (hkeyed id' live (lookup_of_visit hvisits hvisit')).symm.trans
      (hkeyed id live (lookup_of_visit hvisits hvisit))
    have hnodup : (visits.map Prod.fst).Nodup := by
      rw [← Multiset.coe_nodup, hvisits]
      exact sessions.nodup_entries
    have hsame := List.inj_on_of_nodup_map hnodup hvisit' hvisit (by rw [hid])
    obtain rfl := congrArg Prod.snd hsame
    exact hpending
  · intro hpending
    exact ⟨_, List.mem_filter.2 ⟨hvisit, hpending⟩, rfl⟩

/-! ### After a tick -/

/-- What the sessions are when a tick is over. -/
lemma treated_after_tick (hkeyed : Keyed sessions)
    (hvisits : (visits.map Prod.fst : Multiset ((_ : String) × SessionRecord)) = sessions.entries)
    {t : List (TickState × TickAction)}
    (hrun : Run (tickStep answers) (.start sessions visits) t s) (hover : s.watcher = .waiting) :
    Treated answers sessions (pendingSessions visits) (insertions t) (pendingSessions visits)
      s := by
  have hpending : ∀ session ∈ pendingSessions visits, ∃ id,
      sessions.lookup id = some session := by
    intro session hsession
    obtain ⟨id, -, hid, -⟩ := mem_pendingSessions hvisits hsession
    exact ⟨id, hid⟩
  obtain ⟨done, h⟩ := treated_of_run hkeyed hpending hrun
  have hdone : pendingSessions visits = done := by
    rw [h.queue, hover, Watcher.queue, List.append_nil]
  rwa [← hdone] at h

/-- The order does not matter, neither that of the sessions nor that of the insertions. -/
lemma sessions_eq_of_treated {pending' inserted' : List SessionRecord}
    (h : Treated answers sessions pending inserted pending s)
    (h' : Treated answers sessions pending' inserted' pending' s')
    (hpending : pending'.Perm pending) (hinserted : inserted'.Perm inserted) :
    s'.sessions = s.sessions := by
  refine Finmap.ext_lookup fun id => ?_
  cases hid : sessions.lookup id with
  | some session =>
      rw [h.old id session hid, h'.old id session hid, Answers.settle, Answers.settle]
      simp only [hpending.mem_iff]
  | none =>
      refine Option.ext fun record => ?_
      rw [h.new id hid record, h'.new id hid record, hinserted.mem_iff]

/-- **A tick treats each session by itself.**  When a tick is over, a session that was
visited unpaid and before its deadline, and for which both services succeeded, is paid with
its own artifact.  Every other session that was there is as it was, and the sessions that
were not there are those that were inserted.  So the map is the same for every order of the
pending sessions and of the other steps. -/
theorem tick_independent (hkeyed : Keyed sessions)
    (hvisits : (visits.map Prod.fst : Multiset ((_ : String) × SessionRecord)) = sessions.entries)
    {t : List (TickState × TickAction)}
    (hrun : Run (tickStep answers) (.start sessions visits) t s) (hover : s.watcher = .waiting) :
    (∀ id session now,
        ((⟨id, session⟩, now) : ((_ : String) × SessionRecord) × UInt64) ∈ visits →
        isPending session now = true →
        ∀ artifact, answers.artifactFor session = some artifact →
          s.sessions.lookup id = some (session.pay artifact)) ∧
      (∀ id session now,
        ((⟨id, session⟩, now) : ((_ : String) × SessionRecord) × UInt64) ∈ visits →
        isPending session now = false ∨ answers.artifactFor session = none →
          s.sessions.lookup id = some session) ∧
      (∀ id, sessions.lookup id = none → ∀ record,
        s.sessions.lookup id = some record ↔
          record ∈ insertions t ∧ record.paymentRequest.sessionId = id) ∧
      ∀ visits' t' s',
        (visits'.map Prod.fst : Multiset ((_ : String) × SessionRecord)) = sessions.entries →
        (pendingSessions visits').Perm (pendingSessions visits) →
        Run (tickStep answers) (.start sessions visits') t' s' → s'.watcher = .waiting →
        (insertions t').Perm (insertions t) →
          s'.sessions = s.sessions := by
  have h := treated_after_tick hkeyed hvisits hrun hover
  refine ⟨?_, ?_, h.new, ?_⟩
  · intro id session now hvisit hpending artifact hartifact
    have hmem := (mem_pendingSessions_iff hkeyed hvisits hvisit).2 hpending
    rw [h.old id session (lookup_of_visit hvisits hvisit), Answers.settle, if_pos hmem,
      hartifact, Option.elim_some]
  · intro id session now hvisit hleft
    rw [h.old id session (lookup_of_visit hvisits hvisit), Answers.settle]
    rcases hleft with hpending | hnone
    · have hmem : session ∉ pendingSessions visits := by
        rw [mem_pendingSessions_iff hkeyed hvisits hvisit, hpending]
        simp
      rw [if_neg hmem]
    · rw [hnone, Option.elim_none, ite_self]
  · intro visits' t' s' hvisits' hpending hrun' hover' hinserted
    have h' := treated_after_tick hkeyed hvisits' hrun' hover'
    exact sessions_eq_of_treated h h' hpending hinserted

end

/-! ### An example -/

/-- A demo session with this id. -/
def demoNamed (id : String) : SessionRecord :=
  { demoSession 300 with
    paymentRequest := { (demoSession 300).paymentRequest with sessionId := id } }

def demoArtifact : AccessArtifact where
  token := "token"
  qrPng := "png"
  qrAscii := "ascii"
  txHash := "3389e9f0"

/-- Horizon cannot be reached for one session, and all others are paid. -/
def demoAnswers : Answers where
  Error := Unit
  findConfirmedPayment session :=
    if session.paymentRequest.sessionId = "a" then .error ()
    else .ok (some (parsePayment demoRecord))
  issueToken _ _ := .ok demoArtifact

def demoSessions : Sessions :=
  insertSession (insertSession ∅ (demoNamed "a")) (demoNamed "b")

def demoVisits : List (((_ : String) × SessionRecord) × UInt64) :=
  [(⟨"a", demoNamed "a"⟩, 0), (⟨"b", demoNamed "b"⟩, 0)]

/-- The two sessions in both orders, with a third that is inserted early or late. -/
theorem tick_independent_demo :
    ∃ t t' s s', Run (tickStep demoAnswers) (.start demoSessions demoVisits) t s ∧
      Run (tickStep demoAnswers) (.start demoSessions demoVisits.reverse) t' s' ∧
      s.sessions.lookup "a" = some (demoNamed "a") ∧
      s.sessions.lookup "b" = some ((demoNamed "b").pay demoArtifact) ∧
      s.sessions.lookup "c" = some (demoNamed "c") ∧ s'.sessions = s.sessions := by
  have hkeyed : Keyed demoSessions := by
    intro id session hid
    have hmem := Finmap.mem_lookup_iff.1 hid
    have hall : ∀ entry ∈ demoSessions.entries, entry.2.paymentRequest.sessionId = entry.1 := by
      decide +kernel
    exact hall _ hmem
  obtain ⟨t, s, hrun, -, hcheck⟩ : ∃ t s,
      Run (tickStep demoAnswers) (.start demoSessions demoVisits) t s ∧
      t.map Prod.snd = [.watch, .insert (demoNamed "c"), .watch, .get "a", .watch, .watch] ∧
      (s.watcher.queue.isEmpty && decide (insertions t = [demoNamed "c"])) = true :=
    exists_run_of_check _ (by decide +kernel)
  obtain ⟨t', s', hrun', -, hcheck'⟩ : ∃ t s,
      Run (tickStep demoAnswers) (.start demoSessions demoVisits.reverse) t s ∧
      t.map Prod.snd = [.watch, .watch, .watch, .watch, .insert (demoNamed "c")] ∧
      (s.watcher.queue.isEmpty && decide (insertions t = [demoNamed "c"])) = true :=
    exists_run_of_check _ (by decide +kernel)
  rw [Bool.and_eq_true, decide_eq_true_eq] at hcheck hcheck'
  obtain ⟨hpaid, hkept, hnew, hsame⟩ := tick_independent hkeyed (by decide +kernel) hrun
    (queue_isEmpty.1 hcheck.1)
  refine ⟨t, t', s, s', hrun, hrun', ?_, ?_, ?_, ?_⟩
  · exact hkept "a" _ 0 (by decide +kernel) (Or.inr rfl)
  · exact hpaid "b" _ 0 (by decide +kernel) rfl demoArtifact rfl
  · exact (hnew "c" (by decide +kernel) _).2 ⟨by simp [hcheck.2], rfl⟩
  · exact hsame demoVisits.reverse t' s' (by decide +kernel) (by decide +kernel) hrun'
      (queue_isEmpty.1 hcheck'.1) (by rw [hcheck.2, hcheck'.2])

/-! ### The end of a tick -/

section

variable {s : TickState}

/-- How many calls the watcher can still make in a tick. -/
def Watcher.remaining : Watcher → ℕ
  | .waiting => 0
  | .lookup _ rest => 3 * rest.length + 3
  | .found _ _ rest => 3 * rest.length + 2
  | .issued _ _ rest => 3 * rest.length + 1

lemma remaining_next (rest : List SessionRecord) :
    (Watcher.next rest).remaining = 3 * rest.length := by
  cases rest with
  | nil => rfl
  | cons session rest => simp [Watcher.next, Watcher.remaining, Nat.mul_succ]

/-- The watcher can go on until it waits. -/
lemma exists_watch (answers : Answers) (h : s.watcher ≠ .waiting) :
    ∃ s', tickStep answers s .watch = some s' ∧
      s'.watcher.remaining < s.watcher.remaining := by
  cases hw : s.watcher with
  | waiting => exact absurd hw h
  | lookup session rest =>
      have hnext : (Watcher.next rest).remaining < 3 * rest.length + 3 := by
        rw [remaining_next]
        omega
      simp only [tickStep, hw]
      split
      · exact ⟨_, rfl, hnext⟩
      · exact ⟨_, rfl, hnext⟩
      · exact ⟨_, rfl, Nat.lt_succ_self (3 * rest.length + 2)⟩
  | found payment session rest =>
      have hnext : (Watcher.next rest).remaining < 3 * rest.length + 2 := by
        rw [remaining_next]
        omega
      simp only [tickStep, hw]
      split
      · exact ⟨_, rfl, hnext⟩
      · exact ⟨_, rfl, Nat.lt_succ_self (3 * rest.length + 1)⟩
  | issued artifact session rest =>
      have hnext : (Watcher.next rest).remaining < 3 * rest.length + 1 := by
        rw [remaining_next]
        omega
      simp only [tickStep, hw]
      exact ⟨_, rfl, hnext⟩

/-- Every tick comes to its end, wherever it has been interrupted. -/
theorem exists_end_of_tick (answers : Answers) (s : TickState) :
    ∃ t s', Run (tickStep answers) s t s' ∧ s'.watcher = .waiting := by
  induction hn : s.watcher.remaining using Nat.strong_induction_on generalizing s with
  | _ n ih =>
      by_cases hw : s.watcher = .waiting
      · exact ⟨[], s, .nil, hw⟩
      · obtain ⟨s₁, hstep, hless⟩ := exists_watch answers hw
        obtain ⟨t, s', hrun, hover⟩ := ih _ (hn ▸ hless) s₁ rfl
        exact ⟨_, s', .cons hstep hrun, hover⟩

end

/-! ### The ticks of the server -/

section

variable (srv : Server) (pages : SessionRecord → Option (List PaymentRecord))
  (nonces : SessionRecord → Alphanumeric 16)

/-- The answers when Horizon returns these pages and these nonces are drawn. -/
def Server.answers : Answers where
  Error := Unit
  findConfirmedPayment session :=
    match pages session with
    | none => .error ()
    | some records => .ok (findPayment session records)
  issueToken session payment :=
    match srv.issue session payment (nonces session) with
    | none => .error ()
    | some artifact => .ok artifact

/-- A step of a tick in which Horizon returns these pages, these nonces are drawn, and a
session is inserted under an id of its own. -/
def Gives (s : State) : Action → Prop
  | .createInsert i => ∀ record, s.tasks i = some (.stamped record) →
      s.sessions.lookup record.paymentRequest.sessionId = none
  | .watchSnapshot _ => False
  | .watchLookup page => ∀ session rest, s.watcher = .lookup session rest → page = pages session
  | .watchIssue nonce => ∀ payment session rest, s.watcher = .found payment session rest →
      nonce = nonces session
  | _ => True

def State.tick (s : State) : TickState where
  sessions := s.sessions
  watcher := s.watcher

/-- The records that the server inserts. -/
def serverInsertions (t : Trace) : List SessionRecord :=
  t.filterMap fun e => match e.2 with
    | .createInsert i => match e.1.tasks i with
      | some (.stamped record) => some record
      | _ => none
    | _ => none

end

section

variable {srv : Server} {pages : SessionRecord → Option (List PaymentRecord)}
  {nonces : SessionRecord → Alphanumeric 16} {s s' s₁ : State} {a : Action} {t : Trace}

/-- A step of the server leaves the tick as it is, or is one of its steps. -/
lemma tick_of_step (hgives : Gives pages nonces s a) (hstep : step srv s a = some s') :
    (s'.tick = s.tick ∧ serverInsertions [(s, a)] = []) ∨
      ∃ b, tickStep (srv.answers pages nonces) s.tick b = some s'.tick ∧
        insertions [(s.tick, b)] = serverInsertions [(s, a)] := by
  cases effect_of_step hstep with
  | @createInsert i record hi =>
      have hfresh := hgives record hi
      refine Or.inr ⟨.insert record, ?_, ?_⟩
      · simp [tickStep, State.tick, State.setTask, hfresh]
      · simp [insertions, serverInsertions, hi]
  | watchSnapshot _ _ => exact hgives.elim
  | @lookupFound page session rest payment hw hfound =>
      obtain rfl := hgives session rest hw
      obtain ⟨records, hpage, hrecords⟩ := Option.bind_eq_some_iff.1 hfound
      refine Or.inr ⟨.watch, ?_, rfl⟩
      simp [tickStep, State.tick, hw, Server.answers, hpage, hrecords]
  | @lookupNothing page session rest hw hnone =>
      obtain rfl := hgives session rest hw
      refine Or.inr ⟨.watch, ?_, rfl⟩
      cases hpage : pages session with
      | none => simp [tickStep, State.tick, hw, Server.answers, hpage]
      | some records =>
          rw [hpage, Option.bind_some] at hnone
          simp [tickStep, State.tick, hw, Server.answers, hpage, hnone]
  | @issued nonce payment session rest artifact hw hissue =>
      obtain rfl := hgives payment session rest hw
      refine Or.inr ⟨.watch, ?_, rfl⟩
      simp [tickStep, State.tick, hw, Server.answers, hissue]
  | @issueFailed nonce payment session rest hw hissue =>
      obtain rfl := hgives payment session rest hw
      refine Or.inr ⟨.watch, ?_, rfl⟩
      simp [tickStep, State.tick, hw, Server.answers, hissue]
  | @marked artifact session live rest hw hlive =>
      refine Or.inr ⟨.watch, ?_, rfl⟩
      simp [tickStep, State.tick, hw, markPaid, hlive]
  | @markUnknown artifact session rest hw hnone =>
      refine Or.inr ⟨.watch, ?_, rfl⟩
      simp [tickStep, State.tick, hw, markPaid, hnone]
  | _ => exact Or.inl ⟨rfl, rfl⟩

/-- **The server's ticks are ticks.** -/
theorem tick_of_run (hrun : Run (step srv) s₁ t s) (hgives : ∀ e ∈ t, Gives pages nonces e.1 e.2) :
    ∃ t', Run (tickStep (srv.answers pages nonces)) s₁.tick t' s.tick ∧
      insertions t' = serverInsertions t := by
  refine Run.invariant_of_guard
    (P := fun t s => ∃ t', Run (tickStep (srv.answers pages nonces)) s₁.tick t' s.tick ∧
      insertions t' = serverInsertions t) hrun hgives ⟨[], .nil, rfl⟩ ?_
  rintro t s a s' - ⟨t', hrun', hinserted⟩ hgives hstep
  have happend : serverInsertions (t ++ [(s, a)]) =
      serverInsertions t ++ serverInsertions [(s, a)] := List.filterMap_append
  rw [happend, ← hinserted]
  rcases tick_of_step hgives hstep with ⟨hsame, hnone⟩ | ⟨b, hb, hrecords⟩
  · exact ⟨t', by rw [hsame]; exact hrun', by rw [hnone, List.append_nil]⟩
  · exact ⟨t' ++ [(s.tick, b)], hrun'.snoc hb, by rw [insertions_append, hrecords]⟩

/-- The sessions of the server are under their own ids. -/
lemma keyed_of_run {clock : UInt64} (hrun : Run (step srv) (.init clock) t s) :
    Keyed s.sessions :=
  fun id session hid => ((provenance_of_run hrun).session id session hid).1

/-- What the server's sessions are after a tick. -/
lemma treated_after_server_tick {s₀ : State} (hkeyed : Keyed s₀.sessions)
    {visits : List (((_ : String) × SessionRecord) × UInt64)}
    (hsnapshot : step srv s₀ (.watchSnapshot visits) = some s₁) (htick : Run (step srv) s₁ t s)
    (hgives : ∀ e ∈ t, Gives pages nonces e.1 e.2) (hover : s.watcher = .waiting) :
    Treated (srv.answers pages nonces) s₀.sessions (pendingSessions visits) (serverInsertions t)
      (pendingSessions visits) s.tick := by
  obtain ⟨t', hrun, hinserted⟩ := tick_of_run htick hgives
  rw [← hinserted]
  cases effect_of_step hsnapshot with
  | watchSnapshot _ hvisits => exact treated_after_tick hkeyed hvisits.1 hrun hover

/-- **The server's ticks agree.**  Two ticks from the same sessions end with the same
sessions, if the same sessions are pending, the same are inserted, and Horizon and the random
source give each session the same. -/
theorem server_ticks_agree {clock : UInt64} {t₀ t' : Trace} {s₀ r₀ r₁ r : State}
    (hreach : Run (step srv) (.init clock) t₀ s₀) (hsessions : r₀.sessions = s₀.sessions)
    {visits visits' : List (((_ : String) × SessionRecord) × UInt64)}
    (hsnapshot : step srv s₀ (.watchSnapshot visits) = some s₁)
    (hsnapshot' : step srv r₀ (.watchSnapshot visits') = some r₁)
    (hpending : (pendingSessions visits').Perm (pendingSessions visits))
    (htick : Run (step srv) s₁ t s) (hgives : ∀ e ∈ t, Gives pages nonces e.1 e.2)
    (hover : s.watcher = .waiting)
    (htick' : Run (step srv) r₁ t' r) (hgives' : ∀ e ∈ t', Gives pages nonces e.1 e.2)
    (hover' : r.watcher = .waiting)
    (hinserted : (serverInsertions t').Perm (serverInsertions t)) :
    r.sessions = s.sessions := by
  have hkeyed := keyed_of_run hreach
  have h := treated_after_server_tick hkeyed hsnapshot htick hgives hover
  have h' := treated_after_server_tick (hsessions ▸ hkeyed) hsnapshot' htick' hgives' hover'
  rw [hsessions] at h'
  exact sessions_eq_of_treated h h' hpending hinserted

end

end Haske
