import Haske.Lightning.Invariant

/-!
# Settlement

A payment event looks up its invoice in one lock section and settles the session in
another, so the same event can be on its way several times.  The first one to settle its
session issues the pass; the others find it settled (`settlement`).

A session that is inserted but not yet in the index is not found by an event, and the event
is lost: it is answered as if it had been handled.  This does not happen to an event that
arrives when the call that was given its hash has returned (`EventsFollow`).
-/

namespace Haske.Lightning

open Machine

section

variable (svc : ProofService)

/-- No step of the call has changed one of the maps. -/
def Untouched (t : Trace) (i : ℕ) : Prop :=
  ∀ s a s', (s, a) ∈ t → a.call = some i → step svc s a = some s' →
    s'.sessions = s.sessions ∧ s'.paymentIndex = s.paymentIndex

/-- The settlement section of a `handle_payment` for this hash has ended without an error. -/
def Completed (t : Trace) (hash : String) : Prop :=
  ∃ s s' i event id, (s, .settle i) ∈ t ∧ step svc s (.settle i) = some s' ∧
    s.calls i = .found event id ∧ event.paymentHash = hash ∧
    s'.calls i = .handled event (.ok ())

end

/-- A session with this hash is settled. -/
def State.IsSettled (s : State) (hash : String) : Prop :=
  ∃ id session, s.sessions.lookup id = some session ∧ session.paymentHash = hash ∧
    session.status = .settled

/-- The call has returned an error. -/
def Call.failed : Call → Bool
  | .created (.error _) | .handled _ (.error _) | .checked (.error _) => true
  | _ => false

/-- The event that the call is for. -/
def Call.event : Call → Option PaymentEvent
  | .received event | .found event _ | .handled event _ => some event
  | _ => none

/-- The step is one of a call for this event. -/
def Handles (s : State) (a : Action) (i : ℕ) (event : PaymentEvent) : Prop :=
  a = .handlePayment i event ∨ a.call = some i ∧ (s.calls i).event = some event

/-- An event for a hash arrives only when the call that is given the hash has returned. -/
def EventsFollow (t : Trace) : Prop :=
  ∀ s j event s₀ i invoice, (s, .handlePayment j event) ∈ t →
    (s₀, .gatewayAnswer i (some invoice)) ∈ t → invoice.paymentHash = event.paymentHash →
    ∃ result, s.calls i = .created result

variable {svc : ProofService} {clock : UInt64} {t : Trace} {s s' : State} {a : Action} {i : ℕ}

/-! ### Calls that store nothing -/

/-- The call has stored nothing up to here. -/
def Call.quiet : Call → Bool
  | .idle | .requested _ | .invoiced _ _ | .made _ _ | .created (.error _) => true
  | .received _ | .found _ _ | .handled _ (.error _) | .checked _ => true
  | _ => false

/-- The call takes no more steps. -/
def Call.ended : Call → Bool
  | .created _ | .handled _ _ | .checked _ | .gone => true
  | _ => false

/-- A call that can be refused has made no session yet. -/
lemma early_of_refused {call : Call} (h : call = .idle ∨ (∃ request, call = .requested request) ∨
    ∃ amountMsat invoice, call = .invoiced amountMsat invoice) :
    call.quiet = true ∧ call.ended = false ∧ call.event = none := by
  rcases h with rfl | ⟨request, rfl⟩ | ⟨amountMsat, invoice, rfl⟩
  · exact ⟨rfl, rfl, rfl⟩
  · exact ⟨rfl, rfl, rfl⟩
  · exact ⟨rfl, rfl, rfl⟩

lemma quiet_of_failed {call : Call} (h : call.failed = true) : call.quiet = true := by
  rcases call with _ | _ | _ | _ | _ | (_ | _) | _ | _ | ⟨_, _ | _⟩ | _ | _ <;>
    first | rfl | exact absurd h (by simp [Call.failed])

lemma maps_of_quiet (hstep : step svc s a = some s') (hi : a.call = some i)
    (hquiet : (s'.calls i).quiet = true) :
    s'.sessions = s.sessions ∧ s'.paymentIndex = s.paymentIndex := by
  have heffect := effect_of_step hstep
  clear hstep
  cases heffect with
  | inserted _ =>
      obtain rfl := Option.some.inj hi
      simp [State.setCall, Call.quiet] at hquiet
  | indexed _ =>
      obtain rfl := Option.some.inj hi
      simp [State.setCall, Call.quiet] at hquiet
  | settled _ _ _ _ =>
      obtain rfl := Option.some.inj hi
      simp [State.setCall, Call.quiet] at hquiet
  | _ => exact ⟨rfl, rfl⟩

/-- A call that has stored nothing after a step had stored nothing before it. -/
lemma quiet_of_step (hstep : step svc s a = some s') (hquiet : (s'.calls i).quiet = true) :
    (s.calls i).quiet = true := by
  rcases call_of_step hstep i with ⟨-, hsame⟩ | ⟨-, henters⟩
  · rwa [hsame] at hquiet
  · generalize s'.calls i = call at henters hquiet
    cases henters with
    | inserted _ => exact absurd hquiet (by simp [Call.quiet])
    | created _ => exact absurd hquiet (by simp [Call.quiet])
    | unknown _ _ => exact absurd hquiet (by simp [Call.quiet])
    | refused h => exact (early_of_refused h).1
    | gone _ => exact absurd hquiet (by simp [Call.quiet])
    | requested h | invoiced h | made h _ | received h | found h _ | handled h | checked h =>
        rw [h]
        rfl

lemma Untouched.nil : Untouched svc [] i := fun _ _ _ hmem => absurd hmem (by simp)

lemma Untouched.append {t' : Trace} (h : Untouched svc t i) (h' : Untouched svc t' i) :
    Untouched svc (t ++ t') i := by
  intro s a s' hmem
  rcases List.mem_append.1 hmem with hmem | hmem
  · exact h s a s' hmem
  · exact h' s a s' hmem

lemma Untouched.single (hstep : step svc s a = some s')
    (h : a.call = some i → s'.sessions = s.sessions ∧ s'.paymentIndex = s.paymentIndex) :
    Untouched svc [(s, a)] i := by
  intro s₁ a₁ s₂ hmem hi hstep₁
  simp only [List.mem_singleton, Prod.mk.injEq] at hmem
  obtain ⟨rfl, rfl⟩ := hmem
  obtain rfl := Option.some.inj (hstep.symm.trans hstep₁)
  exact h hi

/-- A call that has stored nothing has changed nothing. -/
lemma untouched_of_quiet (hrun : Run (step svc) (.init clock) t s)
    (hquiet : (s.calls i).quiet = true) : Untouched svc t i := by
  refine Run.invariant (P := fun t s => (s.calls i).quiet = true → Untouched svc t i) hrun ?_ ?_
    hquiet
  · exact fun _ => .nil
  · intro t s a s' _ ih hstep hquiet
    exact (ih (quiet_of_step hstep hquiet)).append
      (.single hstep fun hi => maps_of_quiet hstep hi hquiet)

/-! ### Calls that have ended -/

lemma event_of_creating {call : Call} (h : call.creating = true) : call.event = none := by
  cases call <;> first | rfl | exact absurd h (by simp [Call.creating])

lemma ended_of_creating {call : Call} (h : call.creating = true) : call.ended = false := by
  cases call <;> first | rfl | exact absurd h (by simp [Call.creating])

lemma not_ended_of_enters {call : Call} (h : Enters svc s a i call) :
    (s.calls i).ended = false := by
  cases h with
  | refused h => exact (early_of_refused h).2.1
  | gone h => exact ended_of_creating h
  | requested h | invoiced h | made h _ | inserted h | created h | received h | found h _
  | unknown h _ | handled h | checked h =>
      rw [h]
      rfl

lemma ended_of_step (hstep : step svc s a = some s') (h : (s.calls i).ended = true) :
    a.call ≠ some i ∧ s'.calls i = s.calls i := by
  rcases call_of_step hstep i with hsame | ⟨-, henters⟩
  · exact hsame
  · rw [not_ended_of_enters henters] at h
    exact absurd h (by simp)

/-- A call that has ended takes no more steps, and keeps its result. -/
lemma ended_of_run {s₁ : State} (hrun : Run (step svc) s₁ t s) (h : (s₁.calls i).ended = true) :
    s.calls i = s₁.calls i ∧ Untouched svc t i := by
  refine Run.invariant (P := fun t s => s.calls i = s₁.calls i ∧ Untouched svc t i) hrun ?_ ?_
  · exact ⟨rfl, .nil⟩
  · rintro t s a s' - ⟨hsame, huntouched⟩ hstep
    obtain ⟨hne, hcall⟩ := ended_of_step hstep (i := i) (by rw [hsame, h])
    exact ⟨hcall.trans hsame, huntouched.append (.single hstep fun hi => absurd hi hne)⟩

/-! ### Events that change nothing -/

lemma Tracked.isSettled_step (h : Tracked svc t s) (hstep : Lightning.step svc s a = some s')
    {hash : String} (hsettled : s.IsSettled hash) : s'.IsSettled hash := by
  obtain ⟨id, session, hid, rfl, hstatus⟩ := hsettled
  obtain ⟨session', hid', -, hsame⟩ := h.lookup_of_step hstep hid
  obtain rfl := hsame hstatus
  exact ⟨id, session', hid', rfl, hstatus⟩

/-- A session with the hash of one that is settled is that one. -/
lemma Tracked.settled_of_isSettled (h : Tracked svc t s) {id : String} {session : AccessSession}
    (hid : s.sessions.lookup id = some session) (hsettled : s.IsSettled session.paymentHash) :
    session.status = .settled := by
  obtain ⟨id', session', hid', hhash, hstatus⟩ := hsettled
  obtain rfl := h.session_inj session.paymentHash id id' ⟨session, hid, rfl⟩
    ⟨session', hid', hhash⟩
  obtain rfl : session' = session := Option.some.inj (hid'.symm.trans hid)
  exact hstatus

/-- The session that a call has found is the settled one, if there is a settled one. -/
lemma Tracked.settled_of_found (h : Tracked svc t s) {event : PaymentEvent} {id : String}
    {session : AccessSession} (hi : s.calls i = .found event id)
    (hsettled : s.IsSettled event.paymentHash) (hget : s.sessions.lookup id = some session) :
    session.status = .settled := by
  obtain ⟨live, hlive, hhash⟩ := h.found i event id hi
  obtain rfl : live = session := Option.some.inj (hlive.symm.trans hget)
  rw [← hhash] at hsettled
  exact h.settled_of_isSettled hget hsettled

/-- A call keeps its event. -/
lemma event_of_step (hstep : step svc s a = some s') {event : PaymentEvent}
    (h : (s.calls i).event = some event) : (s'.calls i).event = some event := by
  rcases call_of_step hstep i with ⟨-, hsame⟩ | ⟨-, henters⟩
  · rwa [hsame]
  · generalize s'.calls i = call at henters
    cases henters with
    | found hcall _ | unknown hcall _ | handled hcall =>
        rw [hcall] at h
        exact h
    | refused hcall => exact absurd h (by simp [(early_of_refused hcall).2.2])
    | gone hcall => exact absurd h (by simp [event_of_creating hcall])
    | requested hcall | invoiced hcall | made hcall _ | inserted hcall | created hcall
    | received hcall | checked hcall => exact absurd h (by simp [hcall, Call.event])

/-- A step of a call for a hash that is settled leaves the maps alone. -/
lemma Tracked.maps_of_settled (h : Tracked svc t s) (hstep : Lightning.step svc s a = some s')
    (hi : a.call = some i) {event : PaymentEvent} (hevent : (s.calls i).event = some event)
    (hsettled : s.IsSettled event.paymentHash) :
    s'.sessions = s.sessions ∧ s'.paymentIndex = s.paymentIndex := by
  constructor
  · cases writes_of_step hstep with
    | kept hsame => exact hsame
    | inserted hcall _ =>
        obtain rfl := Option.some.inj hi
        exact absurd hevent (by simp [hcall, Call.event])
    | settled hcall hget hstatus _ _ _ =>
        obtain rfl := Option.some.inj hi
        rw [hcall, Call.event, Option.some.injEq] at hevent
        subst hevent
        rw [h.settled_of_found hcall hsettled hget] at hstatus
        exact absurd hstatus (by simp)
  · rcases index_of_step hstep with hsame | ⟨j, session, response, rfl, hcall, -⟩
    · exact hsame
    · obtain rfl := Option.some.inj hi
      exact absurd hevent (by simp [hcall, Call.event])

/-- A call that takes a step when its hash is settled changes nothing from then on. -/
lemma untouched_of_run {t₁ : Trace} {s₁ : State} (hrun₁ : Run (step svc) (.init clock) t₁ s₁)
    (hrun : Run (step svc) s₁ t s) (honce : DrawnOnce (t₁ ++ t)) {event : PaymentEvent}
    (hevent : (s₁.calls i).event = some event) (hsettled : s₁.IsSettled event.paymentHash) :
    Untouched svc t i := by
  have hall : s.IsSettled event.paymentHash ∧ (s.calls i).event = some event ∧
      Untouched svc t i := by
    refine Run.invariant (P := fun t s => DrawnOnce (t₁ ++ t) → s.IsSettled event.paymentHash ∧
      (s.calls i).event = some event ∧ Untouched svc t i) hrun ?_ ?_ honce
    · exact fun _ => ⟨hsettled, hevent, .nil⟩
    · intro t s a s' hrun ih hstep honce
      rw [← List.append_assoc] at honce
      -- the hash stays settled and the call keeps its event, so no later step of it writes
      obtain ⟨hsettled, hevent, huntouched⟩ := ih honce.left
      have htracked := tracked_of_run (hrun₁.append hrun) honce.left
      exact ⟨htracked.isSettled_step hstep hsettled, event_of_step hstep hevent,
        huntouched.append (.single hstep fun hi =>
          htracked.maps_of_settled hstep hi hevent hsettled)⟩
  exact hall.2.2

/-- A call that takes a step for an event has stored nothing before it. -/
lemma quiet_of_handles (hstep : step svc s a = some s') {event : PaymentEvent}
    (h : Handles s a i event) : (s.calls i).quiet = true ∧ (s'.calls i).event = some event := by
  rcases h with rfl | ⟨hi, hevent⟩
  · cases effect_of_step hstep with
    | received hidle => exact ⟨by rw [hidle]; rfl, by simp [State.setCall, Call.event]⟩
  · refine ⟨?_, event_of_step hstep hevent⟩
    rcases call_of_step hstep i with ⟨hne, -⟩ | ⟨-, henters⟩
    · exact absurd hi hne
    · have hended := not_ended_of_enters henters
      cases hcall : s.calls i with
      | handled _ _ => exact absurd hended (by simp [hcall, Call.ended])
      | received _ | found _ _ => rfl
      | _ => exact absurd hevent (by simp [hcall, Call.event])

lemma untouched_of_handles (hrun : Run (step svc) (.init clock) t s) (honce : DrawnOnce t)
    {s₁ : State} (hmem : (s₁, a) ∈ t) {event : PaymentEvent} (hhandles : Handles s₁ a i event)
    (hsettled : s₁.IsSettled event.paymentHash) : Untouched svc t i := by
  obtain ⟨t₁, t₂, s₂, rfl, hrun₁, hstep, hrun₂⟩ := hrun.of_mem hmem
  -- the steps of the call before this one, this one, and those after it
  rw [List.append_cons] at honce ⊢
  have htracked := tracked_of_run hrun₁ honce.left.left
  obtain ⟨hquiet, hevent⟩ := quiet_of_handles hstep hhandles
  have hmaps : a.call = some i → s₂.sessions = s₁.sessions ∧
      s₂.paymentIndex = s₁.paymentIndex := by
    intro hi
    rcases hhandles with rfl | ⟨-, hevent⟩
    · cases effect_of_step hstep with
      | received _ => exact ⟨rfl, rfl⟩
    · exact htracked.maps_of_settled hstep hi hevent hsettled
  exact ((untouched_of_quiet hrun₁ hquiet).append (.single hstep hmaps)).append
    (untouched_of_run (hrun₁.snoc hstep) hrun₂ honce hevent
      (htracked.isSettled_step hstep hsettled))

/-- A call for a hash that it does not find in the index changes nothing. -/
lemma untouched_of_unknown (hrun : Run (step svc) (.init clock) t s) {s₁ : State}
    (hmem : (s₁, .lookupIndex i) ∈ t) {event : PaymentEvent}
    (hcall : s₁.calls i = .received event)
    (hindex : s₁.paymentIndex.lookup event.paymentHash = none) : Untouched svc t i := by
  obtain ⟨t₁, t₂, s₂, rfl, hrun₁, hstep, hrun₂⟩ := hrun.of_mem hmem
  have hs₂ : s₂ = s₁.setCall i (.handled event (.ok ())) := by
    simp only [step, hcall, hindex, Option.some.injEq] at hstep
    exact hstep.symm
  have hended : (s₂.calls i).ended = true := by
    rw [hs₂]
    simp [State.setCall, Call.ended]
  rw [List.append_cons]
  refine ((untouched_of_quiet hrun₁ (by rw [hcall]; rfl)).append (.single hstep ?_)).append
    (ended_of_run hrun₂ hended).2
  intro _
  subst hs₂
  exact ⟨rfl, rfl⟩

/-! ### What has been settled -/

/-- A session is settled when a settlement section for its hash has been completed, and only
then. -/
structure Accounts (svc : ProofService) (t : Trace) (s : State) : Prop where
  settled : ∀ hash, Completed svc t hash → s.IsSettled hash
  completed : ∀ id session, s.sessions.lookup id = some session → session.status = .settled →
    Completed svc t session.paymentHash

lemma Completed.append {hash : String} (h : Completed svc t hash) (t' : Trace) :
    Completed svc (t ++ t') hash := by
  obtain ⟨s, s', i, event, id, hmem, hrest⟩ := h
  exact ⟨s, s', i, event, id, List.mem_append_left _ hmem, hrest⟩

/-- The settlement section leaves the session settled, unless it fails. -/
lemma Tracked.isSettled_of_handled (h : Tracked svc t s)
    (hstep : Lightning.step svc s (.settle i) = some s') {event : PaymentEvent} {id : String}
    (hcall : s.calls i = .found event id) (hhandled : s'.calls i = .handled event (.ok ())) :
    s'.IsSettled event.paymentHash := by
  obtain ⟨session, hget, hhash⟩ := h.found i event id hcall
  simp only [Lightning.step, hcall, hget] at hstep
  cases hstatus : session.status with
  | settled =>
      simp only [hstatus, Option.some.injEq] at hstep
      subst hstep
      exact ⟨id, session, hget, hhash, hstatus⟩
  | pending =>
      cases hsettle : svc.settle event session with
      | none =>
          simp only [hstatus, hsettle, Option.some.injEq] at hstep
          subst hstep
          exact absurd hhandled (by simp [State.setCall])
      | some session' =>
          simp only [hstatus, hsettle, Option.some.injEq] at hstep
          subst hstep
          obtain ⟨-, hhash', hstatus', -⟩ := settle_eq_some hsettle
          exact ⟨id, session', Finmap.lookup_insert _, hhash'.trans hhash, hstatus'⟩

lemma Accounts.step (h : Accounts svc t s) (htracked : Tracked svc t s)
    (hstep : Lightning.step svc s a = some s') : Accounts svc (t ++ [(s, a)]) s' where
  settled hash hcompleted := by
    obtain ⟨s₁, s₂, i, event, id, hmem, hstep', hcall, rfl, hhandled⟩ := hcompleted
    rcases List.mem_append.1 hmem with hmem | hmem
    · exact htracked.isSettled_step hstep
        (h.settled _ ⟨s₁, s₂, i, event, id, hmem, hstep', hcall, rfl, hhandled⟩)
    · simp only [List.mem_singleton, Prod.mk.injEq] at hmem
      obtain ⟨rfl, rfl⟩ := hmem
      obtain rfl := Option.some.inj (hstep.symm.trans hstep')
      exact htracked.isSettled_of_handled hstep hcall hhandled
  completed id session' hid hstatus := by
    rcases lookup_of_step_inv hstep hid with ⟨session, hold, hsame⟩ | ⟨i, response, -, hi, -⟩
    · rcases hsame with rfl | ⟨i, event, rfl, hcall, hsettle, hhandled⟩
      · exact (h.completed id session' hold hstatus).append _
      · -- the step is the settlement section that completes it
        obtain ⟨live, hlive, hhash⟩ := htracked.found i event id hcall
        obtain rfl : live = session := Option.some.inj (hlive.symm.trans hold)
        refine ⟨s, s', i, event, id, by simp, hstep, hcall, ?_, hhandled⟩
        rw [(settle_eq_some hsettle).2.1, hhash]
    · rw [(htracked.made i session' response hi).2.2.1] at hstatus
      exact absurd hstatus (by simp)

lemma accounts_of_run (hrun : Run (step svc) (.init clock) t s) (honce : DrawnOnce t) :
    Accounts svc t s := by
  refine Run.invariant (P := fun t s => DrawnOnce t → Accounts svc t s) hrun ?_ ?_ honce
  · refine fun _ => ⟨?_, ?_⟩
    · rintro hash ⟨s, s', i, event, id, hmem, -⟩
      exact absurd hmem (by simp)
    · intro id session hid
      exact absurd hid (by simp [State.init])
  · intro t s a s' hrun ih hstep honce
    exact (ih honce.left).step (tracked_of_run hrun honce.left) hstep

/-! ### Events that arrive after the call for their hash has returned -/

/-- The gateway has given the call an invoice with this hash. -/
def Given (t : Trace) (i : ℕ) (hash : String) : Prop :=
  ∃ s invoice, (s, .gatewayAnswer i (some invoice)) ∈ t ∧ invoice.paymentHash = hash

/-- An event for this hash has arrived. -/
def Arrived (t : Trace) (hash : String) : Prop :=
  ∃ s i event, (s, .handlePayment i event) ∈ t ∧ event.paymentHash = hash

/-- The payment hash that a call has been given and has not put into the index. -/
def Call.unindexed : Call → Option String
  | .invoiced _ invoice => some invoice.paymentHash
  | .made session _ => some session.paymentHash
  | .inserted session _ => some session.paymentHash
  | _ => none

structure Follows (t : Trace) (s : State) : Prop where
  given : ∀ i hash, (s.calls i).unindexed = some hash → Given t i hash
  origin : ∀ hash id, s.Holds hash id → ∃ i, Given t i hash ∧
    ((∃ session response, s.calls i = .inserted session response ∧ session.paymentHash = hash) ∨
      s.calls i = .gone ∨ (s.paymentIndex.lookup hash).isSome)
  event : ∀ i event, (s.calls i).event = some event → Arrived t event.paymentHash
  handled : ∀ i event, s.calls i = .handled event (.ok ()) → ∀ id, s.Holds event.paymentHash id →
    s.IsSettled event.paymentHash

lemma Given.append {hash : String} (h : Given t i hash) (t' : Trace) : Given (t ++ t') i hash := by
  obtain ⟨s, invoice, hmem, hhash⟩ := h
  exact ⟨s, invoice, List.mem_append_left _ hmem, hhash⟩

lemma Arrived.append {hash : String} (h : Arrived t hash) (t' : Trace) :
    Arrived (t ++ t') hash := by
  obtain ⟨s, i, event, hmem, hhash⟩ := h
  exact ⟨s, i, event, List.mem_append_left _ hmem, hhash⟩

lemma indexed_of_step (hstep : step svc s a = some s') {hash : String}
    (h : (s.paymentIndex.lookup hash).isSome) : (s'.paymentIndex.lookup hash).isSome := by
  rcases index_of_step hstep with hsame | ⟨i, session, response, -, -, hinsert⟩
  · rwa [hsame]
  · rw [hinsert]
    by_cases hkey : hash = session.paymentHash
    · rw [hkey, Finmap.lookup_insert]
      rfl
    · rwa [Finmap.lookup_insert_of_ne _ hkey]

lemma unindexed_of_step (hstep : step svc s a = some s') {hash : String}
    (h : (s'.calls i).unindexed = some hash) :
    (s.calls i).unindexed = some hash ∨
      ∃ invoice, a = .gatewayAnswer i (some invoice) ∧ invoice.paymentHash = hash := by
  rcases call_of_step hstep i with ⟨-, hsame⟩ | ⟨-, henters⟩
  · exact Or.inl (hsame ▸ h)
  · generalize s'.calls i = call at henters h
    cases henters with
    | @invoiced _ invoice _ _ => exact Or.inr ⟨invoice, rfl, Option.some.inj h⟩
    | made hcall hnew =>
        refine Or.inl ?_
        rw [hcall, Call.unindexed, ← (newSession_eq_some hnew).2.1]
        exact h
    | inserted hcall =>
        refine Or.inl ?_
        rw [hcall]
        exact h
    | _ => exact absurd h (by simp [Call.unindexed])

lemma event_of_step_inv (hstep : step svc s a = some s') {event : PaymentEvent}
    (h : (s'.calls i).event = some event) :
    (s.calls i).event = some event ∨ a = .handlePayment i event := by
  rcases call_of_step hstep i with ⟨-, hsame⟩ | ⟨-, henters⟩
  · exact Or.inl (hsame ▸ h)
  · generalize s'.calls i = call at henters h
    cases henters with
    | received _ => exact Or.inr (by rw [Option.some.inj h])
    | found hcall _ | unknown hcall _ | handled hcall =>
        refine Or.inl ?_
        rw [hcall]
        exact h
    | _ => exact absurd h (by simp [Call.event])

/-- A call that was given a hash for which an event has arrived has returned. -/
lemma created_of_arrived (hrun : Run (step svc) (.init clock) t s) (hfollow : EventsFollow t)
    {hash : String} (harrived : Arrived t hash) (hgiven : Given t i hash) :
    ∃ result, s.calls i = .created result := by
  obtain ⟨s₁, j, event, hmem, rfl⟩ := harrived
  obtain ⟨s₀, invoice, hmem₀, hhash⟩ := hgiven
  obtain ⟨result, hresult⟩ := hfollow s₁ j event s₀ i invoice hmem hmem₀ hhash
  obtain ⟨t₁, t₂, s₂, -, -, hstep, hrun₂⟩ := hrun.of_mem hmem
  have hrun' : Run (step svc) s₁ ((s₁, .handlePayment j event) :: t₂) s := Run.cons hstep hrun₂
  refine ⟨result, ?_⟩
  rw [(ended_of_run hrun' (by rw [hresult]; rfl)).1, hresult]

/-- A session for whose hash an event has arrived is found in the index. -/
lemma Follows.indexed (h : Follows t s) (hrun : Run (Lightning.step svc) (.init clock) t s)
    (hfollow : EventsFollow t) {hash id : String} (harrived : Arrived t hash)
    (hid : s.Holds hash id) : (s.paymentIndex.lookup hash).isSome := by
  obtain ⟨i, hgiven, hwhere⟩ := h.origin hash id hid
  obtain ⟨result, hresult⟩ := created_of_arrived hrun hfollow harrived hgiven
  rcases hwhere with ⟨session, response, hcall, -⟩ | hcall | hindexed
  · exact absurd hcall (by simp [hresult])
  · exact absurd hcall (by simp [hresult])
  · exact hindexed

/-- No session is inserted for a hash for which an event has arrived. -/
lemma Follows.not_made (h : Follows t s) (hrun : Run (Lightning.step svc) (.init clock) t s)
    (hfollow : EventsFollow t) {session : AccessSession} {response : InvoiceResponse}
    (harrived : Arrived t session.paymentHash) : s.calls i ≠ .made session response := by
  intro hmade
  have hgiven : Given t i session.paymentHash := h.given i _ (by rw [hmade]; rfl)
  obtain ⟨result, hresult⟩ := created_of_arrived hrun hfollow harrived hgiven
  exact absurd hmade (by simp [hresult])

lemma Follows.origin_step (h : Follows t s) (hstep : Lightning.step svc s a = some s')
    {hash id : String} (hid : s'.Holds hash id) :
    ∃ i, Given t i hash ∧
      ((∃ session response, s'.calls i = .inserted session response ∧
        session.paymentHash = hash) ∨ s'.calls i = .gone ∨
          (s'.paymentIndex.lookup hash).isSome) := by
  rcases holds_of_step_inv hstep hid with hid | ⟨i, session, response, rfl, hi, rfl, -⟩
  · obtain ⟨i, hgiven, hwhere⟩ := h.origin hash id hid
    refine ⟨i, hgiven, ?_⟩
    rcases hwhere with ⟨session, response, hcall, rfl⟩ | hcall | hindexed
    · rcases call_of_step hstep i with ⟨-, hsame⟩ | ⟨-, henters⟩
      · exact Or.inl ⟨session, response, hsame.trans hcall, rfl⟩
      · -- the call puts its hash into the index, or is dropped
        generalize s'.calls i = call at henters
        cases henters with
        | created _ =>
            simp only [Lightning.step, hcall, Option.some.injEq] at hstep
            subst hstep
            refine Or.inr (Or.inr ?_)
            rw [Finmap.lookup_insert]
            rfl
        | gone _ => exact Or.inr (Or.inl rfl)
        | refused hother => exact absurd hother (by simp [hcall])
        | requested hother | invoiced hother | made hother _ | inserted hother | received hother
        | found hother _ | unknown hother _ | handled hother | checked hother =>
            exact absurd hother (by simp [hcall])
    · exact Or.inr (Or.inl ((ended_of_step hstep (by rw [hcall]; rfl)).2.trans hcall))
    · exact Or.inr (Or.inr (indexed_of_step hstep hindexed))
  · refine ⟨i, h.given i _ (by rw [hi]; rfl), Or.inl ⟨session, response, ?_, rfl⟩⟩
    simp only [Lightning.step, hi, Option.some.injEq] at hstep
    subst hstep
    simp [State.setCall]

lemma Follows.handled_step (h : Follows t s) (hrun : Run (Lightning.step svc) (.init clock) t s)
    (htracked : Tracked svc t s) (hfollow : EventsFollow t)
    (hstep : Lightning.step svc s a = some s') {event : PaymentEvent}
    (hi : s'.calls i = .handled event (.ok ())) {id : String}
    (hid : s'.Holds event.paymentHash id) : s'.IsSettled event.paymentHash := by
  rcases call_of_step hstep i with ⟨-, hsame⟩ | ⟨-, henters⟩
  · rw [hsame] at hi
    rcases holds_of_step_inv hstep hid with hid | ⟨j, session, response, -, hj, hhash, -⟩
    · exact htracked.isSettled_step hstep (h.handled i event hi id hid)
    · -- no session is inserted for a hash for which an event has arrived
      have harrived := h.event i event (by rw [hi]; rfl)
      exact absurd hj (h.not_made hrun hfollow (hhash ▸ harrived))
  · rw [hi] at henters
    cases henters with
    | unknown hcall hindex =>
        -- an event that has arrived finds the session of its hash in the index
        have harrived := h.event i event (by rw [hcall]; rfl)
        rcases holds_of_step_inv hstep hid with hid | ⟨j, session, response, ha, -⟩
        · have hindexed := h.indexed hrun hfollow harrived hid
          exact absurd hindexed (by simp [hindex])
        · exact absurd ha (by simp)
    | handled hcall => exact htracked.isSettled_of_handled hstep hcall hi

lemma Follows.step (h : Follows t s) (hrun : Run (Lightning.step svc) (.init clock) t s)
    (htracked : Tracked svc t s) (hfollow : EventsFollow t)
    (hstep : Lightning.step svc s a = some s') : Follows (t ++ [(s, a)]) s' where
  given i hash hi := by
    rcases unindexed_of_step hstep hi with hi | ⟨invoice, rfl, hhash⟩
    · exact (h.given i hash hi).append _
    · exact ⟨s, invoice, by simp, hhash⟩
  origin hash id hid := by
    obtain ⟨i, hgiven, hwhere⟩ := h.origin_step hstep hid
    exact ⟨i, hgiven.append _, hwhere⟩
  event i event hi := by
    rcases event_of_step_inv hstep hi with hi | rfl
    · exact (h.event i event hi).append _
    · exact ⟨s, i, event, by simp, rfl⟩
  handled _ _ hi _ hid := h.handled_step hrun htracked hfollow hstep hi hid

lemma EventsFollow.left {t' : Trace} (h : EventsFollow (t ++ t')) : EventsFollow t :=
  fun s j event s₀ i invoice hmem hmem₀ =>
    h s j event s₀ i invoice (List.mem_append_left _ hmem) (List.mem_append_left _ hmem₀)

lemma follows_of_run (hrun : Run (step svc) (.init clock) t s) (honce : DrawnOnce t)
    (hfollow : EventsFollow t) : Follows t s := by
  refine Run.invariant (P := fun t s => DrawnOnce t → EventsFollow t → Follows t s) hrun ?_ ?_
    honce hfollow
  · intro _ _
    refine ⟨?_, ?_, ?_, ?_⟩
    · intro i hash hi
      exact absurd hi (by simp [State.init, Call.unindexed])
    · rintro hash id ⟨session, hid, -⟩
      exact absurd hid (by simp [State.init])
    · intro i event hi
      exact absurd hi (by simp [State.init, Call.event])
    · intro i event hi
      exact absurd hi (by simp [State.init])
  · intro t s a s' hrun ih hstep honce hfollow
    exact (ih honce.left hfollow.left).step hrun (tracked_of_run hrun honce.left) hfollow.left
      hstep

/-- A call that has completed its settlement section has returned `Ok`. -/
lemma handled_of_completed (hrun : Run (step svc) (.init clock) t s) {hash : String}
    (h : Completed svc t hash) :
    ∃ i event, s.calls i = .handled event (.ok ()) ∧ event.paymentHash = hash := by
  obtain ⟨s₁, s₂, i, event, id, hmem, hstep, -, hhash, hhandled⟩ := h
  obtain ⟨t₁, t₂, s₂', -, -, hstep', hrun₂⟩ := hrun.of_mem hmem
  obtain rfl := Option.some.inj (hstep.symm.trans hstep')
  exact ⟨i, event, by rw [(ended_of_run hrun₂ (by rw [hhandled]; rfl)).1, hhandled], hhash⟩

/-- **Settlement.**  In every run in which no invoice id and no payment hash is drawn twice,
and events arrive only when the call for their hash has returned: an entry of the index
leads to a session with its hash; a session is settled exactly when a settlement section for
its hash has been completed, or equally when a `handle_payment` for its hash has returned
`Ok`; it has a pass exactly when it is settled, and it is the one for its hash and expiry;
and neither a call that fails, nor one for an unknown hash, nor one for a hash that is
settled changes the maps. -/
theorem settlement (hrun : Run (step svc) (.init clock) t s) (honce : DrawnOnce t)
    (hfollow : EventsFollow t) :
    (∀ hash id, s.paymentIndex.lookup hash = some id → s.Holds hash id) ∧
    (∀ id session, s.sessions.lookup id = some session →
      (session.status = .settled ↔ Completed svc t session.paymentHash) ∧
      (session.status = .settled ↔ ∃ i event, s.calls i = .handled event (.ok ()) ∧
        event.paymentHash = session.paymentHash) ∧
      session.Sealed svc) ∧
    (∀ i, (s.calls i).failed = true → Untouched svc t i) ∧
    (∀ s₁ i event, (s₁, .lookupIndex i) ∈ t → s₁.calls i = .received event →
      s₁.paymentIndex.lookup event.paymentHash = none → Untouched svc t i) ∧
    ∀ s₁ a i event, (s₁, a) ∈ t → Handles s₁ a i event → s₁.IsSettled event.paymentHash →
      Untouched svc t i := by
  have htracked := tracked_of_run hrun honce
  have haccounts := accounts_of_run hrun honce
  have hfollows := follows_of_run hrun honce hfollow
  refine ⟨htracked.index, ?_, ?_, ?_, ?_⟩
  · intro id session hid
    have hcompleted : session.status = .settled → Completed svc t session.paymentHash :=
      haccounts.completed id session hid
    refine ⟨⟨hcompleted, fun h => ?_⟩, ⟨fun h => handled_of_completed hrun (hcompleted h), ?_⟩,
      (htracked.session id session hid).2.2.2⟩
    · exact htracked.settled_of_isSettled hid (haccounts.settled _ h)
    · rintro ⟨i, event, hi, hhash⟩
      refine htracked.settled_of_isSettled hid ?_
      rw [← hhash]
      exact hfollows.handled i event hi id ⟨session, hid, hhash.symm⟩
  · intro i hi
    exact untouched_of_quiet hrun (quiet_of_failed hi)
  · intro s₁ i event hmem hcall hindex
    exact untouched_of_unknown hrun hmem hcall hindex
  · intro s₁ a i event hmem hhandles hsettled
    exact untouched_of_handles hrun honce hmem hhandles hsettled

/-! ### An example

A service that is asked for one invoice, which is then reported as paid twice. -/

def demoService : ProofService where
  scheme := Signing.Scheme.constant fun _ => true
  keypair := ()
  qr := QrLibrary.total
  config :=
    { demoMode := false, eventId := "demo-event", invoiceExpirySecs := 900, amountMsat := 250000 }
  overflowChecks := true

def demoId : Alphanumeric 12 where
  text := "Zk81mPq0sT4c"
  length_eq := by decide
  alphanum := by decide

def demoInvoice : LightningInvoice where
  invoice := "lnbc2500n1p"
  paymentHash := "9f2c"

def demoEvent : PaymentEvent where
  paymentHash := "9f2c"
  amountMsat := 250000
  timestamp := 5

def demoActions : List Action :=
  [.createInvoice 0 none none, .gatewayAnswer 0 (some demoInvoice), .makeSession 0 demoId,
    .insertSession 0, .insertIndex 0, .handlePayment 1 demoEvent, .handlePayment 2 demoEvent,
    .lookupIndex 1, .lookupIndex 2, .settle 2, .settle 1]

def Call.isCreated : Call → Bool
  | .created _ => true
  | _ => false

/-- The first step is not the arrival of an event for the hash of the second, or it comes
after the call has returned. -/
def follows (e e₀ : State × Action) : Bool :=
  match e.2, e₀.2 with
  | .handlePayment _ event, .gatewayAnswer i (some invoice) =>
      invoice.paymentHash != event.paymentHash || (e.1.calls i).isCreated
  | _, _ => true

lemma eventsFollow_of_all (h : (t.all fun e => t.all (follows e)) = true) : EventsFollow t := by
  intro s j event s₀ i invoice hmem hmem₀ hhash
  have hfollows := List.all_eq_true.1 (List.all_eq_true.1 h _ hmem) _ hmem₀
  simp only [follows, hhash, bne_self_eq_false, Bool.false_or] at hfollows
  cases hcall : s.calls i with
  | created result => exact ⟨result, rfl⟩
  | _ => exact absurd hfollows (by simp [hcall, Call.isCreated])

/-- The invoice is paid for, and the pass is stored once. -/
theorem settlement_demo :
    ∃ t s session, Run (step demoService) (.init 0) t s ∧ t.map Prod.snd = demoActions ∧
      s.sessions.lookup demoId.text = some session ∧
      Completed demoService t session.paymentHash ∧ session.accessToken.isSome ∧
      s.paymentIndex.lookup demoInvoice.paymentHash = some demoId.text ∧
      s.Holds demoInvoice.paymentHash demoId.text := by
  obtain ⟨t, s, hrun, hactions, hcheck⟩ : ∃ t s, Run (step demoService) (.init 0) t s ∧
      t.map Prod.snd = demoActions ∧
      (decide (ids t).Nodup && decide (hashes t).Nodup && (t.all fun e => t.all (follows e)) &&
        (s.sessions.lookup demoId.text).any (fun session => session.status = .settled) &&
        decide (s.paymentIndex.lookup demoInvoice.paymentHash = some demoId.text)) = true :=
    exists_run_of_check _ (by decide +kernel)
  simp only [Bool.and_eq_true, decide_eq_true_iff, Option.any_eq_true] at hcheck
  obtain ⟨⟨⟨⟨hids, hhashes⟩, hall⟩, session, hid, hstatus⟩, hindex⟩ := hcheck
  obtain ⟨hholds, hsessions, -⟩ := settlement hrun ⟨hids, hhashes⟩ (eventsFollow_of_all hall)
  obtain ⟨hcompleted, -, hsealed⟩ := hsessions _ session hid
  exact ⟨t, s, session, hrun, hactions, hid, hcompleted.1 hstatus, hsealed.token.2 hstatus,
    hindex, hholds _ _ hindex⟩

end Haske.Lightning
