import Haske.Lib.Ledger
import Haske.Server.Fresh

/-!
# The server keeps a ledger

Seen from outside, the server keeps a ledger of orders: an order is placed when a session
is inserted, and settled when the watcher marks it paid; its receipt is the artifact that
is stored.  A receipt pays an order if it was issued in the run for a payment that was
found for this order.

If no memo is drawn twice, every run of the server is a history of such a ledger
(`ledger_of_run`): an insertion is under a new id, and what is marked paid is the order
that was copied by the snapshot, not settled before.
-/

namespace Haske

open Machine

/-- The orders of the map, with their receipts. -/
def State.ledger (s : State) : Ledger.State String Order AccessArtifact :=
  fun id => (s.sessions.lookup id).map fun session => ⟨session.order, session.receipt⟩

/-- The artifact was issued in the run for a payment found for this order. -/
def PaidBy (srv : Server) (t : Trace) (id : String) (order : Order) (artifact : AccessArtifact) :
    Prop :=
  order.paymentRequest.sessionId = id ∧
    ∃ session, session.order = order ∧ IssuedFor srv t session artifact

variable {srv : Server} {t : Trace} {s s' : State} {a : Action}

lemma ledger_of_lookup {id : String} {session : SessionRecord}
    (h : s.sessions.lookup id = some session) :
    s.ledger id = some ⟨session.order, session.receipt⟩ := by
  rw [State.ledger, h]
  rfl

lemma ledger_insert {id : String} {session : SessionRecord}
    (h : s'.sessions = s.sessions.insert id session) :
    s'.ledger = Function.update s.ledger id (some ⟨session.order, session.receipt⟩) := by
  funext key
  by_cases hkey : key = id
  · subst hkey
    rw [Function.update_self]
    exact ledger_of_lookup (by rw [h, Finmap.lookup_insert])
  · rw [Function.update_of_ne hkey, State.ledger, State.ledger, h,
      Finmap.lookup_insert_of_ne _ hkey]

/-- Writing an entry, as a step of the ledger. -/
lemma reaches_of_insert {id : String} {session : SessionRecord}
    {Pays : String → Order → AccessArtifact → Prop}
    (h : s'.sessions = s.sessions.insert id session)
    (hstep : Ledger.Step Pays s.ledger
      (Function.update s.ledger id (some ⟨session.order, session.receipt⟩))) :
    Ledger.Reaches Pays s.ledger s'.ledger := by
  rw [ledger_insert h]
  exact .single hstep

/-- A step places or settles an order, or leaves the ledger as it is. -/
lemma ledger_step (hfrom : Provenance srv t s) (hfresh : ∃ t', Fresh t' s)
    (heffect : Effect srv s a s') : Ledger.Reaches (PaidBy srv t) s.ledger s'.ledger := by
  obtain ⟨t', hfresh⟩ := hfresh
  cases heffect with
  | @createInsert i record hi =>
      have hnone := (hfresh.opening i _ (opening_of_stamped hi rfl)).2
      have hplace : s.ledger record.paymentRequest.sessionId = none := by
        rw [State.ledger, hnone]
        rfl
      refine reaches_of_insert rfl ?_
      rw [(hfrom.task i _ hi).1.receipt]
      exact .place _ hplace
  | @marked artifact session live rest hw hlive =>
      -- the entry still has the order that was paid for
      obtain ⟨copied, hcopied, horder, hunset⟩ :=
        hfresh.queue session (by rw [hw]; simp [Watcher.queue])
      rw [hlive, Option.some.injEq] at hcopied
      subst hcopied
      have hissued := hfrom.watcher
      rw [hw] at hissued
      have hentry := ledger_of_lookup hlive
      rw [hunset.receipt] at hentry
      refine reaches_of_insert rfl ?_
      rw [(live.pay_holds artifact).receipt]
      exact .settle hentry ⟨(hfrom.session _ live hlive).1, session, horder.symm, hissued⟩
  | _ => exact .refl

/-- **The server keeps a ledger.** -/
theorem ledger_of_run {clock : UInt64} (hrun : Run (step srv) (.init clock) t s)
    (hmemos : (memos t).Nodup) : Ledger.Reaches (PaidBy srv t) Ledger.empty s.ledger := by
  have hempty : (State.init clock).ledger = Ledger.empty := by
    funext id
    simp [State.ledger, Ledger.empty]
  rw [← hempty]
  refine hrun.simulate State.ledger ?_
  rintro t₁ s₁ a s₁' t₂ rfl hrun₁ hstep
  have hprefix : (memos t₁).Nodup := by
    rw [memos_append] at hmemos
    exact (List.nodup_append.1 hmemos).1
  have hfrom := (provenance_of_run hrun₁).mono (List.subset_append_left t₁ ((s₁, a) :: t₂))
  exact ledger_step hfrom ⟨t₁, fresh_of_run hrun₁ hprefix⟩ (effect_of_step hstep)

end Haske
