import Mathlib.Data.List.Induction
import Mathlib.Logic.Relation

/-!
# Machines with actions, their runs and the invariants of runs

A machine is a partial step function `step : S → A → Option S`: in a state it
either refuses an action or moves to a next state.  All nondeterminism (the
scheduler, the environment, the clock) is in the choice of the action.  A run is
the list of the actions taken, each with the state it was taken in, so that
whatever was read, sent or returned during the run can be recovered from the run
itself.
-/

namespace Machine

variable {S A : Type*} {step : S → A → Option S}

/-- `Run step s₀ t s`: from `s₀` the machine takes the actions of `t`, each in
the state paired with it, and is then in `s`. -/
inductive Run (step : S → A → Option S) (s₀ : S) : List (S × A) → S → Prop
  | nil : Run step s₀ [] s₀
  | snoc {t : List (S × A)} {s s' : S} {a : A} :
      Run step s₀ t s → step s a = some s' → Run step s₀ (t ++ [(s, a)]) s'

namespace Run

lemma single {s s' : S} {a : A} (h : step s a = some s') : Run step s [(s, a)] s' :=
  Run.snoc (t := []) Run.nil h

/-- Runs compose. -/
lemma append {s₀ s₁ s₂ : S} {t u : List (S × A)} (h : Run step s₀ t s₁)
    (h' : Run step s₁ u s₂) : Run step s₀ (t ++ u) s₂ := by
  induction h' with
  | nil => simpa using h
  | snoc _ hstep ih =>
      rw [← List.append_assoc]
      exact Run.snoc ih hstep

lemma cons {s₀ s₁ s₂ : S} {a : A} {t : List (S × A)} (h : step s₀ a = some s₁)
    (h' : Run step s₁ t s₂) : Run step s₀ ((s₀, a) :: t) s₂ :=
  append (single h) h'

lemma nil_inv {s₀ s : S} (h : Run step s₀ [] s) : s = s₀ := by
  generalize ht : ([] : List (S × A)) = t at h
  cases h with
  | nil => rfl
  | snoc _ _ => exact absurd ht (by simp)

lemma snoc_inv {s₀ s s' : S} {t : List (S × A)} {a : A}
    (h : Run step s₀ (t ++ [(s, a)]) s') : Run step s₀ t s ∧ step s a = some s' := by
  generalize ht : t ++ [(s, a)] = u at h
  cases h with
  | nil => exact absurd ht (by simp)
  | snoc hrun hstep =>
      obtain ⟨rfl, hlast⟩ := List.append_inj' ht rfl
      simp only [List.cons.injEq, Prod.mk.injEq, and_true] at hlast
      obtain ⟨rfl, rfl⟩ := hlast
      exact ⟨hrun, hstep⟩

/-- A run can be cut at any point of its trace. -/
lemma split {s₀ s₂ : S} {t u : List (S × A)} (h : Run step s₀ (t ++ u) s₂) :
    ∃ s₁, Run step s₀ t s₁ ∧ Run step s₁ u s₂ := by
  induction u using List.reverseRecOn generalizing s₂ with
  | nil => exact ⟨s₂, by simpa using h, Run.nil⟩
  | append_singleton u e ih =>
      obtain ⟨s, a⟩ := e
      rw [← List.append_assoc] at h
      obtain ⟨hrun, hstep⟩ := snoc_inv h
      obtain ⟨s₁, h₁, h₂⟩ := ih hrun
      exact ⟨s₁, h₁, Run.snoc h₂ hstep⟩

lemma cons_inv {s₀ s s₂ : S} {a : A} {t : List (S × A)}
    (h : Run step s₀ ((s, a) :: t) s₂) :
    s = s₀ ∧ ∃ s₁, step s₀ a = some s₁ ∧ Run step s₁ t s₂ := by
  obtain ⟨s₁, h₁, h₂⟩ := split (t := [(s, a)]) h
  -- the first part is a run of one step, so nothing comes before it
  obtain ⟨hnil, hstep⟩ := snoc_inv (t := []) h₁
  have hs : s = s₀ := nil_inv hnil
  subst hs
  exact ⟨rfl, s₁, hstep, h₂⟩

/-- Every step of the trace of a run was taken: the run splits around it. -/
lemma of_mem {s₀ s₂ s : S} {a : A} {t : List (S × A)} (h : Run step s₀ t s₂)
    (hmem : (s, a) ∈ t) :
    ∃ t₁ t₂ s', t = t₁ ++ (s, a) :: t₂ ∧ Run step s₀ t₁ s ∧ step s a = some s' ∧
      Run step s' t₂ s₂ := by
  obtain ⟨t₁, t₂, rfl⟩ := List.append_of_mem hmem
  obtain ⟨s₁, h₁, h₂⟩ := split h
  obtain ⟨rfl, s', hstep, h₃⟩ := cons_inv h₂
  exact ⟨t₁, t₂, s', rfl, h₁, hstep, h₃⟩

/-! ### Invariants -/

/-- The invariant rule.  What holds of the start and is preserved by every step
holds at the end of every run; it may speak of the trace so far. -/
theorem invariant {P : List (S × A) → S → Prop} {s₀ s : S} {t : List (S × A)}
    (h : Run step s₀ t s) (h₀ : P [] s₀)
    (hstep : ∀ t s a s', Run step s₀ t s → P t s → step s a = some s' →
      P (t ++ [(s, a)]) s') : P t s := by
  induction h with
  | nil => exact h₀
  | snoc hrun hs ih => exact hstep _ _ _ _ hrun ih hs

/-- The invariant rule for a run all of whose steps meet `G`. -/
theorem invariant_of_guard {P : List (S × A) → S → Prop} {G : S → A → Prop} {s₀ s : S}
    {t : List (S × A)} (h : Run step s₀ t s) (hG : ∀ e ∈ t, G e.1 e.2) (h₀ : P [] s₀)
    (hstep : ∀ t s a s', Run step s₀ t s → P t s → G s a → step s a = some s' →
      P (t ++ [(s, a)]) s') : P t s := by
  -- the guard goes into the invariant, since the trace grows during the induction
  refine invariant (P := fun t s => (∀ e ∈ t, G e.1 e.2) → P t s) h (fun _ => h₀) ?_ hG
  intro t s a s' hrun ih hs hG
  exact hstep t s a s' hrun (ih fun e he => hG e (by simp [he])) (hG (s, a) (by simp)) hs

/-- The simulation rule.  If every step of a run is a sequence of steps of another
system between the images of its ends, then so is the run. -/
theorem simulate {T : Type*} {r : T → T → Prop} (abs : S → T) {s₀ s : S} {t : List (S × A)}
    (h : Run step s₀ t s)
    (hstep : ∀ t₁ s a s' t₂, t = t₁ ++ (s, a) :: t₂ → Run step s₀ t₁ s → step s a = some s' →
      Relation.ReflTransGen r (abs s) (abs s')) :
    Relation.ReflTransGen r (abs s₀) (abs s) := by
  induction h with
  | nil => exact .refl
  | @snoc t s s' a hrun hs ih =>
      -- a step of the shorter run is a step of the whole one, with one more entry behind it
      refine (ih ?_).trans (hstep t s a s' [] rfl hrun hs)
      intro t₁ s₁ a₁ s₁' t₂ ht hrun₁ hs₁
      refine hstep t₁ s₁ a₁ s₁' (t₂ ++ [(s, a)]) ?_ hrun₁ hs₁
      rw [ht]
      simp

/-- The projection rule.  If every step of a run either is a step of another machine between
the images of its ends, or leaves the image as it is, then the run is one of that machine. -/
theorem project {T B : Type*} {step' : T → B → Option T} (abs : S → T) (act : A → Option B)
    {s₀ s : S} {t : List (S × A)} (h : Run step s₀ t s)
    (htake : ∀ s a s' b, step s a = some s' → act a = some b → step' (abs s) b = some (abs s'))
    (hskip : ∀ s a s', step s a = some s' → act a = none → abs s' = abs s) :
    Run step' (abs s₀) (t.filterMap fun e => (act e.2).map fun b => (abs e.1, b)) (abs s) := by
  induction h with
  | nil => exact Run.nil
  | @snoc t s s' a _ hs ih =>
      rw [List.filterMap_append]
      cases hact : act a with
      | none =>
          rw [hskip s a s' hs hact]
          simpa [hact] using ih
      | some b =>
          have hnext := Run.snoc ih (htake s a s' b hs hact)
          simpa [hact] using hnext

/-- The rule for what is read.  If whatever a step reads binds the states from then on, no step
breaks what binds, and what is read agrees with all that binds at that time, then of the
readings of a run each agrees with those before it. -/
theorem readings {O : Type*} {R : O → O → Prop} (out : S → A → Option O) (Binds : O → S → Prop)
    {s₀ s : S} {t : List (S × A)} (h : Run step s₀ t s)
    (hstep : ∀ t₁ s a s' t₂, t = t₁ ++ (s, a) :: t₂ → Run step s₀ t₁ s → step s a = some s' →
      (∀ o, out s a = some o → Binds o s' ∧ ∀ o₁, Binds o₁ s → R o₁ o) ∧
        ∀ o, Binds o s → Binds o s') :
    (t.filterMap fun e => out e.1 e.2).Pairwise R ∧
      ∀ o ∈ t.filterMap fun e => out e.1 e.2, Binds o s := by
  induction h with
  | nil => exact ⟨List.Pairwise.nil, fun _ ho => absurd ho List.not_mem_nil⟩
  | @snoc t s s' a hrun hs ih =>
      obtain ⟨hpairwise, hbinds⟩ := ih fun t₁ s₁ a₁ s₁' t₂ ht hrun₁ hs₁ =>
        hstep t₁ s₁ a₁ s₁' (t₂ ++ [(s, a)]) (by rw [ht, List.append_assoc, List.cons_append])
          hrun₁ hs₁
      obtain ⟨hread, hkeep⟩ := hstep t s a s' [] rfl hrun hs
      rw [List.filterMap_append]
      cases hout : out s a with
      | none =>
          have hlast : ([(s, a)].filterMap fun e => out e.1 e.2) = [] := by simp [hout]
          rw [hlast, List.append_nil]
          exact ⟨hpairwise, fun o ho => hkeep o (hbinds o ho)⟩
      | some o =>
          have hlast : ([(s, a)].filterMap fun e => out e.1 e.2) = [o] := by simp [hout]
          obtain ⟨hbind, hagrees⟩ := hread o hout
          rw [hlast]
          constructor
          · rw [List.pairwise_append]
            refine ⟨hpairwise, List.pairwise_singleton R o, fun o₁ ho₁ o₂ ho₂ => ?_⟩
            rw [List.mem_singleton] at ho₂
            exact ho₂ ▸ hagrees o₁ (hbinds o₁ ho₁)
          · intro o₁ ho₁
            rcases List.mem_append.1 ho₁ with hold | hnew
            · exact hkeep o₁ (hbinds o₁ hold)
            · rw [List.mem_singleton] at hnew
              exact hnew ▸ hbind

end Run

/-! ### Running a list of actions -/

/-- Take the given actions one after the other, recording the trace. -/
def execute (step : S → A → Option S) (s : S) : List A → Option (List (S × A) × S)
  | [] => some ([], s)
  | a :: as => (step s a).bind fun s' =>
      (execute step s' as).map fun r => ((s, a) :: r.1, r.2)

lemma run_of_execute {s s' : S} {as : List A} {t : List (S × A)}
    (h : execute step s as = some (t, s')) : Run step s t s' := by
  induction as generalizing s t with
  | nil =>
      simp only [execute, Option.some.injEq, Prod.mk.injEq] at h
      obtain ⟨rfl, rfl⟩ := h
      exact Run.nil
  | cons a as ih =>
      simp only [execute, Option.bind_eq_some_iff, Option.map_eq_some_iff] at h
      obtain ⟨s₁, hs, ⟨t₁, s₂⟩, hrest, heq⟩ := h
      simp only [Prod.mk.injEq] at heq
      obtain ⟨rfl, rfl⟩ := heq
      exact Run.cons hs (ih hrest)

lemma actions_of_execute {s s' : S} {as : List A} {t : List (S × A)}
    (h : execute step s as = some (t, s')) : t.map Prod.snd = as := by
  induction as generalizing s t with
  | nil =>
      simp only [execute, Option.some.injEq, Prod.mk.injEq] at h
      obtain ⟨rfl, rfl⟩ := h
      rfl
  | cons a as ih =>
      simp only [execute, Option.bind_eq_some_iff, Option.map_eq_some_iff] at h
      obtain ⟨s₁, hs, ⟨t₁, s₂⟩, hrest, heq⟩ := h
      simp only [Prod.mk.injEq] at heq
      obtain ⟨rfl, rfl⟩ := heq
      rw [List.map_cons, ih hrest]

/-- A run from a computation that ends as checked. -/
lemma exists_run_of_check {s : S} (as : List A) {check : List (S × A) → S → Bool}
    (h : (execute step s as).any (fun r => check r.1 r.2) = true) :
    ∃ t s', Run step s t s' ∧ t.map Prod.snd = as ∧ check t s' = true := by
  rw [Option.any_eq_true] at h
  obtain ⟨⟨t, s'⟩, hexecute, hcheck⟩ := h
  exact ⟨t, s', run_of_execute hexecute, actions_of_execute hexecute, hcheck⟩

/-- The state after the given actions. -/
def endOf (step : S → A → Option S) (s : S) (as : List A) : S :=
  ((execute step s as).map Prod.snd).getD s

lemma step_endOf {s : S} {a : A} (h : (step s a).isSome = true) :
    step s a = some (endOf step s [a]) := by
  obtain ⟨s', hs⟩ := Option.isSome_iff_exists.1 h
  rw [endOf, execute, hs]
  rfl

/-- A run to that state, all of whose steps are as checked. -/
lemma exists_run_endOf {s : S} {as : List A} {check : S → A → Bool}
    (h : (execute step s as).any (fun r => r.1.all fun e => check e.1 e.2) = true) :
    ∃ t, Run step s t (endOf step s as) ∧ ∀ e ∈ t, check e.1 e.2 = true := by
  rw [Option.any_eq_true] at h
  obtain ⟨⟨t, s'⟩, hexecute, hcheck⟩ := h
  have hend : endOf step s as = s' := by
    rw [endOf, hexecute]
    rfl
  rw [hend]
  exact ⟨t, run_of_execute hexecute, List.all_eq_true.1 hcheck⟩

end Machine
