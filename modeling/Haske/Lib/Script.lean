import Mathlib.Logic.Function.Basic

/-!
# Scripts that throw

A script works on a state and ends normally or with an exception.  What it did before the
exception stays done: an exception is no rollback.  `try`/`catch` gives the handler the
state in which the exception was thrown.

`Ends` is the rule of reasoning: what holds of the state at a normal end, and what holds of
it at an exception.
-/

namespace Script

/-- How a script ends, and in which state. -/
inductive Outcome (S : Type*) where
  | done (s : S)
  | thrown (message : String) (s : S)

namespace Outcome

variable {S : Type*}

def state : Outcome S → S
  | done s => s
  | thrown _ s => s

/-- One script after the other. -/
def andThen (x : Outcome S) (f : S → Outcome S) : Outcome S :=
  match x with
  | done s => f s
  | thrown message s => thrown message s

/-- `try x catch f`. -/
def caught (x : Outcome S) (f : String → S → Outcome S) : Outcome S :=
  match x with
  | done s => done s
  | thrown message s => f message s

/-- At a normal end `P` holds, and at an exception `E`. -/
def Ends (x : Outcome S) (P E : S → Prop) : Prop :=
  match x with
  | done s => P s
  | thrown _ s => E s

variable {x : Outcome S} {P Q E F : S → Prop}

lemma Ends.mono (h : x.Ends P E) (hP : ∀ s, P s → Q s) (hE : ∀ s, E s → F s) : x.Ends Q F := by
  cases x with
  | done s => exact hP s h
  | thrown message s => exact hE s h

lemma Ends.andThen {f : S → Outcome S} (h : x.Ends P E) (hf : ∀ s, P s → (f s).Ends Q E) :
    (x.andThen f).Ends Q E := by
  cases x with
  | done s => exact hf s h
  | thrown message s => exact h

lemma Ends.caught {f : String → S → Outcome S} (h : x.Ends P E)
    (hf : ∀ message s, E s → (f message s).Ends P F) : (x.caught f).Ends P F := by
  cases x with
  | done s => exact h
  | thrown message s => exact hf message s h

lemma Ends.state (h : x.Ends P P) : P x.state := by
  cases x with
  | done s => exact h
  | thrown message s => exact h

/-- What comes after does nothing. -/
lemma Ends.andThen_done {f : S → Outcome S} (h : x.Ends P E) (hf : ∀ s, P s → f s = done s) :
    x.andThen f = x := by
  cases x with
  | done s => exact hf s h
  | thrown message s => rfl

/-- A script that does not throw. -/
lemma Ends.of_done (h : x.Ends P fun _ => False) : P x.state :=
  (h.mono (fun _ h => h) fun _ h => h.elim).state

end Outcome

end Script
