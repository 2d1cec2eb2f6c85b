import Mathlib.Logic.Basic

/-!
# Fallible computations

Inversion of a computation in `Except`: a sequence that succeeds is one whose parts
all do.
-/

namespace Result

variable {ε α β : Type}

/-- The value of an option, or the given error. -/
def okOr (o : Option α) (e : ε) : Except ε α :=
  match o with
  | some a => .ok a
  | none => .error e

@[simp] lemma okOr_some (a : α) (e : ε) : okOr (some a) e = .ok a := rfl

@[simp] lemma okOr_none (e : ε) : okOr (none : Option α) e = .error e := rfl

@[simp] lemma okOr_eq_ok {o : Option α} {e : ε} {a : α} : okOr o e = .ok a ↔ o = some a := by
  cases o with
  | none => simp
  | some b => simp

@[simp] lemma bind_ok (a : α) (f : α → Except ε β) : (Except.ok a >>= f) = f a := rfl

@[simp] lemma bind_error (e : ε) (f : α → Except ε β) :
    (Except.error e >>= f) = Except.error e := rfl

lemma bind_eq_ok {x : Except ε α} {f : α → Except ε β} {b : β} :
    (x >>= f) = .ok b ↔ ∃ a, x = .ok a ∧ f a = .ok b := by
  cases x with
  | error e => simp
  | ok a => simp

end Result
