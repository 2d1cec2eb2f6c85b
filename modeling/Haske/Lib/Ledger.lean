import Mathlib.Logic.Function.Basic
import Mathlib.Logic.Relation

/-!
# Ledgers

What a shop that takes orders is for.  An order is placed under an id that is not in use
yet, and stays as it was placed.  It is settled at most once, by a receipt that pays it.
Ids, orders and receipts are arbitrary, and so is what it means that a receipt pays an
order.

In every ledger that can be reached from the empty one each receipt pays its order
(`pays_of_reaches`).  If moreover a receipt tells by one of its features which order it
pays, then no two orders hold receipts with the same feature (`eq_of_same_feature`).
-/

namespace Ledger

variable {I O R : Type*}

structure Entry (O R : Type*) where
  order : O
  receipt : Option R

/-- The orders that have been placed. -/
abbrev State (I O R : Type*) := I → Option (Entry O R)

def empty : State I O R := fun _ => none

variable [DecidableEq I]

inductive Step (Pays : I → O → R → Prop) : State I O R → State I O R → Prop
  | place {l : State I O R} {i : I} (o : O) :
      l i = none → Step Pays l (Function.update l i (some ⟨o, none⟩))
  | settle {l : State I O R} {i : I} {o : O} {r : R} :
      l i = some ⟨o, none⟩ → Pays i o r →
      Step Pays l (Function.update l i (some ⟨o, some r⟩))

/-- The ledger can become the other one. -/
abbrev Reaches (Pays : I → O → R → Prop) : State I O R → State I O R → Prop :=
  Relation.ReflTransGen (Step Pays)

variable {Pays : I → O → R → Prop} {l l' : State I O R}

/-- Each receipt pays its order. -/
def Paid (Pays : I → O → R → Prop) (l : State I O R) : Prop :=
  ∀ i o r, l i = some ⟨o, some r⟩ → Pays i o r

lemma Paid.step (h : Paid Pays l) (hstep : Step Pays l l') : Paid Pays l' := by
  intro i o r hi
  cases hstep with
  | @place j o' hj =>
      by_cases hij : i = j
      · subst hij
        rw [Function.update_self] at hi
        exact absurd hi (by simp)
      · rw [Function.update_of_ne hij] at hi
        exact h i o r hi
  | @settle j o' r' hj hpays =>
      by_cases hij : i = j
      · subst hij
        rw [Function.update_self] at hi
        simp only [Option.some.injEq, Entry.mk.injEq] at hi
        obtain ⟨rfl, rfl⟩ := hi
        exact hpays
      · rw [Function.update_of_ne hij] at hi
        exact h i o r hi

/-- **Receipts pay their orders.** -/
theorem pays_of_reaches (h : Reaches Pays empty l) : Paid Pays l := by
  induction h with
  | refl =>
      intro i o r hi
      exact absurd hi (by simp [empty])
  | tail _ hstep ih => exact ih.step hstep

/-- **A payment settles one order.**  If a receipt with this feature pays only one order,
then no two orders hold such receipts. -/
theorem eq_of_same_feature {K : Type*} {feature : R → K}
    (hfeature : ∀ i j o p r q, Pays i o r → Pays j p q → feature r = feature q → i = j)
    (h : Reaches Pays empty l) {i j : I} {o p : O} {r q : R} (hi : l i = some ⟨o, some r⟩)
    (hj : l j = some ⟨p, some q⟩) (heq : feature r = feature q) : i = j :=
  hfeature i j o p r q (pays_of_reaches h i o r hi) (pays_of_reaches h j p q hj) heq

end Ledger
