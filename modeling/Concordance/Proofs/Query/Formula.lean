import Mathlib
import Concordance.Query.Condition

/-!
# Formulas: induction and evaluation in short

A formula nests lists of formulas, so induction on formulas needs a principle of its own.  With it
the two chains, conjunctions and disjunctions, are brought under one definition: a chain has a
value `stop` that ends it, `false` for a conjunction and `true` for a disjunction.

* `Formula.induct` is the induction principle.
* `Formula.chainM` evaluates a chain; `evalAllM_eq_chainM` and `evalAnyM_eq_chainM` tie it to the
  two kinds of chain.
* `Formula.visited` are the tests that an evaluation from left to right looks at.
-/

namespace Concordance.Formula

variable {τ : Type}

/-- Induction on formulas: for a chain one may assume the claim for each of its parts. -/
@[elab_as_elim, induction_eliminator]
theorem induct {motive : Formula τ → Prop}
    (const : ∀ value, motive (.const value)) (test : ∀ t, motive (.test t))
    (not : ∀ inner, motive inner → motive (.not inner))
    (and : ∀ items, (∀ f ∈ items, motive f) → motive (.and items))
    (or : ∀ items, (∀ f ∈ items, motive f) → motive (.or items)) :
    ∀ f, motive f
  | .const value => const value
  | .test t => test t
  | .not inner => not inner (induct const test not and or inner)
  | .and items => and items fun f _ => induct const test not and or f
  | .or items => or items fun f _ => induct const test not and or f

theorem testsOf_eq_flatMap (items : List (Formula τ)) : testsOf items = items.flatMap tests := by
  induction items with
  | nil => rfl
  | cons f rest ih => rw [testsOf, ih, List.flatMap_cons]

/-! ## Chains -/

section

variable {m : Type → Type} [Monad m]

/-- Evaluates the parts of a chain up to the first whose value is `stop`. -/
def chainM (check : τ → m Bool) (stop : Bool) : List (Formula τ) → m Bool
  | [] => pure !stop
  | f :: rest => do
    let b ← f.evalM check
    if b = stop then pure stop else chainM check stop rest

theorem evalAllM_eq_chainM (check : τ → m Bool) (items : List (Formula τ)) :
    evalAllM check items = chainM check false items := by
  induction items with
  | nil => rfl
  | cons f rest ih =>
    rw [evalAllM, chainM, ih]
    refine bind_congr fun b => ?_
    cases b <;> rfl

theorem evalAnyM_eq_chainM (check : τ → m Bool) (items : List (Formula τ)) :
    evalAnyM check items = chainM check true items := by
  induction items with
  | nil => rfl
  | cons f rest ih =>
    rw [evalAnyM, chainM, ih]

end

/-- The value of a chain: `stop` as soon as one part has that value. -/
def chainHolds (sat : τ → Bool) (stop : Bool) : List (Formula τ) → Bool
  | [] => !stop
  | f :: rest => if f.holds sat = stop then stop else chainHolds sat stop rest

theorem allHold_eq_chainHolds (sat : τ → Bool) (items : List (Formula τ)) :
    allHold sat items = chainHolds sat false items := by
  induction items with
  | nil => rfl
  | cons f rest ih =>
    rw [allHold, chainHolds, ih]
    cases f.holds sat <;> rfl

theorem anyHolds_eq_chainHolds (sat : τ → Bool) (items : List (Formula τ)) :
    anyHolds sat items = chainHolds sat true items := by
  induction items with
  | nil => rfl
  | cons f rest ih =>
    rw [anyHolds, chainHolds, ih]
    cases f.holds sat <;> rfl

/-! ## The tests that are looked at -/

mutual

/-- The tests that an evaluation from left to right looks at, when `sat` tells their outcomes. -/
def visited (sat : τ → Bool) : Formula τ → List τ
  | .const _ => []
  | .test t => [t]
  | .not inner => inner.visited sat
  | .and items => visitedUntil sat false items
  | .or items => visitedUntil sat true items

/-- The tests looked at in a chain: a part whose value is `stop` is the last one. -/
def visitedUntil (sat : τ → Bool) (stop : Bool) : List (Formula τ) → List τ
  | [] => []
  | f :: rest => f.visited sat ++ if f.holds sat = stop then [] else visitedUntil sat stop rest

end

/-- The value of a chain depends only on the tests looked at, if that is so for its parts. -/
theorem chainHolds_congr {sat other : τ → Bool} {stop : Bool} {items : List (Formula τ)}
    (ih : ∀ f ∈ items, (∀ t ∈ f.visited sat, other t = sat t) → f.holds other = f.holds sat)
    (h : ∀ t ∈ visitedUntil sat stop items, other t = sat t) :
    chainHolds other stop items = chainHolds sat stop items := by
  induction items with
  | nil => rfl
  | cons f rest ihr =>
    rw [visitedUntil] at h
    have hf : f.holds other = f.holds sat :=
      ih f (by simp) fun t ht => h t (List.mem_append_left _ ht)
    rw [chainHolds, chainHolds, hf]
    by_cases hstop : f.holds sat = stop
    · rw [if_pos hstop, if_pos hstop]
    · rw [if_neg hstop, if_neg hstop]
      rw [if_neg hstop] at h
      exact ihr (fun g hg => ih g (by simp [hg])) fun t ht => h t (List.mem_append_right _ ht)

/-- The value of a formula depends only on the tests that an evaluation looks at. -/
theorem holds_congr {sat other : τ → Bool} (f : Formula τ)
    (h : ∀ t ∈ f.visited sat, other t = sat t) : f.holds other = f.holds sat := by
  induction f with
  | const value => rfl
  | test t => exact h t (by simp [visited])
  | not inner ih => rw [holds, holds, ih h]
  | and items ih =>
    rw [holds, holds, allHold_eq_chainHolds, allHold_eq_chainHolds]
    exact chainHolds_congr ih h
  | or items ih =>
    rw [holds, holds, anyHolds_eq_chainHolds, anyHolds_eq_chainHolds]
    exact chainHolds_congr ih h

end Concordance.Formula
