/-!
# Formulas

A formula combines tests with `and`, `or`, `not` and the two constants.  Conjunctions and
disjunctions have any number of parts; an empty conjunction holds and an empty disjunction does
not.

* `Formula.holds` is the truth value, given that of each test.
* `Formula.evalM` evaluates from left to right with tests that may have effects, and stops a
  conjunction at its first false part and a disjunction at its first true one.
* `Formula.mapM?` replaces the tests, from left to right, up to the first that has no replacement.
-/

namespace Concordance

/-- A Boolean combination of tests. -/
inductive Formula (τ : Type) where
  /-- True or false. -/
  | const (value : Bool)
  /-- A test. -/
  | test (t : τ)
  /-- The opposite of a formula. -/
  | not (inner : Formula τ)
  /-- All of some formulas. -/
  | and (items : List (Formula τ))
  /-- One of some formulas. -/
  | or (items : List (Formula τ))
  deriving Repr, Inhabited

namespace Formula

variable {τ σ : Type}

/-- Several formulas joined; a single one stands for itself. -/
def collapse (join : List (Formula τ) → Formula τ) : List (Formula τ) → Formula τ
  | [f] => f
  | items => join items

/-! ## Truth -/

mutual

/-- Does the formula hold, when `sat` tells which tests do? -/
def holds (sat : τ → Bool) : Formula τ → Bool
  | .const value => value
  | .test t => sat t
  | .not inner => !inner.holds sat
  | .and items => allHold sat items
  | .or items => anyHolds sat items

/-- Do all the formulas hold? -/
def allHold (sat : τ → Bool) : List (Formula τ) → Bool
  | [] => true
  | f :: rest => f.holds sat && allHold sat rest

/-- Does one of the formulas hold? -/
def anyHolds (sat : τ → Bool) : List (Formula τ) → Bool
  | [] => false
  | f :: rest => f.holds sat || anyHolds sat rest

end

theorem allHold_eq_all (sat : τ → Bool) (items : List (Formula τ)) :
    allHold sat items = items.all (holds sat) := by
  induction items with
  | nil => rfl
  | cons f rest ih => simp [allHold, ih]

theorem anyHolds_eq_any (sat : τ → Bool) (items : List (Formula τ)) :
    anyHolds sat items = items.any (holds sat) := by
  induction items with
  | nil => rfl
  | cons f rest ih => simp [anyHolds, ih]

/-! ## Evaluation from left to right -/

section

variable {m : Type → Type} [Monad m]

mutual

/-- Evaluates the formula from left to right, and no further than needed. -/
def evalM (check : τ → m Bool) : Formula τ → m Bool
  | .const value => pure value
  | .test t => check t
  | .not inner => do pure !(← inner.evalM check)
  | .and items => evalAllM check items
  | .or items => evalAnyM check items

/-- Evaluates the parts of a conjunction up to the first false one. -/
def evalAllM (check : τ → m Bool) : List (Formula τ) → m Bool
  | [] => pure true
  | f :: rest => do if ← f.evalM check then evalAllM check rest else pure false

/-- Evaluates the parts of a disjunction up to the first true one. -/
def evalAnyM (check : τ → m Bool) : List (Formula τ) → m Bool
  | [] => pure false
  | f :: rest => do if ← f.evalM check then pure true else evalAnyM check rest

end

end

/-! ## Replacing tests -/

section

variable {ε : Type}

mutual

/-- Replaces the tests from left to right; the first one without a replacement is an error. -/
def mapM? (replace : τ → Except ε σ) : Formula τ → Except ε (Formula σ)
  | .const value => .ok (.const value)
  | .test t => (replace t).map .test
  | .not inner => (inner.mapM? replace).map .not
  | .and items => (mapListM? replace items).map .and
  | .or items => (mapListM? replace items).map .or

/-- Replaces the tests of several formulas from left to right. -/
def mapListM? (replace : τ → Except ε σ) : List (Formula τ) → Except ε (List (Formula σ))
  | [] => .ok []
  | f :: rest => do
    let f ← f.mapM? replace
    let rest ← mapListM? replace rest
    .ok (f :: rest)

end

end

/-! ## Tests and equality -/

mutual

/-- The tests of a formula, from left to right. -/
def tests : Formula τ → List τ
  | .const _ => []
  | .test t => [t]
  | .not inner => inner.tests
  | .and items => testsOf items
  | .or items => testsOf items

/-- The tests of several formulas, from left to right. -/
def testsOf : List (Formula τ) → List τ
  | [] => []
  | f :: rest => f.tests ++ testsOf rest

end

mutual

/-- Have two formulas the same shape and the same tests? -/
def same [BEq τ] : Formula τ → Formula τ → Bool
  | .const a, .const b => a == b
  | .test a, .test b => a == b
  | .not a, .not b => a.same b
  | .and a, .and b => sameList a b
  | .or a, .or b => sameList a b
  | _, _ => false

/-- Are two lists of formulas the same, part by part? -/
def sameList [BEq τ] : List (Formula τ) → List (Formula τ) → Bool
  | [], [] => true
  | a :: as, b :: bs => a.same b && sameList as bs
  | _, _ => false

end

end Formula

end Concordance
