import Concordance.Query.Condition

/-!
# Plans

A plan is the look-up in the indexes that narrows a query down most.  The entries it finds are a
superset of the ones the query holds for; each of them is still checked.

* `Expr.plan` is the plan of a query.
* `Selectivity` orders plans by how much they narrow down.
-/

namespace Concordance

open Concordance.Text (byteLength)

/-- A way to find the entries that a query may hold for. -/
inductive Plan where
  /-- All entries. -/
  | all
  /-- No entry. -/
  | nothing
  /-- The entry with this name. -/
  | name (name : String)
  /-- The entries whose content may contain this literal. -/
  | literal (literal : String)
  /-- The entries that one of several plans finds. -/
  | union (parts : List Plan)
  deriving Repr, Inhabited

/-- How much a plan narrows down. -/
inductive Selectivity where
  /-- Not at all. -/
  | low
  /-- To entries with a literal. -/
  | medium
  /-- To one entry. -/
  | high
  /-- To no entry. -/
  | empty
  deriving DecidableEq, Repr

/-- The place of a selectivity in their order. -/
def Selectivity.rank : Selectivity → Nat
  | .low => 1
  | .medium => 2
  | .high => 3
  | .empty => 4

/-- The lesser of two selectivities. -/
def Selectivity.min (a b : Selectivity) : Selectivity := if a.rank ≤ b.rank then a else b

/-- Is the first selectivity less than the second? -/
def Selectivity.lt (a b : Selectivity) : Bool := a.rank < b.rank

namespace Plan

mutual

/-- How much the plan narrows down; a union does so as little as its least selective part. -/
def selectivity : Plan → Selectivity
  | .all => .low
  | .nothing => .empty
  | .name _ => .high
  | .literal _ => .medium
  | .union parts => leastSelectivity parts

/-- The least selectivity of some plans. -/
def leastSelectivity : List Plan → Selectivity
  | [] => .empty
  | p :: rest => p.selectivity.min (leastSelectivity rest)

end

/-- The first of the most selective plans, but no plan that narrows nothing down. -/
def best (plans : List Plan) : Plan :=
  plans.foldl (fun best p => if best.selectivity.lt p.selectivity then p else best) .all

/-- The plan that finds what one of several plans finds: unions are opened, plans that find
nothing are left out, and one that finds everything makes the others needless. -/
def join (plans : List Plan) : Plan :=
  match gather plans with
  | none => .all
  | some [] => .nothing
  | some [p] => p
  | some parts => .union parts
where
  /-- The parts of the plans in order; nothing if one of them finds everything. -/
  gather : List Plan → Option (List Plan)
    | [] => some []
    | .all :: _ => none
    | .nothing :: rest => gather rest
    | .union parts :: rest => (gather rest).map (parts ++ ·)
    | p :: rest => (gather rest).map (p :: ·)

end Plan

/-- The least length, in bytes, of a literal that the trigram index can look up. -/
def leastLiteral : Nat := 3

/-- The plan of a test. -/
def Test.plan (t : Test) : Plan :=
  match t.field, t.condition with
  | .name, .equals name => .name name
  | .name, _ => .all
  | .text, condition =>
    match condition.requiredLiteral with
    | some literal => if leastLiteral ≤ byteLength literal then .literal literal else .all
    | none => .all

namespace Expr

mutual

/-- The plan of a query.  A negation says nothing about the entries it holds for. -/
def plan : Formula Test → Plan
  | .const true => .all
  | .const false => .nothing
  | .test t => t.plan
  | .not _ => .all
  | .and items => Plan.best (plans items)
  | .or items => Plan.join (plans items)

/-- The plans of several queries. -/
def plans : List (Formula Test) → List Plan
  | [] => []
  | e :: rest => plan e :: plans rest

end

end Expr

end Concordance
