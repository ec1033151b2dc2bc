import Mathlib
import Concordance.Program.Plan
import Concordance.Proofs.Query.Formula
import Concordance.Proofs.Query.Spans

/-!
# Plans find what queries hold for

A plan may find entries that its query does not hold for, but never the other way round.

* `Plan.Finds` says which entries a plan may find.
* `Plan.best_mem_or` and `Plan.finds_join` are about the plans of conjunctions and disjunctions;
  `Plan.Gathered` says where the parts of a joined plan come from.
* `Expr.finds_plan` says that the plan of a query finds each entry that the query holds for.
-/

namespace Concordance

open Concordance.Text

namespace Plan

/-- Induction on plans: for a union one may assume the claim for each of its parts. -/
@[elab_as_elim, induction_eliminator]
theorem induct {motive : Plan → Prop} (all : motive .all) (nothing : motive .nothing)
    (name : ∀ wanted, motive (.name wanted)) (literal : ∀ part, motive (.literal part))
    (union : ∀ parts, (∀ p ∈ parts, motive p) → motive (.union parts)) : ∀ p, motive p
  | .all => all
  | .nothing => nothing
  | .name wanted => name wanted
  | .literal part => literal part
  | .union parts => union parts fun p _ => induct all nothing name literal union p

/-! ## What a plan finds -/

mutual

/-- May the plan find an entry with this name and content? -/
def Finds (name content : String) : Plan → Prop
  | .all => True
  | .nothing => False
  | .name wanted => name = wanted
  | .literal part => utf8 part <:+: utf8 content
  | .union parts => FindsOne name content parts

/-- May one of the plans find the entry? -/
def FindsOne (name content : String) : List Plan → Prop
  | [] => False
  | p :: rest => p.Finds name content ∨ FindsOne name content rest

end

variable {name content : String} {plans : List Plan}

theorem findsOne_iff : FindsOne name content plans ↔ ∃ p ∈ plans, p.Finds name content := by
  induction plans with
  | nil => simp [FindsOne]
  | cons p rest ih => rw [FindsOne, ih, List.exists_mem_cons_iff]

theorem findsOne_append {more : List Plan} :
    FindsOne name content (plans ++ more) ↔
      FindsOne name content plans ∨ FindsOne name content more := by
  simp only [findsOne_iff, List.mem_append, or_and_right, exists_or]

/-! ## Conjunctions and disjunctions -/

/-- The best of some plans is one of them, or narrows nothing down. -/
theorem best_mem_or (plans : List Plan) : best plans ∈ plans ∨ best plans = .all := by
  unfold best
  induction plans using List.reverseRecOn with
  | nil => exact Or.inr rfl
  | append_singleton plans p ih =>
    rw [List.foldl_concat]
    split
    · exact Or.inl (by simp)
    · rcases ih with hmem | hall
      · exact Or.inl (List.mem_append_left _ hmem)
      · exact Or.inr hall

theorem finds_best (h : ∀ p ∈ plans, p.Finds name content) : (best plans).Finds name content := by
  rcases best_mem_or plans with hmem | hall
  · exact h _ hmem
  · rw [hall]
    trivial

/-- What can be gathered from some plans. -/
inductive Gathered (plans : List Plan) (p : Plan) : Prop where
  /-- A part of a union among them. -/
  | inner {parts : List Plan} (hunion : .union parts ∈ plans) (hp : p ∈ parts)
  /-- One of them that is not a union and finds neither everything nor nothing. -/
  | own (hp : p ∈ plans) (hall : p ≠ .all) (hnothing : p ≠ .nothing)
    (hunion : ∀ parts, p ≠ .union parts)

theorem Gathered.cons {first p : Plan} (h : Gathered plans p) : Gathered (first :: plans) p := by
  cases h with
  | inner hunion hp => exact .inner (List.mem_cons_of_mem _ hunion) hp
  | own hp hall hnothing hunion =>
    exact .own (List.mem_cons_of_mem _ hp) hall hnothing hunion

theorem gathered_of_mem {parts : List Plan} (hparts : join.gather plans = some parts) {p : Plan}
    (hp : p ∈ parts) : Gathered plans p := by
  induction plans using join.gather.induct generalizing parts with
  | case1 =>
    cases hparts
    cases hp
  | case2 => simp [join.gather] at hparts
  | case3 rest ih => exact (ih hparts hp).cons
  | case4 inner rest ih =>
    rw [join.gather, Option.map_eq_some_iff] at hparts
    obtain ⟨more, hmore, rfl⟩ := hparts
    rcases List.mem_append.1 hp with hp | hp
    · exact .inner List.mem_cons_self hp
    · exact (ih hmore hp).cons
  | case5 first rest hall hnothing hunion ih =>
    rw [join.gather, Option.map_eq_some_iff] at hparts
    · obtain ⟨more, hmore, rfl⟩ := hparts
      rcases List.mem_cons.1 hp with rfl | hp
      · exact .own List.mem_cons_self hall hnothing hunion
      · exact (ih hmore hp).cons
    · exact hall
    · exact hnothing
    · exact hunion

/-- What one of some plans finds is found by one of the parts gathered from them. -/
theorem findsOne_gather {parts : List Plan} (hparts : join.gather plans = some parts)
    (h : FindsOne name content plans) : FindsOne name content parts := by
  induction plans using join.gather.induct generalizing parts with
  | case1 => exact False.elim h
  | case2 => simp [join.gather] at hparts
  | case3 rest ih =>
    rw [FindsOne] at h
    exact ih hparts (h.resolve_left id)
  | case4 inner rest ih =>
    rw [join.gather, Option.map_eq_some_iff] at hparts
    obtain ⟨more, hmore, rfl⟩ := hparts
    rw [FindsOne, Finds] at h
    exact findsOne_append.2 (h.imp id (ih hmore))
  | case5 p rest hall hnothing hunion ih =>
    rw [join.gather, Option.map_eq_some_iff] at hparts
    · obtain ⟨more, hmore, rfl⟩ := hparts
      rw [FindsOne] at h ⊢
      exact h.imp id (ih hmore)
    · exact hall
    · exact hnothing
    · exact hunion

theorem finds_join (h : FindsOne name content plans) : (join plans).Finds name content := by
  unfold join
  cases hparts : join.gather plans with
  | none => trivial
  | some parts =>
    have hfound := findsOne_gather hparts h
    match parts with
    | [] => exact hfound
    | [p] => exact hfound.resolve_right id
    | p :: q :: rest => exact hfound

end Plan

/-! ## Queries -/

variable {name content : String}

theorem Test.plan_of_requiredLiteral {c : Condition} {literal : String}
    (h : c.requiredLiteral = some literal) : Test.plan ⟨.text, c⟩ =
      if leastLiteral ≤ byteLength literal then .literal literal else .all := by
  cases c <;> cases h <;> rfl

/-- The plan of a test finds each entry that meets the test. -/
theorem Test.finds_plan {t : Test} (h : t.holds name content = true) :
    t.plan.Finds name content := by
  obtain ⟨field, condition⟩ := t
  cases field with
  | name =>
    cases condition with
    | equals wanted =>
      have heq : name = wanted := of_decide_eq_true h
      exact heq
    | _ => trivial
  | text =>
    have hmatch : condition.isMatch content = true := h
    cases hliteral : condition.requiredLiteral with
    | none =>
      cases condition with
      | «matches» regex => trivial
      | _ => cases hliteral
    | some literal =>
      rw [Test.plan_of_requiredLiteral hliteral]
      split
      · exact Condition.infix_of_isMatch hliteral hmatch
      · trivial

theorem Expr.plans_eq_map (items : List Expr) : Expr.plans items = items.map Expr.plan := by
  induction items with
  | nil => rfl
  | cons e rest ih => rw [plans, ih, List.map_cons]

/-- The plan of a query finds each entry that the query holds for. -/
theorem Expr.finds_plan (e : Expr) (h : e.holds name content = true) :
    (Expr.plan e).Finds name content := by
  unfold Expr.holds at h
  induction e using Formula.induct with
  | const value =>
    cases value with
    | true => trivial
    | false => cases h
  | test t => exact Test.finds_plan h
  | not inner _ => trivial
  | and items ih =>
    rw [Formula.holds, Formula.allHold_eq_all, List.all_eq_true] at h
    rw [plan, plans_eq_map]
    refine Plan.finds_best fun p hp => ?_
    obtain ⟨e, he, rfl⟩ := List.mem_map.1 hp
    exact ih e he (h e he)
  | or items ih =>
    rw [Formula.holds, Formula.anyHolds_eq_any, List.any_eq_true] at h
    obtain ⟨e, he, hholds⟩ := h
    rw [plan, plans_eq_map]
    exact Plan.finds_join
      (Plan.findsOne_iff.2 ⟨Expr.plan e, List.mem_map_of_mem he, ih e he hholds⟩)

end Concordance
