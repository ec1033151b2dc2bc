import Mathlib
import Concordance.Proofs.Program.Plan

/-!
# Plans are normal and chosen by selectivity

A union stands for two plans or more, and each of them looks up a name or a literal.  A conjunction
takes the first plan that narrows down most, and a disjunction narrows down as little as the plan
that does so least, whatever becomes of its parts when they are joined.

* The instance for `Selectivity` orders selectivities by their place.
* `Plan.selectivity_best`, `Plan.find?_best` and `Plan.selectivity_join` are about conjunctions and
  disjunctions of any plans.
* `Plan.Normal` are the plans that queries have; `Expr.normal_plan` says so.
* `Expr.plan_selectivity` puts both together.
-/

namespace Concordance

open Concordance.Text

/-! ## The order of selectivities -/

theorem Selectivity.rank_injective : Function.Injective Selectivity.rank := by
  intro a b h
  cases a <;> cases b <;> first | rfl | cases h

/-- Selectivities are ordered by their place. -/
instance : LinearOrder Selectivity := LinearOrder.lift' Selectivity.rank Selectivity.rank_injective

namespace Selectivity

variable {a b : Selectivity}

theorem lt_iff : a.lt b = true ↔ a < b := decide_eq_true_iff

theorem min_eq_min (a b : Selectivity) : a.min b = Min.min a b := (min_def a b).symm

theorem low_le (a : Selectivity) : .low ≤ a := by
  cases a <;> decide

theorem le_empty (a : Selectivity) : a ≤ .empty := by
  cases a <;> decide

end Selectivity

namespace Plan

variable {plans parts : List Plan} {p : Plan}

/-! ## Conjunctions -/

theorem best_concat (plans : List Plan) (p : Plan) : best (plans ++ [p]) =
    if (best plans).selectivity < p.selectivity then p else best plans := by
  rw [best, List.foldl_concat]
  exact if_congr Selectivity.lt_iff rfl rfl

/-- The best of some plans is as selective as the most selective one. -/
theorem selectivity_best (plans : List Plan) :
    (best plans).selectivity = (plans.map selectivity).foldr max .low := by
  rw [← List.foldl_eq_foldr]
  induction plans using List.reverseRecOn with
  | nil => rfl
  | append_singleton plans p ih =>
    rw [best_concat, List.map_append, List.map_singleton, List.foldl_concat, ← ih, max_def_lt]
    split <;> rfl

theorem selectivity_le_best (h : p ∈ plans) : p.selectivity ≤ (best plans).selectivity := by
  induction plans using List.reverseRecOn with
  | nil => cases h
  | append_singleton plans q ih =>
    rw [best_concat]
    rcases List.mem_append.1 h with h | h
    · split
      next hless => exact (ih h).trans hless.le
      next => exact ih h
    · obtain rfl := List.mem_singleton.1 h
      split
      next => exact le_rfl
      next hless => exact not_lt.1 hless

/-- Nothing is narrowed down by looking everything up only. -/
theorem best_eq_all (h : (best plans).selectivity = .low) : best plans = .all := by
  induction plans using List.reverseRecOn with
  | nil => rfl
  | append_singleton plans p ih =>
    rw [best_concat] at h ⊢
    split at h
    next hless => exact absurd ((h ▸ hless).trans_le (Selectivity.low_le _)) (lt_irrefl _)
    next hless =>
      rw [if_neg hless]
      exact ih h

/-- Of the most selective plans the first one is taken. -/
theorem find?_best (h : (best plans).selectivity ≠ .low) :
    plans.find? (fun p => p.selectivity = (best plans).selectivity) = some (best plans) := by
  induction plans using List.reverseRecOn with
  | nil => exact absurd rfl h
  | append_singleton plans p ih =>
    rw [best_concat] at h ⊢
    rw [List.find?_append]
    split at h
    next hless =>
      rw [if_pos hless]
      have hnone : plans.find? (fun q => q.selectivity = p.selectivity) = none := by
        rw [List.find?_eq_none]
        intro q hq heq
        have hle := selectivity_le_best hq
        rw [of_decide_eq_true heq] at hle
        exact absurd hless (not_lt.2 hle)
      rw [hnone]
      simp
    next hless =>
      rw [if_neg hless, ih h]
      rfl

/-! ## Disjunctions -/

theorem leastSelectivity_eq (plans : List Plan) :
    leastSelectivity plans = (plans.map selectivity).foldr min .empty := by
  induction plans with
  | nil => rfl
  | cons p rest ih =>
    rw [leastSelectivity, ih, Selectivity.min_eq_min]
    rfl

theorem leastSelectivity_append (plans more : List Plan) :
    leastSelectivity (plans ++ more) = min (leastSelectivity plans) (leastSelectivity more) := by
  induction plans with
  | nil => exact (min_eq_right (Selectivity.le_empty _)).symm
  | cons p rest ih =>
    rw [List.cons_append, leastSelectivity, leastSelectivity, ih]
    simp only [Selectivity.min_eq_min]
    exact (min_assoc _ _ _).symm

/-- Opening unions and leaving out plans that find nothing keeps the least selectivity. -/
theorem leastSelectivity_gather : leastSelectivity plans =
    ((join.gather plans).map leastSelectivity).getD .low := by
  induction plans using join.gather.induct with
  | case1 => rfl
  | case2 rest =>
    rw [leastSelectivity, Selectivity.min_eq_min]
    exact min_eq_left (Selectivity.low_le _)
  | case3 rest ih =>
    rw [leastSelectivity, Selectivity.min_eq_min, join.gather, ← ih]
    exact min_eq_right (Selectivity.le_empty _)
  | case4 inner rest ih =>
    rw [leastSelectivity, Selectivity.min_eq_min, selectivity, join.gather, ih]
    cases join.gather rest with
    | none => exact min_eq_right (Selectivity.low_le _)
    | some more => exact (leastSelectivity_append inner more).symm
  | case5 p rest hall hnothing hunion ih =>
    rw [leastSelectivity, Selectivity.min_eq_min, join.gather, ih]
    · cases join.gather rest with
      | none => exact min_eq_right (Selectivity.low_le _)
      | some more => exact (Selectivity.min_eq_min _ _).symm
    · exact hall
    · exact hnothing
    · exact hunion

/-- What some plans are joined to is as selective as the least selective one. -/
theorem selectivity_join (plans : List Plan) :
    (join plans).selectivity = (plans.map selectivity).foldr min .empty := by
  rw [← leastSelectivity_eq, leastSelectivity_gather, join]
  cases join.gather plans with
  | none => rfl
  | some parts =>
    match parts with
    | [] => rfl
    | [p] =>
      show p.selectivity = p.selectivity.min .empty
      rw [Selectivity.min_eq_min]
      exact (min_eq_left (Selectivity.le_empty _)).symm
    | p :: q :: rest => rfl

/-! ## Normal plans -/

/-- A plan that looks up a name, or a literal that the trigram index can look up. -/
inductive Simple : Plan → Prop where
  /-- A name. -/
  | name (wanted : String) : Simple (.name wanted)
  /-- A literal of three bytes or more. -/
  | literal {part : String} (h : 3 ≤ byteLength part) : Simple (.literal part)

/-- A plan that finds everything or nothing, or a simple one, or a union of two simple ones or
more. -/
inductive Normal : Plan → Prop where
  /-- All entries. -/
  | all : Normal .all
  /-- No entry. -/
  | nothing : Normal .nothing
  /-- A simple plan. -/
  | simple {p : Plan} (h : p.Simple) : Normal p
  /-- A union of simple plans. -/
  | union {parts : List Plan} (h : ∀ p ∈ parts, p.Simple) (hlength : 2 ≤ parts.length) :
      Normal (.union parts)

theorem normal_best (h : ∀ p ∈ plans, p.Normal) : (best plans).Normal := by
  rcases best_mem_or plans with hmem | hall
  · exact h _ hmem
  · rw [hall]
    exact .all

/-- The parts gathered from normal plans are simple. -/
theorem simple_of_gather (h : ∀ p ∈ plans, p.Normal) (hparts : join.gather plans = some parts) :
    ∀ p ∈ parts, p.Simple := by
  intro p hp
  cases gathered_of_mem hparts hp with
  | inner hunion hp =>
    cases h _ hunion with
    | simple hsimple => cases hsimple
    | union hinner _ => exact hinner p hp
  | own hp hall hnothing hunion =>
    cases h p hp with
    | all => exact absurd rfl hall
    | nothing => exact absurd rfl hnothing
    | simple hsimple => exact hsimple
    | union _ _ => exact absurd rfl (hunion _)

theorem normal_join (h : ∀ p ∈ plans, p.Normal) : (join plans).Normal := by
  unfold join
  cases hparts : join.gather plans with
  | none => exact .all
  | some parts =>
    have hsimple := simple_of_gather h hparts
    match parts with
    | [] => exact .nothing
    | [p] => exact .simple (hsimple p List.mem_cons_self)
    | p :: q :: rest => exact .union hsimple (by simp)

end Plan

/-! ## Queries -/

theorem Test.normal_plan (t : Test) : t.plan.Normal := by
  obtain ⟨field, condition⟩ := t
  cases field with
  | name =>
    cases condition with
    | equals wanted => exact .simple (.name wanted)
    | _ => exact .all
  | text =>
    cases hliteral : condition.requiredLiteral with
    | none =>
      cases condition with
      | «matches» regex => exact .all
      | _ => cases hliteral
    | some literal =>
      rw [Test.plan_of_requiredLiteral hliteral]
      split
      next hlong => exact .simple (.literal hlong)
      next => exact .all

/-- The plan of a query is normal. -/
theorem Expr.normal_plan (e : Expr) : (Expr.plan e).Normal := by
  induction e using Formula.induct with
  | const value =>
    cases value with
    | true => exact .all
    | false => exact .nothing
  | test t => exact t.normal_plan
  | not inner _ => exact .all
  | and items ih =>
    rw [plan, plans_eq_map]
    exact Plan.normal_best (List.forall_mem_map.2 ih)
  | or items ih =>
    rw [plan, plans_eq_map]
    exact Plan.normal_join (List.forall_mem_map.2 ih)

/-- The plan of a query finds everything or nothing, looks up a name or a literal of three bytes or
more, or is a union of two such look-ups or more.

Finding everything is least selective, then come literals, names, and finding nothing.  The plan of
a conjunction is as selective as the most selective plan of its parts, and is the first plan of that
selectivity unless none is narrowed down.  The plan of a disjunction is as selective as the least
selective plan of its parts. -/
theorem Expr.plan_selectivity (e : Expr) (items : List Expr) :
    let each := items.map fun item => (Expr.plan item).selectivity
    let greatest := each.foldr max .low
    (Expr.plan e).Normal ∧
    (Selectivity.low < .medium ∧ Selectivity.medium < .high ∧ Selectivity.high < .empty) ∧
    (Expr.plan (.and items)).selectivity = greatest ∧
    (greatest = .low → Expr.plan (.and items) = .all) ∧
    (greatest ≠ .low → ∃ item,
      items.find? (fun item => (Expr.plan item).selectivity = greatest) = some item ∧
      Expr.plan (.and items) = Expr.plan item) ∧
    (Expr.plan (.or items)).selectivity = each.foldr min .empty := by
  intro each greatest
  have heach : (items.map Expr.plan).map Plan.selectivity = each := List.map_map
  have hand : Expr.plan (.and items) = Plan.best (items.map Expr.plan) := by
    rw [plan, plans_eq_map]
  have hor : Expr.plan (.or items) = Plan.join (items.map Expr.plan) := by
    rw [plan, plans_eq_map]
  have hgreatest : (Plan.best (items.map Expr.plan)).selectivity = greatest := by
    rw [Plan.selectivity_best, heach]
  refine ⟨e.normal_plan, ⟨by decide, by decide, by decide⟩, ?_, ?_, ?_, ?_⟩
  · rw [hand, hgreatest]
  · intro hlow
    rw [hand]
    exact Plan.best_eq_all (hgreatest.trans hlow)
  · intro hne
    have hfirst := Plan.find?_best (hgreatest.trans_ne hne)
    rw [hgreatest, List.find?_map, Option.map_eq_some_iff] at hfirst
    obtain ⟨item, hitem, hbest⟩ := hfirst
    exact ⟨item, hitem, hand.trans hbest.symm⟩
  · rw [hor, Plan.selectivity_join, heach]

/-- A test for a literal and tests for two names. -/
def Expr.narrowing : List Expr :=
  [.test ⟨.text, .contains "cat"⟩, .test ⟨.name, .equals "b"⟩, .test ⟨.name, .equals "c"⟩]

/-- Names narrow down more than literals, and in a conjunction the first one of them is taken. -/
theorem Expr.plan_selectivity_narrowing :
    Expr.plan (.and narrowing) = .name "b" ∧
      (Expr.plan (.or narrowing)).selectivity = .medium ∧
      (Expr.plan (.or narrowing)).Normal := by
  obtain ⟨hnormal, -, -, -, hand, hor⟩ := plan_selectivity (.or narrowing) narrowing
  refine ⟨?_, hor, hnormal⟩
  obtain ⟨item, hitem, hplan⟩ := hand (by decide)
  obtain rfl := Option.some.inj hitem
  exact hplan

end Concordance
