import Mathlib
import Concordance.Proofs.Marking.Marker

/-!
# Which tests are marked

The spans that a query marks are those of certain tests.  A test stands in a query within other
formulas, and what decides whether it is marked is what these formulas are and whether they hold.

* `Formula.leaves` are the tests of a formula from left to right, each with the formulas around it.
* `Formula.Leaf.Marked` says which of them are marked: tests of the content that are under no
  negation, when all formulas around them hold.
* `markedSpans_of_holds` says that a query that holds marks the spans of these tests, in order;
  `markedSpans_of_execute` puts it together with the program that decides the query.
-/

namespace Concordance

namespace Formula

variable {τ : Type}

/-! ## Tests and what is around them -/

/-- A test in a formula. -/
structure Leaf (τ : Type) where
  /-- The test. -/
  test : τ
  /-- The formulas that the test is a part of, from the whole formula down to the test itself. -/
  around : List (Formula τ)

/-- The test, as it stands in a formula that has the one around it as a part. -/
def Leaf.within (f : Formula τ) (l : Leaf τ) : Leaf τ := { l with around := f :: l.around }

mutual

/-- The tests of a formula, from left to right, each with the formulas around it. -/
def leaves : Formula τ → List (Leaf τ)
  | .const _ => []
  | .test t => [⟨t, [.test t]⟩]
  | .not inner => inner.leaves.map (Leaf.within (.not inner))
  | .and items => (leavesOf items).map (Leaf.within (.and items))
  | .or items => (leavesOf items).map (Leaf.within (.or items))

/-- The tests of several formulas, from left to right. -/
def leavesOf : List (Formula τ) → List (Leaf τ)
  | [] => []
  | f :: rest => f.leaves ++ leavesOf rest

end

/-- Is the formula a negation? -/
def isNegation : Formula τ → Bool
  | .not _ => true
  | _ => false

theorem leavesOf_eq_flatMap (items : List (Formula τ)) : leavesOf items = items.flatMap leaves := by
  induction items with
  | nil => rfl
  | cons f rest ih => rw [leavesOf, ih, List.flatMap_cons]

theorem map_test_within (f : Formula τ) (ls : List (Leaf τ)) :
    (ls.map (Leaf.within f)).map Leaf.test = ls.map Leaf.test := by
  rw [List.map_map]
  rfl

/-- The leaves are the tests of the formula, in order. -/
theorem map_test_leaves (f : Formula τ) : f.leaves.map Leaf.test = f.tests := by
  have hchain : ∀ items : List (Formula τ), (∀ g ∈ items, g.leaves.map Leaf.test = g.tests) →
      (leavesOf items).map Leaf.test = testsOf items := by
    intro items ih
    rw [leavesOf_eq_flatMap, testsOf_eq_flatMap, List.map_flatMap]
    exact List.flatMap_congr ih
  induction f with
  | const value => rfl
  | test t => rfl
  | not inner ih => rw [leaves, map_test_within, ih, tests]
  | and items ih => rw [leaves, map_test_within, hchain items ih, tests]
  | or items ih => rw [leaves, map_test_within, hchain items ih, tests]

/-- A formula is around each of its tests. -/
theorem mem_around {f : Formula τ} {l : Leaf τ} (h : l ∈ f.leaves) : f ∈ l.around := by
  have hwithin : ∀ {g : Formula τ} {ls : List (Leaf τ)}, l ∈ ls.map (Leaf.within g) →
      g ∈ l.around := by
    intro g ls hl
    obtain ⟨inner, -, rfl⟩ := List.mem_map.1 hl
    exact List.mem_cons_self
  cases f with
  | const value => simp [leaves] at h
  | test t =>
    rw [leaves, List.mem_singleton] at h
    subst h
    exact List.mem_singleton_self _
  | not inner => exact hwithin h
  | and items => exact hwithin h
  | or items => exact hwithin h

/-- A test is itself among the formulas around it. -/
theorem test_mem_around {f : Formula τ} {l : Leaf τ} (h : l ∈ f.leaves) :
    .test l.test ∈ l.around := by
  have hwithin : ∀ {g : Formula τ} {ls : List (Leaf τ)},
      (∀ l ∈ ls, .test l.test ∈ l.around) → ∀ l ∈ ls.map (Leaf.within g),
        .test l.test ∈ l.around := by
    intro g ls hls l hl
    obtain ⟨inner, hinner, rfl⟩ := List.mem_map.1 hl
    exact List.mem_cons_of_mem _ (hls inner hinner)
  have hchain : ∀ items : List (Formula τ),
      (∀ g ∈ items, ∀ l ∈ g.leaves, .test l.test ∈ l.around) →
      ∀ l ∈ leavesOf items, .test l.test ∈ l.around := by
    intro items ih l hl
    rw [leavesOf_eq_flatMap] at hl
    obtain ⟨g, hg, hl⟩ := List.mem_flatMap.1 hl
    exact ih g hg l hl
  induction f generalizing l with
  | const value => simp [leaves] at h
  | test t =>
    rw [leaves, List.mem_singleton] at h
    subst h
    exact List.mem_singleton_self _
  | not inner ih => exact hwithin (fun l hl => ih hl) l h
  | and items ih => exact hwithin (hchain items fun g hg l hl => ih g hg hl) l h
  | or items ih => exact hwithin (hchain items fun g hg l hl => ih g hg hl) l h

end Formula

open Formula (Leaf leaves leavesOf leavesOf_eq_flatMap)

variable {name content : String}

/-! ## Marked tests -/

/-- Is the test one that is marked in an entry: a test of the content that is under no negation,
when all formulas around it hold for the entry? -/
def Formula.Leaf.Marked (name content : String) (l : Leaf Test) : Prop :=
  l.test.field = .text ∧
    ∀ f ∈ l.around, f.isNegation = false ∧ Expr.holds f name content = true

instance (name content : String) (l : Leaf Test) : Decidable (l.Marked name content) :=
  inferInstanceAs (Decidable (_ ∧ _))

/-- The tests of some leaves that are marked, in order. -/
def markedLeaves (name content : String) (ls : List (Leaf Test)) : List (Leaf Test) :=
  ls.filter fun l => l.Marked name content

/-- The spans of some tests of the content, one test after the other. -/
def spansOf (content : String) (ls : List (Leaf Test)) : List Span :=
  ls.flatMap fun l => l.test.condition.spans content

theorem marked_within_iff {f : Expr} {l : Leaf Test} :
    (l.within f).Marked name content ↔
      (f.isNegation = false ∧ Expr.holds f name content = true) ∧ l.Marked name content := by
  simp only [Leaf.Marked, Leaf.within, List.forall_mem_cons]
  exact and_left_comm

/-- A test under a negation, or in a formula that does not hold, is not marked. -/
theorem markedLeaves_eq_nil {e : Expr} {ls : List (Leaf Test)} (h : ∀ l ∈ ls, e ∈ l.around)
    (he : e.isNegation = true ∨ Expr.holds e name content = false) :
    markedLeaves name content ls = [] := by
  refine List.filter_eq_nil_iff.2 fun l hl hmarked => ?_
  obtain ⟨hnegation, hholds⟩ := (of_decide_eq_true hmarked).2 e (h l hl)
  rcases he with he | he
  · rw [hnegation] at he
    cases he
  · rw [hholds] at he
    cases he

/-- In a chain that holds, the tests are marked that its parts mark. -/
theorem spansOf_markedLeaves_within {e : Expr} {items : List Expr}
    (hnegation : e.isNegation = false) (hholds : Expr.holds e name content = true) :
    spansOf content (markedLeaves name content ((leavesOf items).map (Leaf.within e))) =
      items.flatMap fun f => spansOf content (markedLeaves name content f.leaves) := by
  have hfilter : markedLeaves name content ((leavesOf items).map (Leaf.within e)) =
      (markedLeaves name content (leavesOf items)).map (Leaf.within e) := by
    rw [markedLeaves, List.filter_map, markedLeaves]
    congr 1
    refine List.filter_congr fun l _ => ?_
    rw [Function.comp_apply, decide_eq_decide, marked_within_iff]
    exact and_iff_right ⟨hnegation, hholds⟩
  rw [hfilter, spansOf, List.flatMap_map, leavesOf_eq_flatMap, markedLeaves, List.filter_flatMap,
    List.flatMap_assoc]
  rfl

/-- A query that holds marks the spans of the marked tests. -/
theorem markedSpans_of_holds {e : Expr} (h : Expr.holds e name content = true) :
    markedSpans name content e = spansOf content (markedLeaves name content e.leaves) := by
  induction e using Formula.induct with
  | const value => rfl
  | test t =>
    obtain ⟨field, condition⟩ := t
    cases field with
    | text =>
      have hmarked : (⟨⟨.text, condition⟩, [.test ⟨.text, condition⟩]⟩ : Leaf Test).Marked name
          content := ⟨rfl, fun f hf => List.mem_singleton.1 hf ▸ ⟨rfl, h⟩⟩
      rw [markedSpans, leaves, markedLeaves, List.filter_singleton, decide_eq_true hmarked]
      exact (List.flatMap_singleton ..).symm
    | name =>
      have hmarked : ¬ (⟨⟨.name, condition⟩, [.test ⟨.name, condition⟩]⟩ : Leaf Test).Marked name
          content := fun hmarked => Field.noConfusion hmarked.1
      rw [markedSpans, leaves, markedLeaves, List.filter_singleton, decide_eq_false hmarked]
      rfl
  | not inner _ =>
    rw [markedSpans, markedLeaves_eq_nil (fun l hl => Formula.mem_around hl) (Or.inl rfl)]
    rfl
  | and items ih =>
    -- all parts of a conjunction that holds do
    rw [markedSpans, leaves, spansOf_markedLeaves_within rfl h, markedInAll_eq_flatMap]
    refine List.flatMap_congr fun f hf => ih f hf ?_
    rw [Expr.holds, Formula.holds, Formula.allHold_eq_all, List.all_eq_true] at h
    exact h f hf
  | or items ih =>
    -- a part that does not hold is around each of its tests
    rw [markedSpans, leaves, spansOf_markedLeaves_within rfl h, markedInHolding_eq_flatMap]
    refine List.flatMap_congr fun f hf => ?_
    by_cases hholds : Expr.holds f name content = true
    · rw [if_pos hholds, ih f hf hholds]
    · rw [if_neg hholds, markedLeaves_eq_nil (fun l hl => Formula.mem_around hl)
        (Or.inr (by simpa using hholds))]
      rfl

/-- A marked test is met by the content. -/
theorem isMatch_of_marked {e : Expr} {l : Leaf Test} (hl : l ∈ e.leaves)
    (h : l.Marked name content) : l.test.condition.isMatch content = true := by
  have hholds := (h.2 _ (Formula.test_mem_around hl)).2
  rw [Expr.holds, Formula.holds, Test.holds, h.1] at hholds
  exact hholds

/-- When the program of a query decides that the query holds for an entry, the query marks the spans
of exactly those tests of the content that are under no negation and around which all formulas hold,
the test itself among them, from left to right.  Each of these tests is met by the content. -/
theorem markedSpans_of_execute {ε : Type} (load : String → Reading ε String)
    (name content : String) (e : Expr) (v : View)
    (hrun : (View.execute load e.program ⟨name, some content⟩).outcome = .ok (true, v)) :
    e.leaves.map Leaf.test = e.tests ∧
    markedSpans name content e =
      (e.leaves.filter fun l => l.Marked name content).flatMap
        (fun l => l.test.condition.spans content) ∧
    ∀ l ∈ e.leaves, l.Marked name content → l.test.condition.isMatch content = true := by
  have hholds : Expr.holds e name content = true := by
    rw [View.execute_program_loaded] at hrun
    exact congrArg Prod.fst (Except.ok.inj hrun)
  exact ⟨Formula.map_test_leaves e, markedSpans_of_holds hholds,
    fun l hl hmarked => isMatch_of_marked hl hmarked⟩

/-- A query on a cat that is not a dog, in an entry of this name or of that one. -/
def catQuery : Expr :=
  .or [
    .and [.test ⟨.text, .contains "a"⟩, .test ⟨.name, .equals "this"⟩],
    .and [.test ⟨.text, .contains "cat"⟩, .not (.test ⟨.text, .contains "dog"⟩),
      .or [.test ⟨.name, .equals "that"⟩, .test ⟨.text, .startsWith "b"⟩]]]

/-- Only the cat is marked, although the text contains an `a` as well. -/
theorem markedSpans_catQuery :
    (View.execute (fun n => Reading.fail (Error.notFound n)) catQuery.program
      ⟨"that", some "a cat"⟩).outcome = .ok (true, ⟨"that", some "a cat"⟩) ∧
    markedSpans "that" "a cat" catQuery = [⟨2, 5⟩] := by
  have hrun : (View.execute (fun n => Reading.fail (Error.notFound n)) catQuery.program
      ⟨"that", some "a cat"⟩).outcome = .ok (true, ⟨"that", some "a cat"⟩) := by
    have hholds : Expr.holds catQuery "that" "a cat" = true := by decide
    rw [View.execute_program_loaded, hholds]
    rfl
  refine ⟨hrun, ?_⟩
  obtain ⟨-, hspans, -⟩ := markedSpans_of_execute _ "that" "a cat" catQuery _ hrun
  rw [hspans]
  decide

end Concordance
