import Mathlib
import Concordance.Proofs.Query.Formula
import Concordance.Proofs.Query.Parsing

/-!
# The regular expressions of a query

Reading a query has two stages: the text is read as a formula over calls, and the calls become
tests from left to right, up to the first whose regular expression the engine does not accept.

* `Formula.map` replaces the tests of a formula; `mapM?_of_find?_eq_none` and
  `mapM?_of_find?_eq_some` say what becomes of a formula whose tests are replaced one by one.
* `Test.written` is the call that a test is written as; `Test.written_injOn` says that among the
  tests whose regular expressions come from the engine it determines the test.
* `parse_follows_grammar` is the statement about whole texts, for every engine.
-/

namespace Concordance

/-! ## Replacing tests -/

namespace Formula

variable {τ σ ε : Type}

mutual

/-- The formula with its tests replaced. -/
def map (replace : τ → σ) : Formula τ → Formula σ
  | .const value => .const value
  | .test t => .test (replace t)
  | .not inner => .not (inner.map replace)
  | .and items => .and (mapList replace items)
  | .or items => .or (mapList replace items)

/-- Several formulas with their tests replaced. -/
def mapList (replace : τ → σ) : List (Formula τ) → List (Formula σ)
  | [] => []
  | f :: rest => f.map replace :: mapList replace rest

end

variable {replace : τ → Except ε σ} {bad : τ → Bool} {cause : τ → ε} {back : σ → τ}
  {good : σ → Prop}

theorem eq_of_mapList_eq {es others : List (Formula σ)}
    (ih : ∀ e ∈ es, ∀ {other : Formula σ}, (∀ t ∈ e.tests, good t) → (∀ t ∈ other.tests, good t) →
      e.map back = other.map back → e = other)
    (hes : ∀ t ∈ testsOf es, good t) (hothers : ∀ t ∈ testsOf others, good t)
    (h : mapList back es = mapList back others) : es = others := by
  induction es generalizing others with
  | nil =>
    cases others with
    | nil => rfl
    | cons other others => cases h
  | cons e es ihr =>
    cases others with
    | nil => cases h
    | cons other others =>
      rw [testsOf, List.forall_mem_append] at hes hothers
      rw [mapList, mapList, List.cons.injEq] at h
      rw [ih e (by simp) hes.1 hothers.1 h.1,
        ihr (fun f hf => ih f (by simp [hf])) hes.2 hothers.2 h.2]

/-- Where tests of some kind are determined by what replaces them, so are the formulas over them. -/
theorem eq_of_map_eq (hback : Set.InjOn back {t | good t}) {e other : Formula σ}
    (he : ∀ t ∈ e.tests, good t) (hother : ∀ t ∈ other.tests, good t)
    (h : e.map back = other.map back) : e = other := by
  induction e generalizing other with
  | const value =>
    cases other with
    | const _ => simpa [map] using h
    | _ => simp [map] at h
  | test t =>
    cases other with
    | test u =>
      rw [map, map, Formula.test.injEq] at h
      rw [hback (he t (by simp [tests])) (hother u (by simp [tests])) h]
    | _ => simp [map] at h
  | not inner ih =>
    cases other with
    | not inner' =>
      rw [map, map, Formula.not.injEq] at h
      have htests : ∀ t ∈ inner'.tests, good t := hother
      rw [ih he htests h]
    | _ => simp [map] at h
  | and items ih =>
    cases other with
    | and items' =>
      rw [map, map, Formula.and.injEq] at h
      rw [eq_of_mapList_eq ih he hother h]
    | _ => simp [map] at h
  | or items ih =>
    cases other with
    | or items' =>
      rw [map, map, Formula.or.injEq] at h
      rw [eq_of_mapList_eq ih he hother h]
    | _ => simp [map] at h

theorem mapListM?_of_find?_eq_none {items : List (Formula τ)}
    (ih : ∀ f ∈ items, f.tests.find? bad = none →
      ∃ e, f.mapM? replace = .ok e ∧ e.map back = f ∧ ∀ u ∈ e.tests, good u)
    (h : (testsOf items).find? bad = none) :
    ∃ es, mapListM? replace items = .ok es ∧ mapList back es = items ∧
      ∀ u ∈ testsOf es, good u := by
  induction items with
  | nil => exact ⟨[], rfl, rfl, by simp [testsOf]⟩
  | cons f rest ihr =>
    rw [testsOf, List.find?_append, Option.or_eq_none_iff] at h
    obtain ⟨hf, hrest⟩ := h
    obtain ⟨e, he, hback, hu⟩ := ih f (by simp) hf
    obtain ⟨es, hes, hbacks, hus⟩ := ihr (fun g hg => ih g (by simp [hg])) hrest
    refine ⟨e :: es, ?_, ?_, ?_⟩
    · rw [mapListM?, he, hes]
      rfl
    · rw [mapList, hback, hbacks]
    · rw [testsOf, List.forall_mem_append]
      exact ⟨hu, hus⟩

/-- Where no test is bad, all of them are replaced. -/
theorem mapM?_of_find?_eq_none
    (hgood : ∀ t, bad t = false → ∃ u, replace t = .ok u ∧ back u = t ∧ good u) (f : Formula τ)
    (h : f.tests.find? bad = none) :
    ∃ e, f.mapM? replace = .ok e ∧ e.map back = f ∧ ∀ u ∈ e.tests, good u := by
  induction f with
  | const value => exact ⟨.const value, rfl, rfl, by simp [tests]⟩
  | test t =>
    have ht : bad t = false := by simpa [tests] using h
    obtain ⟨u, hu, hback, hgood⟩ := hgood t ht
    refine ⟨.test u, ?_, ?_, by simpa [tests] using hgood⟩
    · rw [mapM?, hu]
      rfl
    · rw [map, hback]
  | not inner ih =>
    obtain ⟨e, he, hback, hu⟩ := ih h
    refine ⟨.not e, ?_, ?_, hu⟩
    · rw [mapM?, he]
      rfl
    · rw [map, hback]
  | and items ih =>
    obtain ⟨es, hes, hback, hu⟩ := mapListM?_of_find?_eq_none ih h
    refine ⟨.and es, ?_, ?_, hu⟩
    · rw [mapM?, hes]
      rfl
    · rw [map, hback]
  | or items ih =>
    obtain ⟨es, hes, hback, hu⟩ := mapListM?_of_find?_eq_none ih h
    refine ⟨.or es, ?_, ?_, hu⟩
    · rw [mapM?, hes]
      rfl
    · rw [map, hback]

theorem mapListM?_of_find?_eq_some {items : List (Formula τ)} {t : τ}
    (hgood : ∀ t, bad t = false → ∃ u, replace t = .ok u ∧ back u = t ∧ good u)
    (ih : ∀ f ∈ items, f.tests.find? bad = some t → f.mapM? replace = .error (cause t))
    (h : (testsOf items).find? bad = some t) :
    mapListM? replace items = .error (cause t) := by
  induction items with
  | nil => simp [testsOf] at h
  | cons f rest ihr =>
    rw [testsOf, List.find?_append] at h
    cases hf : f.tests.find? bad with
    | some u =>
      rw [hf, Option.some_or, Option.some.injEq] at h
      rw [mapListM?, ih f (by simp) (h ▸ hf)]
      rfl
    | none =>
      -- the bad test stands further to the right, behind a part that is replaced
      rw [hf, Option.none_or] at h
      obtain ⟨e, he, -⟩ := mapM?_of_find?_eq_none hgood f hf
      rw [mapListM?, he, ihr (fun g hg => ih g (by simp [hg])) h]
      rfl

/-- The first bad test is the one that is reported. -/
theorem mapM?_of_find?_eq_some {t : τ}
    (hgood : ∀ t, bad t = false → ∃ u, replace t = .ok u ∧ back u = t ∧ good u)
    (hbad : ∀ t, bad t = true → replace t = .error (cause t)) (f : Formula τ)
    (h : f.tests.find? bad = some t) : f.mapM? replace = .error (cause t) := by
  induction f with
  | const value => simp [tests] at h
  | test u =>
    have hu : bad u = true ∧ u = t := by
      simpa [tests, List.find?_singleton, Option.guard_eq_some_iff] using h
    obtain ⟨hu, rfl⟩ := hu
    rw [mapM?, hbad u hu]
    rfl
  | not inner ih =>
    rw [mapM?, ih h]
    rfl
  | and items ih =>
    rw [mapM?, mapListM?_of_find?_eq_some hgood ih h]
    rfl
  | or items ih =>
    rw [mapM?, mapListM?_of_find?_eq_some hgood ih h]
    rfl

end Formula

/-! ## Calls and tests -/

/-- The call that a test is written as. -/
def Test.written (t : Test) : Query.Call :=
  match t.condition with
  | .contains literal => ⟨.contains, t.field, literal⟩
  | .startsWith literal => ⟨.startsWith, t.field, literal⟩
  | .endsWith literal => ⟨.endsWith, t.field, literal⟩
  | .equals literal => ⟨.equals, t.field, literal⟩
  | .matches regex => ⟨.matches, t.field, regex.source⟩

variable [Regex.Engine]

/-- Is the regular expression of a test, if it has one, what the engine makes of its text? -/
def Test.FromEngine (t : Test) : Prop :=
  ∀ regex, t.condition = .matches regex →
    Regex.Engine.compile? regex.source = some regex.matcher

/-- A test is determined by the call that it is written as, since the engine makes one matcher of
a text. -/
theorem Test.written_injOn : Set.InjOn Test.written {t | t.FromEngine} := by
  rintro ⟨field, condition⟩ ht ⟨field', condition'⟩ hu h
  cases condition <;> cases condition' <;> simp_all [Test.written]
  case «matches».matches regex regex' =>
    obtain ⟨source, matcher⟩ := regex
    obtain ⟨-, hsource : source = regex'.source⟩ := h
    have hmatcher : some matcher = some regex'.matcher :=
      calc some matcher = Regex.Engine.compile? source := (ht _ rfl).symm
        _ = Regex.Engine.compile? regex'.source := by rw [hsource]
        _ = some regex'.matcher := hu _ rfl
    rw [Option.some.inj hmatcher, hsource]

namespace Query

/-- Is this a call with a text that the engine does not accept as a regular expression? -/
def Call.isBadPattern (c : Call) : Bool :=
  c.function = .matches && (Regex.Engine.compile? c.value).isNone

theorem Call.test_of_isBadPattern {c : Call} (h : c.isBadPattern = true) :
    c.test = .error (.badRegex c.value) := by
  obtain ⟨function, field, value⟩ := c
  simp only [isBadPattern, Bool.and_eq_true, decide_eq_true_eq, Option.isNone_iff_eq_none] at h
  obtain ⟨rfl, hnone⟩ := h
  simp only [test, Regex.ofPattern?, hnone, Option.map_none]

theorem Call.test_of_not_isBadPattern {c : Call} (h : c.isBadPattern = false) :
    ∃ t, c.test = .ok t ∧ t.written = c ∧ t.FromEngine := by
  obtain ⟨function, field, value⟩ := c
  cases function with
  | contains => exact ⟨_, rfl, rfl, nofun⟩
  | startsWith => exact ⟨_, rfl, rfl, nofun⟩
  | endsWith => exact ⟨_, rfl, rfl, nofun⟩
  | equals => exact ⟨_, rfl, rfl, nofun⟩
  | «matches» =>
    cases hcompile : Regex.Engine.compile? value with
    | none => simp [isBadPattern, hcompile] at h
    | some matcher =>
      refine ⟨⟨field, .matches ⟨value, matcher⟩⟩, ?_, rfl, ?_⟩
      · simp only [test, Regex.ofPattern?, hcompile, Option.map_some]
      · rintro regex ⟨⟩
        exact hcompile

/-! ## Whole texts -/

theorem parse_of_ok {s : String} {f : Formula Call} (h : parseCalls s = .ok f) :
    parse s = f.mapM? Call.test := by
  delta parse
  rw [h]

theorem parse_of_error {s : String} {attempts : Attempts Rule}
    (h : parseCalls s = .error attempts) : parse s = .error (.malformed s attempts) := by
  delta parse
  rw [h]

/-- A text that derives no formula is refused.  One that derives a formula derives no other; it is
refused for the leftmost regular expression that the engine does not accept.  If there is none, it
is read as that formula: as the only query that is written so and has its regular expressions from
the engine. -/
theorem parse_follows_grammar (s : String) :
    ((∀ f, ¬ Sentence s f) → ∃ attempts, parse s = .error (.malformed s attempts)) ∧
    ∀ f, Sentence s f → (∀ g, Sentence s g → g = f) ∧
      match f.tests.find? Call.isBadPattern with
      | some c => parse s = .error (.badRegex c.value)
      | none => ∃ e : Expr, parse s = .ok e ∧ e.map Test.written = f ∧
          (∀ t ∈ e.tests, t.FromEngine) ∧
          ∀ other : Expr, other.map Test.written = f → (∀ t ∈ other.tests, t.FromEngine) →
            other = e := by
  constructor
  · intro hnone
    cases hread : parseCalls s with
    | ok f => exact absurd (parseCalls_eq_ok_iff.1 hread) (hnone f)
    | error attempts => exact ⟨attempts, parse_of_error hread⟩
  · intro f hf
    have hread : parseCalls s = .ok f := parseCalls_eq_ok_iff.2 hf
    refine ⟨fun g hg => ?_, ?_⟩
    · have hg' : parseCalls s = .ok g := parseCalls_eq_ok_iff.2 hg
      exact Except.ok.inj (hg'.symm.trans hread)
    · rw [parse_of_ok hread]
      cases hbad : f.tests.find? Call.isBadPattern with
      | some c =>
        exact Formula.mapM?_of_find?_eq_some (fun _ => Call.test_of_not_isBadPattern)
          (fun _ => Call.test_of_isBadPattern) f hbad
      | none =>
        obtain ⟨e, he, hwritten, hengine⟩ :=
          Formula.mapM?_of_find?_eq_none (fun _ => Call.test_of_not_isBadPattern) f hbad
        refine ⟨e, he, hwritten, hengine, fun other hother hfrom => ?_⟩
        exact Formula.eq_of_map_eq Test.written_injOn hfrom hengine (hother.trans hwritten.symm)

example : parse "equals(name,'a') or not(true())" =
    .ok (.or [.test ⟨.name, .equals "a"⟩, .not (.const true)]) := by rfl

end Query

end Concordance
