import Mathlib
import Concordance.Proofs.Corpus.Reading
import Concordance.Proofs.Program.Compiler
import Concordance.Program.View

/-!
# Queries on entries that are read lazily

The program of a query, run on an entry that has not been read, gives what an evaluation of the
query from left to right gives.  It asks for the content when that evaluation first looks at a
test of the content, and at no other time, so at most once.

* `Expr.ReadsText` says that the evaluation looks at a test of the content.
* `evalM_loaded` and `evalM_unloaded` are the evaluation of a query in closed form, on an entry
  that has been read and on one that has not.
* `View.execute_program_unread` is the main result.
-/

namespace Concordance

variable {ε : Type}

/-- Does the evaluation of the query from left to right look at a test of the content, for an
entry with this name and content? -/
def Expr.ReadsText (name content : String) (e : Expr) : Prop :=
  ∃ t ∈ Formula.visited (Test.holds name content) e, t.field = .text

instance (name content : String) (e : Expr) : Decidable (e.ReadsText name content) :=
  inferInstanceAs (Decidable (∃ t ∈ Formula.visited (Test.holds name content) e, t.field = .text))

theorem Test.holds_of_name {t : Test} (h : t.field ≠ .text) (name content : String) :
    t.holds name content = t.condition.isMatch name := by
  cases ht : t.field with
  | text => exact absurd ht h
  | name => rw [Test.holds, ht]

/-- A query whose evaluation looks at no test of the content has the same value for every
content. -/
theorem Expr.holds_of_not_readsText {name content : String} {e : Expr}
    (h : ¬ e.ReadsText name content) (other : String) :
    e.holds name other = e.holds name content := by
  refine Formula.holds_congr e fun t ht => ?_
  have hfield : t.field ≠ .text := fun hfield => h ⟨t, ht, hfield⟩
  rw [Test.holds_of_name hfield, Test.holds_of_name hfield]

namespace View

/-! ## Effects of tests -/

theorem bind_apply {α β : Type} (x : StateT View (Reading ε) α)
    (f : α → StateT View (Reading ε) β) (v : View) :
    (x >>= f) v = x v >>= fun p => f p.1 p.2 := rfl

theorem pure_apply {α : Type} (a : α) (v : View) :
    (pure a : StateT View (Reading ε) α) v = pure (a, v) := rfl

theorem check_loaded (load : String → Reading ε String) (t : Test) (name content : String) :
    check load t ⟨name, some content⟩ = pure (t.holds name content, ⟨name, some content⟩) := by
  unfold check Test.holds
  cases t.field <;> rfl

theorem check_name (load : String → Reading ε String) {t : Test} (h : t.field ≠ .text)
    (v : View) (content : String) : check load t v = pure (t.holds v.name content, v) := by
  rw [Test.holds_of_name h]
  cases ht : t.field with
  | text => exact absurd ht h
  | name => rw [check, ht]

theorem check_text (load : String → Reading ε String) {t : Test} (h : t.field = .text)
    (name : String) : check load t ⟨name, none⟩
      = load name >>= fun content => pure (t.holds name content, ⟨name, some content⟩) := by
  unfold check Test.holds
  rw [h]
  exact bind_assoc _ _ _

/-! ## Evaluation of an entry that has been read -/

theorem chainM_loaded (load : String → Reading ε String) (name content : String) {stop : Bool}
    {items : List (Formula Test)}
    (ih : ∀ e ∈ items, Formula.evalM (check load) e ⟨name, some content⟩
      = pure (e.holds (Test.holds name content), ⟨name, some content⟩)) :
    Formula.chainM (check load) stop items ⟨name, some content⟩
      = pure (Formula.chainHolds (Test.holds name content) stop items, ⟨name, some content⟩) := by
  induction items with
  | nil => rfl
  | cons e rest ihr =>
    rw [Formula.chainM, bind_apply, ih e (by simp), pure_bind, Formula.chainHolds]
    by_cases hstop : e.holds (Test.holds name content) = stop
    · rw [if_pos hstop]
      simp only [hstop, if_true, pure_apply]
    · rw [if_neg hstop]
      simp only [hstop, if_false]
      exact ihr fun g hg => ih g (by simp [hg])

/-- On an entry that has been read, evaluation gives the value of the query and asks for
nothing. -/
theorem evalM_loaded (load : String → Reading ε String) (name content : String) (e : Expr) :
    Formula.evalM (check load) e ⟨name, some content⟩
      = pure (e.holds name content, ⟨name, some content⟩) := by
  unfold Expr.holds
  induction e using Formula.induct with
  | const value => rfl
  | test t => exact check_loaded load t name content
  | not inner ih =>
    rw [Formula.evalM, bind_apply, ih, pure_bind]
    rfl
  | and items ih =>
    rw [Formula.evalM, Formula.evalAllM_eq_chainM, chainM_loaded load name content ih,
      Formula.holds, Formula.allHold_eq_chainHolds]
  | or items ih =>
    rw [Formula.evalM, Formula.evalAnyM_eq_chainM, chainM_loaded load name content ih,
      Formula.holds, Formula.anyHolds_eq_chainHolds]

/-! ## Evaluation of an entry that has not been read -/

/-- What becomes of an entry that has not been read: if the evaluation `reads` its content, the
content is asked for once and `value` is the outcome; otherwise nothing is asked for, and the
outcome is that for any content, as for `content`. -/
def lazily (load : String → Reading ε String) (name content : String) (reads : Prop)
    [Decidable reads] (value : String → Bool) : Reading ε (Bool × View) :=
  if reads then load name >>= fun c => pure (value c, ⟨name, some c⟩)
  else pure (value content, ⟨name, none⟩)

theorem lazily_bind (load : String → Reading ε String) (name content : String) {reads : Prop}
    [Decidable reads] {value g : String → Bool} {f : Bool × View → Reading ε (Bool × View)}
    (h : reads) (hf : ∀ c, f (value c, ⟨name, some c⟩) = pure (g c, ⟨name, some c⟩)) :
    lazily load name content reads value >>= f = lazily load name content reads g := by
  rw [lazily, lazily, if_pos h, if_pos h, bind_assoc]
  refine bind_congr fun c => ?_
  rw [pure_bind, hf]

theorem chainM_unloaded (load : String → Reading ε String) (name content : String) {stop : Bool}
    {items : List (Formula Test)}
    (ih : ∀ e ∈ items, Formula.evalM (check load) e ⟨name, none⟩
      = lazily load name content (Expr.ReadsText name content e) fun c =>
          e.holds (Test.holds name c)) :
    Formula.chainM (check load) stop items ⟨name, none⟩
      = lazily load name content
          (∃ t ∈ Formula.visitedUntil (Test.holds name content) stop items, t.field = .text)
          fun c => Formula.chainHolds (Test.holds name c) stop items := by
  induction items with
  | nil => simp [Formula.chainM, Formula.visitedUntil, Formula.chainHolds, lazily, pure_apply,
      Reading.pure_eq]
  | cons e rest ihr =>
    rw [Formula.chainM, bind_apply, ih e (by simp)]
    have hrest := ihr fun g hg => ih g (by simp [hg])
    by_cases hreads : Expr.ReadsText name content e
    · -- the content is read within the first part, and the rest is evaluated on a read entry
      have hchain : ∃ t ∈ Formula.visitedUntil (Test.holds name content) stop (e :: rest),
          t.field = .text := by
        obtain ⟨t, ht, hfield⟩ := hreads
        exact ⟨t, by simp [Formula.visitedUntil, ht], hfield⟩
      rw [lazily_bind load name content hreads (g := fun c =>
        Formula.chainHolds (Test.holds name c) stop (e :: rest))]
      · rw [lazily, lazily, if_pos hreads, if_pos hchain]
      · intro c
        rw [Formula.chainHolds]
        by_cases hstop : e.holds (Test.holds name c) = stop
        · simp only [hstop, if_true, pure_apply]
        · simp only [hstop, if_false]
          exact chainM_loaded _ name c fun g _ => evalM_loaded _ name c g
    · -- the first part has one value for all contents, and leaves the entry unread
      have hvalue : ∀ c, e.holds (Test.holds name c) = e.holds (Test.holds name content) :=
        Expr.holds_of_not_readsText hreads
      rw [lazily, if_neg hreads, pure_bind]
      by_cases hstop : e.holds (Test.holds name content) = stop
      · have hchain : ¬ ∃ t ∈ Formula.visitedUntil (Test.holds name content) stop (e :: rest),
            t.field = .text := by
          rw [Formula.visitedUntil, if_pos hstop, List.append_nil]
          exact hreads
        rw [lazily, if_neg hchain, Formula.chainHolds, if_pos hstop]
        simp only [hstop, if_true, pure_apply]
      · have hchain : (∃ t ∈ Formula.visitedUntil (Test.holds name content) stop (e :: rest),
            t.field = .text) ↔ ∃ t ∈ Formula.visitedUntil (Test.holds name content) stop rest,
            t.field = .text := by
          rw [Formula.visitedUntil, if_neg hstop]
          constructor
          · rintro ⟨t, ht, hfield⟩
            rcases List.mem_append.1 ht with ht | ht
            · exact absurd ⟨t, ht, hfield⟩ hreads
            · exact ⟨t, ht, hfield⟩
          · rintro ⟨t, ht, hfield⟩
            exact ⟨t, List.mem_append_right _ ht, hfield⟩
        simp only [hstop, if_false, hrest, Formula.chainHolds, hvalue, lazily, hchain]

/-- On an entry that has not been read, evaluation asks for the content exactly if it looks at a
test of the content. -/
theorem evalM_unloaded (load : String → Reading ε String) (name content : String) (e : Expr) :
    Formula.evalM (check load) e ⟨name, none⟩
      = lazily load name content (e.ReadsText name content) fun c => e.holds name c := by
  unfold Expr.holds
  induction e using Formula.induct with
  | const value => rfl
  | test t =>
    by_cases hfield : t.field = .text
    · have hreads : Expr.ReadsText name content (.test t) := ⟨t, by simp [Formula.visited], hfield⟩
      rw [Formula.evalM, check_text _ hfield, lazily, if_pos hreads]
      rfl
    · have hreads : ¬ Expr.ReadsText name content (.test t) := by
        rintro ⟨u, hu, hu'⟩
        obtain rfl : u = t := by simpa [Formula.visited] using hu
        exact hfield hu'
      rw [Formula.evalM, check_name _ hfield _ content, lazily, if_neg hreads]
      rfl
  | not inner ih =>
    rw [Formula.evalM, bind_apply, ih]
    by_cases hreads : Expr.ReadsText name content inner
    · exact lazily_bind load name content hreads fun c => rfl
    · rw [lazily, if_neg hreads, lazily, if_neg (show ¬ Expr.ReadsText name content (.not inner)
        from hreads)]
      rfl
  | and items ih =>
    rw [Formula.evalM, Formula.evalAllM_eq_chainM, chainM_unloaded load name content ih]
    simp only [Formula.holds, Formula.allHold_eq_chainHolds]
    rfl
  | or items ih =>
    rw [Formula.evalM, Formula.evalAnyM_eq_chainM, chainM_unloaded load name content ih]
    simp only [Formula.holds, Formula.anyHolds_eq_chainHolds]
    rfl

/-! ## Running programs -/

/-- On an entry that has been read, the program of a query gives the value of the query. -/
theorem execute_program_loaded (load : String → Reading ε String) (e : Expr)
    (name content : String) : execute load e.program ⟨name, some content⟩
      = pure (e.holds name content, ⟨name, some content⟩) := by
  rw [execute, Formula.execute_program, evalM_loaded]

/-- On an entry whose content can be read, the program of a query gives the value of the query. -/
theorem exists_execute_of_load {load : String → Reading ε String} {name content : String}
    (hload : (load name).outcome = .ok content) (e : Expr) :
    ∃ v, (execute load e.program ⟨name, none⟩).outcome = .ok (e.holds name content, v) := by
  rw [execute, Formula.execute_program, evalM_unloaded load name content, lazily]
  by_cases hreads : e.ReadsText name content
  · refine ⟨⟨name, some content⟩, ?_⟩
    rw [if_pos hreads, Reading.bind_outcome, hload]
    rfl
  · refine ⟨⟨name, none⟩, ?_⟩
    rw [if_neg hreads]
    rfl

/-- What a program does before its end, it also does with more instructions behind it. -/
theorem exists_run_append {τ σ : Type} (check : τ → StateT σ (Reading ε) Bool)
    (program back : Program τ) (n : Nat) (s : Machine.State) (v : σ) :
    ∃ k ≤ n, Machine.run check (program ++ back) k s v = Machine.run check program n s v := by
  induction n generalizing s v with
  | zero => exact ⟨0, le_rfl, rfl⟩
  | succ n ih =>
    match hi : program[s.position]? with
    | none => exact ⟨0, Nat.zero_le _, by rw [Machine.run_of_none hi]; rfl⟩
    | some i =>
      have hi' : (program ++ back)[s.position]? = some i := by
        rw [List.getElem?_append_left (List.getElem?_eq_some_iff.1 hi).1, hi]
      have hrun : ∀ k, Machine.run check (program ++ back) (k + 1) s v
          = Machine.step check s i v >>= fun p =>
              Machine.run check (program ++ back) k p.1 p.2 := fun k => by
        rw [Machine.run_succ hi']
        rfl
      have hrun' : Machine.run check program (n + 1) s v
          = Machine.step check s i v >>= fun p => Machine.run check program n p.1 p.2 := by
        rw [Machine.run_succ hi]
        rfl
      rcases hstep : Machine.step check s i v with ⟨_ | ⟨s', v'⟩, asked⟩
      · refine ⟨1, by omega, ?_⟩
        rw [hrun, hrun', hstep, Reading.bind_error, Reading.bind_error]
      · obtain ⟨k, hk, heq⟩ := ih s' v'
        refine ⟨k + 1, by omega, ?_⟩
        rw [hrun, hrun', hstep, Reading.bind_ok, Reading.bind_ok, heq]

/-- The program of a query, run on an entry that has not been read.  The run does what the
evaluation of the query from left to right does: if that looks at a test of the content, the
content is asked for once, an error of the loader is the error of the run, and the answer is the
value of the query for the content; otherwise nothing is asked for, and the answer is the value of
the query for every content.  More generally the code of the query, behind any instructions and
before any others, comes from any stack to its own end with one more value; and emitting the query
behind any instructions leaves these as they are and appends that code. -/
theorem execute_program_unread (load : String → Except ε String) (e : Expr) (name : String) :
    execute (.ask load) e.program ⟨name, none⟩ = Formula.evalM (check (.ask load)) e ⟨name, none⟩ ∧
    (∀ content other : String, execute (.ask load) e.program ⟨name, none⟩
      = if e.ReadsText name content then
          ⟨(load name).map fun c => (e.holds name c, ⟨name, some c⟩), [name]⟩
        else ⟨.ok (e.holds name other, ⟨name, none⟩), []⟩) ∧
    (∀ (front back : Program Test) (stack : List Bool) (v : View),
      ∃ n ≤ (e.emit front.length).length,
        Machine.run (check (.ask load)) (front ++ e.emit front.length ++ back) n
            ⟨front.length, stack⟩ v
          = Formula.evalM (check (.ask load)) e v >>= fun p =>
              pure (⟨front.length + (e.emit front.length).length, p.1 :: stack⟩, p.2)) ∧
    ∀ front : Program Test, e.emitBehind front = front ++ e.emit front.length := by
  have heval : execute (.ask load) e.program ⟨name, none⟩
      = Formula.evalM (check (.ask load)) e ⟨name, none⟩ := by
    rw [execute, Formula.execute_program]
  refine ⟨heval, fun content other => ?_, fun front back stack v => ?_, e.emitBehind_eq⟩
  · rw [heval, evalM_unloaded _ name content, lazily]
    by_cases hreads : e.ReadsText name content
    · rw [if_pos hreads, if_pos hreads, Reading.ask]
      cases load name <;> rfl
    · rw [if_neg hreads, if_neg hreads, e.holds_of_not_readsText hreads other]
      rfl
  · obtain ⟨n, hn, hrun⟩ := exists_run_append (check (.ask load)) (front ++ e.emit front.length)
      back _ ⟨front.length, stack⟩ v
    refine ⟨n, hn, ?_⟩
    rw [hrun, Formula.run_emit _ e front stack le_rfl]
    rfl

end View

end Concordance
