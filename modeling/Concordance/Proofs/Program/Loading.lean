import Mathlib
import Concordance.Proofs.Program.View

/-!
# Content is loaded once

A ledger accompanies a run on an entry.  It keeps the calls of the loader with their answers, the
tests with their outcomes, and the entry itself, also where a test fails.  The loader is asked anew
each time: what it answers may depend on all it has answered before, so nothing is taken for
granted about its giving the same content twice.

* `Ledger.check` is `View.check` with a ledger.
* `Ledger.Open` and `Ledger.Failed` say how a ledger stands between two instructions, and after an
  error.  Nothing else is possible, `Ledger.mirrors_run`, whatever the program and however far it
  has run; and the run without a ledger does the same.
* `Ledger.content_loaded_once` is the statement about runs.
-/

namespace Concordance

variable {ε α β : Type}

/-- A loader; it may answer in view of the calls it has answered before. -/
abbrev Loader (ε : Type) : Type := List (String × Except ε String) → String → Except ε String

/-- What is known of an entry and of what was done to it. -/
structure Ledger (ε : Type) where
  /-- The entry. -/
  view : View
  /-- The calls of the loader, each with the name asked for and the answer. -/
  calls : List (String × Except ε String)
  /-- The tests that were run, each with its outcome. -/
  tests : List (Test × Except ε Bool)

namespace Ledger

/-- The ledger of an entry that has just been made. -/
def opened (name : String) : Ledger ε := ⟨⟨name, none⟩, [], []⟩

/-- Runs a test, as `View.check` does, and takes it down.  A test that fails leaves the entry as it
was. -/
def check (load : Loader ε) (t : Test) : ExceptT ε (StateM (Ledger ε)) Bool := fun l =>
  let reading := View.check (.ask (load l.calls)) t l.view
  let calls := l.calls ++ reading.asked.map fun name => (name, load l.calls name)
  match reading.outcome with
  | .ok (value, view) => (.ok value, ⟨view, calls, l.tests ++ [(t, .ok value)]⟩)
  | .error e => (.error e, ⟨l.view, calls, l.tests ++ [(t, .error e)]⟩)

/-! ## How a ledger stands -/

/-- The ledger of an entry between two instructions: either the loader has not been called, and
there was no test of the content; or it has been called once and has answered, there was such a
test, and all of them have looked at the answer, which the entry holds. -/
inductive Open (load : Loader ε) (name : String) : Ledger ε → Prop where
  /-- The content has not been read. -/
  | unread {tests : List (Test × Except ε Bool)} (hname : ∀ p ∈ tests, p.1.field = .name) :
      Open load name ⟨⟨name, none⟩, [], tests⟩
  /-- The content has been read. -/
  | read {tests : List (Test × Except ε Bool)} {content : String}
      (hload : load [] name = .ok content) (htext : ∃ p ∈ tests, p.1.field = .text)
      (hseen : ∀ p ∈ tests, p.1.field = .text → p.2 = .ok (p.1.condition.isMatch content)) :
      Open load name ⟨⟨name, some content⟩, [(name, .ok content)], tests⟩

/-- The ledger after an error: the first test of the content called the loader, and the call
failed. -/
inductive Failed (load : Loader ε) (name : String) (e : ε) : Ledger ε → Prop where
  /-- The test `t` has failed. -/
  | mk {tests : List (Test × Except ε Bool)} {t : Test} (hload : load [] name = .error e)
      (hname : ∀ p ∈ tests, p.1.field = .name) (ht : t.field = .text) :
      Failed load name e ⟨⟨name, none⟩, [(name, .error e)], tests ++ [(t, .error e)]⟩

/-- A part of a run without a ledger and the same part with one.  Both have the same outcome, leave
the entry alike and call the loader with the same names; and the ledger stands as it should. -/
structure Matches (load : Loader ε) (name : String) (l : Ledger ε) (x : Reading ε (α × View))
    (y : Except ε α × Ledger ε) : Prop where
  outcome : x.outcome = y.1.map fun a => (a, y.2.view)
  asked : y.2.calls.map Prod.fst = l.calls.map Prod.fst ++ x.asked
  stands : ∀ a, y.1 = .ok a → Open load name y.2
  failed : ∀ e, y.1 = .error e → Failed load name e y.2

/-- From every ledger as it stands between two instructions, a part of a run without a ledger and
a part of a run with one do the same. -/
def Mirrors (load : Loader ε) (name : String) (x : StateT View (Reading ε) α)
    (y : ExceptT ε (StateM (Ledger ε)) α) : Prop :=
  ∀ l, Open load name l → Matches load name l (x l.view) (y l)

variable {load : Loader ε} {name : String}

theorem matches_ok {l l' : Ledger ε} {asked : List String} (a : α)
    (hasked : l'.calls.map Prod.fst = l.calls.map Prod.fst ++ asked) (h : Open load name l') :
    Matches load name l ⟨.ok (a, l'.view), asked⟩ (.ok a, l') := by
  refine ⟨rfl, hasked, fun _ _ => h, ?_⟩
  intro e he
  cases he

theorem matches_error {l l' : Ledger ε} {asked : List String} {e : ε}
    (hasked : l'.calls.map Prod.fst = l.calls.map Prod.fst ++ asked) (h : Failed load name e l') :
    Matches load name l (⟨.error e, asked⟩ : Reading ε (α × View)) (.error e, l') := by
  refine ⟨rfl, hasked, ?_, ?_⟩
  · intro a ha
    cases ha
  · intro d hd
    cases hd
    exact h

theorem mirrors_pure (a : α) : Mirrors load name (pure a) (pure a) :=
  fun _ hl => matches_ok a (List.append_nil _).symm hl

theorem bind_of_ok {y : ExceptT ε (StateM (Ledger ε)) α} {l l' : Ledger ε} {a : α}
    (h : y l = (.ok a, l')) (g : α → ExceptT ε (StateM (Ledger ε)) β) : (y >>= g) l = g a l' := by
  show ExceptT.bindCont g (y l).1 (y l).2 = _
  rw [h]
  rfl

theorem bind_of_error {y : ExceptT ε (StateM (Ledger ε)) α} {l l' : Ledger ε} {e : ε}
    (h : y l = (.error e, l')) (g : α → ExceptT ε (StateM (Ledger ε)) β) :
    (y >>= g) l = (.error e, l') := by
  show ExceptT.bindCont g (y l).1 (y l).2 = _
  rw [h]
  rfl

theorem Mirrors.bind {x : StateT View (Reading ε) α} {y : ExceptT ε (StateM (Ledger ε)) α}
    {f : α → StateT View (Reading ε) β} {g : α → ExceptT ε (StateM (Ledger ε)) β}
    (h : Mirrors load name x y) (hrest : ∀ a, Mirrors load name (f a) (g a)) :
    Mirrors load name (x >>= f) (y >>= g) := by
  intro l hl
  have hfirst := h l hl
  rw [View.bind_apply]
  rcases hx : x l.view with ⟨outcome, asked⟩
  rcases hy : y l with ⟨_ | a, l'⟩
  · rw [hx, hy] at hfirst
    obtain rfl : outcome = .error _ := hfirst.outcome
    rw [Reading.bind_error, bind_of_error hy]
    exact matches_error hfirst.asked (hfirst.failed _ rfl)
  · rw [hx, hy] at hfirst
    obtain rfl : outcome = .ok (a, l'.view) := hfirst.outcome
    have hsecond := hrest a l' (hfirst.stands a rfl)
    rw [Reading.bind_ok, bind_of_ok hy]
    refine ⟨hsecond.outcome, ?_, hsecond.stands, hsecond.failed⟩
    rw [hsecond.asked, hfirst.asked, List.append_assoc]

/-! ## What a test does -/

/-- A test of the name leaves the ledger as it stands. -/
theorem Open.append_name {l : Ledger ε} (hl : Open load name l) {t : Test} (ht : t.field = .name)
    (r : Except ε Bool) : Open load name ⟨l.view, l.calls, l.tests ++ [(t, r)]⟩ := by
  cases hl with
  | unread hname =>
    refine .unread fun p hp => ?_
    rcases List.mem_append.1 hp with hp | hp
    · exact hname p hp
    · obtain rfl := List.mem_singleton.1 hp
      exact ht
  | read hload htext hseen =>
    obtain ⟨p, hp, hfield⟩ := htext
    refine .read hload ⟨p, List.mem_append_left _ hp, hfield⟩ fun q hq hfield => ?_
    rcases List.mem_append.1 hq with hq | hq
    · exact hseen q hq hfield
    · obtain rfl := List.mem_singleton.1 hq
      rw [ht] at hfield
      cases hfield

/-- A test of the content that looks at the answer of the first call. -/
theorem open_append_text {content : String} {tests : List (Test × Except ε Bool)}
    (hload : load [] name = .ok content) {t : Test} (ht : t.field = .text)
    (hseen : ∀ p ∈ tests, p.1.field = .text → p.2 = .ok (p.1.condition.isMatch content)) :
    Open load name ⟨⟨name, some content⟩, [(name, .ok content)],
      tests ++ [(t, .ok (t.condition.isMatch content))]⟩ := by
  refine .read hload ⟨_, List.mem_append_right _ (List.mem_singleton.2 rfl), ht⟩ ?_
  intro p hp hfield
  rcases List.mem_append.1 hp with hp | hp
  · exact hseen p hp hfield
  · obtain rfl := List.mem_singleton.1 hp
    rfl

theorem mirrors_check (t : Test) :
    Mirrors load name (View.check (.ask (load [])) t) (check load t) := by
  intro l hl
  cases ht : t.field with
  | name =>
    have hview : ∀ loader : String → Reading ε String,
        View.check loader t l.view = pure (t.condition.isMatch l.view.name, l.view) := by
      intro loader
      rw [View.check, ht]
    have hcheck : check load t l = (.ok (t.condition.isMatch l.view.name),
        ⟨l.view, l.calls, l.tests ++ [(t, .ok (t.condition.isMatch l.view.name))]⟩) := by
      rw [check, hview, Reading.pure_eq, List.map_nil, List.append_nil]
    rw [hview, hcheck]
    refine matches_ok _ ?_ (hl.append_name ht _)
    exact (List.append_nil _).symm
  | text =>
    cases hl with
    | @read tests content hload htext hseen =>
      have hview : ∀ loader : String → Reading ε String, View.check loader t ⟨name, some content⟩
          = pure (t.condition.isMatch content, ⟨name, some content⟩) := by
        intro loader
        rw [View.check, ht]
        rfl
      rw [hview, check, hview]
      exact matches_ok _ rfl (open_append_text hload ht hseen)
    | @unread tests hname =>
      -- the loader is called, for the first time
      have hview : View.check (.ask (load [])) t ⟨name, none⟩
          = ⟨(load [] name).map fun c => (t.condition.isMatch c, ⟨name, some c⟩), [name]⟩ := by
        rw [View.check, ht, View.text, Reading.ask]
        cases load [] name <;> rfl
      have hseen : ∀ (content : String), ∀ p ∈ tests, p.1.field = .text →
          p.2 = .ok (p.1.condition.isMatch content) := by
        intro content p hp htext
        rw [hname p hp] at htext
        cases htext
      rw [check, hview]
      cases hload : load [] name with
      | ok content =>
        rw [List.map_singleton, hload]
        exact matches_ok _ rfl (open_append_text hload ht (hseen content))
      | error e =>
        rw [List.map_singleton, hload]
        exact matches_error rfl (.mk hload hname ht)

/-! ## Runs -/

theorem mirrors_step (s : Machine.State) (i : Instruction Test) :
    Mirrors load name (Machine.step (View.check (.ask (load []))) s i)
      (Machine.step (check load) s i) := by
  cases i with
  | push value => exact mirrors_pure _
  | check t => exact (mirrors_check t).bind fun _ => mirrors_pure _
  | not =>
    rw [Machine.step, Machine.step]
    split <;> exact mirrors_pure _
  | jumpIfFalse target =>
    rw [Machine.step, Machine.step]
    split <;> exact mirrors_pure _
  | jumpIfTrue target =>
    rw [Machine.step, Machine.step]
    split <;> exact mirrors_pure _
  | pop => exact mirrors_pure _

/-- However far a program has run, the ledger stands as it should, and the run without a ledger has
done the same. -/
theorem mirrors_run (program : Program Test) (n : Nat) (s : Machine.State) :
    Mirrors load name (Machine.run (View.check (.ask (load []))) program n s)
      (Machine.run (check load) program n s) := by
  induction n generalizing s with
  | zero => exact mirrors_pure s
  | succ n ih =>
    match hi : program[s.position]? with
    | none =>
      rw [Machine.run_of_none hi, Machine.run_of_none hi]
      exact mirrors_pure s
    | some i =>
      rw [Machine.run_succ hi, Machine.run_succ hi]
      exact (mirrors_step s i).bind ih

/-- By the ledger, the content of the entry has been loaded at most once. -/
structure LoadedOnce (name : String) (l : Ledger ε) : Prop where
  /-- There was at most one call. -/
  calls : l.calls.length ≤ 1
  /-- There was one if and only if a test of the content was run. -/
  called : l.calls ≠ [] ↔ ∃ p ∈ l.tests, p.1.field = .text
  /-- The entry holds a content if and only if that call has given it. -/
  content : ∀ content, l.view.content = some content ↔ l.calls = [(name, .ok content)]
  /-- Every test of the content has looked at what that call has given. -/
  seen : ∀ p ∈ l.tests, p.1.field = .text →
    ∃ answer, l.calls = [(name, answer)] ∧ p.2 = answer.map p.1.condition.isMatch

theorem not_exists_text {tests : List (Test × Except ε Bool)}
    (hname : ∀ p ∈ tests, p.1.field = .name) : ¬ ∃ p ∈ tests, p.1.field = .text := by
  rintro ⟨p, hp, htext⟩
  rw [hname p hp] at htext
  cases htext

theorem Open.loadedOnce {l : Ledger ε} (h : Open load name l) : LoadedOnce name l := by
  cases h with
  | unread hname =>
    have hnone := not_exists_text hname
    refine ⟨Nat.zero_le _, iff_of_false (fun h => h rfl) hnone, fun content => ?_, ?_⟩
    · exact iff_of_false nofun nofun
    · exact fun p hp htext => absurd ⟨p, hp, htext⟩ hnone
  | @read tests content hload htext hseen =>
    refine ⟨le_rfl, iff_of_true nofun htext, fun other => ?_, ?_⟩
    · constructor
      · rintro ⟨⟩
        rfl
      · rintro ⟨⟩
        rfl
    · exact fun p hp hfield => ⟨_, rfl, hseen p hp hfield⟩

theorem Failed.loadedOnce {l : Ledger ε} {e : ε} (h : Failed load name e l) :
    LoadedOnce name l := by
  cases h with
  | @mk tests t hload hname ht =>
    have hlast : (t, .error e) ∈ tests ++ [(t, .error e)] :=
      List.mem_append_right _ (List.mem_singleton.2 rfl)
    refine ⟨le_rfl, iff_of_true nofun ⟨_, hlast, ht⟩, fun content => ?_, fun p hp htext => ?_⟩
    · exact iff_of_false nofun nofun
    · refine ⟨_, rfl, ?_⟩
      rcases List.mem_append.1 hp with hp | hp
      · exact absurd ⟨p, hp, htext⟩ (not_exists_text hname)
      · obtain rfl := List.mem_singleton.1 hp
        rfl

theorem Open.calls_ne {l : Ledger ε} (h : Open load name l) (e : ε) :
    l.calls ≠ [(name, .error e)] := by
  cases h <;> nofun

theorem Failed.calls {l : Ledger ε} {e : ε} (h : Failed load name e l) :
    l.calls = [(name, .error e)] := by
  cases h
  rfl

theorem Failed.last {l : Ledger ε} {e : ε} (h : Failed load name e l) :
    l.view.content = none ∧ ∃ front t, l.tests = front ++ [(t, .error e)] ∧ t.field = .text ∧
      ∀ p ∈ front, p.1.field = .name := by
  cases h with
  | mk hload hname ht => exact ⟨rfl, _, _, rfl, ht, hname⟩

/-- Any program, compiled from a query or not, is run on an entry whose content has not been read,
with any loader, for any number of instructions.  The ledger does not change what the run does; by
the ledger the content has been loaded at most once; and the run has ended with an error if and
only if the loader has answered with it.  In that case the entry holds no content, the test that
called the loader was the last one, and the run goes no further. -/
theorem content_loaded_once (load : Loader ε) (program : Program Test) (name : String) (n : Nat) :
    let run := fun n => Machine.run (check load) program n .initial (opened name)
    let ended := (run n).1
    let l := (run n).2
    Machine.run (View.check (.ask (load []))) program n .initial ⟨name, none⟩ =
        ⟨ended.map fun s => (s, l.view), l.calls.map Prod.fst⟩ ∧
      LoadedOnce name l ∧
      ∀ e, (l.calls = [(name, .error e)] ↔ ended = .error e) ∧
        (ended = .error e → l.view.content = none ∧
          (∃ front t, l.tests = front ++ [(t, .error e)] ∧ t.field = .text ∧
            ∀ p ∈ front, p.1.field = .name) ∧
          ∀ k, run (n + k) = run n) := by
  intro run ended l
  have hopen : Open load name (opened name) := .unread nofun
  have hmatches : Matches load name (opened name) _ (run n) :=
    mirrors_run program n .initial (opened name) hopen
  refine ⟨?_, ?_, fun e => ⟨⟨fun hcalls => ?_, fun hended => ?_⟩, fun hended => ?_⟩⟩
  · have hasked : l.calls.map Prod.fst = _ := hmatches.asked
    rw [hasked, ← hmatches.outcome]
    rfl
  · match h : (run n).1 with
    | .ok s => exact (hmatches.stands s h).loadedOnce
    | .error e => exact (hmatches.failed e h).loadedOnce
  · match h : (run n).1 with
    | .ok s => exact absurd hcalls ((hmatches.stands s h).calls_ne e)
    | .error e' =>
      have hcalls' : l.calls = [(name, .error e')] := (hmatches.failed e' h).calls
      rw [hcalls'] at hcalls
      cases hcalls
      exact h
  · exact (hmatches.failed e hended).calls
  · obtain ⟨hcontent, hlast⟩ := (hmatches.failed e hended).last
    refine ⟨hcontent, hlast, fun k => ?_⟩
    have hrun : run n = (.error e, l) := Prod.ext hended rfl
    rw [hrun]
    show Machine.run (check load) program (n + k) .initial (opened name) = _
    rw [Machine.run_add]
    exact bind_of_error hrun _

/-- A loader that gives a content once and then no more. -/
def fickle : Loader String := fun calls _ => if calls.isEmpty then .ok "a" else .error "gone"

/-- A program that comes back to the same test for as long as it is met. -/
def circling : Program Test := [.check ⟨.text, .contains "a"⟩, .jumpIfTrue 0]

example : (Machine.run (check fickle) circling 5 .initial (opened "b")).2 =
    ⟨⟨"b", some "a"⟩, [("b", .ok "a")], .replicate 3 (⟨.text, .contains "a"⟩, .ok true)⟩ := rfl

end Ledger

end Concordance
