import Mathlib
import Concordance.Corpus.Reader
import Concordance.Proofs.Corpus.Pending

/-!
# What a cursor answers

A cursor answers when it is advanced or iterated.  An open one gives the first of what is pending,
a closed one stays where it is.

* `Responds` is one step of a cursor, open or closed; `Cursor.obeys_advanced` and
  `Cursor.obeys_iterated` say that advancing and iterating are such steps.
* `Cursor.rests_advanced` and `Cursor.rests_iterated` say what such a step is when the corpus is
  closed.
* `Cursor.drain_eq_pending` says that a cursor that is drained gives all that is pending.
-/

namespace Concordance

/-! ## What a cursor answers -/

/-- What a cursor has answered. -/
inductive Answer where
  /-- The answer when it was advanced. -/
  | advanced (result : Except Error (Option String))
  /-- The answer when it was iterated. -/
  | iterated (result : Option (Except Error String))

namespace Answer

/-- The name that was given. -/
def name? : Answer → Option String
  | .advanced (.ok name) => name
  | .iterated (some (.ok name)) => some name
  | _ => none

/-- The error that was given, unless it is that the corpus is closed. -/
def failure? : Answer → Option Error
  | .advanced (.error .closed) => none
  | .advanced (.error e) => some e
  | .iterated (some (.error .closed)) => none
  | .iterated (some (.error e)) => some e
  | _ => none

/-- The answer of a cursor that is at its end: neither a name nor an error. -/
def OfEnd : Answer → Prop
  | .advanced result => result = .ok none
  | .iterated result => result = none

/-- The answer of a cursor in this state whose corpus is closed. -/
def OfClosed (state : CursorState) : Answer → Prop
  | .advanced result => result = if state = .exhausted then .ok none else .error .closed
  | .iterated result => result = none ∨ state ≠ .exhausted ∧ result = some (.error .closed)

end Answer

/-- The names among what a cursor gives. -/
def namesOf (items : List (Except Error String)) : List String := items.filterMap Except.toOption

/-- The place of a state in the life of a cursor. -/
def CursorState.rank : CursorState → Nat
  | .created => 0
  | .active => 1
  | .exhausted => 2

namespace Cursor

/-- Advances a cursor and keeps its answer. -/
def advanced (tree : Tree) (corpus : Handle) (c : Cursor) : Advance Answer :=
  let a := c.advance tree corpus
  { a with result := .advanced a.result }

/-- Iterates a cursor one step and keeps its answer. -/
def iterated (tree : Tree) (corpus : Handle) (c : Cursor) : Advance Answer :=
  let a := c.next tree corpus
  { a with result := .iterated a.result }

end Cursor

/-! ## Steps of a cursor -/

/-- One step of a cursor with this state and these items pending: its answer, and the state and
what is pending afterwards. -/
inductive Responds : CursorState → List (Except Error String) → Answer → CursorState →
    List (Except Error String) → Prop where
  /-- Nothing happens: the cursor is at its end, or the corpus is closed. -/
  | idle {state : CursorState} {items : List (Except Error String)} {answer : Answer}
      (hname : answer.name? = none) (hfailure : answer.failure? = none) :
      Responds state items answer state items
  /-- Nothing is pending, and the cursor is at its end. -/
  | ended {state : CursorState} {answer : Answer} (hname : answer.name? = none)
      (hfailure : answer.failure? = none) : Responds state [] answer .exhausted []
  /-- A name is given. -/
  | name {state : CursorState} {name : String} {rest : List (Except Error String)}
      {answer : Answer} (hstate : state ≠ .exhausted) (hname : answer.name? = some name)
      (hfailure : answer.failure? = none) :
      Responds state (.ok name :: rest) answer .active rest
  /-- An error is given, and the cursor is at its end. -/
  | failed {state : CursorState} {e : Error} {answer : Answer} (hstate : state ≠ .exhausted)
      (hname : answer.name? = none) : Responds state [.error e] answer .exhausted []

namespace Responds

variable {state state' : CursorState} {items rest : List (Except Error String)} {answer : Answer}

/-- A name that is given is the first of those pending. -/
theorem names_eq (h : Responds state items answer state' rest) :
    answer.name?.toList ++ namesOf rest = namesOf items := by
  cases h with
  | idle hname hfailure => rw [hname, Option.toList_none, List.nil_append]
  | ended hname hfailure => rw [hname, Option.toList_none, List.nil_append]
  | name hstate hname hfailure => rw [hname]; rfl
  | failed hstate hname => rw [hname]; rfl

/-- A cursor that has not given an error may give one, and is at its end then. -/
theorem failures_le (h : Responds state items answer state' rest) {given : Nat}
    (hgiven : given ≤ if state = .exhausted then 1 else 0) :
    given + answer.failure?.toList.length ≤ if state' = .exhausted then 1 else 0 := by
  cases h with
  | idle hname hfailure => simpa [hfailure] using hgiven
  | ended hname hfailure =>
    rw [hfailure, if_pos rfl]
    split at hgiven
    · exact hgiven
    · exact Nat.le_succ_of_le hgiven
  | name hstate hname hfailure => simpa [hfailure, hstate] using hgiven
  | failed hstate hname =>
    rw [if_neg hstate] at hgiven
    rw [if_pos rfl]
    have hone : answer.failure?.toList.length ≤ 1 := Option.length_toList_le
    omega

/-- A cursor never goes back. -/
theorem rank_le (h : Responds state items answer state' rest) : state.rank ≤ state'.rank := by
  cases h with
  | idle hname hfailure => exact le_rfl
  | ended hname hfailure => cases state <;> decide
  | name hstate hname hfailure =>
    cases state with
    | created => decide
    | active => decide
    | exhausted => exact absurd rfl hstate
  | failed hstate hname => cases state <;> decide

end Responds

variable {outcome : String → Except Error String} {origin corpus : Corpus} {tree : Tree}

/-- The corpus of a reader is closed, or it has become what it is from the one at the beginning. -/
def Serving (outcome : String → Except Error String) (origin : Corpus) (handle : Handle) : Prop :=
  ∀ now, handle = some now → origin.Becomes outcome now

namespace Cursor

variable {handle : Handle}

theorem responds_of_gives {state state' : CursorState} {items rest : List (Except Error String)}
    {result : Except Error (Option String)} {answer : Answer} (h : Gives items result state' rest)
    (hstate : items ≠ [] → state ≠ .exhausted)
    (hname : answer.name? = (Answer.advanced result).name?)
    (hfailure : answer.failure? = (Answer.advanced result).failure?) :
    Responds state items answer state' rest := by
  cases h with
  | nothing => exact .ended hname hfailure
  | name name rest => exact .name (hstate (by simp)) hname hfailure
  | failure e => exact .failed (hstate (by simp)) hname

theorem advance_closed (tree : Tree) (c : Cursor) :
    c.advance tree none =
      ⟨if c.state = .exhausted then .ok none else .error .closed, [], c, none⟩ := by
  unfold advance
  split <;> rfl

theorem serving_advance (h : Serving outcome origin handle)
    (hload : LoadsAs (origin.load tree) outcome origin.names) (c : Cursor) :
    Serving outcome origin (c.advance tree handle).corpus := by
  cases handle with
  | none =>
    rw [advance_closed]
    exact nofun
  | some now =>
    have hbecomes := h now rfl
    obtain ⟨⟨after, hafter, hbecomes'⟩, -⟩ :=
      gives_advance hbecomes.keeps (hbecomes.loadsAs hload) c
    intro last hlast
    rw [hafter] at hlast
    cases hlast
    exact hbecomes.trans hbecomes'

/-- What answers like advancing is a step like advancing. -/
theorem responds_of_advance (h : Serving outcome origin handle)
    (hload : LoadsAs (origin.load tree) outcome origin.names) (c : Cursor) {answer : Answer}
    (hname : answer.name? = (Answer.advanced (c.advance tree handle).result).name?)
    (hfailure : answer.failure? = (Answer.advanced (c.advance tree handle).result).failure?) :
    Responds c.state (c.pending outcome origin) answer (c.advance tree handle).cursor.state
      ((c.advance tree handle).cursor.pending outcome origin) := by
  cases handle with
  | none =>
    rw [advance_closed] at hname hfailure ⊢
    by_cases hstate : c.state = .exhausted
    · simp only [hstate, if_true] at hname hfailure
      exact .idle hname hfailure
    · simp only [hstate, if_false] at hname hfailure
      exact .idle hname hfailure
  | some now =>
    have hbecomes := h now rfl
    obtain ⟨-, hgives⟩ := gives_advance hbecomes.keeps (hbecomes.loadsAs hload) c
    rw [pending_eq hbecomes, pending_eq hbecomes] at hgives
    refine responds_of_gives hgives ?_ hname hfailure
    intro hne hstate
    exact hne (pending_of_exhausted hstate)

theorem advanced_of_exhausted {c : Cursor} (h : c.state = .exhausted) (tree : Tree)
    (handle : Handle) : c.advanced tree handle = ⟨.advanced (.ok none), [], c, handle⟩ := by
  rw [advanced, advance_of_exhausted h]

theorem iterated_of_exhausted {c : Cursor} (h : c.state = .exhausted) (tree : Tree)
    (handle : Handle) : c.iterated tree handle = ⟨.iterated none, [], c, handle⟩ := by
  rw [iterated, next_of_exhausted h]

/-- Iterating gives the name or the error that advancing gives. -/
theorem answer_next {c : Cursor} (h : c.reported = false) (tree : Tree) (handle : Handle) :
    (Answer.iterated (c.next tree handle).result).name? =
        (Answer.advanced (c.advance tree handle).result).name? ∧
      (Answer.iterated (c.next tree handle).result).failure? =
        (Answer.advanced (c.advance tree handle).result).failure? := by
  rw [(next_of_not_reported h tree handle).2.2.2]
  cases (c.advance tree handle).result with
  | error e => cases e <;> exact ⟨rfl, rfl⟩
  | ok found => cases found <;> exact ⟨rfl, rfl⟩

/-- A step of a cursor: how it responds, and that the corpus stays what it was. -/
structure Obeys (outcome : String → Except Error String) (origin : Corpus) (c : Cursor)
    (a : Advance Answer) : Prop where
  /-- The corpus stays what it was. -/
  serving : Serving outcome origin a.corpus
  /-- How the cursor responds. -/
  responds : Responds c.state (c.pending outcome origin) a.result a.cursor.state
    (a.cursor.pending outcome origin)
  /-- At its end it stays as it is. -/
  ended : c.state = .exhausted → a.cursor = c ∧ a.result.OfEnd

theorem obeys_advanced (h : Serving outcome origin handle)
    (hload : LoadsAs (origin.load tree) outcome origin.names) (c : Cursor) :
    c.Obeys outcome origin (c.advanced tree handle) := by
  refine ⟨serving_advance h hload c, responds_of_advance h hload c rfl rfl, ?_⟩
  intro hexhausted
  rw [advanced_of_exhausted hexhausted]
  exact ⟨rfl, rfl⟩

theorem obeys_iterated (h : Serving outcome origin handle)
    (hload : LoadsAs (origin.load tree) outcome origin.names) (c : Cursor) :
    c.Obeys outcome origin (c.iterated tree handle) := by
  cases hreported : c.reported with
  | true =>
    have hiterated : c.iterated tree handle = ⟨.iterated none, [], c, handle⟩ := by
      rw [iterated, next_of_reported hreported]
    rw [hiterated]
    exact ⟨h, .idle rfl rfl, fun _ => ⟨rfl, rfl⟩⟩
  | false =>
    obtain ⟨hcorpus, hstate, htraversal, -⟩ := next_of_not_reported hreported tree handle
    refine ⟨?_, ?_, ?_⟩
    · show Serving outcome origin (c.next tree handle).corpus
      rw [hcorpus]
      exact serving_advance h hload c
    · have hpending : (c.next tree handle).cursor.pending outcome origin =
          (c.advance tree handle).cursor.pending outcome origin := by
        rw [pending, pending, hstate, htraversal]
      show Responds _ _ (.iterated (c.next tree handle).result) (c.next tree handle).cursor.state
        ((c.next tree handle).cursor.pending outcome origin)
      rw [hpending, hstate]
      obtain ⟨hname, hfailure⟩ := answer_next hreported tree handle
      exact responds_of_advance h hload c hname hfailure
    · intro hexhausted
      rw [iterated_of_exhausted hexhausted]
      exact ⟨rfl, rfl⟩

/-- A step of a cursor whose corpus is closed: it stays where it is. -/
structure Rests (c : Cursor) (a : Advance Answer) : Prop where
  /-- The corpus stays closed. -/
  corpus : a.corpus = none
  /-- The state stays. -/
  state : a.cursor.state = c.state
  /-- What is to come stays. -/
  traversal : a.cursor.traversal = c.traversal
  /-- The answer. -/
  answer : a.result.OfClosed c.state

theorem rests_advanced (tree : Tree) (c : Cursor) : c.Rests (c.advanced tree none) := by
  rw [advanced, advance_closed]
  exact ⟨rfl, rfl, rfl, rfl⟩

theorem rests_iterated (tree : Tree) (c : Cursor) : c.Rests (c.iterated tree none) := by
  cases hreported : c.reported with
  | true =>
    rw [iterated, next_of_reported hreported]
    exact ⟨rfl, rfl, rfl, Or.inl rfl⟩
  | false =>
    obtain ⟨hcorpus, hstate, htraversal, hresult⟩ := next_of_not_reported hreported tree none
    rw [advance_closed] at hcorpus hstate htraversal hresult
    refine ⟨hcorpus, hstate, htraversal, ?_⟩
    show (c.next tree none).result = none ∨
      c.state ≠ .exhausted ∧ (c.next tree none).result = some (.error .closed)
    rw [hresult]
    by_cases hexhausted : c.state = .exhausted
    · simp [hexhausted]
    · simp [hexhausted]

/-! ## Draining a cursor that has just been made -/

@[simp] theorem namesOf_append (items more : List (Except Error String)) :
    namesOf (items ++ more) = namesOf items ++ namesOf more := List.filterMap_append

@[simp] theorem namesOf_map_ok (names : List String) : namesOf (names.map .ok) = names := by
  rw [namesOf, List.filterMap_map]
  exact List.filterMap_some

@[simp] theorem namesOf_map_error (errors : List Error) : namesOf (errors.map .error) = [] := by
  simp [namesOf, Except.toOption]

/-- Names of the corpus in their order, and perhaps an error behind them. -/
def Orderly (corpus : Corpus) (items : List (Except Error String)) : Prop :=
  ∃ (names : List String) (failure : Option Error),
    items = names.map .ok ++ failure.toList.map .error ∧ names.Sublist corpus.names

theorem orderly_gives (query : Compiled) : Orderly corpus (corpus.gives outcome query) := by
  rw [Corpus.gives]
  cases hfound : query.plan.found corpus.settings.trigrams (corpus.index.names.built outcome)
      corpus.index.names with
  | error e => exact ⟨[], some e, rfl, List.nil_sublist _⟩
  | ok slots =>
    exact ⟨query.yielded outcome corpus.index.names slots,
      slots.findSome? (query.failure? outcome corpus.index.names), rfl,
      query.yielded_sublist outcome corpus.index.names (Plan.pairwise_found hfound)⟩

/-- The cursor has just been made. -/
inductive Fresh : Cursor → Prop where
  /-- It goes through all names. -/
  | entries : Fresh .entries
  /-- It goes through the names that match a query. -/
  | matching (query : Compiled) : Fresh (.matching query)

namespace Fresh

variable {c : Cursor}

theorem state_eq (h : c.Fresh) : c.state = .created := by
  cases h <;> rfl

theorem reported_eq (h : c.Fresh) : c.reported = false := by
  cases h <;> rfl

theorem orderly_pending (h : c.Fresh) (outcome : String → Except Error String)
    (corpus : Corpus) : Orderly corpus (c.pending outcome corpus) := by
  cases h with
  | entries => exact ⟨corpus.names, none, (List.append_nil _).symm, List.Sublist.refl _⟩
  | matching query => exact orderly_gives query

/-- The names are those of the corpus, or some of them, in their order. -/
theorem namesOf_pending_sublist (h : c.Fresh) :
    (namesOf (c.pending outcome corpus)).Sublist corpus.names := by
  obtain ⟨names, failure, hpending, hsublist⟩ := h.orderly_pending outcome corpus
  rw [hpending]
  simpa using hsublist

/-- Draining gives all that is pending. -/
theorem drain_eq_pending (h : c.Fresh) (hkeeps : corpus.index.Keeps outcome)
    (hload : LoadsAs (corpus.load tree) outcome corpus.names) :
    (c.drain tree (some corpus)).result = c.pending outcome corpus := by
  apply drainFrom_eq hkeeps hload h.reported_eq
  obtain ⟨names, failure, hpending, hsublist⟩ := h.orderly_pending outcome corpus
  have hone : failure.toList.length ≤ 1 := Option.length_toList_le
  have hnames : names.length ≤ corpus.size := hsublist.length_le
  rw [hpending]
  simp only [List.length_append, List.length_map, Option.map_some, Option.getD_some]
  omega

end Fresh

end Cursor

end Concordance
