import Mathlib
import Concordance.Proofs.Corpus.Cursor
import Concordance.Proofs.Corpus.Outcomes
import Concordance.Proofs.Corpus.Within

/-!
# What a cursor has yet to give

As long as its corpus is open, a cursor gives one after another what is pending: names, and then
perhaps an error.  What is pending depends on the names of the corpus and on the outcomes of
reading its entries, not on what other cursors have done.

* `Corpus.Becomes` says what a corpus can become while it is used.
* `Cursor.pending` is what a cursor has yet to give; `Cursor.gives_advance` says that a step gives
  the first of it.
* `Cursor.advanceEach` advances a cursor again and again.
-/

namespace Concordance

variable {outcome : String → Except Error String} {corpus after : Corpus} {tree : Tree}

namespace Corpus

/-- What a corpus can become: all that changes is that the trigram index is built. -/
structure Becomes (outcome : String → Except Error String) (c after : Corpus) : Prop where
  /-- The store stays. -/
  store : after.store = c.store
  /-- The settings stay. -/
  settings : after.settings = c.settings
  /-- The names stay. -/
  names : after.index.names = c.index.names
  /-- The trigram index, if it is there, is the one of the outcomes. -/
  keeps : after.index.Keeps outcome

theorem becomes_refl (h : corpus.index.Keeps outcome) : corpus.Becomes outcome corpus :=
  ⟨rfl, rfl, rfl, h⟩

theorem Becomes.trans {last : Corpus} (h : corpus.Becomes outcome after)
    (h' : after.Becomes outcome last) : corpus.Becomes outcome last :=
  ⟨h'.store.trans h.store, h'.settings.trans h.settings, h'.names.trans h.names, h'.keeps⟩

theorem Becomes.remains (h : corpus.Becomes outcome after) : corpus.Remains after :=
  ⟨h.store, h.settings, h.names⟩

theorem Becomes.load_eq (h : corpus.Becomes outcome after) (tree : Tree) :
    after.load tree = corpus.load tree := h.remains.load_eq tree

theorem Becomes.names_eq (h : corpus.Becomes outcome after) : after.names = corpus.names :=
  h.remains.names_eq

/-- The outcomes of reading stay. -/
theorem Becomes.loadsAs (h : corpus.Becomes outcome after)
    (hload : LoadsAs (corpus.load tree) outcome corpus.names) :
    LoadsAs (after.load tree) outcome after.names := by
  rw [h.load_eq, h.names_eq]
  exact hload

theorem drop_names_of_nameAt? {slot : Nat} {name : String}
    (h : corpus.index.names.nameAt? slot = some name) :
    corpus.names.drop slot = name :: corpus.names.drop (slot + 1) := by
  have hget : corpus.names[slot]? = some name := by
    simpa [names, NameIndex.nameAt?] using h
  obtain ⟨hlt, rfl⟩ := List.getElem?_eq_some_iff.1 hget
  exact List.drop_eq_getElem_cons hlt

/-- What a query gives depends on the names, the settings, and the outcomes of reading. -/
theorem gives_congr (hnames : after.index.names = corpus.index.names)
    (hsettings : after.settings = corpus.settings) (query : Compiled) :
    after.gives outcome query = corpus.gives outcome query := by
  rw [gives, gives, hnames, hsettings]

end Corpus

namespace Cursor

open Corpus (Becomes becomes_refl)

/-- What a cursor has yet to give, while the corpus is open. -/
def pending (outcome : String → Except Error String) (corpus : Corpus) (c : Cursor) :
    List (Except Error String) :=
  if c.state = .exhausted then []
  else
    match c.traversal with
    | .entries slot => (corpus.names.drop slot).map .ok
    | .query query (some slots) => query.toCome outcome corpus.index.names slots
    | .query query none => corpus.gives outcome query

theorem pending_of_exhausted {c : Cursor} (h : c.state = .exhausted) :
    c.pending outcome corpus = [] := if_pos h

theorem pending_congr (hnames : after.index.names = corpus.index.names)
    (hsettings : after.settings = corpus.settings) (c : Cursor) :
    c.pending outcome after = c.pending outcome corpus := by
  rw [pending, pending]
  split
  · rfl
  · split
    · rw [Corpus.names, Corpus.names, hnames]
    · rw [hnames]
    · exact Corpus.gives_congr hnames hsettings _

theorem pending_eq (h : corpus.Becomes outcome after) (c : Cursor) :
    c.pending outcome after = c.pending outcome corpus := pending_congr h.names h.settings c

/-- One step on what is pending: what it gives, the state afterwards, and what is pending then. -/
inductive Gives : List (Except Error String) → Except Error (Option String) → CursorState →
    List (Except Error String) → Prop where
  /-- Nothing is pending. -/
  | nothing : Gives [] (.ok none) .exhausted []
  /-- A name comes next. -/
  | name (name : String) (rest : List (Except Error String)) :
      Gives (.ok name :: rest) (.ok (some name)) .active rest
  /-- An error comes next, and nothing behind it. -/
  | failure (e : Error) : Gives [.error e] (.error e) .exhausted []

theorem Gives.result_eq {items rest : List (Except Error String)}
    {result : Except Error (Option String)} {state : CursorState}
    (h : Gives items result state rest) :
    result = ((items.map (Except.map some)).head?).getD (.ok none) := by
  cases h <;> rfl

theorem Gives.tail_eq {items rest : List (Except Error String)}
    {result : Except Error (Option String)} {state : CursorState}
    (h : Gives items result state rest) : rest = items.tail := by
  cases h <;> rfl

theorem Gives.exhausted_of_error {e : Error} {more rest : List (Except Error String)}
    {result : Except Error (Option String)} {state : CursorState}
    (h : Gives (.error e :: more) result state rest) : state = .exhausted ∧ more = [] := by
  cases h
  exact ⟨rfl, rfl⟩

/-! ## Steps -/

theorem advance_of_exhausted {c : Cursor} (h : c.state = .exhausted) (tree : Tree)
    (handle : Handle) : c.advance tree handle = ⟨.ok none, [], c, handle⟩ := if_pos h

theorem gives_stepEntries (outcome : String → Except Error String) (corpus : Corpus) (c : Cursor)
    (slot : Nat) :
    let a := stepEntries corpus c slot
    a.corpus = some corpus ∧
      Gives ((corpus.names.drop slot).map .ok) a.result a.cursor.state
        (a.cursor.pending outcome corpus) := by
  cases hname : corpus.index.names.nameAt? slot with
  | none =>
    have hnil : corpus.names.drop slot = [] := by
      rw [List.drop_eq_nil_iff]
      simpa [Corpus.names, NameIndex.nameAt?] using hname
    simp only [stepEntries, hname, hnil, List.map_nil]
    rw [pending_of_exhausted rfl]
    exact ⟨trivial, .nothing⟩
  | some name =>
    simp only [stepEntries, hname, Corpus.drop_names_of_nameAt? hname, List.map_cons]
    exact ⟨trivial, .name name _⟩

theorem gives_stepSlots (hload : LoadsAs (corpus.load tree) outcome corpus.names) (c : Cursor)
    (query : Compiled) (asked : List String) (slots : List Nat) :
    let a := stepSlots tree corpus c query asked slots
    a.corpus = some corpus ∧
      Gives (query.toCome outcome corpus.index.names slots) a.result a.cursor.state
        (a.cursor.pending outcome corpus) := by
  have hfirst := query.firstMatch_outcome_of_loadsAs hload slots
  cases houtcome : (query.firstMatch (corpus.load tree) corpus.index.names slots).outcome with
  | error e =>
    rw [houtcome] at hfirst
    simp only [stepSlots, houtcome, hfirst]
    rw [pending_of_exhausted rfl]
    exact ⟨trivial, .failure e⟩
  | ok found =>
    cases found with
    | none =>
      rw [houtcome] at hfirst
      simp only [stepSlots, houtcome, hfirst]
      rw [pending_of_exhausted rfl]
      exact ⟨trivial, .nothing⟩
    | some next =>
      obtain ⟨name, rest⟩ := next
      rw [houtcome] at hfirst
      simp only [stepSlots, houtcome, hfirst]
      exact ⟨trivial, .name name _⟩

/-- A step of a cursor gives the first of what is pending, and then the rest is.  The corpus
becomes one of the same entries. -/
theorem gives_advance (h : corpus.index.Keeps outcome)
    (hload : LoadsAs (corpus.load tree) outcome corpus.names) (c : Cursor) :
    let a := c.advance tree (some corpus)
    (∃ after, a.corpus = some after ∧ corpus.Becomes outcome after) ∧
      Gives (c.pending outcome corpus) a.result a.cursor.state
        (a.cursor.pending outcome corpus) := by
  by_cases hstate : c.state = .exhausted
  · simp only [advance_of_exhausted hstate, pending_of_exhausted hstate, hstate]
    exact ⟨⟨corpus, rfl, becomes_refl h⟩, .nothing⟩
  · have hadvance : c.advance tree (some corpus) = c.step tree corpus := if_neg hstate
    rw [hadvance, pending, if_neg hstate, step]
    cases c.traversal with
    | entries slot =>
      obtain ⟨hcorpus, hgives⟩ := gives_stepEntries outcome corpus c slot
      exact ⟨⟨corpus, hcorpus, becomes_refl h⟩, hgives⟩
    | query query slots =>
      cases slots with
      | some slots =>
        obtain ⟨hcorpus, hgives⟩ := gives_stepSlots hload c query [] slots
        exact ⟨⟨corpus, hcorpus, becomes_refl h⟩, hgives⟩
      | none =>
        obtain ⟨index, hnames, hkeeps, hcandidates⟩ := Corpus.candidates_outcome h hload query
        dsimp only
        rw [hcandidates, Corpus.gives]
        cases query.plan.found corpus.settings.trigrams (corpus.index.names.built outcome)
            corpus.index.names with
        | error e =>
          refine ⟨⟨corpus, rfl, becomes_refl h⟩, ?_⟩
          simp only [Except.map]
          rw [pending_of_exhausted rfl]
          exact .failure e
        | ok slots =>
          -- looking up the slots may have built the trigram index
          have hbecomes : corpus.Becomes outcome { corpus with index } :=
            ⟨rfl, rfl, hnames, hkeeps⟩
          obtain ⟨hcorpus, hgives⟩ := gives_stepSlots (hbecomes.loadsAs hload) c query
            (corpus.candidates tree query).asked slots
          refine ⟨⟨_, hcorpus, hbecomes⟩, ?_⟩
          rw [pending_eq hbecomes] at hgives
          rw [hbecomes.names] at hgives
          exact hgives

/-! ## Advancing again and again -/

/-- Advances a cursor once for each of some trees, which are the files at that time. -/
def advanceEach : List Tree → Handle → Cursor → List (Except Error (Option String))
  | [], _, _ => []
  | tree :: rest, corpus, c =>
    let a := c.advance tree corpus
    a.result :: advanceEach rest a.corpus a.cursor

/-- Advancing again and again gives what is pending, and then neither a name nor an error. -/
theorem advanceEach_eq {trees : List Tree} (h : corpus.index.Keeps outcome)
    (hload : ∀ tree ∈ trees, LoadsAs (corpus.load tree) outcome corpus.names) (c : Cursor) :
    advanceEach trees (some corpus) c =
      ((c.pending outcome corpus).map (Except.map some)).takeD trees.length (.ok none) := by
  induction trees generalizing corpus c with
  | nil => rfl
  | cons tree rest ih =>
    obtain ⟨⟨after, hafter, hbecomes⟩, hgives⟩ := gives_advance h (hload tree (by simp)) c
    have hload' : ∀ tree ∈ rest, LoadsAs (after.load tree) outcome after.names :=
      fun tree htree => hbecomes.loadsAs (hload tree (by simp [htree]))
    have hrest := ih hbecomes.keeps hload' (c.advance tree (some corpus)).cursor
    rw [pending_eq hbecomes, hgives.tail_eq] at hrest
    rw [advanceEach, List.length_cons, List.takeD_succ, hgives.result_eq, hafter, hrest,
      List.map_tail]

/-! ## Draining -/

theorem next_of_reported {c : Cursor} (h : c.reported = true) (tree : Tree) (handle : Handle) :
    c.next tree handle = ⟨none, [], c, handle⟩ := if_pos h

/-- Iterating does what advancing does, as long as it has not reported that the corpus is
closed. -/
theorem next_of_not_reported {c : Cursor} (h : c.reported = false) (tree : Tree)
    (handle : Handle) :
    let a := c.advance tree handle
    let b := c.next tree handle
    b.corpus = a.corpus ∧ b.cursor.state = a.cursor.state ∧
      b.cursor.traversal = a.cursor.traversal ∧
      b.result = match a.result with
        | .ok none => none
        | .ok (some name) => some (.ok name)
        | .error e => some (.error e) := by
  have hnot : ¬ c.reported = true := by simp [h]
  unfold next
  rw [if_neg hnot]
  dsimp only
  split
  next hresult => simp [hresult]
  next hresult => simp [hresult]
  next hresult => simp [hresult]
  next e hresult => simp [hresult]

theorem next_of_exhausted {c : Cursor} (h : c.state = .exhausted) (tree : Tree)
    (handle : Handle) : c.next tree handle = ⟨none, [], c, handle⟩ := by
  unfold next
  split
  · rfl
  · rw [advance_of_exhausted h]

theorem drainFrom_of_exhausted {c : Cursor} (h : c.state = .exhausted) (tree : Tree)
    (handle : Handle) (fuel : Nat) : (drainFrom tree fuel handle c).result = [] := by
  cases fuel with
  | zero => rfl
  | succ fuel =>
    rw [drainFrom]
    dsimp only
    rw [next_of_exhausted h]

theorem stepEntries_reported (corpus : Corpus) (c : Cursor) (slot : Nat) :
    (stepEntries corpus c slot).cursor.reported = c.reported := by
  unfold stepEntries
  split <;> rfl

theorem stepSlots_reported (tree : Tree) (corpus : Corpus) (c : Cursor) (query : Compiled)
    (asked : List String) (slots : List Nat) :
    (stepSlots tree corpus c query asked slots).cursor.reported = c.reported := by
  unfold stepSlots
  dsimp only
  split <;> rfl

/-- Advancing does not count as iterating. -/
theorem advance_reported (tree : Tree) (handle : Handle) (c : Cursor) :
    (c.advance tree handle).cursor.reported = c.reported := by
  unfold advance step
  split
  · rfl
  · split
    · rfl
    · split
      · exact stepEntries_reported _ _ _
      · exact stepSlots_reported _ _ _ _ _ _
      · dsimp only
        split
        · exact stepSlots_reported _ _ _ _ _ _
        · rfl

/-- Draining a cursor gives all that is pending. -/
theorem drainFrom_eq {fuel : Nat} (h : corpus.index.Keeps outcome)
    (hload : LoadsAs (corpus.load tree) outcome corpus.names) {c : Cursor}
    (hreported : c.reported = false) (hfuel : (c.pending outcome corpus).length < fuel) :
    (drainFrom tree fuel (some corpus) c).result = c.pending outcome corpus := by
  induction fuel generalizing corpus c with
  | zero => omega
  | succ fuel ih =>
    obtain ⟨⟨after, hafter, hbecomes⟩, hgives⟩ := gives_advance h hload c
    obtain ⟨-, hstate, -, hnext⟩ := next_of_not_reported hreported tree (some corpus)
    cases hitems : c.pending outcome corpus with
    | nil =>
      rw [hitems] at hgives
      exact drainFrom_of_none hreported hgives.result_eq fuel
    | cons item rest =>
      rw [hitems] at hgives hfuel
      rw [List.length_cons] at hfuel
      cases item with
      | ok name =>
        have hrest : (c.advance tree (some corpus)).cursor.pending outcome after = rest := by
          rw [pending_eq hbecomes]
          exact hgives.tail_eq
        have hdrain := ih hbecomes.keeps (hbecomes.loadsAs hload)
          ((advance_reported tree (some corpus) c).trans hreported) (by rw [hrest]; omega)
        rw [drainFrom_of_some hreported hgives.result_eq, hafter, hdrain, hrest]
      | error e =>
        obtain ⟨hexhausted, rfl⟩ := hgives.exhausted_of_error
        have hitem : (c.next tree (some corpus)).result = some (.error e) := by
          rw [hnext, hgives.result_eq]
          rfl
        rw [drainFrom]
        dsimp only
        rw [hitem]
        dsimp only
        rw [drainFrom_of_exhausted (hstate.trans hexhausted)]

end Cursor

end Concordance
