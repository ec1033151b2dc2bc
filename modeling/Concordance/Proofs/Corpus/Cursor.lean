import Mathlib
import Concordance.Corpus.Cursor
import Concordance.Proofs.Corpus.Search
import Concordance.Proofs.Store.Memory

/-!
# What cursors go through

A cursor over the matches of a query comes to all of them, in their order, and ends.  Whatever a
cursor does, the corpus keeps serving the same entries; all that may change is that its trigram
index has been built.

* `drainFrom_of_advance` drains a cursor that stands before some slots.
* `drain_matching` and `drain_entries` drain the cursors that a reader makes.
* `serves_advance`, `serves_next` and `serves_drainFrom` are about the corpus afterwards.
-/

namespace Concordance

open Corpus (Serves)

variable {content : String → String} {listing : NameIndex} {corpus : Corpus} {tree : Tree}
  {query : Compiled}

namespace Cursor

/-! ## Steps -/

theorem stepSlots_corpus (tree : Tree) (corpus : Corpus) (c : Cursor) (query : Compiled)
    (asked : List String) (slots : List Nat) :
    (stepSlots tree corpus c query asked slots).corpus = some corpus := by
  unfold stepSlots
  dsimp only
  split <;> rfl

theorem stepSlots_of_none (h : corpus.Serves content listing) {slots : List Nat}
    (hnone : query.nextMatch content listing slots = none) (c : Cursor) (asked : List String) :
    (stepSlots tree corpus c query asked slots).result = .ok none := by
  have hfound : (query.firstMatch (corpus.load tree) listing slots).outcome = .ok none := by
    rw [Compiled.firstMatch_outcome (h.loads tree), hnone]
  unfold stepSlots
  rw [h.names]
  dsimp only
  rw [hfound]

theorem stepSlots_of_some (tree : Tree) (h : corpus.Serves content listing)
    {slots rest : List Nat} {name : String}
    (hsome : query.nextMatch content listing slots = some (name, rest)) (c : Cursor)
    (asked : List String) :
    (stepSlots tree corpus c query asked slots).result = .ok (some name) ∧
      (stepSlots tree corpus c query asked slots).cursor =
        { c with traversal := .query query (some rest), state := .active } := by
  have hfound : (query.firstMatch (corpus.load tree) listing slots).outcome =
      .ok (some (name, rest)) := by
    rw [Compiled.firstMatch_outcome (h.loads tree), hsome]
  unfold stepSlots
  rw [h.names]
  dsimp only
  rw [hfound]
  exact ⟨rfl, rfl⟩

/-- A cursor that has not looked up its slots looks them up first. -/
theorem exists_advance_matching (tree : Tree) (h : corpus.Serves content listing) (c : Cursor)
    (hstate : c.state ≠ .exhausted) (htraversal : c.traversal = .query query none) :
    ∃ after slots asked, after.Serves content listing ∧
      c.advance tree (some corpus) = stepSlots tree after c query asked slots ∧
      slots.filterMap (query.matchAt content listing) = query.matchingNames content listing := by
  have hload := h.loads tree
  rw [← h.names] at hload
  obtain ⟨slots, after, houtcome, hnames, hagrees, hmatches⟩ :=
    Corpus.exists_candidates h.agrees hload query
  refine ⟨{ corpus with index := after }, slots, (corpus.candidates tree query).asked,
    h.withIndex hnames hagrees, ?_, ?_⟩
  · unfold advance step
    rw [if_neg hstate]
    dsimp only
    rw [htraversal]
    dsimp only
    rw [houtcome]
  · rw [← h.names]
    exact hmatches

/-! ## Draining -/

/-- A step that gives no name ends a drain. -/
theorem drainFrom_of_none {handle : Handle} {c : Cursor} (hreported : c.reported = false)
    (hresult : (c.advance tree handle).result = .ok none) (fuel : Nat) :
    (drainFrom tree (fuel + 1) handle c).result = [] := by
  rw [drainFrom]
  unfold next
  rw [hreported]
  dsimp only
  rw [if_neg (by decide), hresult]

/-- A step that gives a name is followed by a drain from there. -/
theorem drainFrom_of_some {handle : Handle} {c : Cursor} (hreported : c.reported = false)
    {name : String} (hresult : (c.advance tree handle).result = .ok (some name)) (fuel : Nat) :
    (drainFrom tree (fuel + 1) handle c).result =
      .ok name :: (drainFrom tree fuel (c.advance tree handle).corpus
        (c.advance tree handle).cursor).result := by
  rw [drainFrom]
  unfold next
  rw [hreported]
  dsimp only
  rw [if_neg (by decide), hresult]

/-- A cursor that stands before some slots comes to all matches among them. -/
theorem drainFrom_of_advance {fuel : Nat} {slots : List Nat} {handle : Handle} {c : Cursor}
    {asked : List String} (h : corpus.Serves content listing) (hreported : c.reported = false)
    (hadvance : c.advance tree handle = stepSlots tree corpus c query asked slots)
    (hfuel : (slots.filterMap (query.matchAt content listing)).length < fuel) :
    (drainFrom tree fuel handle c).result =
      (slots.filterMap (query.matchAt content listing)).map .ok := by
  induction fuel generalizing slots handle c asked with
  | zero => omega
  | succ fuel ih =>
    cases hnext : query.nextMatch content listing slots with
    | none =>
      rw [drainFrom_of_none hreported, Compiled.filterMap_of_nextMatch_eq_none hnext]
      · rfl
      · rw [hadvance, stepSlots_of_none h hnext]
    | some found =>
      obtain ⟨name, rest⟩ := found
      obtain ⟨hresult, hcursor⟩ := stepSlots_of_some tree h hnext c asked
      have hmatches := Compiled.filterMap_of_nextMatch_eq_some hnext
      rw [hmatches, List.length_cons] at hfuel
      rw [drainFrom_of_some hreported (hadvance ▸ hresult), hmatches, List.map_cons, hadvance,
        stepSlots_corpus, hcursor]
      congr 1
      have hcontinue : ({ c with traversal := .query query (some rest), state := .active } :
          Cursor).advance tree (some corpus) = stepSlots tree corpus
            { c with traversal := .query query (some rest), state := .active } query [] rest := rfl
      exact ih hreported hcontinue (by omega)

theorem length_matchingNames_le (query : Compiled) (content : String → String)
    (listing : NameIndex) : (query.matchingNames content listing).length ≤ listing.size := by
  have h := List.length_filter_le (fun name => query.expr.holds name (content name))
    listing.names.toList
  simpa [Compiled.matchingNames, NameIndex.size] using h

/-- The cursor of a query comes to the names of all entries for which the query holds. -/
theorem drain_matching (h : corpus.Serves content listing) (query : Compiled) :
    ((matching query).drain tree (some corpus)).result =
      (query.matchingNames content listing).map .ok := by
  obtain ⟨after, slots, asked, hafter, hadvance, hmatches⟩ :=
    exists_advance_matching tree h (matching query) (by simp [matching]) rfl
  have hsize : corpus.size = listing.size := by rw [Corpus.size, h.names]
  have hlength := length_matchingNames_le query content listing
  rw [← hmatches] at hlength ⊢
  refine drainFrom_of_advance hafter rfl hadvance ?_
  show _ < corpus.size + 2
  omega

/-- A cursor through all names comes to all names from its slot on. -/
theorem drainFrom_entries (tree : Tree) (corpus : Corpus) (fuel slot : Nat)
    (state : CursorState) (hstate : state ≠ .exhausted)
    (hfuel : corpus.size < slot + fuel) :
    (drainFrom tree fuel (some corpus) ⟨.entries slot, state, false⟩).result =
      (corpus.names.drop slot).map .ok := by
  induction fuel generalizing slot state with
  | zero =>
    have hnil : corpus.names.drop slot = [] := by
      rw [List.drop_eq_nil_iff]
      simp only [Corpus.names, Corpus.size, NameIndex.size, Array.length_toList] at hfuel ⊢
      omega
    rw [hnil]
    rfl
  | succ fuel ih =>
    have hadvance : (⟨.entries slot, state, false⟩ : Cursor).advance tree (some corpus) =
        stepEntries corpus ⟨.entries slot, state, false⟩ slot := by
      unfold advance
      rw [if_neg hstate]
      rfl
    cases hname : corpus.index.names.nameAt? slot with
    | none =>
      have hstep : stepEntries corpus ⟨.entries slot, state, false⟩ slot =
          ⟨.ok none, [], ⟨.entries slot, .exhausted, false⟩, some corpus⟩ := by
        rw [stepEntries, hname]
        rfl
      have hnil : corpus.names.drop slot = [] := by
        rw [List.drop_eq_nil_iff]
        simpa [Corpus.names, NameIndex.nameAt?] using hname
      rw [drainFrom_of_none rfl (by rw [hadvance, hstep]), hnil]
      rfl
    | some name =>
      have hstep : stepEntries corpus ⟨.entries slot, state, false⟩ slot =
          ⟨.ok (some name), [], ⟨.entries (slot + 1), .active, false⟩, some corpus⟩ := by
        rw [stepEntries, hname]
      have hcons : corpus.names.drop slot = name :: corpus.names.drop (slot + 1) := by
        obtain ⟨hlt, hget⟩ := NameIndex.nameAt?_eq_some_iff.1 hname
        have hlt' : slot < corpus.names.length := by simpa [Corpus.names] using hlt
        rw [List.drop_eq_getElem_cons hlt', ← hget]
        simp [Corpus.names]
      rw [drainFrom_of_some rfl (by rw [hadvance, hstep]), hcons, List.map_cons, hadvance, hstep,
        ih (slot + 1) .active (by decide) (by omega)]

/-- The cursor through all names comes to all of them. -/
theorem drain_entries (tree : Tree) (corpus : Corpus) :
    (entries.drain tree (some corpus)).result = corpus.names.map .ok := by
  have h := drainFrom_entries tree corpus (corpus.size + 2) 0 .created (by decide) (by omega)
  rw [List.drop_zero] at h
  exact h

/-! ## The corpus afterwards -/

/-- A step of a cursor leaves a corpus that serves the same entries. -/
theorem serves_advance (tree : Tree) (h : corpus.Serves content listing) (c : Cursor) :
    ∃ after, (c.advance tree (some corpus)).corpus = some after ∧
      after.Serves content listing := by
  by_cases hstate : c.state = .exhausted
  · refine ⟨corpus, ?_, h⟩
    rw [advance, if_pos hstate]
  · have hstep : c.advance tree (some corpus) = c.step tree corpus := by
      rw [advance, if_neg hstate]
    rw [hstep]
    obtain ⟨traversal, state, reported⟩ := c
    cases traversal with
    | entries slot =>
      refine ⟨corpus, ?_, h⟩
      show (stepEntries corpus _ slot).corpus = _
      unfold stepEntries
      split <;> rfl
    | query query slots =>
      cases slots with
      | some slots => exact ⟨corpus, stepSlots_corpus _ _ _ _ _ _, h⟩
      | none =>
        obtain ⟨after, slots, asked, hafter, hadvance, -⟩ :=
          exists_advance_matching tree h ⟨.query query none, state, reported⟩ hstate rfl
        refine ⟨after, ?_, hafter⟩
        rw [← hstep, hadvance, stepSlots_corpus]

theorem next_corpus (tree : Tree) (handle : Handle) (c : Cursor) :
    (c.next tree handle).corpus =
      if c.reported then handle else (c.advance tree handle).corpus := by
  unfold next
  split
  · rfl
  · dsimp only
    split <;> rfl

theorem serves_next (tree : Tree) (h : corpus.Serves content listing) (c : Cursor) :
    ∃ after, (c.next tree (some corpus)).corpus = some after ∧ after.Serves content listing := by
  rw [next_corpus]
  split
  · exact ⟨corpus, rfl, h⟩
  · exact serves_advance tree h c

theorem serves_drainFrom (tree : Tree) (fuel : Nat) (h : corpus.Serves content listing)
    (c : Cursor) : ∃ after, (drainFrom tree fuel (some corpus) c).corpus = some after ∧
      after.Serves content listing := by
  induction fuel generalizing corpus c with
  | zero => exact ⟨corpus, rfl, h⟩
  | succ fuel ih =>
    obtain ⟨between, hcorpus, hbetween⟩ := serves_next tree h c
    rw [drainFrom]
    dsimp only
    split
    · exact ⟨between, hcorpus, hbetween⟩
    · rw [hcorpus]
      exact ih hbetween _

end Cursor

end Concordance
