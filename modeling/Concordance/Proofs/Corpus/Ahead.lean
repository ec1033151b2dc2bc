import Mathlib
import Concordance.Proofs.Corpus.Answers
import Concordance.Proofs.Store.Failures

/-!
# What a cursor can still give

While a cursor is used its files may change, so that entries can be read at one time and not at
another.  What is certain is which names a cursor has ahead, and that it gives them in their order,
if at all; any error of an open corpus is that of an entry, and is the last that the cursor gives.

* `Corpus.Grows` says what a corpus can become while it is used and its files change;
  `Corpus.candidates_of_kept` what looking up a query comes to.
* `Cursor.ahead` are the names that a cursor can still give; `Cursor.proceeds_advance` says that a
  step gives one of them or is the last one.
-/

namespace Concordance

variable {corpus after last : Corpus} {tree : Tree}

/-! ## Corpora whose files change -/

namespace Plan

variable {ε : Type} {index : CorpusIndex} {t : TrigramIndex}

/-- With a trigram index nothing is read. -/
theorem exists_slots_of_trigrams (h : index.trigrams = some t) (trigrams : Bool) (p : Plan) :
    ∃ found, ∀ load : String → Reading ε String,
      p.slots trigrams load index = pure (found, index) := by
  induction p with
  | all => exact ⟨index.slots, fun _ => rfl⟩
  | nothing => exact ⟨[], fun _ => rfl⟩
  | name wanted => exact ⟨(index.names.slot? wanted).toList, fun _ => rfl⟩
  | literal part =>
    cases trigrams with
    | false => exact ⟨index.slots, fun _ => rfl⟩
    | true =>
      refine ⟨(t.candidates? part).getD index.slots, fun load => ?_⟩
      rw [slots, if_pos rfl, CorpusIndex.slotsWith, CorpusIndex.trigramsFor, h]
      rfl
  | union parts ih =>
    have heach : ∃ found, ∀ load : String → Reading ε String,
        slotsOfEach trigrams load parts index = pure (found, index) := by
      induction parts with
      | nil => exact ⟨[], fun _ => rfl⟩
      | cons p rest ihr =>
        obtain ⟨found, hfound⟩ := ih p (by simp)
        obtain ⟨more, hmore⟩ := ihr fun q hq => ih q (by simp [hq])
        refine ⟨found ++ more, fun load => ?_⟩
        rw [slotsOfEach, hfound, pure_bind]
        show (slotsOfEach trigrams load rest index >>= _) = _
        rw [hmore, pure_bind]
    obtain ⟨found, hfound⟩ := heach
    refine ⟨ascending found, fun load => ?_⟩
    rw [slots, hfound, pure_bind]

end Plan

/-- The trigram index, if it is there, is the one of some outcomes of reading: it was built at a
time at which all entries could be read. -/
def CorpusIndex.Kept (index : CorpusIndex) : Prop :=
  ∃ outcome : String → Except Error String, index.Keeps outcome

namespace Corpus

/-- What a corpus can become while it is used and its files change. -/
structure Grows (c after : Corpus) : Prop where
  /-- It is what it was, but for its trigram index. -/
  remains : c.Remains after
  /-- The trigram index, if it is there, was built at some time. -/
  kept : after.index.Kept

theorem Grows.trans (h : corpus.Grows after) (h' : after.Grows last) : corpus.Grows last :=
  ⟨h.remains.trans h'.remains, h'.kept⟩

theorem grows_refl (h : corpus.index.Kept) : corpus.Grows corpus := ⟨corpus.remains_refl, h⟩

/-- Looking up a query gives slots that increase, or fails with the error of an entry. -/
theorem candidates_of_kept (hvalid : corpus.index.names.Valid) (h : corpus.index.Kept)
    (tree : Tree) (query : Compiled) :
    (∃ slots index, (corpus.candidates tree query).outcome = .ok (slots, index) ∧
      slots.Pairwise (· < ·) ∧ corpus.Grows { corpus with index }) ∨
    ∃ e, (corpus.candidates tree query).outcome = .error e ∧ e.OfEntry := by
  cases hthere : corpus.index.trigrams with
  | some t =>
    -- nothing is read, so what is found is what was found when the trigram index was built
    obtain ⟨outcome, hkeeps⟩ := h
    obtain ⟨slots, hslots⟩ :=
      Plan.exists_slots_of_trigrams hthere corpus.settings.trigrams query.plan
    have hload : LoadsAs (.ask outcome) outcome corpus.names := fun _ _ => rfl
    obtain ⟨index, -, -, hfound⟩ := Plan.slots_outcome query.plan hkeeps hload
    rw [hslots, Reading.pure_outcome] at hfound
    obtain ⟨found, hok, heq⟩ := map_eq_ok_iff.1 hfound.symm
    obtain ⟨rfl, rfl⟩ := Prod.mk.inj heq
    refine .inl ⟨found, corpus.index, ?_, Plan.pairwise_found hok, grows_refl ⟨outcome, hkeeps⟩⟩
    rw [candidates, hslots]
    rfl
  | none =>
    have hkeeps : corpus.index.Keeps (corpus.store.get tree) := by
      intro t ht
      rw [hthere] at ht
      cases ht
    obtain ⟨index, hnames, hafter, hfound⟩ :=
      candidates_outcome hkeeps (loadsAs_get hvalid tree) query
    rw [hfound]
    cases hslots : query.plan.found corpus.settings.trigrams
        (corpus.index.names.built (corpus.store.get tree)) corpus.index.names with
    | ok slots =>
      exact .inl ⟨slots, index, rfl, Plan.pairwise_found hslots, ⟨rfl, rfl, hnames⟩, _, hafter⟩
    | error e =>
      obtain ⟨-, -, hbuilt⟩ := Plan.found_eq_error_iff.1 hslots
      obtain ⟨before, name, behind, -, -, hname⟩ := NameIndex.built_eq_error_iff.1 hbuilt
      exact .inr ⟨e, rfl, Store.ofEntry_of_get _ _ _ hname⟩

end Corpus

/-! ## Matches -/

namespace Compiled

variable {query : Compiled} {names : NameIndex} {load : String → Reading Error String}

/-- What is accepted is the name at the slot. -/
theorem nameAt?_of_accept {slot : Nat} {name : String}
    (h : (query.accept load names slot).outcome = .ok (some name)) :
    names.nameAt? slot = some name := by
  unfold accept at h
  split at h
  · cases h
  next other hother =>
    rw [Reading.bind_outcome, bind_eq_ok_iff] at h
    obtain ⟨⟨matched, v⟩, -, hname⟩ := h
    cases matched with
    | false => cases hname
    | true =>
      cases hname
      exact hother

/-- The first match is one of the names at the slots, and the others follow behind it. -/
theorem sublist_of_firstMatch {slots rest : List Nat} {name : String}
    (h : (query.firstMatch load names slots).outcome = .ok (some (name, rest))) :
    (name :: rest.filterMap names.nameAt?).Sublist (slots.filterMap names.nameAt?) := by
  induction slots with
  | nil => cases h
  | cons slot more ih =>
    rw [firstMatch, Reading.bind_outcome, bind_eq_ok_iff] at h
    obtain ⟨found, haccept, hrest⟩ := h
    cases found with
    | none =>
      have hmore := ih hrest
      rw [List.filterMap_cons]
      split
      · exact hmore
      · exact hmore.cons _
    | some other =>
      cases hrest
      rw [List.filterMap_cons_some (nameAt?_of_accept haccept)]

theorem exists_error_of_failure? {outcome : String → Except Error String} {slot : Nat} {e : Error}
    (h : query.failure? outcome names slot = some e) : ∃ name, outcome name = .error e := by
  unfold failure? at h
  split at h
  · cases h
  next name hname =>
    split at h
    · cases h
    next d hd =>
      split at h
      · cases h
        exact ⟨name, hd⟩
      · cases h

/-- Looking for a match fails with the error of an entry. -/
theorem exists_error_of_firstMatch {outcome : String → Except Error String}
    (hload : LoadsAs load outcome names.names.toList) {slots : List Nat} {e : Error}
    (h : (query.firstMatch load names slots).outcome = .error e) :
    ∃ name, outcome name = .error e := by
  have hfirst := query.firstMatch_outcome_of_loadsAs hload slots
  rw [h] at hfirst
  have hmem : Except.error e ∈ query.toCome outcome names slots := by
    rw [hfirst]
    exact List.mem_singleton.2 rfl
  rcases List.mem_append.1 hmem with hname | herror
  · obtain ⟨_, -, hname⟩ := List.mem_map.1 hname
    cases hname
  · obtain ⟨d, hd, hde⟩ := List.mem_map.1 herror
    cases hde
    obtain ⟨slot, -, hslot⟩ := List.exists_of_findSome?_eq_some (Option.mem_toList.1 hd)
    exact exists_error_of_failure? hslot

end Compiled

/-! ## Steps -/

namespace Cursor

/-- The names that a cursor can still give, whatever becomes of the files. -/
def ahead (corpus : Corpus) (c : Cursor) : List String :=
  if c.state = .exhausted then []
  else
    match c.traversal with
    | .entries slot => corpus.names.drop slot
    | .query _ (some slots) => slots.filterMap corpus.index.names.nameAt?
    | .query _ none => corpus.names

theorem ahead_of_exhausted {c : Cursor} (h : c.state = .exhausted) : c.ahead corpus = [] := if_pos h

theorem ahead_eq (h : corpus.Remains after) (c : Cursor) : c.ahead after = c.ahead corpus := by
  rw [ahead, ahead, h.names_eq, h.names]

/-- One step of a cursor with these names ahead: what it gives, the state afterwards, and the names
ahead then. -/
inductive Proceeds : List String → Except Error (Option String) → CursorState → List String →
    Prop where
  /-- The cursor is at its end. -/
  | nothing {names : List String} : Proceeds names (.ok none) .exhausted []
  /-- One of the names is given. -/
  | name {names rest : List String} {name : String} (h : (name :: rest).Sublist names) :
      Proceeds names (.ok (some name)) .active rest
  /-- An entry cannot be read, and the cursor is at its end. -/
  | failure {names : List String} {e : Error} (h : e.OfEntry) :
      Proceeds names (.error e) .exhausted []

theorem Proceeds.mono {names more rest : List String} {result : Except Error (Option String)}
    {state : CursorState} (h : Proceeds names result state rest) (hsub : names.Sublist more) :
    Proceeds more result state rest := by
  cases h with
  | nothing => exact .nothing
  | name h => exact .name (h.trans hsub)
  | failure h => exact .failure h

theorem Proceeds.sublist {names rest : List String} {result : Except Error (Option String)}
    {state : CursorState} (h : Proceeds names result state rest) :
    ((Answer.advanced result).name?.toList ++ rest).Sublist names := by
  cases h with
  | nothing => exact List.nil_sublist _
  | name h => exact h
  | failure h => exact List.nil_sublist _

/-- A step that gives no name is the last one. -/
theorem Proceeds.exhausted {names rest : List String} {result : Except Error (Option String)}
    {state : CursorState} (h : Proceeds names result state rest) :
    (result = .ok none → state = .exhausted) ∧
      ∀ e, result = .error e → e.OfEntry ∧ state = .exhausted := by
  cases h with
  | nothing => exact ⟨fun _ => rfl, nofun⟩
  | name h => exact ⟨nofun, nofun⟩
  | failure h =>
    refine ⟨nofun, fun d hd => ?_⟩
    cases hd
    exact ⟨h, rfl⟩

theorem proceeds_stepEntries (corpus : Corpus) (c : Cursor) (slot : Nat) :
    let a := stepEntries corpus c slot
    a.corpus = some corpus ∧
      Proceeds (corpus.names.drop slot) a.result a.cursor.state (a.cursor.ahead corpus) := by
  cases hname : corpus.index.names.nameAt? slot with
  | none =>
    simp only [stepEntries, hname]
    rw [ahead_of_exhausted rfl]
    exact ⟨trivial, .nothing⟩
  | some name =>
    simp only [stepEntries, hname, Corpus.drop_names_of_nameAt? hname]
    exact ⟨trivial, .name (.refl _)⟩

theorem proceeds_stepSlots (hvalid : corpus.index.names.Valid) (tree : Tree) (c : Cursor)
    (query : Compiled) (asked : List String) (slots : List Nat) :
    let a := stepSlots tree corpus c query asked slots
    a.corpus = some corpus ∧
      Proceeds (slots.filterMap corpus.index.names.nameAt?) a.result a.cursor.state
        (a.cursor.ahead corpus) := by
  have hload := Corpus.loadsAs_get hvalid tree
  cases hfound : (query.firstMatch (corpus.load tree) corpus.index.names slots).outcome with
  | error e =>
    obtain ⟨name, hname⟩ := Compiled.exists_error_of_firstMatch hload hfound
    simp only [stepSlots, hfound]
    rw [ahead_of_exhausted rfl]
    exact ⟨trivial, .failure (Store.ofEntry_of_get _ _ _ hname)⟩
  | ok found =>
    cases found with
    | none =>
      simp only [stepSlots, hfound]
      rw [ahead_of_exhausted rfl]
      exact ⟨trivial, .nothing⟩
    | some next =>
      simp only [stepSlots, hfound]
      exact ⟨trivial, .name (Compiled.sublist_of_firstMatch hfound)⟩

/-- A step of a cursor gives one of the names ahead, or is the last one; and the corpus is what it
was. -/
theorem proceeds_advance (hvalid : corpus.index.names.Valid) (hkept : corpus.index.Kept)
    (tree : Tree) (c : Cursor) :
    let a := c.advance tree (some corpus)
    (∃ after, a.corpus = some after ∧ corpus.Grows after) ∧
      Proceeds (c.ahead corpus) a.result a.cursor.state (a.cursor.ahead corpus) := by
  by_cases hstate : c.state = .exhausted
  · simp only [advance_of_exhausted hstate, ahead_of_exhausted hstate, hstate]
    exact ⟨⟨corpus, rfl, Corpus.grows_refl hkept⟩, .nothing⟩
  · have hadvance : c.advance tree (some corpus) = c.step tree corpus := if_neg hstate
    rw [hadvance, ahead, if_neg hstate, step]
    cases c.traversal with
    | entries slot =>
      obtain ⟨hcorpus, hproceeds⟩ := proceeds_stepEntries corpus c slot
      exact ⟨⟨corpus, hcorpus, Corpus.grows_refl hkept⟩, hproceeds⟩
    | query query slots =>
      cases slots with
      | some slots =>
        obtain ⟨hcorpus, hproceeds⟩ := proceeds_stepSlots hvalid tree c query [] slots
        exact ⟨⟨corpus, hcorpus, Corpus.grows_refl hkept⟩, hproceeds⟩
      | none =>
        dsimp only
        rcases Corpus.candidates_of_kept hvalid hkept tree query with
          ⟨slots, index, hfound, hsorted, hgrows⟩ | ⟨e, hfound, he⟩
        · rw [hfound]
          obtain ⟨hcorpus, hproceeds⟩ := proceeds_stepSlots (hgrows.remains.names ▸ hvalid) tree c
            query (corpus.candidates tree query).asked slots
          refine ⟨⟨_, hcorpus, hgrows⟩, ?_⟩
          rw [ahead_eq hgrows.remains, hgrows.remains.names] at hproceeds
          exact hproceeds.mono (Compiled.filterMap_nameAt?_sublist _ hsorted)
        · rw [hfound]
          dsimp only
          rw [ahead_of_exhausted rfl]
          exact ⟨⟨corpus, rfl, Corpus.grows_refl hkept⟩, .failure he⟩

end Cursor

/-! ## Corpora that may have been closed -/

/-- There is no corpus, or it is what it was, with whatever trigram index. -/
def Growing (origin : Corpus) (handle : Handle) : Prop :=
  ∀ now, handle = some now → origin.Grows now

namespace Cursor

variable {origin : Corpus} {handle : Handle}

theorem growing_advance (hvalid : origin.index.names.Valid) (h : Growing origin handle)
    (tree : Tree) (c : Cursor) : Growing origin (c.advance tree handle).corpus := by
  cases handle with
  | none =>
    rw [advance_closed]
    exact nofun
  | some now =>
    have hgrows := h now rfl
    obtain ⟨⟨after, hafter, hgrows'⟩, -⟩ :=
      proceeds_advance (hgrows.remains.names ▸ hvalid) hgrows.kept tree c
    intro last hlast
    rw [hafter] at hlast
    cases hlast
    exact hgrows.trans hgrows'

/-- A name that is given was ahead. -/
theorem sublist_ahead_advance (hvalid : origin.index.names.Valid) (h : Growing origin handle)
    (tree : Tree) (c : Cursor) :
    let a := c.advance tree handle
    ((Answer.advanced a.result).name?.toList ++ a.cursor.ahead origin).Sublist
      (c.ahead origin) := by
  cases handle with
  | none =>
    rw [advance_closed]
    by_cases hstate : c.state = .exhausted
    · simp only [hstate, if_true]
      exact .refl _
    · simp only [hstate, if_false]
      exact .refl _
  | some now =>
    have hgrows := h now rfl
    obtain ⟨-, hproceeds⟩ := proceeds_advance (hgrows.remains.names ▸ hvalid) hgrows.kept tree c
    rw [ahead_eq hgrows.remains, ahead_eq hgrows.remains] at hproceeds
    exact hproceeds.sublist

end Cursor

end Concordance
