import Mathlib
import Concordance.Corpus.Search
import Concordance.Proofs.Ascending
import Concordance.Proofs.Index.Names
import Concordance.Proofs.Program.Plan
import Concordance.Proofs.Program.View

/-!
# Searching finds all matches

The slots of a plan increase, and they leave out no entry that the plan may find.  So the entries
at these slots that match a query are all entries that match it, in their order.

* `Plan.Located` says what the slots of a plan are; `Plan.exists_slots` gives them.
* `Compiled.matchAt` is the entry at a slot if it matches.
* `filterMap_matchAt` says that checking the slots of a plan finds what checking all entries finds.
-/

namespace Concordance

open Concordance.Text

variable {ε : Type} {load : String → Reading ε String} {content : String → String}
  {index after : CorpusIndex}

/-! ## Slots of plans -/

namespace Plan

/-- The slots leave out no entry that the plan may find, and the indexes afterwards are those of
the same entries. -/
structure Located (content : String → String) (index : CorpusIndex)
    (finds : String → String → Prop) (found : List Nat) (after : CorpusIndex) : Prop where
  /-- The names stay the same. -/
  names : after.names = index.names
  /-- The indexes stay those of the entries. -/
  agrees : after.Agrees content
  /-- There are entries at the slots. -/
  inRange : ∀ slot ∈ found, slot < index.names.size
  /-- No entry is left out. -/
  complete : ∀ slot name, index.names.nameAt? slot = some name → finds name (content name) →
    slot ∈ found

theorem mem_slots {slot : Nat} : slot ∈ index.slots ↔ slot < index.names.size := by
  rw [CorpusIndex.slots, List.mem_range]

/-- All entries leave out none. -/
theorem located_slots (hafter : after.names = index.names) (hagrees : after.Agrees content)
    (finds : String → String → Prop) : Located content index finds after.slots after := by
  refine ⟨hafter, hagrees, fun slot hslot => ?_, fun slot name hname _ => ?_⟩
  · rw [← hafter]
    exact mem_slots.1 hslot
  · rw [mem_slots, hafter]
    exact NameIndex.nameAt?_lt hname

/-- Looking up a literal leaves out no entry that contains it. -/
theorem exists_slotsWith (h : index.Agrees content)
    (hload : Loads load content index.names.names.toList) (part : String) :
    ∃ found after, (index.slotsWith load part).outcome = .ok (found, after) ∧
      found.Pairwise (· < ·) ∧
      Located content index (fun name content => (Plan.literal part).Finds name content) found
        after := by
  obtain ⟨trigrams, after, houtcome, hindexes, hnames, hagrees⟩ := h.trigramsFor hload
  have hslots : (index.slotsWith load part).outcome =
      .ok ((trigrams.candidates? part).getD after.slots, after) := by
    rw [CorpusIndex.slotsWith, Reading.bind_outcome, houtcome]
    rfl
  refine ⟨_, after, hslots, ?_⟩
  rw [hindexes.candidates?_eq, NameIndex.length_contents]
  by_cases hshort : (utf8 part).length < 3
  · rw [if_pos hshort]
    exact ⟨List.pairwise_lt_range, located_slots hnames hagrees _⟩
  · rw [if_neg hshort]
    refine ⟨List.pairwise_lt_range.filter _, hnames, hagrees, fun slot hslot => ?_,
      fun slot name hname hfinds => ?_⟩
    · exact List.mem_range.1 (List.mem_filter.1 hslot).1
    · have hinfix : utf8 part <:+: utf8 (content name) := hfinds
      have hsubset : windows (utf8 part) ⊆
          windows ((index.names.contents content).getD slot []) := by
        rw [NameIndex.getD_contents hname]
        exact windows_subset hinfix
      refine List.mem_filter.2 ⟨List.mem_range.2 (NameIndex.nameAt?_lt hname), ?_⟩
      simpa using hsubset

variable {trigrams : Bool}

/-- What several plans find, one after the other. -/
theorem exists_slotsOfEach {parts : List Plan}
    (ih : ∀ p ∈ parts, ∀ index : CorpusIndex, index.Agrees content →
      Loads load content index.names.names.toList →
      ∃ found after, (p.slots trigrams load index).outcome = .ok (found, after) ∧
        found.Pairwise (· < ·) ∧
        Located content index (fun name content => p.Finds name content) found after)
    (h : index.Agrees content) (hload : Loads load content index.names.names.toList) :
    ∃ found after, (slotsOfEach trigrams load parts index).outcome = .ok (found, after) ∧
      Located content index (fun name content => FindsOne name content parts) found after := by
  induction parts generalizing index with
  | nil => exact ⟨[], index, rfl, rfl, h, by simp, fun _ _ _ hfinds => False.elim hfinds⟩
  | cons p rest ihr =>
    obtain ⟨found, between, hfound, -, hp⟩ := ih p (by simp) index h hload
    rw [← hp.names] at hload
    obtain ⟨more, after, hmore, hrest⟩ :=
      ihr (fun q hq => ih q (by simp [hq])) hp.agrees hload
    refine ⟨found ++ more, after, ?_, hrest.names.trans hp.names, hrest.agrees,
      fun slot hslot => ?_, fun slot name hname hfinds => ?_⟩
    · rw [slotsOfEach, Reading.bind_outcome, hfound]
      show Except.bind _ _ = _
      rw [Except.bind, Reading.bind_outcome, hmore]
      rfl
    · rcases List.mem_append.1 hslot with hslot | hslot
      · exact hp.inRange slot hslot
      · rw [← hp.names]
        exact hrest.inRange slot hslot
    · rcases hfinds with hfinds | hfinds
      · exact List.mem_append_left _ (hp.complete slot name hname hfinds)
      · rw [← hp.names] at hname
        exact List.mem_append_right _ (hrest.complete slot name hname hfinds)

/-- The slots of a plan increase, and they leave out no entry that the plan may find. -/
theorem exists_slots (trigrams : Bool) (p : Plan) (index : CorpusIndex) (h : index.Agrees content)
    (hload : Loads load content index.names.names.toList) :
    ∃ found after, (p.slots trigrams load index).outcome = .ok (found, after) ∧
      found.Pairwise (· < ·) ∧
      Located content index (fun name content => p.Finds name content) found after := by
  induction p generalizing index with
  | all => exact ⟨index.slots, index, rfl, List.pairwise_lt_range, located_slots rfl h _⟩
  | nothing =>
    exact ⟨[], index, rfl, List.Pairwise.nil, rfl, h, by simp, fun _ _ _ hf => False.elim hf⟩
  | name wanted =>
    refine ⟨(index.names.slot? wanted).toList, index, rfl, ?_, rfl, h, fun slot hslot => ?_,
      fun slot name hname hfinds => ?_⟩
    · cases index.names.slot? wanted <;> simp
    · exact NameIndex.nameAt?_lt ((h.valid wanted slot).1 (Option.mem_toList.1 hslot))
    · have heq : name = wanted := hfinds
      exact Option.mem_toList.2 (heq ▸ (h.valid name slot).2 hname)
  | literal part =>
    cases trigrams with
    | true => exact exists_slotsWith h hload part
    | false => exact ⟨index.slots, index, rfl, List.pairwise_lt_range, located_slots rfl h _⟩
  | union parts ih =>
    obtain ⟨found, after, hfound, hlocated⟩ := exists_slotsOfEach ih h hload
    refine ⟨ascending found, after, ?_, pairwise_ascending found, hlocated.names, hlocated.agrees,
      fun slot hslot => ?_, fun slot name hname hfinds => ?_⟩
    · rw [slots, Reading.bind_outcome, hfound]
      rfl
    · exact hlocated.inRange slot (mem_ascending.1 hslot)
    · exact mem_ascending.2 (hlocated.complete slot name hname hfinds)

end Plan

/-! ## Matches -/

namespace Compiled

variable {query : Compiled} {names : NameIndex} {slots : List Nat}

/-- The name of the entry at a slot, if the query holds for it. -/
def matchAt (query : Compiled) (content : String → String) (names : NameIndex) (slot : Nat) :
    Option String :=
  (names.nameAt? slot).filter fun name => query.expr.holds name (content name)

/-- The names of all entries for which the query holds, in their order. -/
def matchingNames (query : Compiled) (content : String → String) (names : NameIndex) :
    List String :=
  names.names.toList.filter fun name => query.expr.holds name (content name)

/-- An entry is accepted if the query holds for it. -/
theorem accept_outcome (hload : Loads load content names.names.toList) (slot : Nat) :
    (query.accept load names slot).outcome = .ok (query.matchAt content names slot) := by
  unfold accept matchAt
  cases hname : names.nameAt? slot with
  | none => rfl
  | some name =>
    obtain ⟨v, hrun⟩ := View.exists_execute_of_load
      (hload name (NameIndex.mem_names_of_nameAt? hname)) query.expr
    rw [← query.program_eq] at hrun
    rw [Reading.bind_outcome, hrun, Option.filter_some]
    rfl

theorem allMatches_outcome (hload : Loads load content names.names.toList) (slots : List Nat) :
    (query.allMatches load names slots).outcome =
      .ok (slots.filterMap (query.matchAt content names)) := by
  induction slots with
  | nil => rfl
  | cons slot rest ih =>
    rw [allMatches, Reading.bind_outcome, accept_outcome hload]
    show Except.bind _ _ = _
    rw [Except.bind, Reading.bind_outcome, ih, List.filterMap_cons]
    cases query.matchAt content names slot <;> rfl

/-- The first match among some slots, with the slots behind it. -/
def nextMatch (query : Compiled) (content : String → String) (names : NameIndex) :
    List Nat → Option (String × List Nat)
  | [] => none
  | slot :: rest =>
    match query.matchAt content names slot with
    | some name => some (name, rest)
    | none => nextMatch query content names rest

theorem firstMatch_outcome (hload : Loads load content names.names.toList) (slots : List Nat) :
    (query.firstMatch load names slots).outcome = .ok (query.nextMatch content names slots) := by
  induction slots with
  | nil => rfl
  | cons slot rest ih =>
    rw [firstMatch, Reading.bind_outcome, accept_outcome hload, nextMatch]
    cases query.matchAt content names slot with
    | none => exact ih
    | some name => rfl

theorem filterMap_of_nextMatch_eq_none (h : query.nextMatch content names slots = none) :
    slots.filterMap (query.matchAt content names) = [] := by
  induction slots with
  | nil => rfl
  | cons slot rest ih =>
    rw [nextMatch] at h
    cases hslot : query.matchAt content names slot with
    | none =>
      rw [hslot] at h
      rw [List.filterMap_cons_none hslot, ih h]
    | some name => simp [hslot] at h

theorem filterMap_of_nextMatch_eq_some {name : String} {rest : List Nat}
    (h : query.nextMatch content names slots = some (name, rest)) :
    slots.filterMap (query.matchAt content names) =
      name :: rest.filterMap (query.matchAt content names) := by
  induction slots with
  | nil => simp [nextMatch] at h
  | cons slot more ih =>
    rw [nextMatch] at h
    cases hslot : query.matchAt content names slot with
    | none =>
      rw [hslot] at h
      rw [List.filterMap_cons_none hslot, ih h]
    | some found =>
      simp only [hslot, Option.some.injEq, Prod.mk.injEq] at h
      obtain ⟨rfl, rfl⟩ := h
      rw [List.filterMap_cons_some hslot]

theorem filterMap_range_matchAt (query : Compiled) (content : String → String)
    (names : NameIndex) :
    (List.range names.size).filterMap (query.matchAt content names) =
      query.matchingNames content names := by
  have hmatch : query.matchAt content names =
      (Option.filter fun name => query.expr.holds name (content name)) ∘ names.nameAt? := rfl
  rw [hmatch, ← List.filterMap_map, names.map_nameAt?_range, List.filterMap_map, matchingNames,
    ← List.filterMap_eq_filter]
  rfl

/-- Checking slots that leave out no match finds what checking all entries finds. -/
theorem filterMap_matchAt (hsorted : slots.Pairwise (· < ·))
    (hrange : ∀ slot ∈ slots, slot < names.size)
    (hcomplete : ∀ slot name, names.nameAt? slot = some name →
      query.expr.holds name (content name) = true → slot ∈ slots) :
    slots.filterMap (query.matchAt content names) = query.matchingNames content names := by
  have hslots : slots = (List.range names.size).filter fun slot => slot ∈ slots := by
    refine eq_of_pairwise_lt hsorted (List.pairwise_lt_range.filter _) fun slot => ?_
    rw [List.mem_filter, List.mem_range, decide_eq_true_eq]
    exact ⟨fun h => ⟨hrange slot h, h⟩, fun h => h.2⟩
  rw [← filterMap_range_matchAt, hslots, List.filterMap_filter]
  refine List.filterMap_congr fun slot _ => ?_
  by_cases hmem : slot ∈ slots
  · simp [hmem]
  · have hnone : query.matchAt content names slot = none := by
      unfold matchAt
      cases hname : names.nameAt? slot with
      | none => rfl
      | some name =>
        rw [Option.filter_some, if_neg fun hholds => hmem (hcomplete slot name hname hholds)]
    simp [hmem, hnone]

end Compiled

/-! ## Corpora -/

namespace Corpus

variable {tree : Tree} {c : Corpus}

/-- The candidates of a query give its matches, and the indexes stay those of the entries. -/
theorem exists_candidates (hagrees : c.index.Agrees content)
    (hload : Loads (c.load tree) content c.index.names.names.toList) (query : Compiled) :
    ∃ found after, (c.candidates tree query).outcome = .ok (found, after) ∧
      after.names = c.index.names ∧ after.Agrees content ∧
      found.filterMap (query.matchAt content c.index.names) =
        query.matchingNames content c.index.names := by
  obtain ⟨found, after, houtcome, hsorted, hlocated⟩ :=
    Plan.exists_slots c.settings.trigrams query.plan c.index hagrees hload
  refine ⟨found, after, houtcome, hlocated.names, hlocated.agrees,
    Compiled.filterMap_matchAt hsorted hlocated.inRange fun slot name hname hholds => ?_⟩
  have hfinds := query.expr.finds_plan hholds
  rw [← query.plan_eq] at hfinds
  exact hlocated.complete slot name hname hfinds

/-- A search finds the names of all entries for which the query holds, in their order. -/
theorem search_outcome (hagrees : c.index.Agrees content)
    (hload : Loads (c.load tree) content c.index.names.names.toList) (query : Compiled) :
    (c.search tree query).outcome = .ok (query.matchingNames content c.index.names) := by
  obtain ⟨found, after, houtcome, -, -, hmatches⟩ := exists_candidates hagrees hload query
  rw [search, Reading.bind_outcome, houtcome]
  show Reading.outcome _ = _
  rw [Compiled.allMatches_outcome hload, hmatches]

end Corpus

end Concordance
