import Mathlib
import Concordance.Proofs.Except
import Concordance.Proofs.Index.Names

/-!
# Indexes of entries that cannot all be read

Reading an entry has an outcome, its content or an error, that is the same each time.  The trigram
index is built from the contents if there is no error; otherwise the first error is what comes of
building it.

* `LoadsAs` says what the outcomes are, `FirstFails` which error comes first.
* `NameIndex.built` is what comes of building the trigram index; `built_eq_error_iff` says when
  that is an error.
* `CorpusIndex.Keeps` says that a trigram index that is there is the one of the outcomes;
  `Keeps.trigramsFor` says that building it keeps this.
-/

namespace Concordance

open Concordance.Text

variable {ε : Type} {load : String → Reading ε String} {outcome : String → Except ε String}
  {names : List String} {e : ε}

/-- Reading the entries with these names has these outcomes. -/
def LoadsAs (load : String → Reading ε String) (outcome : String → Except ε String)
    (names : List String) : Prop :=
  ∀ name ∈ names, (load name).outcome = outcome name

/-- All entries with these names can be read. -/
def AllLoad (outcome : String → Except ε String) (names : List String) : Prop :=
  ∀ name ∈ names, ∃ content, outcome name = .ok content

/-- Not all entries with these names can be read, and the first that cannot has this error. -/
def FirstFails (outcome : String → Except ε String) (names : List String) (e : ε) : Prop :=
  ∃ before name after, names = before ++ name :: after ∧ AllLoad outcome before ∧
    outcome name = .error e

theorem firstFails_cons_of_error {name : String} (h : outcome name = .error e)
    (rest : List String) {d : ε} : FirstFails outcome (name :: rest) d ↔ d = e := by
  constructor
  · rintro ⟨before, failing, after, hsplit, hbefore, hfailing⟩
    cases before with
    | nil =>
      obtain ⟨rfl, -⟩ := List.cons.inj hsplit
      rw [h] at hfailing
      exact (Except.error.inj hfailing).symm
    | cons first before =>
      obtain ⟨rfl, -⟩ := List.cons.inj hsplit
      obtain ⟨content, hcontent⟩ := hbefore name (by simp)
      rw [h] at hcontent
      cases hcontent
  · rintro rfl
    exact ⟨[], name, rest, rfl, by simp [AllLoad], h⟩

theorem firstFails_cons_of_ok {name content : String} (h : outcome name = .ok content)
    (rest : List String) : FirstFails outcome (name :: rest) e ↔ FirstFails outcome rest e := by
  constructor
  · rintro ⟨before, failing, after, hsplit, hbefore, hfailing⟩
    cases before with
    | nil =>
      obtain ⟨rfl, -⟩ := List.cons.inj hsplit
      rw [h] at hfailing
      cases hfailing
    | cons first before =>
      obtain ⟨-, rfl⟩ := List.cons.inj hsplit
      exact ⟨before, failing, after, rfl, fun n hn => hbefore n (by simp [hn]), hfailing⟩
  · rintro ⟨before, failing, after, rfl, hbefore, hfailing⟩
    refine ⟨name :: before, failing, after, rfl, fun n hn => ?_, hfailing⟩
    rcases List.mem_cons.1 hn with rfl | hn
    · exact ⟨content, h⟩
    · exact hbefore n hn

theorem allLoad_or_firstFails (outcome : String → Except ε String) (names : List String) :
    AllLoad outcome names ∨ ∃ e, FirstFails outcome names e := by
  induction names with
  | nil => exact Or.inl (by simp [AllLoad])
  | cons name rest ih =>
    cases hname : outcome name with
    | error e => exact Or.inr ⟨e, (firstFails_cons_of_error hname rest).2 rfl⟩
    | ok content =>
      rcases ih with hall | ⟨e, he⟩
      · refine Or.inl fun n hn => ?_
        rcases List.mem_cons.1 hn with rfl | hn
        · exact ⟨content, hname⟩
        · exact hall n hn
      · exact Or.inr ⟨e, (firstFails_cons_of_ok hname rest).2 he⟩

/-- Entries that can all be read have contents. -/
theorem AllLoad.exists_content (h : AllLoad outcome names) :
    ∃ content : String → String, ∀ name ∈ names, outcome name = .ok (content name) := by
  refine ⟨fun name => (outcome name).toOption.getD "", fun name hname => ?_⟩
  obtain ⟨content, hcontent⟩ := h name hname
  simp only [hcontent]
  rfl

/-! ## Building the trigram index -/

namespace NameIndex

/-- Only the outcomes of reading count. -/
theorem readFrom_outcome (h : LoadsAs load outcome names) (slot : Nat) (trigrams : TrigramIndex) :
    (readFrom load slot names trigrams).outcome =
      (readFrom (.ask outcome) slot names trigrams).outcome := by
  induction names generalizing slot trigrams with
  | nil => rfl
  | cons name rest ih =>
    have hrest : LoadsAs load outcome rest := fun n hn => h n (by simp [hn])
    have hname : (load name).outcome = outcome name := h name (by simp)
    rw [readFrom, readFrom, Reading.bind_outcome, Reading.bind_outcome, hname]
    cases hcontent : outcome name with
    | error e => simp [Reading.ask, hcontent, Except.bind]
    | ok content =>
      simp only [Reading.ask, hcontent, Except.bind]
      exact ih hrest _ _

/-- Building fails with the first error. -/
theorem readFrom_eq_error_iff (slot : Nat) (trigrams : TrigramIndex) :
    (readFrom (.ask outcome) slot names trigrams).outcome = .error e ↔
      FirstFails outcome names e := by
  induction names generalizing slot trigrams with
  | nil =>
    constructor
    · intro h
      cases h
    · rintro ⟨before, name, after, hsplit, -⟩
      simp at hsplit
  | cons name rest ih =>
    rw [readFrom, Reading.bind_outcome, bind_eq_error_iff]
    cases hcontent : outcome name with
    | error d =>
      rw [firstFails_cons_of_error hcontent]
      simp [Reading.ask, hcontent, eq_comm]
    | ok content =>
      rw [firstFails_cons_of_ok hcontent]
      simp [Reading.ask, hcontent, ih]

/-- What comes of building the trigram index of some names. -/
def built (outcome : String → Except ε String) (index : NameIndex) : Except ε TrigramIndex :=
  (index.buildTrigrams (.ask outcome)).outcome

variable {index : NameIndex}

theorem buildTrigrams_outcome (h : LoadsAs load outcome index.names.toList) :
    (index.buildTrigrams load).outcome = index.built outcome :=
  readFrom_outcome h 0 .empty

theorem built_eq_error_iff :
    index.built outcome = .error e ↔ FirstFails outcome index.names.toList e :=
  readFrom_eq_error_iff 0 .empty

/-- A trigram index that could be built is the one of the contents. -/
theorem exists_contents_of_built {trigrams : TrigramIndex}
    (h : index.built outcome = .ok trigrams) :
    ∃ content, (∀ name ∈ index.names.toList, outcome name = .ok (content name)) ∧
      trigrams.Indexes (index.contents content) := by
  rcases allLoad_or_firstFails outcome index.names.toList with hall | ⟨e, hfails⟩
  · obtain ⟨content, hcontent⟩ := hall.exists_content
    have hloads : Loads (.ask outcome) content index.names.toList := hcontent
    rw [built, buildTrigrams_of_loads hloads] at h
    cases h
    exact ⟨content, hcontent, TrigramIndex.indexes_ofContents _⟩
  · rw [built_eq_error_iff.2 hfails] at h
    cases h

end NameIndex

namespace CorpusIndex

/-- The trigram index, if it is there, is what comes of building it. -/
def Keeps (outcome : String → Except ε String) (index : CorpusIndex) : Prop :=
  ∀ trigrams, index.trigrams = some trigrams → index.names.built outcome = .ok trigrams

theorem keeps_ofNames (outcome : String → Except ε String) (order : SortOrder)
    (names : List String) : (ofNames order names).Keeps outcome := by
  intro trigrams h
  cases h

variable {index : CorpusIndex}

/-- It makes no difference whether the trigram index has been built before. -/
theorem Keeps.trigramsFor (h : index.Keeps outcome)
    (hload : LoadsAs load outcome index.names.names.toList) :
    ∃ after, after.names = index.names ∧ after.Keeps outcome ∧
      (index.trigramsFor load).outcome =
        (index.names.built outcome).map fun trigrams => (trigrams, after) := by
  unfold CorpusIndex.trigramsFor
  cases hthere : index.trigrams with
  | some trigrams =>
    refine ⟨index, rfl, h, ?_⟩
    rw [h trigrams hthere]
    rfl
  | none =>
    have hbuild := NameIndex.buildTrigrams_outcome hload
    cases hbuilt : index.names.built outcome with
    | error e =>
      refine ⟨index, rfl, h, ?_⟩
      rw [Reading.bind_outcome, hbuild, hbuilt]
      rfl
    | ok trigrams =>
      refine ⟨{ index with trigrams := some trigrams }, rfl, ?_, ?_⟩
      · intro other hother
        cases hother
        exact hbuilt
      · rw [Reading.bind_outcome, hbuild, hbuilt]
        rfl

end CorpusIndex

end Concordance
