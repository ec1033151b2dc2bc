import Mathlib
import Concordance.Proofs.Index.Outcomes

/-!
# The trigram index is built whole, and once

The trigram index is built when it is first needed, by reading all entries in slot order.  A failure
ends this, and nothing of it is kept, so the next call begins anew.  Once a call has read all
entries, no later call reads any.

* `NameIndex.readFrom_of_contents` and `NameIndex.readFrom_of_failure` say what reading entries
  comes to and which of them are asked for.
* `CorpusIndex.afterCall` are the indexes that a call leaves, `CorpusIndex.afterCalls` those that
  several calls leave one after another.
* `CorpusIndex.afterCall_of_failing`, `afterCall_of_contents` and `afterCall_of_some` are one call;
  `isSome_afterCalls`, `afterCalls_without` and `afterCalls_of_contents` are about several.
-/

namespace Concordance

open Concordance.Text

variable {ε : Type} {load : String → Except ε String} {content : String → String}
  {names before behind : List String} {name : String} {e : ε}

/-! ## Reading entries in a row -/

namespace NameIndex

/-- Entries that can all be read are asked for once each, in their order. -/
theorem readFrom_of_contents (h : ∀ name ∈ names, load name = .ok (content name)) (slot : Nat)
    (trigrams : TrigramIndex) :
    readFrom (.ask load) slot names trigrams =
      ⟨.ok (trigrams.addFrom slot (names.map fun name => utf8 (content name))), names⟩ := by
  induction names generalizing slot trigrams with
  | nil => rfl
  | cons name rest ih =>
    obtain ⟨hname, hrest⟩ := List.forall_mem_cons.1 h
    rw [readFrom, Reading.ask, hname, Reading.bind_ok, ih hrest]
    rfl

/-- The first entry that cannot be read is the last that is asked for. -/
theorem readFrom_of_failure (h : AllLoad load before) (he : load name = .error e) (slot : Nat)
    (trigrams : TrigramIndex) :
    readFrom (.ask load) slot (before ++ name :: behind) trigrams =
      ⟨.error e, before ++ [name]⟩ := by
  induction before generalizing slot trigrams with
  | nil =>
    rw [List.nil_append, readFrom, Reading.ask, he]
    rfl
  | cons first rest ih =>
    obtain ⟨⟨text, hfirst⟩, hrest⟩ := List.forall_mem_cons.1 h
    rw [List.cons_append, readFrom, Reading.ask, hfirst, Reading.bind_ok, ih hrest]
    rfl

end NameIndex

/-! ## One call -/

namespace CorpusIndex

variable {index : CorpusIndex} {trigrams : TrigramIndex}

/-- The indexes after a call for the trigram index: those that it gives, and the same as before if
it fails. -/
def afterCall (index : CorpusIndex) (load : String → Except ε String) : CorpusIndex :=
  match (index.trigramsFor (.ask load)).outcome with
  | .ok (_, later) => later
  | .error _ => index

/-- A trigram index that is there is given, and no entry is read. -/
theorem trigramsFor_of_some (h : index.trigrams = some trigrams)
    (load : String → Reading ε String) : index.trigramsFor load = pure (trigrams, index) := by
  unfold trigramsFor
  rw [h]

/-- If all entries can be read, the trigram index is that of their contents. -/
theorem trigramsFor_of_contents (hnone : index.trigrams = none)
    (h : ∀ name ∈ index.names.names.toList, load name = .ok (content name)) :
    let trigrams := TrigramIndex.ofContents (index.names.contents content)
    index.trigramsFor (.ask load) =
      ⟨.ok (trigrams, { index with trigrams := some trigrams }), index.names.names.toList⟩ := by
  unfold trigramsFor
  rw [hnone]
  show (index.names.buildTrigrams (.ask load) >>= _) = _
  rw [NameIndex.buildTrigrams, NameIndex.readFrom_of_contents h, Reading.bind_ok]
  exact congrArg (Reading.mk _) (List.append_nil _)

/-- If some entry cannot be read, the call fails as the first such entry does. -/
theorem trigramsFor_of_failure (hnone : index.trigrams = none)
    (hsplit : index.names.names.toList = before ++ name :: behind) (h : AllLoad load before)
    (he : load name = .error e) :
    index.trigramsFor (.ask load) = ⟨.error e, before ++ [name]⟩ := by
  unfold trigramsFor
  rw [hnone]
  show (index.names.buildTrigrams (.ask load) >>= _) = _
  rw [NameIndex.buildTrigrams, hsplit, NameIndex.readFrom_of_failure h he]
  rfl

theorem afterCall_of_some (h : index.trigrams = some trigrams)
    (load : String → Except ε String) : index.afterCall load = index := by
  rw [afterCall, trigramsFor_of_some h]
  rfl

theorem afterCall_of_contents (hnone : index.trigrams = none)
    (h : ∀ name ∈ index.names.names.toList, load name = .ok (content name)) :
    index.afterCall load =
      { index with trigrams := some (.ofContents (index.names.contents content)) } := by
  rw [afterCall, trigramsFor_of_contents hnone h]

/-- A call that cannot read all entries leaves everything as it was. -/
theorem afterCall_of_failing (h : ¬ AllLoad load index.names.names.toList) :
    index.afterCall load = index := by
  cases hthere : index.trigrams with
  | some trigrams => exact afterCall_of_some hthere load
  | none =>
    obtain ⟨e, before, name, behind, hsplit, hbefore, he⟩ :=
      (allLoad_or_firstFails load index.names.names.toList).resolve_left h
    rw [afterCall, trigramsFor_of_failure hthere hsplit hbefore he]

/-- A call leaves the indexes as they were, or it has read all entries and adds the trigram
index. -/
theorem afterCall_cases (index : CorpusIndex) (load : String → Except ε String) :
    index.afterCall load = index ∧
      (index.trigrams.isSome = true ∨ ¬ AllLoad load index.names.names.toList) ∨
    AllLoad load index.names.names.toList ∧
      ∃ trigrams, index.afterCall load = { index with trigrams := some trigrams } := by
  cases hthere : index.trigrams with
  | some trigrams => exact Or.inl ⟨afterCall_of_some hthere load, Or.inl rfl⟩
  | none =>
    by_cases hall : AllLoad load index.names.names.toList
    · obtain ⟨content, hcontent⟩ := hall.exists_content
      exact Or.inr ⟨hall, _, afterCall_of_contents hthere hcontent⟩
    · exact Or.inl ⟨afterCall_of_failing hall, Or.inr hall⟩

theorem names_afterCall (index : CorpusIndex) (load : String → Except ε String) :
    (index.afterCall load).names = index.names := by
  rcases afterCall_cases index load with ⟨hsame, -⟩ | ⟨-, trigrams, hbuilt⟩
  · rw [hsame]
  · rw [hbuilt]

/-- After a call the trigram index is there if it was before or if all entries could be read. -/
theorem isSome_afterCall (index : CorpusIndex) (load : String → Except ε String) :
    (index.afterCall load).trigrams.isSome = true ↔
      index.trigrams.isSome = true ∨ AllLoad load index.names.names.toList := by
  rcases afterCall_cases index load with ⟨hsame, hthere | hfailing⟩ | ⟨hall, trigrams, hbuilt⟩
  · rw [hsame]
    exact (or_iff_left_of_imp fun _ => hthere).symm
  · rw [hsame]
    exact (or_iff_left hfailing).symm
  · rw [hbuilt]
    exact iff_of_true rfl (Or.inr hall)

/-! ## Several calls -/

/-- The indexes after some calls, one after another. -/
def afterCalls (index : CorpusIndex) (loads : List (String → Except ε String)) : CorpusIndex :=
  loads.foldl afterCall index

variable {loads : List (String → Except ε String)}

theorem afterCalls_append (index : CorpusIndex) (loads more : List (String → Except ε String)) :
    index.afterCalls (loads ++ more) = (index.afterCalls loads).afterCalls more :=
  List.foldl_append

theorem names_afterCalls (index : CorpusIndex) (loads : List (String → Except ε String)) :
    (index.afterCalls loads).names = index.names := by
  induction loads generalizing index with
  | nil => rfl
  | cons load rest ih => exact (ih (index.afterCall load)).trans (names_afterCall index load)

/-- The trigram index is there once a call could read all entries. -/
theorem isSome_afterCalls (index : CorpusIndex) (loads : List (String → Except ε String)) :
    (index.afterCalls loads).trigrams.isSome = true ↔
      index.trigrams.isSome = true ∨ ∃ load ∈ loads, AllLoad load index.names.names.toList := by
  induction loads generalizing index with
  | nil => simp [afterCalls]
  | cons load rest ih =>
    have hrest := ih (index.afterCall load)
    rw [names_afterCall, isSome_afterCall] at hrest
    rw [List.exists_mem_cons_iff, ← or_assoc]
    exact hrest

theorem afterCalls_of_some (h : index.trigrams = some trigrams)
    (loads : List (String → Except ε String)) : index.afterCalls loads = index := by
  induction loads with
  | nil => rfl
  | cons load rest ih =>
    show (index.afterCall load).afterCalls rest = index
    rw [afterCall_of_some h, ih]

/-- Without a call that can read all entries everything stays as it was. -/
theorem afterCalls_of_failing (h : ∀ load ∈ loads, ¬ AllLoad load index.names.names.toList) :
    index.afterCalls loads = index := by
  induction loads with
  | nil => rfl
  | cons load rest ih =>
    obtain ⟨hload, hrest⟩ := List.forall_mem_cons.1 h
    show (index.afterCall load).afterCalls rest = index
    rw [afterCall_of_failing hload, ih hrest]

/-- A call that cannot read all entries might as well not have been made. -/
theorem afterCalls_without {before behind : List (String → Except ε String)}
    (h : ¬ AllLoad load index.names.names.toList) :
    index.afterCalls (before ++ load :: behind) = index.afterCalls (before ++ behind) := by
  rw [← names_afterCalls index before] at h
  rw [afterCalls_append, afterCalls_append]
  show ((index.afterCalls before).afterCall load).afterCalls behind = _
  rw [afterCall_of_failing h]

/-- The first call that can read all entries decides on the trigram index. -/
theorem afterCalls_of_contents {before behind : List (String → Except ε String)}
    (hnone : index.trigrams = none)
    (hbefore : ∀ earlier ∈ before, ¬ AllLoad earlier index.names.names.toList)
    (h : ∀ name ∈ index.names.names.toList, load name = .ok (content name)) :
    index.afterCalls (before ++ load :: behind) =
      { index with trigrams := some (.ofContents (index.names.contents content)) } := by
  rw [afterCalls_append, afterCalls_of_failing hbefore]
  show (index.afterCall load).afterCalls behind = _
  rw [afterCall_of_contents hnone h]
  exact afterCalls_of_some rfl behind

end CorpusIndex

end Concordance
