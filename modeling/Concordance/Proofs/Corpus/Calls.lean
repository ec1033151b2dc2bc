import Mathlib
import Concordance.Proofs.Corpus.Confined
import Concordance.Proofs.Index.Building

/-!
# Where the trigram index of a reader comes from

A cursor for a query calls for the trigram index when it is first advanced, if its query needs the
index and the settings allow it.  Nothing else that is done with a reader changes the index.

* `CorpusIndex.LooksUp` says of a reading whether it is a call; `LooksUp.bind` goes from the parts
  of a reading to the whole, `Plan.looksUp_slots` is about plans.
* `Cursor.Calls` says that the next step of a cursor is a call, `Cursor.corpus_step_of_calls` and
  `Cursor.corpus_step_of_not_calls` what it leaves of the corpus.
* `Corpus.CalledAt` says that a corpus is as calls at some times leave it;
  `Run.exists_calls_after` that the corpus of a reader is, in any state of it.
* `CorpusIndex.trigrams_built_once` is the statement about calls with any loaders, and about those
  of a reader.
-/

namespace Concordance

variable {ε α β : Type}

/-! ## Looking up plans -/

namespace CorpusIndex

variable {needed more : Prop} {index : CorpusIndex} {outcome : String → Except ε String}
  {load : String → Reading ε String}

/-- The reading is a call for the trigram index if that is needed, and leaves the indexes alone
otherwise. -/
structure LooksUp (needed : Prop) (outcome : String → Except ε String) (index : CorpusIndex)
    (r : Reading ε (α × CorpusIndex)) : Prop where
  /-- It leaves the indexes that a call leaves. -/
  called : needed → ∀ found, r.outcome = .ok found → found.2 = index.afterCall outcome
  /-- It leaves them as they were. -/
  alone : ¬ needed → ∀ found, r.outcome = .ok found → found.2 = index
  /-- It fails only as a call, if not all entries can be read. -/
  failure : ∀ e, r.outcome = .error e → needed ∧ ¬ AllLoad outcome index.names.names.toList

theorem looksUp_pure (a : α) : LooksUp False outcome index (pure (a, index)) := by
  refine ⟨nofun, ?_, nofun⟩
  rintro - found hfound
  cases hfound
  rfl

theorem LooksUp.names {r : Reading ε (α × CorpusIndex)} (h : LooksUp needed outcome index r)
    {found : α × CorpusIndex} (hfound : r.outcome = .ok found) : found.2.names = index.names := by
  by_cases hneeded : needed
  · rw [h.called hneeded found hfound, names_afterCall]
  · rw [h.alone hneeded found hfound]

/-- A second call with the same outcomes changes nothing. -/
theorem afterCall_afterCall (index : CorpusIndex) (outcome : String → Except ε String) :
    (index.afterCall outcome).afterCall outcome = index.afterCall outcome := by
  rcases afterCall_cases index outcome with ⟨hsame, -⟩ | ⟨-, trigrams, hbuilt⟩
  · rw [hsame, hsame]
  · rw [hbuilt]
    exact afterCall_of_some rfl outcome

/-- Two readings, one after another, are a call if one of them is, and no more than one call. -/
theorem LooksUp.bind {r : Reading ε (α × CorpusIndex)}
    {f : α × CorpusIndex → Reading ε (β × CorpusIndex)} (h : LooksUp needed outcome index r)
    (hf : ∀ found, found.2.names = index.names → LooksUp more outcome found.2 (f found)) :
    LooksUp (needed ∨ more) outcome index (r >>= f) := by
  refine ⟨?_, ?_, ?_⟩
  · intro hor last hlast
    rw [Reading.bind_outcome] at hlast
    obtain ⟨found, hfound, hlast⟩ := bind_eq_ok_iff.1 hlast
    have hnext := hf found (h.names hfound)
    by_cases hneeded : needed
    · rw [← h.called hneeded found hfound]
      by_cases hmore : more
      · rw [hnext.called hmore last hlast, h.called hneeded found hfound, afterCall_afterCall]
      · exact hnext.alone hmore last hlast
    · rw [hnext.called (hor.resolve_left hneeded) last hlast, h.alone hneeded found hfound]
  · intro hnot last hlast
    rw [Reading.bind_outcome] at hlast
    obtain ⟨found, hfound, hlast⟩ := bind_eq_ok_iff.1 hlast
    have hnext := hf found (h.names hfound)
    obtain ⟨hneeded, hmore⟩ := not_or.1 hnot
    rw [hnext.alone hmore last hlast, h.alone hneeded found hfound]
  · intro e he
    rw [Reading.bind_outcome] at he
    rcases bind_eq_error_iff.1 he with he | ⟨found, hfound, he⟩
    · exact ⟨Or.inl (h.failure e he).1, (h.failure e he).2⟩
    · have hnext := (hf found (h.names hfound)).failure e he
      rw [h.names hfound] at hnext
      exact ⟨Or.inr hnext.1, hnext.2⟩

/-- What is found may be turned into something else. -/
theorem LooksUp.bind_pure {r : Reading ε (α × CorpusIndex)}
    {f : α × CorpusIndex → Reading ε (β × CorpusIndex)} (h : LooksUp needed outcome index r)
    (hf : ∀ found, ∃ b, f found = pure (b, found.2)) : LooksUp needed outcome index (r >>= f) := by
  rw [← or_false needed]
  apply h.bind
  intro found _
  obtain ⟨b, hb⟩ := hf found
  rw [hb]
  exact looksUp_pure b

/-- Only the outcomes of reading count for a call. -/
theorem trigramsFor_outcome (hload : LoadsAs load outcome index.names.names.toList) :
    (index.trigramsFor load).outcome = (index.trigramsFor (.ask outcome)).outcome := by
  unfold trigramsFor
  split
  · rfl
  · rw [Reading.bind_outcome, Reading.bind_outcome, NameIndex.buildTrigrams_outcome hload]
    rfl

theorem looksUp_trigramsFor (hload : LoadsAs load outcome index.names.names.toList) :
    LooksUp True outcome index (index.trigramsFor load) := by
  refine ⟨?_, fun h => absurd trivial h, ?_⟩
  · intro _ found hfound
    rw [trigramsFor_outcome hload] at hfound
    rw [afterCall, hfound]
  · intro e he
    refine ⟨trivial, ?_⟩
    intro hall
    obtain ⟨content, hcontent⟩ := hall.exists_content
    rw [trigramsFor_outcome hload] at he
    cases hthere : index.trigrams with
    | some trigrams =>
      rw [trigramsFor_of_some hthere] at he
      cases he
    | none =>
      rw [trigramsFor_of_contents hthere hcontent] at he
      cases he

end CorpusIndex

open CorpusIndex (LooksUp looksUp_pure)

/-- To look up a plan is a call if the plan looks up a literal and the trigram index is used. -/
theorem Plan.looksUp_slots {outcome : String → Except ε String} {load : String → Reading ε String}
    (trigrams : Bool) (p : Plan) {index : CorpusIndex}
    (hload : LoadsAs load outcome index.names.names.toList) :
    LooksUp (trigrams = true ∧ p.HasLiteral) outcome index (p.slots trigrams load index) := by
  have hnone : ∀ {needed : Prop} {index : CorpusIndex} {slots : List Nat}, ¬ needed →
      LooksUp needed outcome index (pure (slots, index)) := by
    intro needed index slots hneeded
    rw [eq_false hneeded]
    exact looksUp_pure slots
  induction p generalizing index with
  | all => exact hnone (by rintro ⟨-, ⟨⟩⟩)
  | nothing => exact hnone (by rintro ⟨-, ⟨⟩⟩)
  | name wanted => exact hnone (by rintro ⟨-, ⟨⟩⟩)
  | literal part =>
    rw [slots]
    cases trigrams with
    | false => exact hnone fun h => Bool.false_ne_true h.1
    | true =>
      rw [eq_true (⟨rfl, .literal part⟩ : true = true ∧ (Plan.literal part).HasLiteral)]
      exact (CorpusIndex.looksUp_trigramsFor hload).bind_pure fun _ => ⟨_, rfl⟩
  | union parts ih =>
    have heach : LooksUp (trigrams = true ∧ ∃ p ∈ parts, p.HasLiteral) outcome index
        (slotsOfEach trigrams load parts index) := by
      induction parts generalizing index with
      | nil => exact hnone (by simp)
      | cons p rest ihr =>
        rw [List.exists_mem_cons_iff, and_or_left]
        apply (ih p (by simp) hload).bind
        intro found hfound
        rw [← hfound] at hload
        exact (ihr (fun q hq => ih q (by simp [hq])) hload).bind_pure fun _ => ⟨_, rfl⟩
    rw [hasLiteral_union_iff]
    exact heach.bind_pure fun _ => ⟨_, rfl⟩

/-! ## Cursors -/

namespace Cursor

variable {c : Cursor} {now : Corpus} {tree : Tree}

/-- The next step of the cursor looks up a query that needs the trigram index. -/
def Calls (now : Corpus) (c : Cursor) : Prop :=
  ∃ query, c.traversal = .query query none ∧ now.settings.trigrams = true ∧ query.plan.HasLiteral

theorem corpus_stepSlots (c : Cursor) (query : Compiled) (asked : List String)
    (slots : List Nat) : (stepSlots tree now c query asked slots).corpus = some now := by
  unfold stepSlots
  dsimp only
  split <;> rfl

/-- Such a step leaves the indexes that a call leaves, also if it fails. -/
theorem corpus_step_of_calls (hvalid : now.index.names.Valid) (h : c.Calls now) :
    (c.step tree now).corpus =
      some { now with index := now.index.afterCall (now.store.get tree) } := by
  obtain ⟨query, htraversal, hneeded⟩ := h
  have hlooks := query.plan.looksUp_slots now.settings.trigrams (Corpus.loadsAs_get hvalid tree)
  unfold step
  rw [htraversal]
  dsimp only
  split
  next slots index hok =>
    rw [corpus_stepSlots, ← hlooks.called hneeded _ hok]
  next e herror =>
    rw [CorpusIndex.afterCall_of_failing (hlooks.failure e herror).2]

/-- Any other step leaves the corpus as it was. -/
theorem corpus_step_of_not_calls (hvalid : now.index.names.Valid) (h : ¬ c.Calls now) :
    (c.step tree now).corpus = some now := by
  unfold step
  split
  · unfold stepEntries
    split <;> rfl
  next query slots _ => exact corpus_stepSlots c query [] slots
  next query htraversal =>
    have hlooks := query.plan.looksUp_slots now.settings.trigrams (Corpus.loadsAs_get hvalid tree)
    have hneeded : ¬ (now.settings.trigrams = true ∧ query.plan.HasLiteral) :=
      fun hneeded => h ⟨query, htraversal, hneeded⟩
    dsimp only
    split
    next slots index hok =>
      have hindex : index = now.index := hlooks.alone hneeded _ hok
      rw [corpus_stepSlots, hindex]
    · rfl

end Cursor

/-! ## Readers in any state -/

/-- There is no corpus, or it is as calls for the trigram index at some of these times leave it,
one after another. -/
def Corpus.CalledAt (c : Corpus) (times : List Tree) (handle : Handle) : Prop :=
  ∀ now, handle = some now → ∃ called : List Tree, called.Sublist times ∧
    now = { c with index := c.index.afterCalls (called.map fun tree => c.store.get tree) }

namespace Corpus

variable {c now : Corpus} {times : List Tree} {handle : Handle}

theorem CalledAt.later (h : c.CalledAt times handle) (tree : Tree) :
    c.CalledAt (times ++ [tree]) handle := by
  intro now hnow
  obtain ⟨called, hcalled, hindex⟩ := h now hnow
  exact ⟨called, hcalled.trans (List.sublist_append_left times [tree]), hindex⟩

theorem valid_of_calledAt (hvalid : c.index.names.Valid) (h : c.CalledAt times (some now)) :
    now.index.names.Valid := by
  obtain ⟨called, -, rfl⟩ := h now rfl
  rw [CorpusIndex.names_afterCalls]
  exact hvalid

/-- Advancing a cursor is at most one call. -/
theorem CalledAt.advance (hvalid : c.index.names.Valid) (h : c.CalledAt times handle) (tree : Tree)
    (cursor : Cursor) : c.CalledAt (times ++ [tree]) (cursor.advance tree handle).corpus := by
  unfold Cursor.advance
  split
  · exact h.later tree
  · split
    · exact nofun
    next now =>
      have hnow := valid_of_calledAt hvalid h
      by_cases hcalls : cursor.Calls now
      · rw [Cursor.corpus_step_of_calls hnow hcalls]
        obtain ⟨called, hcalled, rfl⟩ := h now rfl
        rintro after hafter
        cases hafter
        refine ⟨called ++ [tree], hcalled.append (List.Sublist.refl [tree]), ?_⟩
        rw [List.map_append, CorpusIndex.afterCalls_append]
        rfl
      · rw [Cursor.corpus_step_of_not_calls hnow hcalls]
        exact h.later tree

theorem CalledAt.next (hvalid : c.index.names.Valid) (h : c.CalledAt times handle) (tree : Tree)
    (cursor : Cursor) : c.CalledAt (times ++ [tree]) (cursor.next tree handle).corpus := by
  unfold Cursor.next
  split
  · exact h.later tree
  · dsimp only
    split <;> exact h.advance hvalid tree cursor

end Corpus

namespace Run

variable [Regex.Engine] {c : Corpus} {times : List Tree} {r : Run}

/-- A move is at most one call. -/
theorem calledAt_step (hvalid : c.index.names.Valid) (h : c.CalledAt times r.handle) (tree : Tree)
    (move : Move) : c.CalledAt (times ++ [tree]) (r.step tree move).handle :=
  handle_step (c.CalledAt (times ++ [tree])) (h.later tree) nofun (h.advance hvalid tree)
    (h.next hvalid tree) move

theorem calledAt_after (hvalid : c.index.names.Valid) (h : c.CalledAt times r.handle)
    (moves : List (Tree × Move)) :
    c.CalledAt (times ++ moves.map Prod.fst) (r.after moves).handle := by
  induction moves generalizing r times with
  | nil =>
    rw [List.map_nil, List.append_nil]
    exact h
  | cons move rest ih =>
    rw [List.map_cons, List.append_cons]
    exact ih (calledAt_step hvalid h move.1 move.2)

/-- The corpus of a reader, after whatever has been done with it, is as it was opened but for calls
for the trigram index, at some of the times and one after another. -/
theorem exists_calls_after (hopened : c.Opened) (history : List (Tree × Move)) {reader : Reader}
    {now : Corpus} (hr : ((start (.ofCorpus c)).after history).reader = some reader)
    (hopen : reader.corpus = some now) :
    ∃ called : List Tree, called.Sublist (history.map Prod.fst) ∧
      now = { c with index := c.index.afterCalls (called.map fun tree => c.store.get tree) } := by
  have hstart : c.CalledAt [] (start (.ofCorpus c)).handle := by
    rintro _ ⟨⟩
    exact ⟨[], List.Sublist.slnil, rfl⟩
  have hafter := calledAt_after hopened.valid hstart history
  rw [handle_of_reader hr, List.nil_append] at hafter
  exact hafter now hopen

end Run

namespace CorpusIndex

open Concordance.Text

/-! ## Any calls, and those of a reader -/

/-- Calls for the trigram index of any names, each with a loader of its own that may fail for any of
them.

The index is there if and only if one of the calls could read all entries.  A call before that asks
for the entries in slot order and ends at the first failure, which it gives; and a call that fails
might as well not have been made.  The first call that succeeds has asked for each position once.
A later call asks for nothing and gives the index of the contents that this call has read, whatever
its own loader would give: a literal of fewer than three bytes cannot be looked up, and any other
one is looked up by its trigrams in those contents.

The calls of a reader are such calls: whatever is done with it and its cursors, and whatever becomes
of the files, its corpus is as it was opened but for the indexes, which calls with the outcomes of
reading at some of the times have left, one after another. -/
theorem trigrams_built_once [Regex.Engine] (order : SortOrder) (names : List String)
    (loads : List (String → Except ε String)) (load : String → Except ε String) :
    let fresh := ofNames order names
    let listed := order.sort names
    let index := fresh.afterCalls loads
    let call := index.trigramsFor (.ask load)
    (index.trigrams.isSome = true ↔ ∃ l ∈ loads, AllLoad l listed) ∧
    ((∀ l ∈ loads, ¬ AllLoad l listed) →
      (∀ before name behind e, listed = before ++ name :: behind → AllLoad load before →
        load name = .error e → call = ⟨.error e, before ++ [name]⟩) ∧
      (AllLoad load listed → ∃ trigrams,
        call = ⟨.ok (trigrams, { fresh with trigrams := some trigrams }), listed⟩)) ∧
    (∀ before l behind, loads = before ++ l :: behind → ¬ AllLoad l listed →
      index = fresh.afterCalls (before ++ behind)) ∧
    (∀ before l behind, loads = before ++ l :: behind →
      (∀ earlier ∈ before, ¬ AllLoad earlier listed) → AllLoad l listed →
      ∃ (trigrams : TrigramIndex) (content : String → String),
        (∀ name ∈ listed, l name = .ok (content name)) ∧ call = pure (trigrams, index) ∧
        ∀ literal, (trigrams.candidates? literal = none ↔ (utf8 literal).length < 3) ∧
          ∀ slots, trigrams.candidates? literal = some slots → slots.Pairwise (· < ·) ∧
            ∀ slot, slot ∈ slots ↔ ∃ name, listed[slot]? = some name ∧
              windows (utf8 literal) ⊆ windows (utf8 (content name))) ∧
    ∀ c : Corpus, c.Opened → c.index = ofNames c.settings.order c.store.names ∧
      ∀ history reader now, ((Run.start (.ofCorpus c)).after history).reader = some reader →
        reader.corpus = some now →
        ∃ called : List Tree, called.Sublist (history.map Prod.fst) ∧ now =
          { c with index := c.index.afterCalls (called.map fun tree => c.store.get tree) } := by
  intro fresh listed index call
  refine ⟨?_, ?_, ?_, ?_, ?_⟩
  · exact (isSome_afterCalls fresh loads).trans (or_iff_right Bool.false_ne_true)
  · intro hloads
    have hindex : index = fresh := afterCalls_of_failing hloads
    have hcall : call = fresh.trigramsFor (.ask load) := by
      show index.trigramsFor (.ask load) = _
      rw [hindex]
    rw [hcall]
    constructor
    · intro before name behind e hsplit hbefore he
      exact trigramsFor_of_failure rfl hsplit hbefore he
    · intro hall
      obtain ⟨content, hcontent⟩ := hall.exists_content
      exact ⟨_, trigramsFor_of_contents rfl hcontent⟩
  · rintro before l behind rfl hfailing
    exact afterCalls_without hfailing
  · rintro before l behind rfl hbefore hall
    obtain ⟨content, hcontent⟩ := hall.exists_content
    have hindex : index = { fresh with
        trigrams := some (.ofContents (fresh.names.contents content)) } :=
      afterCalls_of_contents rfl hbefore hcontent
    have hindexes := TrigramIndex.indexes_ofContents (fresh.names.contents content)
    refine ⟨_, content, hcontent, trigramsFor_of_some (by rw [hindex]) _, ?_⟩
    intro literal
    refine ⟨hindexes.candidates?_eq_none_iff, ?_⟩
    intro slots hslots
    refine ⟨hindexes.pairwise_candidates hslots, ?_⟩
    intro slot
    rw [hindexes.mem_candidates hslots]
    simp only [NameIndex.contents, List.getElem?_map, Option.map_eq_some_iff]
    constructor
    · rintro ⟨text, ⟨name, hname, rfl⟩, hsubset⟩
      exact ⟨name, hname, hsubset⟩
    · rintro ⟨name, hname, hsubset⟩
      exact ⟨_, ⟨name, hname, rfl⟩, hsubset⟩
  · intro c hopened
    exact ⟨hopened.index_eq, fun history _ _ => Run.exists_calls_after hopened history⟩

/-- Two chapters. -/
def chapters (name : String) : String := if name = "a" then "the cat" else "a dog"

/-- Two cursors for a query that needs the index are made; one is advanced while a file is missing,
the other one when it is there. -/
def wardAsked : List (Tree × Move) :=
  [(wardTree, .query "contains(text,'cat')"), (wardTree, .query "contains(text,'cat')"),
    (wardTree, .advance 0), (wardBefore, .advance 1)]

/-- In the end the index is there. -/
theorem exists_index_wardAsked :
    ∃ now, ((Run.start (.ofCorpus ward)).after wardAsked).handle = some now ∧
      now.index.trigrams.isSome = true := by
  have hmade : (Run.start (.ofCorpus ward)).after (wardAsked.take 2) =
      ⟨some (.ofCorpus ward), List.replicate 2
        ⟨some Run.wardQuery.source, .matching Run.wardQuery, .matching Run.wardQuery, []⟩⟩ := rfl
  have hrun : (Run.start (.ofCorpus ward)).after wardAsked =
      ((Run.start (.ofCorpus ward)).after (wardAsked.take 2)).after (wardAsked.drop 2) := rfl
  have hthere : ((Run.start (.ofCorpus ward)).after wardAsked).handle.map
      (fun now => now.index.trigrams.isSome) = some true := by
    rw [hrun, hmade]
    cbv
  exact Option.map_eq_some_iff.1 hthere

/-- A call has failed for the second chapter, another one has read both, and from then on they are
looked up as they were read, also when the loader would give other contents.  So it is with the two
cursors: the index is there in the end, left by some calls. -/
theorem trigrams_built_once_chapters :
    let fresh := ofNames .natural ["a", "b"]
    let failing : String → Except String String :=
      fun name => if name = "a" then .ok "the dog" else .error "gone"
    let index := fresh.afterCalls [failing, .ok ∘ chapters]
    fresh.trigramsFor (.ask failing) = ⟨.error "gone", ["a", "b"]⟩ ∧
    ∃ trigrams, index.trigramsFor (.ask failing) = pure (trigrams, index) ∧
      trigrams.candidates? "dog" = some [1] ∧
      ∃ (now : Corpus) (called : List Tree),
        ((Run.start (.ofCorpus ward)).after wardAsked).handle = some now ∧
        now.index.trigrams.isSome = true ∧
        called.Sublist [wardTree, wardTree, wardTree, wardBefore] ∧
        now.index = ward.index.afterCalls (called.map fun tree => ward.store.get tree) := by
  intro fresh failing index
  have hsort : SortOrder.natural.sort ["a", "b"] = ["a"] ++ "b" :: [] :=
    List.mergeSort_of_pairwise (by decide)
  have hfirst : AllLoad failing ["a"] := List.forall_mem_singleton.2 ⟨_, rfl⟩
  have hfailing : ¬ AllLoad failing (SortOrder.natural.sort ["a", "b"]) := by
    intro hall
    rw [hsort] at hall
    obtain ⟨text, htext⟩ := hall "b" (by simp)
    cases htext
  have hreading : AllLoad (.ok ∘ chapters : String → Except String String)
      (SortOrder.natural.sort ["a", "b"]) := fun name _ => ⟨chapters name, rfl⟩
  obtain ⟨-, hbefore, -⟩ := trigrams_built_once .natural ["a", "b"] [] failing
  obtain ⟨-, -, -, hafter, hruns⟩ :=
    trigrams_built_once .natural ["a", "b"] [failing, .ok ∘ chapters] failing
  obtain ⟨trigrams, content, hcontent, hcall, hlookup⟩ := hafter [failing] (.ok ∘ chapters) [] rfl
    (List.forall_mem_singleton.2 hfailing) hreading
  refine ⟨(hbefore nofun).1 ["a"] "b" [] "gone" hsort hfirst rfl, trigrams, hcall, ?_, ?_⟩
  · obtain ⟨hshort, hslots⟩ := hlookup "dog"
    rw [hsort] at hcontent hslots
    cases hfound : trigrams.candidates? "dog" with
    | none => exact absurd (hshort.1 hfound) (by decide)
    | some slots =>
      obtain ⟨hsorted, hmem⟩ := hslots slots hfound
      have ha : content "a" = "the cat" := (Except.ok.inj (hcontent "a" (by simp))).symm
      have hb : content "b" = "a dog" := (Except.ok.inj (hcontent "b" (by simp))).symm
      congr 1
      apply eq_of_pairwise_lt hsorted (List.pairwise_singleton _ _)
      intro slot
      rw [hmem, List.mem_singleton]
      constructor
      · rintro ⟨name, hname, hsubset⟩
        match slot with
        | 0 =>
          cases hname
          rw [ha] at hsubset
          exact absurd hsubset (by decide)
        | 1 => rfl
      · rintro rfl
        exact ⟨"b", rfl, by rw [hb]; decide⟩
  · obtain ⟨now, hnow, hthere⟩ := exists_index_wardAsked
    obtain ⟨reader, hreader, hcorpus⟩ := Option.bind_eq_some_iff.1 hnow
    obtain ⟨called, hcalled, hleft⟩ :=
      (hruns ward opened_ward).2 wardAsked reader now hreader hcorpus
    exact ⟨now, called, hnow, hthere, hcalled, congrArg Corpus.index hleft⟩

end CorpusIndex

end Concordance
