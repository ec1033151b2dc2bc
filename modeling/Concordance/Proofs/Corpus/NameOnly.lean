import Mathlib
import Concordance.Proofs.Corpus.Confined
import Concordance.Proofs.Corpus.Outcomes

/-!
# Queries that look at names only

A query without a test of the content reads nothing.  Entries could be read in two places: its plan
could look up a literal in the trigram index, which is built by reading all entries, and its program
could look at the content of a candidate.  Neither happens.

* `Expr.OnlyNames` says that there is no test of the content.
* `Expr.not_hasLiteral_plan` says that the plan of such a query looks up no literal,
  `Plan.exists_slots_of_not_hasLiteral` that it is looked up without reading.
* `Compiled.accept_of_onlyNames` says that candidates are checked without reading.
* `Cursor.exists_advance_of_awaits` is one step of the cursor, `Cursor.advanceThrough_of_awaits` any
  number of steps, and `Cursor.exists_drainFrom_of_awaits` all of them.
* `Corpus.onlyNames_query` is the statement about readers that have been used.
-/

namespace Concordance

/-! ## The tests of a query -/

namespace Formula

variable {τ : Type}

theorem mem_testsOf {t : τ} {items : List (Formula τ)} :
    t ∈ testsOf items ↔ ∃ f ∈ items, t ∈ f.tests := by
  rw [testsOf_eq_flatMap, List.mem_flatMap]

/-- An evaluation looks at tests of the formula only. -/
theorem mem_tests_of_mem_visited (sat : τ → Bool) {t : τ} (f : Formula τ)
    (h : t ∈ f.visited sat) : t ∈ f.tests := by
  have hchain : ∀ (stop : Bool) (items : List (Formula τ)),
      (∀ f ∈ items, t ∈ f.visited sat → t ∈ f.tests) → t ∈ visitedUntil sat stop items →
        t ∈ testsOf items := by
    intro stop items ih h
    induction items with
    | nil => cases h
    | cons f rest ihr =>
      rw [visitedUntil] at h
      rw [testsOf]
      rcases List.mem_append.1 h with h | h
      · exact List.mem_append_left _ (ih f (by simp) h)
      · split at h
        · cases h
        · exact List.mem_append_right _ (ihr (fun g hg => ih g (by simp [hg])) h)
  induction f with
  | const value => exact h
  | test u => exact h
  | not inner ih => exact ih h
  | and items ih => exact hchain false items ih h
  | or items ih => exact hchain true items ih h

end Formula

namespace Expr

/-- No test of the query looks at the content. -/
def OnlyNames (e : Expr) : Prop := ∀ t ∈ Formula.tests e, t.field = .name

instance (e : Expr) : Decidable e.OnlyNames :=
  inferInstanceAs (Decidable (∀ t ∈ Formula.tests e, t.field = .name))

variable {e : Expr} {items : List Expr}

theorem OnlyNames.not_readsText (h : e.OnlyNames) (name content : String) :
    ¬ e.ReadsText name content := by
  rintro ⟨t, ht, htext⟩
  have hname := h t (Formula.mem_tests_of_mem_visited _ e ht)
  rw [hname] at htext
  cases htext

end Expr

/-! ## Plans -/

namespace Plan

variable {plans parts : List Plan}

theorem not_hasLiteral_best (h : ∀ p ∈ plans, ¬ p.HasLiteral) : ¬ (best plans).HasLiteral := by
  rcases best_mem_or plans with hmem | hall
  · exact h _ hmem
  · rw [hall]
    exact nofun

theorem not_hasLiteral_of_gather (hparts : join.gather plans = some parts)
    (h : ∀ p ∈ plans, ¬ p.HasLiteral) : ∀ p ∈ parts, ¬ p.HasLiteral := by
  intro p hp
  cases gathered_of_mem hparts hp with
  | inner hunion hp =>
    intro hliteral
    exact h _ hunion (.union hp hliteral)
  | own hp _ _ _ => exact h p hp

theorem not_hasLiteral_join (h : ∀ p ∈ plans, ¬ p.HasLiteral) : ¬ (join plans).HasLiteral := by
  unfold join
  cases hparts : join.gather plans with
  | none => exact nofun
  | some parts =>
    have hnone := not_hasLiteral_of_gather hparts h
    match parts with
    | [] => exact nofun
    | [p] => exact hnone p (by simp)
    | p :: q :: rest =>
      intro hliteral
      obtain ⟨part, hpart, hliteral⟩ := hasLiteral_union_iff.1 hliteral
      exact hnone part hpart hliteral

/-- A plan that looks up no literal is looked up without reading, and leaves the indexes as they
are. -/
theorem exists_slots_of_not_hasLiteral {p : Plan} (h : ¬ p.HasLiteral) (trigrams : Bool)
    (names : NameIndex) :
    ∃ found, ∀ (load : String → Reading Error String) (built : Option TrigramIndex),
      p.slots trigrams load ⟨names, built⟩ = pure (found, ⟨names, built⟩) := by
  induction p with
  | all => exact ⟨List.range names.size, fun _ _ => rfl⟩
  | nothing => exact ⟨[], fun _ _ => rfl⟩
  | name wanted => exact ⟨(names.slot? wanted).toList, fun _ _ => rfl⟩
  | literal part => exact absurd (.literal part) h
  | union parts ih =>
    rw [hasLiteral_union_iff, not_exists] at h
    have heach : ∃ found, ∀ (load : String → Reading Error String) (built : Option TrigramIndex),
        slotsOfEach trigrams load parts ⟨names, built⟩ = pure (found, ⟨names, built⟩) := by
      induction parts with
      | nil => exact ⟨[], fun _ _ => rfl⟩
      | cons p rest ihr =>
        obtain ⟨found, hfound⟩ := ih p (by simp) fun hp => h p ⟨by simp, hp⟩
        obtain ⟨more, hmore⟩ := ihr (fun q hq => ih q (by simp [hq]))
          fun q hq => h q ⟨by simp [hq.1], hq.2⟩
        refine ⟨found ++ more, ?_⟩
        intro load built
        rw [slotsOfEach, hfound, pure_bind]
        show (slotsOfEach trigrams load rest ⟨names, built⟩ >>= _) = _
        rw [hmore, pure_bind]
    obtain ⟨found, hfound⟩ := heach
    refine ⟨ascending found, ?_⟩
    intro load built
    rw [slots, hfound, pure_bind]

end Plan

theorem Test.not_hasLiteral_plan {t : Test} (h : t.field = .name) : ¬ t.plan.HasLiteral := by
  obtain ⟨field, condition⟩ := t
  cases h
  cases condition <;> exact nofun

/-- The plan of a query that looks at names only looks up no literal. -/
theorem Expr.not_hasLiteral_plan {e : Expr} (h : e.OnlyNames) : ¬ (Expr.plan e).HasLiteral := by
  have hitems : ∀ {items : List Expr},
      (∀ e ∈ items, Expr.OnlyNames e → ¬ (Expr.plan e).HasLiteral) →
      (∀ t ∈ Formula.testsOf items, t.field = .name) →
        ∀ p ∈ Expr.plans items, ¬ p.HasLiteral := by
    intro items ih h p hp
    rw [plans_eq_map] at hp
    obtain ⟨e, he, rfl⟩ := List.mem_map.1 hp
    exact ih e he fun t ht => h t (Formula.mem_testsOf.2 ⟨e, he, ht⟩)
  induction e using Formula.induct with
  | const value => cases value <;> exact nofun
  | test t => exact Test.not_hasLiteral_plan (h t (by simp [Formula.tests]))
  | not inner _ => exact nofun
  | and items ih => exact Plan.not_hasLiteral_best (hitems ih h)
  | or items ih => exact Plan.not_hasLiteral_join (hitems ih h)

/-! ## Candidates and matches -/

namespace Compiled

variable {query : Compiled} {names : NameIndex} {load : String → Reading Error String}

/-- A candidate is checked without reading it. -/
theorem accept_of_onlyNames (h : query.expr.OnlyNames) (content : String → String) (slot : Nat) :
    query.accept load names slot = pure (query.matchAt content names slot) := by
  unfold accept matchAt
  cases hname : names.nameAt? slot with
  | none => rfl
  | some name =>
    dsimp only
    rw [query.program_eq, View.execute, Formula.execute_program,
      View.evalM_unloaded load name (content name), View.lazily, if_neg (h.not_readsText _ _),
      pure_bind, Option.filter_some]

theorem firstMatch_of_onlyNames (h : query.expr.OnlyNames) (content : String → String)
    (slots : List Nat) :
    query.firstMatch load names slots = pure (query.nextMatch content names slots) := by
  induction slots with
  | nil => rfl
  | cons slot rest ih =>
    rw [firstMatch, accept_of_onlyNames h content, pure_bind, nextMatch]
    cases query.matchAt content names slot with
    | none => exact ih
    | some name => rfl

theorem allMatches_of_onlyNames (h : query.expr.OnlyNames) (content : String → String)
    (slots : List Nat) : query.allMatches load names slots =
      pure (slots.filterMap (query.matchAt content names)) := by
  induction slots with
  | nil => rfl
  | cons slot rest ih =>
    rw [allMatches, accept_of_onlyNames h content, pure_bind, ih, pure_bind, List.filterMap_cons]
    cases query.matchAt content names slot <;> rfl

end Compiled

namespace Corpus

variable {c : Corpus} {query : Compiled}

/-- The candidates are looked up without reading, always the same, and the indexes stay. -/
theorem exists_candidates_of_onlyNames (hvalid : c.index.names.Valid)
    (h : query.expr.OnlyNames) (content : String → String) :
    ∃ slots, (∀ now tree, c.Remains now → now.candidates tree query = pure (slots, now.index)) ∧
      slots.filterMap (query.matchAt content c.index.names) =
        query.matchingNames content c.index.names := by
  have hliteral : ¬ query.plan.HasLiteral := by
    rw [query.plan_eq]
    exact Expr.not_hasLiteral_plan h
  obtain ⟨slots, hslots⟩ :=
    Plan.exists_slots_of_not_hasLiteral hliteral c.settings.trigrams c.index.names
  refine ⟨slots, ?_, ?_⟩
  · intro now tree hremains
    rw [candidates, hremains.settings]
    have hnow := hslots (now.load tree) now.index.trigrams
    rw [← hremains.names] at hnow
    exact hnow
  · -- the same slots are found among entries that can all be read
    let load : String → Reading Error String := fun name => pure (content name)
    have hagrees : CorpusIndex.Agrees content ⟨c.index.names, none⟩ := ⟨hvalid, nofun⟩
    obtain ⟨found, after, hfound, hsorted, hlocated⟩ :=
      Plan.exists_slots c.settings.trigrams query.plan ⟨c.index.names, none⟩ hagrees
        (fun name _ => rfl : Loads load content c.index.names.names.toList)
    rw [hslots load none] at hfound
    cases hfound
    apply Compiled.filterMap_matchAt hsorted hlocated.inRange
    intro slot name hname hholds
    have hfinds := query.expr.finds_plan hholds
    rw [← query.plan_eq] at hfinds
    exact hlocated.complete slot name hname hfinds

/-- A search gives the matches without reading. -/
theorem search_of_onlyNames (hvalid : c.index.names.Valid) (h : query.expr.OnlyNames)
    (content : String → String) {now : Corpus} (hremains : c.Remains now) (tree : Tree) :
    now.search tree query = pure (query.matchingNames content c.index.names) := by
  obtain ⟨slots, hcandidates, hmatches⟩ := exists_candidates_of_onlyNames hvalid h content
  rw [search, hcandidates now tree hremains, pure_bind]
  show query.allMatches (now.load tree) now.index.names slots = _
  rw [Compiled.allMatches_of_onlyNames h content, hremains.names, hmatches]

end Corpus

/-! ## Cursors -/

namespace Cursor

variable {origin now : Corpus} {query : Compiled} {content : String → String} {c : Cursor}
  {names : List String}

/-- The cursor of a query has these names to give. -/
inductive Awaits (query : Compiled) (content : String → String) (listing : NameIndex) :
    Cursor → List String → Prop where
  /-- It is at its end. -/
  | ended {c : Cursor} (hstate : c.state = .exhausted) : Awaits query content listing c []
  /-- It has not looked up its slots. -/
  | created {c : Cursor} (hstate : c.state ≠ .exhausted)
      (htraversal : c.traversal = .query query none) :
      Awaits query content listing c (query.matchingNames content listing)
  /-- It has looked them up, and stands before some of them. -/
  | before {c : Cursor} {slots : List Nat} (hstate : c.state ≠ .exhausted)
      (htraversal : c.traversal = .query query (some slots)) :
      Awaits query content listing c (slots.filterMap (query.matchAt content listing))

theorem awaits_matching (query : Compiled) (content : String → String) (listing : NameIndex) :
    (matching query).Awaits query content listing (query.matchingNames content listing) :=
  .created nofun rfl

/-- The cursor after it has given the first of its names, or nothing for want of a name. -/
structure Goes (query : Compiled) (content : String → String) (listing : NameIndex)
    (c : Cursor) (names : List String) (after : Cursor) : Prop where
  /-- The other names are still to come. -/
  awaits : after.Awaits query content listing names.tail
  /-- Without a name the cursor is at its end. -/
  ended : names = [] → after.state = .exhausted
  /-- This does not count as iterating. -/
  reported : after.reported = c.reported

theorem exists_stepSlots_of_onlyNames (h : query.expr.OnlyNames) (content : String → String)
    (tree : Tree) (now : Corpus) (c : Cursor) (slots : List Nat) :
    let names := slots.filterMap (query.matchAt content now.index.names)
    ∃ after, stepSlots tree now c query [] slots = ⟨.ok names.head?, [], after, some now⟩ ∧
      c.Goes query content now.index.names names after := by
  intro names
  unfold stepSlots
  rw [Compiled.firstMatch_of_onlyNames h content]
  cases hnext : query.nextMatch content now.index.names slots with
  | none =>
    have hnames : names = [] := Compiled.filterMap_of_nextMatch_eq_none hnext
    rw [hnames]
    exact ⟨_, rfl, .ended rfl, fun _ => rfl, rfl⟩
  | some found =>
    obtain ⟨name, rest⟩ := found
    have hnames : names = name :: rest.filterMap (query.matchAt content now.index.names) :=
      Compiled.filterMap_of_nextMatch_eq_some hnext
    rw [hnames]
    exact ⟨_, rfl, .before nofun rfl, nofun, rfl⟩

/-- A step gives the first of the names that the cursor has to give.  It reads nothing, and leaves
the corpus as it finds it. -/
theorem exists_advance_of_awaits (hvalid : origin.index.names.Valid) (h : query.expr.OnlyNames)
    (hremains : origin.Remains now) (tree : Tree)
    (hawaits : c.Awaits query content origin.index.names names) :
    ∃ after, c.advance tree (some now) = ⟨.ok names.head?, [], after, some now⟩ ∧
      c.Goes query content origin.index.names names after := by
  have hslots := exists_stepSlots_of_onlyNames h content tree now c
  rw [hremains.names] at hslots
  cases hawaits with
  | ended hstate =>
    rw [advance, if_pos hstate]
    exact ⟨c, rfl, .ended hstate, fun _ => hstate, rfl⟩
  | created hstate htraversal =>
    obtain ⟨slots, hcandidates, hmatches⟩ :=
      Corpus.exists_candidates_of_onlyNames hvalid h content
    have hstep : c.advance tree (some now) = stepSlots tree now c query [] slots := by
      unfold advance step
      rw [if_neg hstate, htraversal]
      dsimp only
      rw [hcandidates now tree hremains]
      rfl
    rw [hstep, ← hmatches]
    exact hslots slots
  | @before slots hstate htraversal =>
    have hstep : c.advance tree (some now) = stepSlots tree now c query [] slots := by
      unfold advance step
      rw [if_neg hstate, htraversal]
    rw [hstep]
    exact hslots slots

/-- Advances a cursor again and again, each time with the files and the corpus of that time. -/
def advanceThrough : List (Tree × Corpus) → Cursor →
    List (Advance (Except Error (Option String)))
  | [], _ => []
  | (tree, now) :: rest, c =>
    let a := c.advance tree (some now)
    a :: advanceThrough rest a.cursor

/-- Each step gives the next name, and in the end nothing.  No step reads anything or changes the
corpus. -/
theorem advanceThrough_of_awaits (hvalid : origin.index.names.Valid) (h : query.expr.OnlyNames)
    {steps : List (Tree × Corpus)} (hremains : ∀ step ∈ steps, origin.Remains step.2)
    (hawaits : c.Awaits query content origin.index.names names) :
    (advanceThrough steps c).map (fun a => (a.result, a.asked, a.corpus)) =
      List.zipWith (fun name step => (.ok name, [], some step.2))
        ((names.map some).takeD steps.length none) steps := by
  induction steps generalizing c names with
  | nil => rfl
  | cons step rest ih =>
    obtain ⟨tree, now⟩ := step
    obtain ⟨hnow, hrest⟩ := List.forall_mem_cons.1 hremains
    obtain ⟨after, hadvance, hgoes⟩ := exists_advance_of_awaits hvalid h hnow tree hawaits
    rw [advanceThrough, hadvance, List.map_cons, ih hrest hgoes.awaits, List.length_cons,
      List.takeD_succ, List.zipWith_cons_cons]
    cases names <;> rfl

/-- Iterating to the end gives all names.  It reads nothing, and leaves the corpus as it finds
it. -/
theorem exists_drainFrom_of_awaits (hvalid : origin.index.names.Valid)
    (h : query.expr.OnlyNames) (hremains : origin.Remains now) (tree : Tree) {fuel : Nat}
    (hreported : c.reported = false)
    (hawaits : c.Awaits query content origin.index.names names) (hfuel : names.length < fuel) :
    ∃ last, drainFrom tree fuel (some now) c = ⟨names.map .ok, [], last, some now⟩ ∧
      last.state = .exhausted := by
  induction fuel generalizing c names with
  | zero => omega
  | succ fuel ih =>
    obtain ⟨after, hadvance, hgoes⟩ := exists_advance_of_awaits hvalid h hremains tree hawaits
    have hnext : c.next tree (some now) = ⟨names.head?.map .ok, [], after, some now⟩ := by
      unfold next
      rw [hreported, if_neg (by decide), hadvance]
      cases names <;> rfl
    rw [drainFrom, hnext]
    cases names with
    | nil => exact ⟨after, rfl, hgoes.ended rfl⟩
    | cons name rest =>
      rw [List.length_cons] at hfuel
      obtain ⟨last, hlast, hstate⟩ :=
        ih (hgoes.reported.trans hreported) hgoes.awaits (by simpa using hfuel)
      refine ⟨last, ?_, hstate⟩
      show ({ drainFrom tree fuel (some now) after with
        result := .ok name :: (drainFrom tree fuel (some now) after).result
        asked := [] ++ (drainFrom tree fuel (some now) after).asked } : Advance _) = _
      rw [hlast]
      rfl

end Cursor

/-! ## Readers that have been used -/

namespace Corpus

/-- What the corpus of a reader has become by some moves, each with the files at that time. -/
def Reaches [Regex.Engine] (c now : Corpus) : Prop :=
  ∃ history : List (Tree × Move), ((Run.start (.ofCorpus c)).after history).handle = some now

variable {c now : Corpus}

theorem Reaches.remains [Regex.Engine] (hvalid : c.index.names.Valid) (h : c.Reaches now) :
    c.Remains now := by
  obtain ⟨history, hnow⟩ := h
  exact Run.holding_after hvalid (Run.holding_start c) history now hnow

/-- A query without a test of the content, on a corpus that has been opened in any way and used in
any way since, whatever the files have been and are.

Its cursor, drained or advanced step by step, gives the names for which the query holds, whatever
the contents may be, in the order of the corpus, and is at its end then.  No step gives an error,
asks the store for anything or changes the corpus: a trigram index that has not been built is not
built.  Steps may be taken while the reader is used otherwise, with other files each time.  A search
does the same. -/
theorem onlyNames_query [Regex.Engine] (hopened : c.Opened) {query : Compiled}
    (honly : query.expr.OnlyNames) (content : String → String) :
    let names := c.names.filter fun name => query.expr.holds name (content name)
    c.index.trigrams = none ∧
    (∀ now, c.Reaches now → ∀ tree,
      (∃ last, (Cursor.matching query).drain tree (some now) =
        ⟨names.map .ok, [], last, some now⟩ ∧ last.state = .exhausted) ∧
      now.search tree query = ⟨.ok names, []⟩) ∧
    ∀ steps : List (Tree × Corpus), (∀ step ∈ steps, c.Reaches step.2) →
      (Cursor.advanceThrough steps (.matching query)).map
          (fun a => (a.result, a.asked, a.corpus)) =
        List.zipWith (fun name step => (.ok name, [], some step.2))
          ((names.map some).takeD steps.length none) steps := by
  intro names
  have hvalid := hopened.valid
  have hawaits := Cursor.awaits_matching query content c.index.names
  refine ⟨?_, ?_, ?_⟩
  · obtain ⟨settings, store, -, rfl, -⟩ := hopened.exists_store
    rfl
  · intro now hreaches tree
    have hremains := hreaches.remains hvalid
    constructor
    · apply Cursor.exists_drainFrom_of_awaits hvalid honly hremains tree rfl hawaits
      have hlength := Cursor.length_matchingNames_le query content c.index.names
      have hsize : now.size = c.index.names.size := by rw [size, hremains.names]
      show _ < now.size + 2
      omega
    · exact search_of_onlyNames hvalid honly content hremains tree
  · intro steps hsteps
    apply Cursor.advanceThrough_of_awaits hvalid honly _ hawaits
    intro step hstep
    exact (hsteps step hstep).remains hvalid

/-- A query for one name, or for any but another one. -/
def nameQuery : Compiled :=
  .ofExpr "equals(name,'b') or not(starts-with(name,'a'))"
    (.or [.test ⟨.name, .equals "b"⟩, .not (.test ⟨.name, .startsWith "a"⟩)])

/-- The trigram index is on, and both files have been removed. -/
theorem nameQuery_ward :
    let gone := Tree.empty ["d"]
    ward.Opened ∧ nameQuery.expr.OnlyNames ∧ ward.settings.trigrams = true ∧
    (Reader.ofCorpus ward).query nameQuery.source = .ok (.matching nameQuery) ∧
    (∀ name ∈ ["a", "b"], ward.store.get gone name = .error (.notFound name)) ∧
    ∃ last, (Cursor.matching nameQuery).drain gone (some ward) =
      ⟨[.ok "b"], [], last, some ward⟩ ∧ last.state = .exhausted := by
  intro gone
  have honly : nameQuery.expr.OnlyNames := by decide
  have hsorted : SortOrder.natural.sort ["a", "b"] = ["a", "b"] :=
    List.mergeSort_of_pairwise (by decide)
  have hnames : ward.names = ["a", "b"] := (List.toList_toArray).trans hsorted
  have hholds : ["a", "b"].filter (fun name => nameQuery.expr.holds name "") = ["b"] := by decide
  obtain ⟨-, hdrain, -⟩ := onlyNames_query opened_ward honly fun _ => ""
  obtain ⟨⟨last, hlast, hstate⟩, -⟩ := hdrain ward ⟨[], rfl⟩ gone
  rw [hnames, hholds] at hlast
  refine ⟨opened_ward, honly, rfl, rfl, ?_, last, hlast, hstate⟩
  intro name hname
  fin_cases hname
  · rfl
  · rfl

end Corpus

end Concordance
