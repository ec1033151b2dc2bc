import Mathlib
import Concordance.Proofs.Corpus.Pending

/-!
# Queries on entries that cannot be read

A query that looks up a literal in the trigram index fails at once if some entry cannot be read.
Any other query gives names up to the first candidate whose content it needs and cannot have.  The
cursor of a query and a search come to the same names and the same error.

* `Corpus.search_outcome_of_loadsAs` says what a search comes to.
* `Corpus.query_with_failing_entries` is the statement about cursors and searches.
-/

namespace Concordance

namespace Corpus

variable {outcome : String → Except Error String} {c : Corpus} {tree : Tree}

/-- A search gives the names that checking the candidates gives, unless there is a failure. -/
theorem search_outcome_of_loadsAs (h : c.index.Keeps outcome)
    (hload : LoadsAs (c.load tree) outcome c.names) (query : Compiled) :
    (c.search tree query).outcome =
      (query.plan.found c.settings.trigrams (c.index.names.built outcome) c.index.names).bind
        fun slots => (slots.findSome? (query.failure? outcome c.index.names)).elim
          (.ok (query.yielded outcome c.index.names slots)) .error := by
  obtain ⟨after, -, -, hcandidates⟩ := candidates_outcome h hload query
  rw [search, Reading.bind_outcome, hcandidates]
  cases query.plan.found c.settings.trigrams (c.index.names.built outcome) c.index.names with
  | error e => rfl
  | ok slots => exact query.allMatches_outcome_of_loadsAs hload slots

/-- A query on a corpus in which reading each entry has an outcome that stays the same.

If the trigram index is on, the plan of the query is or contains one that looks up a literal, and
some entry cannot be read, then the first step of the cursor is the error of the first such entry;
there is no name, and after that neither a name nor an error.

Otherwise the candidates can be looked up, in increasing order, whatever the files are.  The cursor
gives the names of the accepted ones up to the first candidate with a failure, then this error once,
and then neither a name nor an error; without a failure it gives the names of all accepted ones.

A search gives the names if the cursor meets no error, and that error otherwise. -/
theorem query_with_failing_entries (hkeeps : c.index.Keeps outcome) {trees : List Tree}
    (hload : ∀ tree ∈ trees, LoadsAs (c.load tree) outcome c.names) (query : Compiled) :
    let advances := Cursor.advanceEach trees (some c) (.matching query)
    (∀ e, c.settings.trigrams = true → query.plan.HasLiteral → FirstFails outcome c.names e →
      advances = [.error e].takeD trees.length (.ok none) ∧
      ∀ tree ∈ trees, (c.search tree query).outcome = .error e) ∧
    (¬ (c.settings.trigrams = true ∧ query.plan.HasLiteral ∧ ∃ e, FirstFails outcome c.names e) →
      ∃ slots, slots.Pairwise (· < ·) ∧
        (∀ tree ∈ trees, ∃ after, (c.candidates tree query).outcome = .ok (slots, after)) ∧
        let names := query.yielded outcome c.index.names slots
        let failure := slots.findSome? (query.failure? outcome c.index.names)
        let given : List (Except Error (Option String)) := names.map fun name => .ok (some name)
        let ending : List (Except Error (Option String)) := failure.toList.map .error
        advances = (given ++ ending).takeD trees.length (.ok none) ∧
        ∀ tree ∈ trees, (c.search tree query).outcome = failure.elim (.ok names) .error) := by
  intro advances
  have hadvances : advances =
      ((c.gives outcome query).map (Except.map some)).takeD trees.length (.ok none) :=
    Cursor.advanceEach_eq hkeeps hload (.matching query)
  have hsearch := fun tree htree => search_outcome_of_loadsAs hkeeps (hload tree htree) query
  have hfails : ∀ e, query.plan.found c.settings.trigrams (c.index.names.built outcome)
      c.index.names = .error e ↔ c.settings.trigrams = true ∧ query.plan.HasLiteral ∧
        FirstFails outcome c.names e := by
    intro e
    rw [Plan.found_eq_error_iff, NameIndex.built_eq_error_iff]
    exact Iff.rfl
  constructor
  · intro e htrigrams hliteral hfirst
    have hfound := (hfails e).2 ⟨htrigrams, hliteral, hfirst⟩
    constructor
    · rw [hadvances, gives, hfound]
      rfl
    · intro tree htree
      rw [hsearch tree htree, hfound]
      rfl
  · intro hnone
    cases hfound : query.plan.found c.settings.trigrams (c.index.names.built outcome)
        c.index.names with
    | error e =>
      obtain ⟨htrigrams, hliteral, hfirst⟩ := (hfails e).1 hfound
      exact absurd ⟨htrigrams, hliteral, e, hfirst⟩ hnone
    | ok slots =>
      refine ⟨slots, Plan.pairwise_found hfound, ?_, ?_⟩
      · intro tree htree
        obtain ⟨after, -, -, hcandidates⟩ := candidates_outcome hkeeps (hload tree htree) query
        rw [hfound] at hcandidates
        exact ⟨after, hcandidates⟩
      · intro names failure given ending
        constructor
        · rw [hadvances, gives, hfound]
          simp [Compiled.toCome, given, ending, names, failure, Except.map, Function.comp_def]
        · intro tree htree
          rw [hsearch tree htree, hfound]
          rfl

/-- A directory of two files. -/
def shelter (trigrams : Bool) : Corpus :=
  .ofStore { trigrams } (.directory "/d" "d" ["a", "b"])

/-- The second file has been removed. -/
def shelterTree : Tree :=
  (Tree.empty ["d"]).put ["d", "a"] (.file 0 (Text.utf8 "The cat sat."))

/-- A query that looks up a literal. -/
def shelterQuery : Compiled := .ofExpr "contains(text,'cat')" (.test ⟨.text, .contains "cat"⟩)

theorem names_shelter (trigrams : Bool) : (shelter trigrams).names = ["a", "b"] := by
  have hsorted : SortOrder.natural.sort ["a", "b"] = ["a", "b"] :=
    List.mergeSort_of_pairwise (by decide)
  exact (List.toList_toArray).trans hsorted

/-- With the trigram index the error comes at once, without it behind the name. -/
theorem query_shelter :
    let outcome := (shelter true).store.get shelterTree
    let trees := [shelterTree, shelterTree, shelterTree]
    (∀ tree ∈ trees, LoadsAs ((shelter true).load tree) outcome (shelter true).names) ∧
    Cursor.advanceEach trees (some (shelter true)) (.matching shelterQuery) =
      [.error (.notFound "b"), .ok none, .ok none] ∧
    Cursor.advanceEach trees (some (shelter false)) (.matching shelterQuery) =
      [.ok (some "a"), .error (.notFound "b"), .ok none] ∧
    ((shelter false).search shelterTree shelterQuery).outcome = .error (.notFound "b") := by
  intro outcome trees
  have hnames : ["a", "b"].Nodup := by decide
  have hload : ∀ trigrams, ∀ tree ∈ trees,
      LoadsAs ((shelter trigrams).load tree) outcome (shelter trigrams).names := by
    intro trigrams tree htree
    obtain rfl : tree = shelterTree := by simpa [trees] using htree
    exact loadsAs_get (NameIndex.valid_ofNames hnames .natural) shelterTree
  have hkeeps : ∀ trigrams, (shelter trigrams).index.Keeps outcome := fun trigrams =>
    CorpusIndex.keeps_ofNames outcome .natural ["a", "b"]
  have hliteral : shelterQuery.plan.HasLiteral := .literal "cat"
  have hfirst : FirstFails outcome (shelter true).names (.notFound "b") := by
    rw [names_shelter]
    refine ⟨["a"], "b", [], rfl, ?_, rfl⟩
    intro name hname
    obtain rfl := List.mem_singleton.1 hname
    exact ⟨"The cat sat.", rfl⟩
  obtain ⟨hfails, -⟩ := query_with_failing_entries (hkeeps true) (hload true) shelterQuery
  obtain ⟨hadvances, -⟩ := hfails _ rfl hliteral hfirst
  obtain ⟨-, hgives⟩ := query_with_failing_entries (hkeeps false) (hload false) shelterQuery
  obtain ⟨slots, -, hslots, hrest, hsearch⟩ := hgives (by simp [shelter, ofStore])
  obtain ⟨after, hcandidates⟩ := hslots shelterTree (by simp [trees])
  have hsize : (shelter false).index.names.size = 2 := congrArg List.length (names_shelter false)
  have hat : ∀ slot, (shelter false).index.names.nameAt? slot = ["a", "b"][slot]? := by
    intro slot
    rw [← names_shelter false, names, Array.getElem?_toList]
    rfl
  have hfound : (Except.ok ((shelter false).index.slots, (shelter false).index) : Except Error _) =
      .ok (slots, after) := hcandidates
  obtain ⟨rfl, -⟩ := Prod.mk.inj (Except.ok.inj hfound)
  have hslots : (shelter false).index.slots = [0, 1] := by
    rw [CorpusIndex.slots, hsize]
    rfl
  have ha : outcome "a" = .ok "The cat sat." := rfl
  have hb : outcome "b" = .error (.notFound "b") := rfl
  have hreads : shelterQuery.expr.ReadsText "b" "" := by decide
  have hholds : shelterQuery.expr.holds "a" "The cat sat." = true := by decide
  have hfailure : (shelter false).index.slots.findSome?
      (shelterQuery.failure? outcome (shelter false).index.names) = some (.notFound "b") := by
    simp [hslots, Compiled.failure?, hat, ha, hb, hreads]
  have hyielded : shelterQuery.yielded outcome (shelter false).index.names
      (shelter false).index.slots = ["a"] := by
    simp [hslots, Compiled.yielded, Compiled.failure?, Compiled.accepted?, hat, ha, hb, hreads,
      hholds, Except.toOption, Option.filter]
  refine ⟨hload true, hadvances, ?_, ?_⟩
  · rw [hrest, hyielded, hfailure]
    rfl
  · rw [hsearch shelterTree (by simp [trees]), hfailure]
    rfl

end Corpus

end Concordance
