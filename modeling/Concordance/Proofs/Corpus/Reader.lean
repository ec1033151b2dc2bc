import Mathlib
import Concordance.Corpus.Reader
import Concordance.Proofs.Corpus.Cursor
import Concordance.Regex.Engine

/-!
# Queries on a reader that has been used

A reader of entries in memory answers a query with the names of all entries for which the query
holds, in the order in which it enumerates them.  What has been done with the reader before makes
no difference, and neither do the settings but for the order.

* `Use` are the things that can be done with an open reader, `Reader.after` is the reader
  afterwards.
* `Reader.exists_serves_history` says that a reader that has been used serves the same entries.
* `Reader.query_eq_filter` is the statement about queries.
-/

namespace Concordance

/-- Something that is done with an open reader.  The cursor may be any cursor. -/
inductive Use where
  /-- An entry is read. -/
  | read (name : String)
  /-- An entry is read and marked. -/
  | readMarked (name : String) (markers : List Marker)
  /-- A cursor for a query is made. -/
  | query (source : String)
  /-- A cursor is advanced. -/
  | advance (c : Cursor)
  /-- A cursor iterates one step. -/
  | next (c : Cursor)
  /-- A cursor iterates up to the end. -/
  | drain (c : Cursor)

namespace Reader

/-- The reader after a use.  Reading entries and making cursors leave it as it is. -/
def after (tree : Tree) (r : Reader) : Use → Reader
  | .read _ => r
  | .readMarked _ _ => r
  | .query _ => r
  | .advance c => { r with corpus := (c.advance tree r.corpus).corpus }
  | .next c => { r with corpus := (c.next tree r.corpus).corpus }
  | .drain c => { r with corpus := (c.drain tree r.corpus).corpus }

/-- The reader after some uses, each with the files at that time. -/
def afterAll (r : Reader) (history : List (Tree × Use)) : Reader :=
  history.foldl (fun r use => r.after use.1 use.2) r

variable {content : String → String} {listing : NameIndex} {r : Reader} {corpus : Corpus}

theorem exists_serves_after (hr : r.corpus = some corpus) (h : corpus.Serves content listing)
    (tree : Tree) (use : Use) :
    ∃ now, (r.after tree use).corpus = some now ∧ now.Serves content listing := by
  cases use with
  | read name => exact ⟨corpus, hr, h⟩
  | readMarked name markers => exact ⟨corpus, hr, h⟩
  | query source => exact ⟨corpus, hr, h⟩
  | advance c =>
    show ∃ now, (c.advance tree r.corpus).corpus = some now ∧ _
    rw [hr]
    exact Cursor.serves_advance tree h c
  | next c =>
    show ∃ now, (c.next tree r.corpus).corpus = some now ∧ _
    rw [hr]
    exact Cursor.serves_next tree h c
  | drain c =>
    show ∃ now, (c.drain tree r.corpus).corpus = some now ∧ _
    rw [hr]
    exact Cursor.serves_drainFrom tree _ h c

/-- A reader that has been used serves the same entries. -/
theorem exists_serves_history (hr : r.corpus = some corpus)
    (h : corpus.Serves content listing) (history : List (Tree × Use)) :
    ∃ now, (r.afterAll history).corpus = some now ∧ now.Serves content listing := by
  induction history generalizing r corpus with
  | nil => exact ⟨corpus, hr, h⟩
  | cons use rest ih =>
    obtain ⟨between, hbetween, hserves⟩ := exists_serves_after hr h use.1 use.2
    exact ih hbetween hserves

/-- A text that compiles makes a cursor. -/
theorem query_of_ofText_eq_ok [Regex.Engine] {source : String} {query : Compiled}
    (hr : r.corpus = some corpus) (hquery : Compiled.ofText source = .ok query) :
    r.query source = .ok (.matching query) := by
  have hopened : r.opened = .ok corpus := by
    rw [opened, hr]
  have hcheck : checkQuery source = .ok query := by
    delta checkQuery
    rw [hquery]
  delta Reader.query
  rw [hopened, hcheck]
  rfl

/-- The names of the entries for which a query holds, in the given order. -/
def holdingNames (order : SortOrder) (entries : List Entry) (e : Expr) : List String :=
  (order.sort (entries.map Entry.name)).filter fun name =>
    entries.any fun entry => entry.name = name && e.holds entry.name entry.content

theorem matchingNames_contentOf (order : SortOrder) {entries : List Entry}
    (hnames : (entries.map Entry.name).Nodup) (query : Compiled) :
    query.matchingNames (contentOf entries)
        (NameIndex.ofNames order (entries.map Entry.name)) =
      holdingNames order entries query.expr := by
  refine List.filter_congr fun name hname => ?_
  have hmem : name ∈ entries.map Entry.name := (order.sort_perm _).mem_iff.1 hname
  obtain ⟨e, he, rfl⟩ := List.mem_map.1 hmem
  rw [contentOf_eq hnames he, Bool.eq_iff_iff, List.any_eq_true]
  constructor
  · intro hholds
    exact ⟨e, he, by simpa using hholds⟩
  · rintro ⟨d, hd, hholds⟩
    simp only [Bool.and_eq_true, decide_eq_true_eq] at hholds
    obtain ⟨heq, hholds⟩ := hholds
    rw [← contentOf_eq hnames hd, heq, contentOf_eq hnames he] at hholds
    exact hholds

/-- A query on a reader of some entries gives the names of the entries for which it holds, each
once, in the order in which the reader enumerates all names; so does a search of the corpus.  That
is so after any uses of the reader, and whether or not there is a trigram index. -/
theorem query_eq_filter [Regex.Engine] (settings : Settings) (name : String) (entries : List Entry)
    (hsettings : settings.check = .ok ()) (hnames : (entries.map Entry.name).Nodup) :
    ∃ corpus, Corpus.ofEntries settings name entries = .ok corpus ∧
      ∀ (history : List (Tree × Use)) (tree : Tree) (source : String) (query : Compiled),
        Compiled.ofText source = .ok query →
        ∃ cursor now, ((ofCorpus corpus).afterAll history).query source = .ok cursor ∧
          ((ofCorpus corpus).afterAll history).corpus = some now ∧
          (((ofCorpus corpus).afterAll history).entries.drain tree (some now)).result =
            (settings.order.sort (entries.map Entry.name)).map .ok ∧
          (cursor.drain tree (some now)).result =
            (holdingNames settings.order entries query.expr).map .ok ∧
          (now.search tree query).outcome =
            .ok (holdingNames settings.order entries query.expr) ∧
          (holdingNames settings.order entries query.expr).Nodup := by
  obtain ⟨corpus, hcorpus, -, hserves⟩ := Corpus.exists_ofEntries hsettings name hnames
  refine ⟨corpus, hcorpus, fun history tree source query hquery => ?_⟩
  obtain ⟨now, hnow, hserves⟩ := exists_serves_history (r := ofCorpus corpus) rfl hserves history
  have hmatching := matchingNames_contentOf settings.order hnames query
  refine ⟨.matching query, now, query_of_ofText_eq_ok hnow hquery, hnow, ?_, ?_, ?_, ?_⟩
  · have hall := Cursor.drain_entries tree now
    rw [Corpus.names, hserves.names] at hall
    exact hall
  · rw [Cursor.drain_matching hserves, hmatching]
  · have hload := hserves.loads tree
    rw [← hserves.names] at hload
    rw [Corpus.search_outcome hserves.agrees hload, hserves.names, hmatching]
  · have hsorted := (settings.order.sort_perm (entries.map Entry.name)).nodup_iff.2 hnames
    exact hsorted.filter _

/-- Two entries. -/
def pets : List Entry := [⟨"a", "The cat sat."⟩, ⟨"b", "Dogs run fast."⟩]

/-- A query that holds for the first of them. -/
def catQuery : Compiled :=
  .ofExpr "contains(text,'cat')" (.test ⟨.text, .contains "cat"⟩)

theorem sort_pets : SortOrder.natural.sort (pets.map Entry.name) = ["a", "b"] :=
  List.mergeSort_of_pairwise (by decide)

theorem holdingNames_pets : holdingNames .natural pets catQuery.expr = ["a"] := by
  rw [holdingNames, sort_pets]
  decide

/-- A query that has been drained before, so that the trigram index has been built. -/
theorem query_pets_again :
    Settings.check {} = .ok () ∧ (pets.map Entry.name).Nodup ∧
      ∃ corpus, Corpus.ofEntries {} "pets" pets = .ok corpus ∧
        ∀ tree, ∃ cursor now,
          ((ofCorpus corpus).afterAll [(tree, .drain (.matching catQuery))]).query
            catQuery.source = .ok cursor ∧
          ((ofCorpus corpus).afterAll [(tree, .drain (.matching catQuery))]).corpus = some now ∧
          (cursor.drain tree (some now)).result = [.ok "a"] := by
  have hsettings : Settings.check {} = .ok () := rfl
  have hnames : (pets.map Entry.name).Nodup := by decide
  obtain ⟨corpus, hcorpus, hall⟩ := query_eq_filter {} "pets" pets hsettings hnames
  refine ⟨hsettings, hnames, corpus, hcorpus, fun tree => ?_⟩
  obtain ⟨cursor, now, hcursor, hnow, -, hdrain, -⟩ :=
    hall [(tree, .drain (.matching catQuery))] tree catQuery.source catQuery rfl
  refine ⟨cursor, now, hcursor, hnow, ?_⟩
  rw [hdrain]
  show (holdingNames .natural pets catQuery.expr).map Except.ok = _
  rw [holdingNames_pets]
  rfl

end Reader

end Concordance
