import Mathlib
import Concordance.Proofs.Index.Names
import Concordance.Corpus.Basic

/-!
# Corpora in memory

Entries with different names make a corpus that has all of them, and whatever becomes of the files,
each of them can be read.

* `Store.exists_ofEntries` gives the store of some entries.
* `Corpus.Serves` says that a corpus has given names and reads given contents under them.
* `Corpus.exists_ofEntries` says that the corpus of some entries serves them.
-/

namespace Concordance

/-- The content of the first entry with a name. -/
def contentOf (entries : List Entry) (name : String) : String :=
  ((entries.find? fun e => e.name = name).map Entry.content).getD ""

theorem contentOf_eq {entries : List Entry} (hnames : (entries.map Entry.name).Nodup) {e : Entry}
    (he : e ∈ entries) : contentOf entries e.name = e.content := by
  induction entries with
  | nil => simp at he
  | cons first rest ih =>
    obtain ⟨hfirst, hrest⟩ := List.nodup_cons.1 hnames
    unfold contentOf
    rcases List.mem_cons.1 he with rfl | he
    · simp
    · have hne : ¬ first.name = e.name := by
        intro heq
        exact hfirst (heq ▸ List.mem_map_of_mem he)
      rw [List.find?_cons_of_neg (by simpa using hne)]
      exact ih hrest he

namespace Store

theorem exists_ofEntriesFrom (name : String) {entries : List Entry}
    (hnames : (entries.map Entry.name).Nodup) (names : List String)
    (contents : Std.HashMap String String) (hnew : ∀ e ∈ entries, e.name ∉ contents) :
    ∃ all, ofEntriesFrom name names contents entries =
        .ok (.memory name (names.reverse ++ entries.map Entry.name) all) ∧
      ∀ n, all[n]? = ((entries.find? fun e => e.name = n).map Entry.content).or contents[n]? := by
  induction entries generalizing names contents with
  | nil => exact ⟨contents, by simp [ofEntriesFrom], by simp⟩
  | cons e rest ih =>
    obtain ⟨he, hrest⟩ := List.nodup_cons.1 hnames
    have hnotin : contents.contains e.name = false := by
      simpa using hnew e (by simp)
    have hnew' : ∀ d ∈ rest, d.name ∉ contents.insert e.name e.content := by
      intro d hd hmem
      rcases Std.HashMap.mem_insert.1 hmem with heq | hmem
      · exact he (beq_iff_eq.1 heq ▸ List.mem_map_of_mem hd)
      · exact hnew d (by simp [hd]) hmem
    obtain ⟨all, hall, hget⟩ := ih hrest (e.name :: names) (contents.insert e.name e.content) hnew'
    refine ⟨all, ?_, fun n => ?_⟩
    · rw [ofEntriesFrom, hnotin, if_neg (by decide), hall]
      simp
    · rw [hget n, Std.HashMap.getElem?_insert]
      by_cases hn : e.name = n
      · subst hn
        have hnone : rest.find? (fun d => d.name = e.name) = none := by
          rw [List.find?_eq_none]
          intro d hd heq
          exact he (of_decide_eq_true heq ▸ List.mem_map_of_mem hd)
        simp [hnone]
      · simp [hn]

/-- Entries with different names make a store that has all of them. -/
theorem exists_ofEntries (name : String) {entries : List Entry}
    (hnames : (entries.map Entry.name).Nodup) :
    ∃ all, ofEntries name entries = .ok (.memory name (entries.map Entry.name) all) ∧
      ∀ n, all[n]? = (entries.find? fun e => e.name = n).map Entry.content := by
  obtain ⟨all, hall, hget⟩ := exists_ofEntriesFrom name hnames [] ∅ (by simp)
  exact ⟨all, by simpa [ofEntries] using hall, by simpa using hget⟩

end Store

namespace Corpus

/-- The corpus has these names, and reads these contents under them, whatever the files are. -/
structure Serves (content : String → String) (listing : NameIndex) (c : Corpus) : Prop where
  /-- The names. -/
  names : c.index.names = listing
  /-- The indexes are those of the contents. -/
  agrees : c.index.Agrees content
  /-- The contents can be read. -/
  loads : ∀ tree, Loads (c.load tree) content listing.names.toList

variable {content : String → String} {listing : NameIndex} {c : Corpus}

/-- Other indexes of the same entries change nothing. -/
theorem Serves.withIndex (h : c.Serves content listing) {after : CorpusIndex}
    (hnames : after.names = c.index.names) (hagrees : after.Agrees content) :
    ({ c with index := after } : Corpus).Serves content listing := by
  refine ⟨hnames.trans h.names, hagrees, fun tree => ?_⟩
  have hload : ({ c with index := after } : Corpus).load tree = c.load tree := by
    funext name
    unfold load
    rw [hnames]
  rw [hload]
  exact h.loads tree

/-- The corpus of entries with different names serves them. -/
theorem exists_ofEntries {settings : Settings} (hsettings : settings.check = .ok ())
    (name : String) {entries : List Entry} (hnames : (entries.map Entry.name).Nodup) :
    ∃ c, ofEntries settings name entries = .ok c ∧ c.settings = settings ∧
      c.Serves (contentOf entries)
        (NameIndex.ofNames settings.order (entries.map Entry.name)) := by
  obtain ⟨all, hstore, hget⟩ := Store.exists_ofEntries name hnames
  refine ⟨ofStore settings (.memory name (entries.map Entry.name) all), ?_, rfl, rfl,
    CorpusIndex.agrees_ofNames hnames _ _, fun tree n hn => ?_⟩
  · rw [ofEntries, hsettings, hstore]
    rfl
  · have hmem : n ∈ entries.map Entry.name :=
      (settings.order.sort_perm _).mem_iff.1 (by simpa [NameIndex.ofNames] using hn)
    obtain ⟨slot, hslot⟩ := (NameIndex.valid_ofNames hnames settings.order).isSome_slot? hn
    have hfound : (entries.find? fun e => e.name = n).isSome := by
      rw [List.find?_isSome]
      obtain ⟨e, he, rfl⟩ := List.mem_map.1 hmem
      exact ⟨e, he, by simp⟩
    obtain ⟨e, he⟩ := Option.isSome_iff_exists.1 hfound
    have hload : load tree (ofStore settings (.memory name (entries.map Entry.name) all)) n =
        .ask (Store.get tree (.memory name (entries.map Entry.name) all)) n := by
      unfold load
      rw [show (ofStore settings (.memory name (entries.map Entry.name) all)).index.names.slot? n =
        some slot from hslot]
      rfl
    rw [hload]
    show Store.get tree (.memory name (entries.map Entry.name) all) n = _
    rw [Store.get, hget, contentOf, he]
    rfl

end Corpus

end Concordance
