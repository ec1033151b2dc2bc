import Mathlib
import Concordance.Proofs.Compact.Writer
import Concordance.Store.Opening

/-!
# The locations of a compact corpus

A compact corpus is opened by the path of its data, by the path of its index file, or by its base
name.  A base name that itself ends like one of these paths is read as such a path, so it stands
for another corpus.

* `NamesFile` says which paths the files of a corpus have, `Pair.baseOf_of_namesFile` and
  `Pair.baseOf_bare` what the base name of a location is.
* `Pair.open?_eq_of_baseOf` says that a location counts only by its base name.
* `StandsFor` says which locations stand for a corpus, `FilesOf.openAt` opens them.
* `Session.opens_under_each_spelling` is about a writer from its beginning to its end.
-/

namespace Concordance.Compact

variable {tree : Tree} {base front location : String} {es : List (String × String)}

/-! ## Base names -/

/-- The location is the path of a file of the corpus with a base name. -/
inductive NamesFile (base : String) : String → Prop where
  /-- The path of the data. -/
  | data : NamesFile base (base ++ dataEnding)
  /-- The path of the index file. -/
  | index : NamesFile base (base ++ indexEnding)

theorem namesFile_iff : NamesFile base location ↔
    dropEnding? dataEnding location = some base ∨ dropEnding? indexEnding location = some base := by
  rw [dropEnding?_eq_some_iff, dropEnding?_eq_some_iff]
  constructor
  · intro h
    cases h with
    | data => exact Or.inl rfl
    | index => exact Or.inr rfl
  · rintro (rfl | rfl)
    · exact .data
    · exact .index

/-- A base name is not the path of a file of its own corpus. -/
theorem NamesFile.ne (h : NamesFile base location) : location ≠ base := by
  intro heq
  have hlength := congrArg (fun s => s.toList.length) heq
  cases h with
  | data => simp [dataEnding] at hlength
  | index => simp [indexEnding] at hlength

theorem Pair.baseOf_of_namesFile (tree : Tree) (h : NamesFile base location) :
    Pair.baseOf tree location = .ok base := by
  cases h with
  | data => rw [Pair.baseOf, dropEnding?_eq_some_iff.2 rfl]
  | index => exact Pair.baseOf_index tree base

/-- A location that is not the path of a file is a base name, if there is an index file. -/
theorem Pair.baseOf_bare (hbare : ∀ front, ¬ NamesFile front base)
    (hfile : tree.isFile (base ++ indexEnding) = true) : Pair.baseOf tree base = .ok base := by
  have hdata : dropEnding? dataEnding base = none :=
    Option.eq_none_iff_forall_ne_some.2 fun front h => hbare front (namesFile_iff.2 (Or.inl h))
  have hindex : dropEnding? indexEnding base = none :=
    Option.eq_none_iff_forall_ne_some.2 fun front h => hbare front (namesFile_iff.2 (Or.inr h))
  rw [Pair.baseOf, hdata, hindex]
  exact if_pos hfile

/-! ## Opening -/

/-- Locations with the same base name are opened alike. -/
theorem Pair.open?_eq_of_baseOf (h : Pair.baseOf tree location = .ok base) :
    Pair.open? tree location = Pair.open? tree (base ++ indexEnding) := by
  rw [Pair.open?, Pair.open?, h, Pair.baseOf_index]

/-- A corpus that has been opened has the base name of its location. -/
theorem Pair.base_of_open? {p : Pair} (h : Pair.baseOf tree location = .ok base)
    (hopen : Pair.open? tree location = .ok p) : p.base = base := by
  rw [Pair.open?, h, ok_bind] at hopen
  dsimp only at hopen
  split at hopen
  · cases hopen
  · obtain ⟨data, -, hparse⟩ := bind_eq_ok_iff.1 hopen
    split at hparse
    · cases hparse
      rfl
    · cases hparse

theorem FilesOf.read_namesFile (h : FilesOf tree base es) (hfile : NamesFile base location) :
    ∃ content, tree.read location = .ok content := by
  cases hfile with
  | data => exact ⟨_, h.data⟩
  | index => exact ⟨_, h.index⟩

/-- What is at a location with an index file behind it is a compact corpus or a directory. -/
theorem FilesOf.openAt_base (h : FilesOf tree base es) (hdirectory : tree.isDirectory base = false)
    (settings : Settings) : Store.openAt tree settings base = Store.openCompact tree base := by
  have hcontains : tree.contains (base ++ indexEnding) = true := Tree.contains_of_read h.index
  simp [Store.openAt, hdirectory, hcontains]

/-- The files of entries with different names are opened by the path of either. -/
theorem FilesOf.openAt_file (h : FilesOf tree base es) (hnodup : (es.map Prod.fst).Nodup)
    (hfile : NamesFile base location) (settings : Settings) :
    Store.openAt tree settings location = .ok (.compact (pairOf base es)) := by
  obtain ⟨content, hread⟩ := h.read_namesFile hfile
  have hopen : Pair.open? tree location = .ok (pairOf base es) := by
    rw [Pair.open?_eq_of_baseOf (Pair.baseOf_of_namesFile tree hfile)]
    exact h.open?_index hnodup
  have hcontains : tree.contains location = true := Tree.contains_of_read hread
  simp [Store.openAt, Tree.isDirectory_of_read hread, hcontains, Store.openCompact, hopen,
    Except.map]

/-- They are opened by the base name, if that does not read as the path of a file. -/
theorem FilesOf.openAt_bare (h : FilesOf tree base es) (hnodup : (es.map Prod.fst).Nodup)
    (hdirectory : tree.isDirectory base = false) (hbare : ∀ front, ¬ NamesFile front base)
    (settings : Settings) :
    Store.openAt tree settings base = .ok (.compact (pairOf base es)) := by
  have hbase := Pair.baseOf_bare hbare (Tree.isFile_of_read h.index)
  rw [h.openAt_base hdirectory, Store.openCompact, Pair.open?_eq_of_baseOf hbase,
    h.open?_index hnodup]
  rfl

/-- The location stands for the corpus with a base name: it is the path of a file of it, or the base
name itself, if that is no directory and does not read as the path of a file. -/
def StandsFor (tree : Tree) (base location : String) : Prop :=
  NamesFile base location ∨
    location = base ∧ tree.isDirectory base = false ∧ ∀ front, ¬ NamesFile front base

/-- The files of entries with different names are opened by all locations that stand for them. -/
theorem FilesOf.openAt (h : FilesOf tree base es) (hnodup : (es.map Prod.fst).Nodup)
    (hstands : StandsFor tree base location) (settings : Settings) :
    Store.openAt tree settings location = .ok (.compact (pairOf base es)) := by
  rcases hstands with hfile | ⟨rfl, hdirectory, hbare⟩
  · exact h.openAt_file hnodup hfile settings
  · exact h.openAt_bare hnodup hdirectory hbare settings

/-- A base name that reads as the path of a file stands for the corpus of that file. -/
theorem FilesOf.openAt_other (h : FilesOf tree base es) (hdirectory : tree.isDirectory base = false)
    (hother : NamesFile front base) (settings : Settings) :
    Store.openAt tree settings base = Store.openCompact tree (front ++ indexEnding) := by
  rw [h.openAt_base hdirectory, Store.openCompact, Store.openCompact,
    Pair.open?_eq_of_baseOf (Pair.baseOf_of_namesFile tree hother)]

end Concordance.Compact

namespace Concordance.Session

open Concordance.Compact

variable {s made : Session} {id base : String} {entries : List (String × String)}

/-- The corpus that a writer has written is opened by the path of its data and by the path of its
index file, whatever the base name is, and has that base name, the names of the entries in their
order, and their contents.  The base name opens the same corpus, unless it reads as the path of a
file of another corpus: then it stands for that one, and what is opened has another base name. -/
theorem opens_under_each_spelling (hcreate : s.createWriter id base = (made, .ok ()))
    (hnodup : ((Compact.kept entries).map Prod.fst).Nodup)
    (htotal : (contents (Compact.kept entries)).length < 2 ^ 64) :
    let taken := Compact.kept entries
    ∃ filled done store, made.writeEach id entries = some (entries.map answer, filled) ∧
      filled.finishWriter id = some done ∧
      store.name = base ∧ store.names = taken.map Prod.fst ∧
      (∀ tree, ∀ e ∈ taken, store.get tree e.1 = .ok e.2) ∧
      (∀ tree, ∀ name ∉ taken.map Prod.fst, store.get tree name = .error (.notFound name)) ∧
      (∀ settings, Store.openAt done.tree settings (base ++ dataEnding) = .ok store ∧
        Store.openAt done.tree settings (base ++ indexEnding) = .ok store) ∧
      (done.tree.isDirectory base = false → (∀ front, ¬ NamesFile front base) →
        ∀ settings, Store.openAt done.tree settings base = .ok store) ∧
      (done.tree.isDirectory base = false → ∀ front, NamesFile front base → ∀ settings,
        Store.openAt done.tree settings base =
          Store.openCompact done.tree (front ++ indexEnding) ∧
        ∀ other, Store.openAt done.tree settings base = .ok other →
          other.name = front ∧ other.name ≠ base) := by
  intro taken
  obtain ⟨w, hmade⟩ := writing_createWriter hcreate
  obtain ⟨w', filled, heach, hfilled⟩ := hmade.writeEach entries
  obtain ⟨done, hdone, hdata, hindex⟩ := hfilled.finishWriter
  have hnames : ∀ e ∈ taken, ¬ BadName e.1 := fun e he =>
    of_decide_eq_true (List.mem_filter.1 he).2
  have hfiles : FilesOf done.tree base taken := ⟨hdata, hindex, hnames, htotal⟩
  refine ⟨filled, done, .compact (pairOf base taken), heach, hdone, rfl, names_pairOf base taken,
    ?_, ?_, ?_, hfiles.openAt_bare hnodup, ?_⟩
  · intro tree e he
    rw [Store.get]
    exact get_pairOf base hnodup he
  · intro tree name hname
    rw [Store.get]
    exact get_pairOf_of_notMem base hnodup hname
  · intro settings
    exact ⟨hfiles.openAt_file hnodup .data settings, hfiles.openAt_file hnodup .index settings⟩
  · intro hdirectory front hother settings
    have hopen := hfiles.openAt_other hdirectory hother settings
    refine ⟨hopen, ?_⟩
    intro other hfound
    rw [hopen, Store.openCompact, map_eq_ok_iff] at hfound
    obtain ⟨pair, hpair, rfl⟩ := hfound
    have hname : pair.base = front := Pair.base_of_open? (Pair.baseOf_index done.tree front) hpair
    have hne : pair.base ≠ base := by
      rw [hname]
      exact hother.ne.symm
    exact ⟨hname, hne⟩

/-- Two entries, opened by all three locations. -/
theorem opens_out :
    let made := ((Session.start ["work"]).createWriter "w" "out").1
    (Session.start ["work"]).createWriter "w" "out" = (made, .ok ()) ∧
    ∃ filled done store,
      made.writeEach "w" [("a", "The cat sat."), ("b", "Dogs run fast.")] =
        some ([.ok (), .ok ()], filled) ∧
      filled.finishWriter "w" = some done ∧ store.name = "out" ∧ store.names = ["a", "b"] ∧
      store.get done.tree "b" = .ok "Dogs run fast." ∧
      ∀ settings, Store.openAt done.tree settings "out.data.dz" = .ok store ∧
        Store.openAt done.tree settings "out.index" = .ok store ∧
        Store.openAt done.tree settings "out" = .ok store := by
  intro made
  have hcreate : (Session.start ["work"]).createWriter "w" "out" = (made, .ok ()) := by
    rfl
  have htotal : (contents (Compact.kept
      [("a", "The cat sat."), ("b", "Dogs run fast.")])).length < 2 ^ 64 := by
    decide +kernel
  obtain ⟨filled, done, store, heach, hdone, hname, hnames, hget, -, hfiles, hbase, -⟩ :=
    opens_under_each_spelling hcreate (by decide +kernel) htotal
  have hbare : ∀ front, ¬ NamesFile front "out" := by
    intro front hfront
    rcases namesFile_iff.1 hfront with h | h
    · cases h
    · cases h
  have hdirectory : done.tree.isDirectory "out" = false := by
    cases heach
    cases hdone
    rfl
  refine ⟨hcreate, filled, done, store, heach, hdone, hname, hnames,
    hget done.tree ("b", _) (by decide +kernel), fun settings => ?_⟩
  exact ⟨(hfiles settings).1, (hfiles settings).2, hbase hdirectory hbare settings⟩

/-- The base name ends like an index file, so it is read as one: the corpus `out` is not there. -/
theorem not_opened_under_base :
    ∃ made filled done, (Session.start ["work"]).createWriter "w" "out.index" = (made, .ok ()) ∧
      made.writeEach "w" [("a", "The cat sat.")] = some ([.ok ()], filled) ∧
      filled.finishWriter "w" = some done ∧ done.tree.isDirectory "out.index" = false ∧
      Store.openAt done.tree {} "out.index" = .error (.cannotOpen "out.index" .notRegular) := by
  refine ⟨_, _, _, rfl, rfl, rfl, ?_, ?_⟩
  · rfl
  · rfl

end Concordance.Session
