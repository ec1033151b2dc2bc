import Mathlib
import Concordance.Corpus.Basic
import Concordance.Proofs.Compact.Table
import Concordance.Proofs.Files.Sound
import Concordance.Proofs.Index.Outcomes

/-!
# The names of a corpus are different

Whatever is opened, no two of its entries have the same name: stores in memory and joined stores
refuse it, an index file is refused as well, and in a sound tree the files of a directory have
different paths.

* `Store.nodup_ofEntries`, `nodup_openAt`, `nodup_openBelow` and `nodup_openJoined` say this of
  the stores that are opened.
* `Corpus.Opened` says how a corpus is opened, `Corpus.Opened.nodup` that its names are different.
-/

namespace Concordance

namespace Store

variable {tree : Tree} {settings : Settings} {location : String} {store : Store}

/-! ## Refused names -/

theorem nodup_ofEntriesFrom {name : String} {names : List String}
    {contents : Std.HashMap String String} {entries : List Entry} (hnames : names.Nodup)
    (hcontents : ∀ n, n ∈ contents ↔ n ∈ names)
    (h : ofEntriesFrom name names contents entries = .ok store) : store.names.Nodup := by
  induction entries generalizing names contents with
  | nil =>
    cases h
    exact List.nodup_reverse.2 hnames
  | cons e rest ih =>
    rw [ofEntriesFrom] at h
    split at h
    · cases h
    next hnew =>
      have hnew' : e.name ∉ names := by
        rw [← hcontents]
        simpa using hnew
      refine ih (List.nodup_cons.2 ⟨hnew', hnames⟩) ?_ h
      intro n
      rw [Std.HashMap.mem_insert, hcontents, List.mem_cons, beq_iff_eq, eq_comm]

/-- Names that can be entered are different, and from those that were there. -/
theorem nodup_of_enter {names : List JoinedName} {places after : Std.HashMap String (Nat × String)}
    (h : enter places names = .ok after) :
    (names.map JoinedName.full).Nodup ∧ ∀ n ∈ names, n.full ∉ places := by
  induction names generalizing places with
  | nil => simp
  | cons n rest ih =>
    rw [enter] at h
    split at h
    · cases h
    next hnew =>
      obtain ⟨hrest, hothers⟩ := ih h
      refine ⟨?_, ?_⟩
      · rw [List.map_cons, List.nodup_cons]
        refine ⟨?_, hrest⟩
        intro hmem
        obtain ⟨m, hm, heq⟩ := List.mem_map.1 hmem
        apply hothers m hm
        rw [heq]
        exact Std.HashMap.mem_insert_self
      · intro m hm
        rcases List.mem_cons.1 hm with rfl | hm
        · simpa using hnew
        · intro hmem
          exact hothers m hm (Std.HashMap.mem_insert.2 (Or.inr hmem))

theorem nodup_join {name : String} {parts : List (String × Store)}
    (h : join name parts = .ok store) : store.names.Nodup := by
  rw [join] at h
  obtain ⟨places, henter, hstore⟩ := bind_eq_ok_iff.1 h
  cases hstore
  exact (nodup_of_enter henter).1

/-! ## Opened stores -/

theorem nodup_openDirectory (htree : tree.Sound)
    (h : openDirectory tree settings location = .ok store) : store.names.Nodup := by
  rw [openDirectory] at h
  split at h
  next place hplace =>
    cases h
    obtain ⟨hnodup, hnames⟩ := htree.nodup_filesBelow place
    refine List.Nodup.filter _ (List.Nodup.map_on ?_ hnodup)
    intro way hway way' hway' heq
    exact joined_injective (hnames way hway) (hnames way' hway') heq
  · cases h

theorem nodup_openCompact (h : openCompact tree location = .ok store) : store.names.Nodup := by
  rw [openCompact, map_eq_ok_iff] at h
  obtain ⟨pair, hopen, rfl⟩ := h
  rw [Compact.Pair.open?] at hopen
  obtain ⟨base, -, hopen⟩ := bind_eq_ok_iff.1 hopen
  dsimp only at hopen
  split at hopen
  · cases hopen
  next lines hlines =>
    obtain ⟨data, -, hparse⟩ := bind_eq_ok_iff.1 hopen
    split at hparse
    next table htable =>
      cases hparse
      obtain ⟨rows, hlists, rfl⟩ := Compact.Table.parse_eq_ok_iff.1 htable
      exact hlists.nodup
    · cases hparse

theorem nodup_openAt (htree : tree.Sound) (h : openAt tree settings location = .ok store) :
    store.names.Nodup := by
  rw [openAt] at h
  split at h
  · exact nodup_openDirectory htree h
  · split at h
    · exact nodup_openCompact h
    · cases h

theorem nodup_openBelow (h : openBelow tree location = .ok store) : store.names.Nodup := by
  rw [openBelow] at h
  split at h
  · cases h
  · obtain ⟨parts, -, hjoin⟩ := bind_eq_ok_iff.1 h
    exact nodup_join hjoin

theorem nodup_openJoined {corpora : List (String × String)}
    (h : openJoined tree settings corpora = .ok store) : store.names.Nodup := by
  obtain ⟨parts, -, hjoin⟩ := bind_eq_ok_iff.1 h
  exact nodup_join hjoin

theorem nodup_ofEntries {name : String} {entries : List Entry}
    (h : ofEntries name entries = .ok store) : store.names.Nodup :=
  nodup_ofEntriesFrom List.nodup_nil (by simp) h

end Store

namespace Corpus

/-- The corpus has just been opened, in one of the ways to open one. -/
inductive Opened : Corpus → Prop where
  /-- What is at a location of a sound tree. -/
  | place {tree : Tree} {settings : Settings} {location : String} {c : Corpus}
      (htree : tree.Sound) (h : openAt tree settings location = .ok c) : Opened c
  /-- All compact corpora below a directory. -/
  | below {tree : Tree} {settings : Settings} {location : String} {c : Corpus}
      (h : openBelow tree settings location = .ok c) : Opened c
  /-- Several corpora, each under the name before it. -/
  | joined {tree : Tree} {settings : Settings} {corpora : List (String × String)} {c : Corpus}
      (h : openJoined tree settings corpora = .ok c) : Opened c
  /-- Some entries in memory. -/
  | entries {settings : Settings} {name : String} {entries : List Entry} {c : Corpus}
      (h : ofEntries settings name entries = .ok c) : Opened c

/-- The corpus is that of the store that was opened, once the settings have been checked. -/
theorem exists_store_of_opening {settings : Settings} {opening : Except Error Store} {c : Corpus}
    (h : (do settings.check; return ofStore settings (← opening)) = .ok c) :
    ∃ store, settings.check = .ok () ∧ opening = .ok store ∧ c = ofStore settings store := by
  obtain ⟨u, hcheck, h⟩ := bind_eq_ok_iff.1 h
  obtain ⟨store, hstore, h⟩ := bind_eq_ok_iff.1 h
  cases h
  exact ⟨store, hcheck, hstore, rfl⟩

/-- A corpus that has just been opened is that of a store whose names are different, with settings
that have been checked. -/
theorem Opened.exists_store {c : Corpus} (h : c.Opened) :
    ∃ settings store, settings.check = .ok () ∧ c = ofStore settings store ∧
      store.names.Nodup := by
  cases h with
  | @place tree settings location _ htree h =>
    obtain ⟨store, hcheck, hstore, rfl⟩ := exists_store_of_opening h
    exact ⟨settings, store, hcheck, rfl, Store.nodup_openAt htree hstore⟩
  | @below tree settings location _ h =>
    obtain ⟨store, hcheck, hstore, rfl⟩ := exists_store_of_opening h
    exact ⟨settings, store, hcheck, rfl, Store.nodup_openBelow hstore⟩
  | @joined tree settings corpora _ h =>
    obtain ⟨store, hcheck, hstore, rfl⟩ := exists_store_of_opening h
    exact ⟨settings, store, hcheck, rfl, Store.nodup_openJoined hstore⟩
  | @entries settings name entries _ h =>
    obtain ⟨store, hcheck, hstore, rfl⟩ := exists_store_of_opening h
    exact ⟨settings, store, hcheck, rfl, Store.nodup_ofEntries hstore⟩

variable {c : Corpus}

/-- No two entries have the same name. -/
theorem Opened.nodup (h : c.Opened) : c.names.Nodup := by
  obtain ⟨settings, store, -, rfl, hnodup⟩ := h.exists_store
  exact (settings.order.sort_perm store.names).nodup_iff.2 hnodup

/-- Slots and names go together. -/
theorem Opened.valid (h : c.Opened) : c.index.names.Valid := by
  obtain ⟨settings, store, -, rfl, hnodup⟩ := h.exists_store
  exact NameIndex.valid_ofNames hnodup settings.order

/-- The names are indexed in the order of the settings; there is no trigram index. -/
theorem Opened.index_eq (h : c.Opened) : c.index = .ofNames c.settings.order c.store.names := by
  obtain ⟨settings, store, -, rfl, -⟩ := h.exists_store
  rfl

/-- The trigram index has not been built. -/
theorem Opened.keeps (h : c.Opened) (outcome : String → Except Error String) :
    c.index.Keeps outcome := by
  rw [h.index_eq]
  exact CorpusIndex.keeps_ofNames outcome c.settings.order c.store.names

end Corpus

end Concordance
