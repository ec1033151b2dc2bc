import Mathlib
import Concordance.Corpus.Entry
import Concordance.Index.Basic
import Concordance.Proofs.Corpus.Reading
import Concordance.Proofs.Index.Trigrams
import Concordance.Proofs.Text.Natural

/-!
# The indexes of a corpus

The name index takes a name to its slot and the slot back to the name, as long as no two names are
equal; of equal names the last one counts.  The trigram index is built from the contents in slot
order, and it does not matter when.

* `SortOrder.sort_eq_of_perm` says that it does not matter in which order names are found.
* `NameIndex.slot?_ofNames_iff` says which slot a name has.
* `NameIndex.Valid` says that slots and names go together; `valid_ofNames` builds such an index.
* `Loads` says that entries can be read, and with which contents.
* `CorpusIndex.Agrees` says that the indexes are those of given contents; `Agrees.trigramsFor` says
  that building the trigram index keeps this.
-/

namespace Concordance

open Concordance.Text

variable {ε : Type}

/-! ## Names and slots -/

theorem SortOrder.sort_perm (order : SortOrder) (names : List String) :
    (order.sort names).Perm names := List.mergeSort_perm names order.le

theorem SortOrder.le_trans (order : SortOrder) (a b c : String) (hab : order.le a b = true)
    (hbc : order.le b c = true) : order.le a c = true := by
  cases order with
  | natural => exact @Std.TransCmp.isLE_trans _ naturalOrder _ a b c hab hbc
  | lexical => exact @Std.TransCmp.isLE_trans _ byteOrder _ a b c hab hbc

theorem SortOrder.le_total (order : SortOrder) (a b : String) :
    (order.le a b || order.le b a) = true := by
  have htotal : ∀ (cmp : String → String → Ordering) [Std.OrientedCmp cmp],
      ((cmp a b).isLE || (cmp b a).isLE) = true := by
    intro cmp _
    rw [@Std.OrientedCmp.eq_swap _ cmp _ a b]
    cases cmp b a <;> rfl
  cases order with
  | natural => exact htotal naturalOrder
  | lexical => exact htotal byteOrder

/-- Names that are each before the other are equal. -/
theorem SortOrder.le_antisymm (order : SortOrder) {a b : String} (hab : order.le a b = true)
    (hba : order.le b a = true) : a = b := by
  cases order with
  | natural =>
    exact Std.LawfulEqCmp.eq_of_compare (@Std.OrientedCmp.isLE_antisymm _ naturalOrder _ a b hab hba)
  | lexical =>
    exact Std.LawfulEqCmp.eq_of_compare (@Std.OrientedCmp.isLE_antisymm _ byteOrder _ a b hab hba)

theorem SortOrder.pairwise_sort (order : SortOrder) (names : List String) :
    (order.sort names).Pairwise fun a b => order.le a b = true :=
  List.pairwise_mergeSort order.le_trans order.le_total names

/-- It makes no difference in which order the names were before. -/
theorem SortOrder.sort_eq_of_perm (order : SortOrder) {names other : List String}
    (h : other.Perm names) : order.sort other = order.sort names := by
  have hperm : (order.sort other).Perm (order.sort names) :=
    (order.sort_perm other).trans (h.trans (order.sort_perm names).symm)
  exact hperm.eq_of_pairwise (fun a b _ _ => order.le_antisymm) (order.pairwise_sort other)
    (order.pairwise_sort names)

/-- Names that are in order stay where they are. -/
theorem SortOrder.sort_sort (order : SortOrder) (names : List String) :
    order.sort (order.sort names) = order.sort names :=
  order.sort_eq_of_perm (order.sort_perm names)

namespace NameIndex

theorem slotsFrom_append (names more : List String) (start : Nat)
    (slots : Std.HashMap String Nat) :
    slotsFrom start (names ++ more) slots =
      slotsFrom (start + names.length) more (slotsFrom start names slots) := by
  induction names generalizing start slots with
  | nil => rfl
  | cons first rest ih =>
    rw [List.cons_append, slotsFrom, ih, slotsFrom, List.length_cons, Nat.add_right_comm,
      Nat.add_assoc]

/-- Of equal names the last one counts. -/
theorem getElem?_slotsFrom {names : List String} {name : String} {slot : Nat} :
    (slotsFrom 0 names ∅)[name]? = some slot ↔
      names[slot]? = some name ∧ ∀ later, slot < later → names[later]? ≠ some name := by
  induction names using List.reverseRecOn with
  | nil => simp [slotsFrom]
  | append_singleton names last ih =>
    rw [slotsFrom_append, slotsFrom, slotsFrom, Std.HashMap.getElem?_insert, Nat.zero_add]
    by_cases hlast : last = name
    · subst hlast
      rw [beq_self_eq_true, if_pos rfl, Option.some_inj]
      constructor
      · rintro rfl
        refine ⟨by simp, fun later hlater => ?_⟩
        rw [List.getElem?_eq_none (by simpa using hlater)]
        exact nofun
      · rintro ⟨hslot, hlater⟩
        have hle : slot < (names ++ [last]).length := (List.getElem?_eq_some_iff.1 hslot).1
        rw [List.length_append, List.length_singleton] at hle
        by_contra hne
        exact hlater names.length (by omega) (by simp)
    · have hget : ∀ place : Nat,
          (names ++ [last])[place]? = some name ↔ names[place]? = some name := by
        intro place
        rw [List.getElem?_append]
        split
        · rfl
        next hle =>
          rw [List.getElem?_eq_none (Nat.le_of_not_lt hle), List.getElem?_singleton]
          split <;> simp [hlast]
      simp only [hget, ne_eq, ← ih]
      simp [hlast]

theorem mem_slotsFrom {names : List String} {start : Nat} {slots : Std.HashMap String Nat}
    {name : String} : name ∈ slotsFrom start names slots ↔ name ∈ names ∨ name ∈ slots := by
  induction names generalizing start slots with
  | nil => simp [slotsFrom]
  | cons first rest ih =>
    rw [slotsFrom, ih, Std.HashMap.mem_insert, List.mem_cons, beq_iff_eq]
    tauto

section

variable {order : SortOrder} {names : List String} {name : String} {slot : Nat}

theorem names_ofNames : (ofNames order names).names.toList = order.sort names := rfl

theorem nameAt?_ofNames : (ofNames order names).nameAt? slot = (order.sort names)[slot]? := by
  simp [ofNames, nameAt?]

/-- The slot of a name is the last position that holds it. -/
theorem slot?_ofNames_iff : (ofNames order names).slot? name = some slot ↔
    (ofNames order names).nameAt? slot = some name ∧
      ∀ later, slot < later → (ofNames order names).nameAt? later ≠ some name := by
  simp only [nameAt?_ofNames]
  exact getElem?_slotsFrom

theorem slot?_ofNames_eq_none_iff : (ofNames order names).slot? name = none ↔ name ∉ names := by
  have hmem : ((ofNames order names).slot? name).isSome ↔ name ∈ names := by
    rw [slot?, ← Std.HashMap.mem_iff_isSome_getElem?, ofNames, mem_slotsFrom,
      (order.sort_perm names).mem_iff]
    simp
  rw [← hmem, Option.not_isSome_iff_eq_none]

end

/-- Do slots and names go together? -/
def Valid (index : NameIndex) : Prop :=
  ∀ name slot, index.slot? name = some slot ↔ index.nameAt? slot = some name

/-- Different names have one slot each. -/
theorem valid_ofNames {names : List String} (hnames : names.Nodup) (order : SortOrder) :
    (ofNames order names).Valid := by
  have hsorted : (order.sort names).Nodup := (order.sort_perm names).nodup_iff.2 hnames
  intro name slot
  rw [slot?_ofNames_iff]
  simp only [nameAt?_ofNames]
  refine ⟨And.left, fun hslot => ⟨hslot, fun later hlater hsame => ?_⟩⟩
  have hlt : slot < (order.sort names).length := (List.getElem?_eq_some_iff.1 hslot).1
  exact Nat.ne_of_lt hlater ((List.getElem?_inj hlt hsorted).1 (hslot.trans hsame.symm))

variable {index : NameIndex}

theorem nameAt?_eq_some_iff {slot : Nat} {name : String} :
    index.nameAt? slot = some name ↔ ∃ h : slot < index.names.size, index.names[slot] = name :=
  Array.getElem?_eq_some_iff

theorem nameAt?_lt {slot : Nat} {name : String} (h : index.nameAt? slot = some name) :
    slot < index.size :=
  (nameAt?_eq_some_iff.1 h).1

theorem mem_names_of_nameAt? {slot : Nat} {name : String} (h : index.nameAt? slot = some name) :
    name ∈ index.names.toList := by
  obtain ⟨hlt, rfl⟩ := nameAt?_eq_some_iff.1 h
  exact Array.mem_toList_iff.2 (Array.getElem_mem hlt)

theorem exists_nameAt?_of_mem {name : String} (h : name ∈ index.names.toList) :
    ∃ slot, index.nameAt? slot = some name := by
  obtain ⟨slot, hlt, hget⟩ := List.getElem_of_mem h
  exact ⟨slot, nameAt?_eq_some_iff.2 ⟨by simpa using hlt, by simpa using hget⟩⟩

theorem map_nameAt?_range (index : NameIndex) :
    (List.range index.size).map index.nameAt? = index.names.toList.map some := by
  refine List.ext_getElem (by simp [size]) fun slot h _ => ?_
  have hslot : slot < index.names.size := by simpa [size] using h
  simp [nameAt?, hslot]

/-- Going through all slots gives all names in their order. -/
theorem filterMap_nameAt?_range (index : NameIndex) :
    (List.range index.size).filterMap index.nameAt? = index.names.toList := by
  have hid : index.nameAt? = id ∘ index.nameAt? := rfl
  rw [hid, ← List.filterMap_map, map_nameAt?_range, List.filterMap_map]
  exact List.filterMap_some

theorem Valid.isSome_slot? (h : index.Valid) {name : String} (hname : name ∈ index.names.toList) :
    ∃ slot, index.slot? name = some slot := by
  obtain ⟨slot, hslot⟩ := exists_nameAt?_of_mem hname
  exact ⟨slot, (h name slot).2 hslot⟩

/-- The bytes of the contents of all entries, in slot order. -/
def contents (index : NameIndex) (content : String → String) : List Bytes :=
  index.names.toList.map fun name => utf8 (content name)

theorem length_contents (index : NameIndex) (content : String → String) :
    (index.contents content).length = index.size := by
  simp [contents, size]

theorem getD_contents {slot : Nat} {name : String} (h : index.nameAt? slot = some name)
    (content : String → String) : (index.contents content).getD slot [] = utf8 (content name) := by
  obtain ⟨hlt, rfl⟩ := nameAt?_eq_some_iff.1 h
  simp [contents, List.getD, hlt]

end NameIndex

/-! ## Reading entries -/

/-- The entries with these names can be read, and have these contents. -/
def Loads (load : String → Reading ε String) (content : String → String) (names : List String) :
    Prop :=
  ∀ name ∈ names, (load name).outcome = .ok (content name)

/-- Reading entries adds their contents in a row. -/
theorem NameIndex.readFrom_of_entries {load : String → Reading ε String} {entries : List Entry}
    (hload : ∀ e ∈ entries, (load e.name).outcome = .ok e.content) (slot : Nat)
    (trigrams : TrigramIndex) :
    (readFrom load slot (entries.map Entry.name) trigrams).outcome =
      .ok (trigrams.addFrom slot (entries.map fun e => utf8 e.content)) := by
  induction entries generalizing slot trigrams with
  | nil => rfl
  | cons e rest ih =>
    obtain ⟨he, hrest⟩ := List.forall_mem_cons.1 hload
    rw [List.map_cons, readFrom, Reading.bind_outcome, he]
    exact ih hrest (slot + 1) _

/-- Building the trigram index gives the one of the contents. -/
theorem NameIndex.buildTrigrams_of_loads {index : NameIndex} {load : String → Reading ε String}
    {content : String → String} (hload : Loads load content index.names.toList) :
    (index.buildTrigrams load).outcome = .ok (.ofContents (index.contents content)) := by
  let entries : List Entry := index.names.toList.map fun name => ⟨name, content name⟩
  have hentries : ∀ e ∈ entries, (load e.name).outcome = .ok e.content :=
    List.forall_mem_map.2 hload
  have hbuild := readFrom_of_entries hentries 0 .empty
  rw [List.map_map, List.map_map] at hbuild
  simpa [Function.comp_def, buildTrigrams, TrigramIndex.ofContents, contents] using hbuild

namespace CorpusIndex

/-- It makes no difference to the index whether the names were in order before. -/
theorem ofNames_sort (order : SortOrder) (names : List String) :
    ofNames order (order.sort names) = ofNames order names := by
  simp only [ofNames, NameIndex.ofNames, order.sort_sort]

/-- The indexes are those of entries with these contents. -/
structure Agrees (content : String → String) (index : CorpusIndex) : Prop where
  /-- Slots and names go together. -/
  valid : index.names.Valid
  /-- The trigram index is that of the contents, if it has been built. -/
  indexes : ∀ trigrams, index.trigrams = some trigrams →
    trigrams.Indexes (index.names.contents content)

theorem agrees_ofNames {names : List String} (hnames : names.Nodup) (order : SortOrder)
    (content : String → String) : (ofNames order names).Agrees content :=
  ⟨NameIndex.valid_ofNames hnames order, by simp [ofNames]⟩

/-- There is a trigram index of the contents, whether or not it has been built before. -/
theorem Agrees.trigramsFor {content : String → String} {index : CorpusIndex}
    (h : index.Agrees content) {load : String → Reading ε String}
    (hload : Loads load content index.names.names.toList) :
    ∃ trigrams after, (index.trigramsFor load).outcome = .ok (trigrams, after) ∧
      trigrams.Indexes (index.names.contents content) ∧ after.names = index.names ∧
      after.Agrees content := by
  unfold CorpusIndex.trigramsFor
  cases hbuilt : index.trigrams with
  | some trigrams => exact ⟨trigrams, index, rfl, h.indexes trigrams hbuilt, rfl, h⟩
  | none =>
    have hindexes := TrigramIndex.indexes_ofContents (index.names.contents content)
    refine ⟨_, { index with trigrams := some (.ofContents (index.names.contents content)) }, ?_,
      hindexes, rfl, h.valid, ?_⟩
    · rw [Reading.bind_outcome, NameIndex.buildTrigrams_of_loads hload]
      rfl
    · intro built hsome
      cases hsome
      exact hindexes

end CorpusIndex

end Concordance
