import Mathlib
import Concordance.Proofs.Index.Names

/-!
# The indexes are exact

The name index lists the names of a corpus in their order, whatever order they were found in.
Looking up a name and looking up a slot undo each other.  The trigram index gives for a literal the
slots of exactly those contents that have all trigrams of the literal.

* `CorpusIndex.ofNames_listing` is the statement about names.
* `TrigramIndex.candidates?_exact` is the statement about literals.
-/

namespace Concordance

open Concordance.Text

namespace CorpusIndex

/-- The listing of some names, among which there may be equal ones.

It has the same names, in order, and does not depend on the order in which they were found.  The
slot of a name is the last position that holds it, and there is none for other names; so the name
at the slot of a name is that name.  There are names at the positions below their number only, and
if no two names are equal the slot of the name at a position is that position. -/
theorem ofNames_listing (order : SortOrder) (names : List String) :
    let index := (ofNames order names).names
    index.names.toList.Perm names ∧
    index.names.toList.Pairwise (fun a b => order.le a b = true) ∧
    (∀ other, other.Perm names → ofNames order other = ofNames order names) ∧
    (∀ name slot, index.slot? name = some slot ↔
      index.nameAt? slot = some name ∧
        ∀ later, slot < later → index.nameAt? later ≠ some name) ∧
    (∀ name, index.slot? name = none ↔ name ∉ names) ∧
    (∀ name ∈ names, (index.slot? name).bind index.nameAt? = some name) ∧
    (∀ slot, index.nameAt? slot = none ↔ names.length ≤ slot) ∧
    (names.Nodup → ∀ slot < names.length, (index.nameAt? slot).bind index.slot? = some slot) := by
  intro index
  have hlength : (order.sort names).length = names.length := (order.sort_perm names).length_eq
  have hat : ∀ slot, index.nameAt? slot = (order.sort names)[slot]? := fun _ =>
    NameIndex.nameAt?_ofNames
  refine ⟨order.sort_perm names, order.pairwise_sort names, ?_, ?_, ?_, ?_, ?_, ?_⟩
  · intro other hother
    rw [ofNames, ofNames, NameIndex.ofNames, NameIndex.ofNames, order.sort_eq_of_perm hother]
  · intro name slot
    exact NameIndex.slot?_ofNames_iff
  · intro name
    exact NameIndex.slot?_ofNames_eq_none_iff
  · intro name hname
    cases hslot : index.slot? name with
    | none => exact absurd hname (NameIndex.slot?_ofNames_eq_none_iff.1 hslot)
    | some slot => exact (NameIndex.slot?_ofNames_iff.1 hslot).1
  · intro slot
    rw [hat, List.getElem?_eq_none_iff, hlength]
  · intro hnames slot hslot
    rw [← hlength] at hslot
    have hname : index.nameAt? slot = some (order.sort names)[slot] :=
      (hat slot).trans (List.getElem?_eq_getElem hslot)
    rw [hname]
    exact (NameIndex.valid_ofNames hnames order _ slot).2 hname

/-- Three names as they were found. -/
def found : List String := ["10.xml", "2.xml", "1.xml"]

/-- They are listed by number, also if they are found in another order. -/
theorem ofNames_listing_found :
    found.Nodup ∧ ["2.xml", "1.xml", "10.xml"].Perm found ∧
      ofNames .natural ["2.xml", "1.xml", "10.xml"] = ofNames .natural found ∧
      ((ofNames .natural found).names.slot? "2.xml").bind (ofNames .natural found).names.nameAt? =
        some "2.xml" ∧
      ((ofNames .natural found).names.nameAt? 2).bind (ofNames .natural found).names.slot? =
        some 2 ∧
      (ofNames .natural found).names.nameAt? 2 = some "10.xml" := by
  have hnodup : found.Nodup := by decide
  have hperm : ["2.xml", "1.xml", "10.xml"].Perm found := by decide
  obtain ⟨-, -, hother, -, -, hname, -, hslot⟩ := ofNames_listing .natural found
  have hsorted : SortOrder.natural.sort found = ["1.xml", "2.xml", "10.xml"] := by
    rw [SortOrder.natural.sort_eq_of_perm (show found.Perm ["1.xml", "2.xml", "10.xml"] by decide)]
    exact List.mergeSort_of_pairwise (by decide)
  refine ⟨hnodup, hperm, hother _ hperm, hname "2.xml" (by decide), hslot hnodup 2 (by decide), ?_⟩
  show (NameIndex.ofNames .natural found).nameAt? 2 = _
  rw [NameIndex.nameAt?_ofNames, hsorted]
  rfl

end CorpusIndex

namespace TrigramIndex

/-- Looking up a literal in the trigram index of some entries, among whose names there may be equal
ones and whose contents may be short.

However the entries are read, what is built is the index of their contents.  A literal has no
candidates to tell if it has fewer than three bytes.  Otherwise they strictly increase, and they
are the slots of exactly those contents in which all that occurs in the literal and has three bytes
occurs as well; so no content that contains the literal is left out. -/
theorem candidates?_exact (entries : List Entry) (literal : String) :
    let index := ofContents (entries.map fun e => utf8 e.content)
    (∀ (ε : Type) (load : String → Reading ε String) (listing : NameIndex),
      listing.names.toList = entries.map Entry.name →
      (∀ e ∈ entries, (load e.name).outcome = .ok e.content) →
      (listing.buildTrigrams load).outcome = .ok index) ∧
    (index.candidates? literal = none ↔ (utf8 literal).length < 3) ∧
    ∀ slots, index.candidates? literal = some slots →
      slots.Pairwise (· < ·) ∧
      (∀ slot, slot ∈ slots ↔ ∃ e, entries[slot]? = some e ∧
        ∀ w : Bytes, w.length = 3 → w <:+: utf8 literal → w <:+: utf8 e.content) ∧
      ∀ slot e, entries[slot]? = some e → utf8 literal <:+: utf8 e.content → slot ∈ slots := by
  intro index
  have hindexes : index.Indexes (entries.map fun e => utf8 e.content) := indexes_ofContents _
  refine ⟨?_, hindexes.candidates?_eq_none_iff, ?_⟩
  · intro ε load listing hlisting hload
    rw [NameIndex.buildTrigrams, hlisting]
    exact NameIndex.readFrom_of_entries hload 0 .empty
  · intro slots hslots
    have hmem : ∀ slot, slot ∈ slots ↔ ∃ e, entries[slot]? = some e ∧
        windows (utf8 literal) ⊆ windows (utf8 e.content) := by
      intro slot
      rw [hindexes.mem_candidates hslots]
      simp [List.getElem?_map]
    refine ⟨hindexes.pairwise_candidates hslots, ?_, ?_⟩
    · intro slot
      simp only [hmem, windows_subset_iff]
    · intro slot e he hinfix
      exact (hmem slot).2 ⟨e, he, windows_subset hinfix⟩

/-- Two notes with the same name and one that is too short to have trigrams. -/
def notes : List Entry := [⟨"x", "abcd bcde"⟩, ⟨"y", "ab"⟩, ⟨"x", "abcd bcde"⟩]

/-- All trigrams of the literal occur in the two notes, but never the literal itself. -/
theorem candidates?_notes :
    let load : String → Reading Empty String := fun name =>
      pure (if name = "y" then "ab" else "abcd bcde")
    let listing : NameIndex := ⟨#["x", "y", "x"], ∅⟩
    (∀ e ∈ notes, (load e.name).outcome = .ok e.content) ∧
      ∃ index, (listing.buildTrigrams load).outcome = .ok index ∧
        index.candidates? "ab" = none ∧ index.candidates? "abcde" = some [0, 2] := by
  intro load listing
  have hload : ∀ e ∈ notes, (load e.name).outcome = .ok e.content := by decide
  obtain ⟨hbuild, hshort, -⟩ := candidates?_exact notes "ab"
  obtain ⟨-, hlong, hslots⟩ := candidates?_exact notes "abcde"
  refine ⟨hload, _, hbuild Empty load listing rfl hload, hshort.2 (by decide), ?_⟩
  cases hfound : (ofContents (notes.map fun e => utf8 e.content)).candidates? "abcde" with
  | none => exact absurd (hlong.1 hfound) (by decide)
  | some slots =>
    obtain ⟨hsorted, hmem, -⟩ := hslots slots hfound
    simp only [← windows_subset_iff] at hmem
    congr 1
    apply eq_of_pairwise_lt hsorted (by decide)
    intro slot
    rw [hmem]
    constructor
    · rintro ⟨e, he, hsubset⟩
      match slot with
      | 0 => decide
      | 1 =>
        cases he
        exact absurd hsubset (by decide)
      | 2 => decide
    · intro hslot
      rcases List.mem_pair.1 hslot with rfl | rfl
      · exact ⟨_, rfl, by decide⟩
      · exact ⟨_, rfl, by decide⟩

end TrigramIndex

end Concordance
