import Std.Data.HashMap
import Concordance.Corpus.Reading
import Concordance.Index.Trigrams
import Concordance.Text.Natural

/-!
# The name index

The names of a corpus are enumerated in a fixed order.  The position of a name in that order is
its slot.

* `SortOrder.sort` brings names into order.
* `NameIndex.ofNames` builds the index; `slot?` and `nameAt?` look up in it.
* `NameIndex.buildTrigrams` reads all entries in slot order into a trigram index.
-/

namespace Concordance

open Concordance.Text

/-- An order in which names are enumerated. -/
inductive SortOrder where
  /-- Digits within names count as numbers. -/
  | natural
  /-- Names count by their bytes. -/
  | lexical
  deriving DecidableEq, Repr

/-- Is the first name before the second, or equal to it? -/
def SortOrder.le : SortOrder → String → String → Bool
  | .natural => naturalLE
  | .lexical => byteLE

/-- Names in order. -/
def SortOrder.sort (order : SortOrder) (names : List String) : List String :=
  names.mergeSort order.le

/-- The names of a corpus in their order, and the slot of each. -/
structure NameIndex where
  /-- The names in order. -/
  names : Array String
  /-- The slot of each name. -/
  slots : Std.HashMap String Nat

namespace NameIndex

/-- The slots of names that begin at a given position; of equal names the last one counts. -/
def slotsFrom : Nat → List String → Std.HashMap String Nat → Std.HashMap String Nat
  | _, [], slots => slots
  | slot, name :: rest, slots => slotsFrom (slot + 1) rest (slots.insert name slot)

/-- The index of some names. -/
def ofNames (order : SortOrder) (names : List String) : NameIndex :=
  let sorted := order.sort names
  ⟨sorted.toArray, slotsFrom 0 sorted ∅⟩

/-- The number of names. -/
def size (index : NameIndex) : Nat := index.names.size

/-- The slot of a name. -/
def slot? (index : NameIndex) (name : String) : Option Nat := index.slots[name]?

/-- The name at a slot. -/
def nameAt? (index : NameIndex) (slot : Nat) : Option String := index.names[slot]?

/-- Reads the entries with these names, the first at a given slot, into a trigram index. -/
def readFrom {ε : Type} (load : String → Reading ε String) :
    Nat → List String → TrigramIndex → Reading ε TrigramIndex
  | _, [], trigrams => pure trigrams
  | slot, name :: rest, trigrams => do
    let content ← load name
    readFrom load (slot + 1) rest (trigrams.add slot (utf8 content))

/-- Reads all entries in slot order into a trigram index; the first error ends it. -/
def buildTrigrams {ε : Type} (index : NameIndex) (load : String → Reading ε String) :
    Reading ε TrigramIndex :=
  readFrom load 0 index.names.toList .empty

end NameIndex

end Concordance
