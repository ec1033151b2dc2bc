import Std.Data.HashMap
import Concordance.Ascending
import Concordance.Text.Bytes

/-!
# The trigram index

A trigram is a sequence of three bytes.  The index keeps, for every trigram that occurs in some
content, the slots of the entries in which it occurs, so a literal is looked up by the entries
that all its trigrams have in common.

* `windows` are the trigrams of some bytes.
* `TrigramIndex.add` adds the content of an entry, in the order of the slots.
* `TrigramIndex.candidates?` looks up a literal.
-/

namespace Concordance

open Concordance.Text (Bytes utf8)

/-- A sequence of three bytes. -/
abbrev Trigram := UInt8 × UInt8 × UInt8

/-- All sequences of three bytes in a row. -/
def windows : Bytes → List Trigram
  | a :: b :: c :: rest => (a, b, c) :: windows (b :: c :: rest)
  | _ => []

/-- For each trigram that occurs in some entry the slots of the entries it occurs in, in increasing
order. -/
structure TrigramIndex where
  /-- The slots of each trigram. -/
  postings : Std.HashMap Trigram (Array Nat)

namespace TrigramIndex

/-- The index of no entries. -/
def empty : TrigramIndex := ⟨∅⟩

/-- Records that a trigram occurs in the entry at a slot, unless this was recorded last. -/
def post (slot : Nat) (index : TrigramIndex) (t : Trigram) : TrigramIndex :=
  ⟨index.postings.alter t fun posting =>
    let slots := posting.getD #[]
    some (if slots.back? = some slot then slots else slots.push slot)⟩

/-- Adds the content of the entry at a slot; slots are added in increasing order. -/
def add (index : TrigramIndex) (slot : Nat) (content : Bytes) : TrigramIndex :=
  (windows content).foldl (post slot) index

/-- The slots in increasing order of the entries in which all of some trigrams occur. -/
def slotsOfAll (index : TrigramIndex) (ts : List Trigram) : List Nat :=
  match ts.mapM fun t => index.postings[t]? with
  | none => []
  | some postings => common postings

/-- The slots in increasing order of the entries in which all trigrams of a literal occur; nothing
if the literal is too short to have one. -/
def candidates? (index : TrigramIndex) (literal : String) : Option (List Nat) :=
  match windows (utf8 literal) with
  | [] => none
  | ts => some (index.slotsOfAll ts)

end TrigramIndex

end Concordance
