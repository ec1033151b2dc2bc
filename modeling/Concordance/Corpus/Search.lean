import Concordance.Ascending
import Concordance.Corpus.Basic
import Concordance.Query.Compiled

/-!
# Searching

The plan of a query gives the slots of the entries that may match; the program of the query is run
on each of them.

* `Plan.slots` are the slots that a plan finds, in increasing order.
* `Compiled.accept` tells whether the entry at a slot matches.
* `Compiled.firstMatch` looks for the next match, `Corpus.search` for all of them.
-/

namespace Concordance

variable {ε : Type}

namespace CorpusIndex

/-- The slots of all entries. -/
def slots (index : CorpusIndex) : List Nat := List.range index.names.size

/-- The slots of the entries whose content may contain a literal.  The trigram index is built if
it is not there yet. -/
def slotsWith (load : String → Reading ε String) (literal : String) (index : CorpusIndex) :
    Reading ε (List Nat × CorpusIndex) := do
  let (trigrams, index) ← index.trigramsFor load
  return ((trigrams.candidates? literal).getD index.slots, index)

end CorpusIndex

namespace Plan

mutual

/-- The slots that a plan finds, with the indexes afterwards.  Without trigrams a literal finds
all entries. -/
def slots (trigrams : Bool) (load : String → Reading ε String) :
    Plan → CorpusIndex → Reading ε (List Nat × CorpusIndex)
  | .all, index => pure (index.slots, index)
  | .nothing, index => pure ([], index)
  | .name wanted, index => pure ((index.names.slot? wanted).toList, index)
  | .literal part, index =>
    if trigrams then index.slotsWith load part else pure (index.slots, index)
  | .union parts, index => do
    let (found, index) ← slotsOfEach trigrams load parts index
    pure (ascending found, index)

/-- The slots that several plans find, those of each plan behind those of the one before. -/
def slotsOfEach (trigrams : Bool) (load : String → Reading ε String) :
    List Plan → CorpusIndex → Reading ε (List Nat × CorpusIndex)
  | [], index => pure ([], index)
  | p :: rest, index => do
    let (found, index) ← slots trigrams load p index
    let (more, index) ← slotsOfEach trigrams load rest index
    pure (found ++ more, index)

end

end Plan

namespace Compiled

/-- The name of the entry at a slot if the query matches it. -/
def accept (load : String → Reading ε String) (query : Compiled) (names : NameIndex) (slot : Nat) :
    Reading ε (Option String) :=
  match names.nameAt? slot with
  | none => pure none
  | some name => do
    let (matched, _) ← View.execute load query.program ⟨name, none⟩
    pure (if matched then some name else none)

/-- The first match among some slots, with the slots behind it. -/
def firstMatch (load : String → Reading ε String) (query : Compiled) (names : NameIndex) :
    List Nat → Reading ε (Option (String × List Nat))
  | [] => pure none
  | slot :: rest => do
    match ← query.accept load names slot with
    | some name => pure (some (name, rest))
    | none => firstMatch load query names rest

/-- All matches among some slots. -/
def allMatches (load : String → Reading ε String) (query : Compiled) (names : NameIndex) :
    List Nat → Reading ε (List String)
  | [] => pure []
  | slot :: rest => do
    let first ← query.accept load names slot
    let more ← allMatches load query names rest
    pure (first.toList ++ more)

end Compiled

namespace Corpus

/-- The slots of the entries that may match a query, with the indexes afterwards. -/
def candidates (tree : Tree) (c : Corpus) (query : Compiled) :
    Reading Error (List Nat × CorpusIndex) :=
  query.plan.slots c.settings.trigrams (c.load tree) c.index

/-- The names of all entries that match a query, in their order. -/
def search (tree : Tree) (c : Corpus) (query : Compiled) : Reading Error (List String) := do
  let (slots, _) ← c.candidates tree query
  query.allMatches (c.load tree) c.index.names slots

end Corpus

end Concordance
