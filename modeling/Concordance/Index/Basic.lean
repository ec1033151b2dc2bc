import Concordance.Index.Names

/-!
# The indexes of a corpus

A corpus has a name index from the beginning.  Its trigram index is built when a query first needs
it, by reading every entry, and is kept from then on.

* `CorpusIndex.trigramsFor` gives the trigram index and the indexes with it; if an entry cannot be
  read, nothing is kept.
-/

namespace Concordance

/-- The indexes of a corpus. -/
structure CorpusIndex where
  /-- The names. -/
  names : NameIndex
  /-- The trigram index, once it has been built. -/
  trigrams : Option TrigramIndex

namespace CorpusIndex

/-- The indexes of a corpus with some names; no trigram index yet. -/
def ofNames (order : SortOrder) (names : List String) : CorpusIndex :=
  ⟨NameIndex.ofNames order names, none⟩

/-- The trigram index, built if it is not there yet. -/
def trigramsFor {ε : Type} (index : CorpusIndex) (load : String → Reading ε String) :
    Reading ε (TrigramIndex × CorpusIndex) :=
  match index.trigrams with
  | some trigrams => pure (trigrams, index)
  | none => do
    let trigrams ← index.names.buildTrigrams load
    pure (trigrams, { index with trigrams := some trigrams })

end CorpusIndex

end Concordance
