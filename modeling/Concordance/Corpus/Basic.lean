import Concordance.Index.Basic
import Concordance.Store.Opening

/-!
# Corpora

A corpus is a store with its indexes and the settings it was opened with.

* `Corpus.load` reads an entry.  The store is asked only for names that the index has.
* `Corpus.openAt`, `openBelow`, `openJoined` and `ofEntries` open a corpus.  The settings are
  checked before anything else.
-/

namespace Concordance

/-- An open corpus. -/
structure Corpus where
  /-- Where the entries are. -/
  store : Store
  /-- The indexes. -/
  index : CorpusIndex
  /-- The settings. -/
  settings : Settings

namespace Corpus

/-- The corpus of a store. -/
def ofStore (settings : Settings) (store : Store) : Corpus :=
  ⟨store, .ofNames settings.order store.names, settings⟩

/-- The name of the corpus. -/
def name (c : Corpus) : String := c.store.name

/-- The names of the entries in their order. -/
def names (c : Corpus) : List String := c.index.names.names.toList

/-- The number of entries. -/
def size (c : Corpus) : Nat := c.index.names.size

/-- The content of an entry. -/
def load (tree : Tree) (c : Corpus) (name : String) : Reading Error String :=
  match c.index.names.slot? name with
  | none => .fail (.notFound name)
  | some _ => .ask (c.store.get tree) name

/-! ## Opening -/

/-- Opens what is at a location. -/
def openAt (tree : Tree) (settings : Settings) (location : String) : Except Error Corpus := do
  settings.check
  return ofStore settings (← Store.openAt tree settings location)

/-- Opens all compact corpora below a directory as one. -/
def openBelow (tree : Tree) (settings : Settings) (location : String) : Except Error Corpus := do
  settings.check
  return ofStore settings (← Store.openBelow tree location)

/-- Opens several corpora as one, each under the name before it. -/
def openJoined (tree : Tree) (settings : Settings) (corpora : List (String × String)) :
    Except Error Corpus := do
  settings.check
  return ofStore settings (← Store.openJoined tree settings corpora)

/-- The corpus of some entries in memory. -/
def ofEntries (settings : Settings) (name : String) (entries : List Entry) :
    Except Error Corpus := do
  settings.check
  return ofStore settings (← Store.ofEntries name entries)

end Corpus

end Concordance
