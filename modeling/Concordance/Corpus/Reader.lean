import Concordance.Corpus.Cursor
import Concordance.Marking.Marker

/-!
# Readers

A reader gives access to one corpus until it is closed.  It keeps its name for ever.

* `Reader.entries` and `Reader.query` make cursors; `Reader.read`, `Reader.entry` and
  `Reader.readMarked` read an entry.
* After `Reader.close` all of them but `entries` fail, and cursors find no more names.
-/

namespace Concordance

/-- Access to one corpus. -/
structure Reader where
  /-- The name of the corpus. -/
  name : String
  /-- The corpus, unless it has been closed. -/
  corpus : Handle

namespace Reader

variable [Regex.Engine]

/-- A reader of a corpus. -/
def ofCorpus (c : Corpus) : Reader := ⟨c.name, some c⟩

/-- The corpus, if it is still open. -/
def opened (r : Reader) : Except Error Corpus :=
  match r.corpus with
  | some corpus => .ok corpus
  | none => .error .closed

/-- Has the reader been closed? -/
def isClosed (r : Reader) : Bool := r.corpus.isNone

/-- Closes the corpus. -/
def close (r : Reader) : Reader := ⟨r.name, none⟩

/-- The number of entries. -/
def size (r : Reader) : Except Error Nat := r.opened.map Corpus.size

/-- Are there no entries? -/
def isEmpty (r : Reader) : Except Error Bool := r.size.map (· == 0)

/-- A cursor through all names, also of a closed corpus. -/
def entries (_ : Reader) : Cursor := .entries

/-- Reads a text as a query. -/
def checkQuery (source : String) : Except Error Compiled :=
  match Compiled.ofText source with
  | .ok query => .ok query
  | .error cause => .error (.badQuery cause)

/-- A cursor through the names that match a query. -/
def query (r : Reader) (source : String) : Except Error Cursor := do
  let _ ← r.opened
  return .matching (← checkQuery source)

/-- The content of an entry. -/
def read (tree : Tree) (r : Reader) (name : String) : Reading Error String := do
  let corpus ← .ofExcept r.opened
  corpus.load tree name

/-- An entry. -/
def entry (tree : Tree) (r : Reader) (name : String) : Reading Error Entry := do
  return ⟨name, ← r.read tree name⟩

/-- The content of an entry, marked.  All markers are checked before the entry is read. -/
def readMarked (tree : Tree) (r : Reader) (name : String) (markers : List Marker) :
    Reading Error String := do
  let corpus ← .ofExcept r.opened
  let markers ← .ofExcept (compileMarkers markers)
  let content ← corpus.load tree name
  if markers.isEmpty then return content
  else .ofExcept (markContent corpus.settings.markElement name content markers)

end Reader

end Concordance
