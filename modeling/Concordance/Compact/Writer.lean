import Concordance.Compact.Pair
import Concordance.Corpus.Reader

/-!
# Writing compact corpora

A writer collects entries and then writes them as the two files of a compact corpus.

* `Writer.create` makes the two files, empty at first.
* `Writer.writeEntry` takes one entry, `Writer.copy` all entries of a reader.
* `Writer.finish` writes the files.
-/

namespace Concordance.Compact

open Concordance.Text (Bytes utf8 byteLength)

/-- A compact corpus that is being written. -/
structure Writer where
  /-- The data file. -/
  dataFile : OpenFile
  /-- The index file. -/
  indexFile : OpenFile
  /-- The contents of all entries so far in a row. -/
  data : Bytes
  /-- The lines of the index file so far. -/
  index : Bytes
  /-- Where the next content begins. -/
  offset : Nat
  /-- The number of entries so far. -/
  entries : Nat
  /-- The next content begins where the data ends. -/
  offset_eq : offset = data.length
  deriving DecidableEq, Repr

namespace Writer

/-- Makes one of the files. -/
def createFile (tree : Tree) (path : String) : Except Error (Tree × OpenFile) :=
  match tree.create path with
  | .ok made => .ok made
  | .error cause => .error (.cannotOpen path (.system cause))

/-- Makes the files of a corpus with a base name.  If only the data file can be made, it stays. -/
def create (tree : Tree) (base : String) : Tree × Except Error Writer :=
  match createFile tree (base ++ dataEnding) with
  | .error e => (tree, .error e)
  | .ok (tree, dataFile) =>
    match createFile tree (base ++ indexEnding) with
    | .error e => (tree, .error e)
    | .ok (tree, indexFile) => (tree, .ok ⟨dataFile, indexFile, [], [], 0, 0, rfl⟩)

/-- Can an entry have this name in the index file?  It must not be empty or break the line. -/
def isEntryName (name : String) : Bool :=
  !name.isEmpty && name.toList.all fun c => c != '\t' && c != '\n' && c != '\r'

/-- The line of the index file for an entry. -/
def line (name : String) (offset size : Nat) : String :=
  name ++ "\t" ++ Number.encode (UInt64.ofNat offset) ++ "\t" ++ Number.encode (UInt64.ofNat size)
    ++ "\n"

/-- Takes an entry. -/
def writeEntry (w : Writer) (name content : String) : Except Error Writer :=
  if isEntryName name then
    .ok { w with
      data := w.data ++ utf8 content
      index := w.index ++ utf8 (line name w.offset (byteLength content))
      offset := w.offset + byteLength content
      entries := w.entries + 1
      offset_eq := by rw [w.offset_eq, List.length_append, byteLength] }
  else .error (.badEntryName name)

/-- Takes the entry whose name iterating gives: reads it and writes it. -/
def writeItem (read : String → Except Error String) (w : Writer) (item : Except Error String) :
    Except Error Writer := do
  let name ← item
  let content ← read name
  w.writeEntry name content

/-- Takes entries up to the first one that fails. -/
def writeUntil (read : String → Except Error String) (w : Writer) :
    List (Except Error String) → Writer × Except Error Unit
  | [] => (w, .ok ())
  | item :: rest =>
    match w.writeItem read item with
    | .ok w => writeUntil read w rest
    | .error e => (w, .error e)

/-- Takes all entries that do not fail, and gives the errors of the others. -/
def writeAll (read : String → Except Error String) (w : Writer) :
    List (Except Error String) → Writer × List Error
  | [] => (w, [])
  | item :: rest =>
    match w.writeItem read item with
    | .ok w => writeAll read w rest
    | .error e =>
      let (w, errors) := writeAll read w rest
      (w, e :: errors)

/-- Several errors as one, if there are any. -/
def report (errors : List Error) : Except Error Unit :=
  if errors.isEmpty then .ok () else .error (.batch errors)

/-- Takes the entries of a reader in the order in which its cursor comes to them.  With `failFirst`
the first error ends the copy; otherwise entries that fail are left out and their errors are
reported together. -/
def copy (tree : Tree) (w : Writer) (r : Reader) (failFirst : Bool) :
    Writer × Except Error Unit :=
  let read (name : String) := (r.read tree name).outcome
  let items := (r.entries.drain tree r.corpus).result
  if failFirst then w.writeUntil read items
  else
    let (w, errors) := w.writeAll read items
    (w, report errors)

/-- Writes the files. -/
def finish (tree : Tree) (w : Writer) : Tree :=
  (tree.overwrite w.dataFile (Gzip.encode w.data)).overwrite w.indexFile w.index

end Writer

end Concordance.Compact
