import Concordance.Compact.Writer
import Concordance.Regex.Engine

/-!
# Sessions

A session works with a file tree and keeps what it opens under ids: settings, stores, readers,
cursors and writers.  What is kept under an id replaces what was there.

* `Session.keepReader`, `Session.closeReader` and `Session.dropReader` keep and release readers.
  A cursor belongs to the very reader that made it; once that is gone its corpus is closed.
* `Session.advance`, `Session.next` and `Session.drain` move a cursor.
* `Session.createWriter`, `Session.useWriter` and `Session.finishWriter` write a compact corpus.
-/

namespace Concordance

open Concordance.Text (Bytes)

/-- Things kept under ids. -/
abbrev Shelf (α : Type) := List (String × α)

namespace Shelf

variable {α : Type}

/-- The thing under an id. -/
def find? (s : Shelf α) (id : String) : Option α := s.lookup id

/-- Removes what is under an id. -/
def drop (s : Shelf α) (id : String) : Shelf α := s.filter fun kept => kept.1 ≠ id

/-- Keeps a thing under an id. -/
def put (s : Shelf α) (id : String) (a : α) : Shelf α := (id, a) :: s.drop id

end Shelf

/-- Something that belongs to the reader with a number. -/
structure Numbered (α : Type) where
  /-- The number of the reader. -/
  number : Nat
  /-- What belongs to it. -/
  item : α

/-- What a session works with. -/
structure Session where
  /-- The files. -/
  tree : Tree
  /-- The variables of the environment, in the order in which they were first set. -/
  environment : List (String × String)
  /-- Loaded settings. -/
  settings : Shelf Settings
  /-- Open stores. -/
  stores : Shelf Store
  /-- Readers, each with its number. -/
  readers : Shelf (Numbered Reader)
  /-- Cursors, each with the number of its reader. -/
  cursors : Shelf (Numbered Cursor)
  /-- Writers. -/
  writers : Shelf Compact.Writer
  /-- How many readers there have been. -/
  opened : Nat

namespace Session

/-- A session that begins in an empty working directory. -/
def start (working : Place) : Session := ⟨.empty working, [], [], [], [], [], [], 0⟩

/-! ## Environment -/

/-- Sets a variable; one that is set already keeps its place. -/
def setVariable (s : Session) (name value : String) : Session :=
  if s.environment.any fun v => v.1 = name then
    { s with environment := s.environment.map fun v => if v.1 = name then (name, value) else v }
  else { s with environment := s.environment ++ [(name, value)] }

/-- Unsets a variable. -/
def unsetVariable (s : Session) (name : String) : Session :=
  { s with environment := s.environment.filter fun v => v.1 ≠ name }

/-! ## Readers -/

/-- Keeps a reader of a corpus. -/
def keepReader (s : Session) (id : String) (corpus : Corpus) : Session :=
  { s with
    readers := s.readers.put id ⟨s.opened, .ofCorpus corpus⟩
    opened := s.opened + 1 }

/-- The reader under an id. -/
def reader? (s : Session) (id : String) : Option Reader := (s.readers.find? id).map Numbered.item

/-- Closes a reader. -/
def closeReader (s : Session) (id : String) : Session :=
  { s with readers := s.readers.map fun (other, kept) =>
      if other = id then (other, { kept with item := kept.item.close }) else (other, kept) }

/-- Drops a reader. -/
def dropReader (s : Session) (id : String) : Session := { s with readers := s.readers.drop id }

/-- The corpus of the reader with a number, if it is still open. -/
def corpusOf (s : Session) (number : Nat) : Handle :=
  (List.find? (fun kept => kept.2.number == number) s.readers).bind fun kept => kept.2.item.corpus

/-- Keeps the corpus of the reader with a number as it has become. -/
def keepCorpus (s : Session) (number : Nat) (corpus : Handle) : Session :=
  { s with readers := s.readers.map fun (id, kept) =>
      if kept.number = number then (id, { kept with item := { kept.item with corpus } })
      else (id, kept) }

/-! ## Cursors -/

/-- Keeps a cursor of the reader under an id. -/
def keepCursor (s : Session) (id reader : String) (cursor : Cursor) : Session :=
  match s.readers.find? reader with
  | some kept => { s with cursors := s.cursors.put id ⟨kept.number, cursor⟩ }
  | none => s

/-- The cursor under an id. -/
def cursor? (s : Session) (id : String) : Option Cursor := (s.cursors.find? id).map Numbered.item

/-- Takes a step with the cursor under an id. -/
def move {α : Type} (s : Session) (id : String) (step : Tree → Handle → Cursor → Advance α) :
    Option (α × Session) :=
  (s.cursors.find? id).map fun kept =>
    let a := step s.tree (s.corpusOf kept.number) kept.item
    (a.result, { s.keepCorpus kept.number a.corpus with
      cursors := s.cursors.put id { kept with item := a.cursor } })

/-- Advances the cursor under an id. -/
def advance (s : Session) (id : String) : Option (Except Error (Option String) × Session) :=
  s.move id fun tree corpus c => c.advance tree corpus

/-- Iterates one step of the cursor under an id. -/
def next (s : Session) (id : String) : Option (Option (Except Error String) × Session) :=
  s.move id fun tree corpus c => c.next tree corpus

/-- Iterates the cursor under an id up to its end. -/
def drain (s : Session) (id : String) : Option (List (Except Error String) × Session) :=
  s.move id fun tree corpus c => c.drain tree corpus

/-- The names that match a query, found by a cursor of its own. -/
def search [Regex.Engine] (s : Session) (reader : String) (query : String) :
    Option (Except Error (List (Except Error String)) × Session) :=
  (s.readers.find? reader).map fun kept =>
    match kept.item.query query with
    | .error e => (.error e, s)
    | .ok cursor =>
      let a := cursor.drain s.tree kept.item.corpus
      (.ok a.result, s.keepCorpus kept.number a.corpus)

/-! ## Writers -/

/-- Writes the files of the writer under an id, which is then gone. -/
def finishWriter (s : Session) (id : String) : Option Session :=
  (s.writers.find? id).map fun w =>
    { s with tree := w.finish s.tree, writers := s.writers.drop id }

/-- Makes a writer; an older one under the same id is finished first. -/
def createWriter (s : Session) (id base : String) : Session × Except Error Unit :=
  let s := (s.finishWriter id).getD s
  match Compact.Writer.create s.tree base with
  | (tree, .ok w) => ({ s with tree, writers := s.writers.put id w }, .ok ())
  | (tree, .error e) => ({ s with tree }, .error e)

/-- Takes an entry into the writer under an id. -/
def writeEntry (s : Session) (id name content : String) :
    Option (Except Error Unit × Compact.Writer × Session) :=
  (s.writers.find? id).map fun w =>
    match w.writeEntry name content with
    | .ok w => (.ok (), w, { s with writers := s.writers.put id w })
    | .error e => (.error e, w, s)

/-- Copies the entries of a reader into the writer under an id. -/
def copyEntries (s : Session) (id reader : String) (failFirst : Bool) :
    Option (Except Error Unit × Compact.Writer × Session) := do
  let w ← s.writers.find? id
  let r ← s.reader? reader
  let (w, result) := w.copy s.tree r failFirst
  some (result, w, { s with writers := s.writers.put id w })

end Session

end Concordance
