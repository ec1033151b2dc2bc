import Concordance.Compact.Table
import Concordance.Error
import Concordance.Files.Tree
import Concordance.Gzip.Member

/-!
# Compact corpora

A compact corpus is a pair of files with one base name: the contents of all entries in a row,
compressed (`.data.dz`) or plain (`.data`), and the index file (`.index`).

* `Pair.open?` opens one, given the base name or the path of one of its files.
* `Pair.get` is the content of an entry.
-/

namespace Concordance.Compact

open Concordance.Text (Bytes ofUtf8?)

/-- The ending of compressed data. -/
def dataEnding : String := ".data.dz"

/-- The ending of plain data. -/
def plainEnding : String := ".data"

/-- The ending of the index file. -/
def indexEnding : String := ".index"

/-- A text without an ending, if it has it. -/
def dropEnding? (ending text : String) : Option String :=
  let s := text.toList
  let kept := s.length - ending.toList.length
  if ending.toList.isSuffixOf s then some (String.ofList (s.take kept)) else none

/-- A compact corpus that has been opened. -/
structure Pair where
  /-- The base name of the files. -/
  base : String
  /-- The contents of all entries in a row. -/
  data : Bytes
  /-- Where the content of each entry lies. -/
  table : Table

namespace Pair

/-- The base name that a location stands for. -/
def baseOf (tree : Tree) (location : String) : Except Error String :=
  match dropEnding? dataEnding location with
  | some base => .ok base
  | none =>
    match dropEnding? indexEnding location with
    | some base => .ok base
    | none =>
      if tree.isFile (location ++ indexEnding) then .ok location
      else .error (.cannotOpen location .notCompact)

/-- The data of the corpus with a base name.  Plain data counts only if there is no compressed
data. -/
def readData (tree : Tree) (base : String) : Except Error Bytes :=
  let compressed := base ++ dataEnding
  match tree.read compressed with
  | .ok file =>
    match Gzip.decode file with
    | .ok data => .ok data
    | .error cause => .error (.cannotOpen compressed (.damaged cause))
  | .error _ =>
    match tree.read (base ++ plainEnding) with
    | .ok data => .ok data
    | .error _ => .error (.cannotOpen compressed .notRegular)

/-- Opens the corpus at a location. -/
def open? (tree : Tree) (location : String) : Except Error Pair := do
  let base ← baseOf tree location
  let index := base ++ indexEnding
  match tree.read index with
  | .error _ => .error (.cannotOpen index .notRegular)
  | .ok lines =>
    let data ← readData tree base
    match Table.parse data.length lines with
    | .ok table => .ok ⟨base, data, table⟩
    | .error cause => .error (.cannotOpen index (.badTable cause))

/-- The content of an entry. -/
def get (p : Pair) (name : String) : Except Error String :=
  match p.table.span? name with
  | none => .error (.notFound name)
  | some span =>
    match ofUtf8? ((p.data.drop span.start).take (span.stop - span.start)) with
    | some content => .ok content
    | none => .error (.notUtf8 name)

end Pair

end Concordance.Compact
