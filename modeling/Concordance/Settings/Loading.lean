import Concordance.Decimal.Numeral
import Concordance.Document.Format
import Concordance.Files.Tree
import Concordance.Settings.Decoding

/-!
# Loading settings

Settings come from a file, whose extension tells its format, and from variables of the
environment, which count more than the file.

* `Settings.load` reads the file `corpus` in the working directory, if there is one with a known
  extension, and the environment.
* `Settings.loadFrom` reads one file, which has to be there.
-/

namespace Concordance

open Concordance.Document (Value Fields Format)
open Concordance.Text (Bytes lower ofUtf8Lossy)

namespace Settings

/-! ## Files -/

/-- The path from one place to the components of another. -/
def pathFrom : Place → List String → String
  | b :: base, p :: path =>
    if b = p then pathFrom base path
    else String.intercalate "/" ((b :: base).map (fun _ => "..") ++ p :: path)
  | base, path => String.intercalate "/" (base.map (fun _ => "..") ++ path)

/-- A file found for settings: its absolute path and its format. -/
structure Found where
  /-- The path. -/
  path : String
  /-- The format. -/
  format : Format

/-- The absolute path that a path stands for. -/
def absolute (tree : Tree) (path : String) : String := Path.join (Place.path tree.working) path

/-- Looks for the file at a path with one of the known extensions behind it. -/
def findExtended? (tree : Tree) (path : String) : Option Found :=
  match Path.fileName? path with
  | none => none
  | some _ =>
    Format.extensions.findSome? fun (ext, format) =>
      let extended := Path.trimEnd path ++ "." ++ ext
      if tree.isFile extended then some ⟨extended, format⟩ else none

/-- Looks for a file of settings: one of exactly this name, or else one with a known extension
behind it. -/
def find (tree : Tree) (path : String) : Except LoadError Found :=
  let exact := absolute tree path
  if tree.isFile exact then
    match (Path.extension? exact).bind Format.ofExtension? with
    | some format => .ok ⟨exact, format⟩
    | none => .error (.unsupported exact)
  else
    match findExtended? tree exact with
    | some found => .ok found
    | none => .error (.missing path)

/-- Drops the mark at the beginning of a text that says how it is encoded. -/
def dropMark : Bytes → Bytes
  | 0xEF :: 0xBB :: 0xBF :: rest => rest
  | b => b

/-- A value with its place; for a table the place is forgotten. -/
def sourced (origin : String) (v : Value) : Sourced :=
  match v with
  | .table _ => ⟨v, none⟩
  | _ => ⟨v, some origin⟩

/-- Reads a file that has been found. -/
def readFound (tree : Tree) (found : Found) : Except LoadError (List (String × Sourced)) :=
  match (tree.read found.path).toOption.bind fun b =>
      found.format.parse (ofUtf8Lossy (dropMark b)) with
  | some fields =>
    let origin := pathFrom tree.working ((Path.components found.path).filter (· ≠ "."))
    .ok (fields.map fun (key, v) => (key, sourced origin v))
  | none => .error .malformed

/-! ## Environment -/

/-- What the names of variables begin with. -/
def variableStart : String := "corpus_"

/-- The parts of a text between commas. -/
def splitCommas : List Char → List (List Char)
  | [] => [[]]
  | c :: rest =>
    match splitCommas rest with
    | [] => [[c]]
    | part :: more => if c = ',' then [] :: part :: more else (c :: part) :: more

/-- The value of a variable: a truth value, a whole number or another number if it can be read as
one; otherwise a text, or a list of texts where a list is wanted. -/
def ofVariable (key text : String) : Value :=
  let s := text.toList
  if lower text = "true" then .bool true
  else if lower text = "false" then .bool false
  else
    match Numeral.integer? s, Numeral.double? s with
    | some n, _ => .integer n
    | none, some x => .number x
    | none, none =>
      if key = "extensions" then .list ((splitCommas s).map fun part => .text (String.ofList part))
      else .text text

/-- The fields that the variables of the environment set; of equal keys the last one counts. -/
def ofVariables : List (String × String) → List (String × Sourced)
  | [] => []
  | (name, text) :: rest =>
    let more := ofVariables rest
    let small := (lower name).toList
    if variableStart.toList.isPrefixOf small then
      let key := String.ofList (small.drop variableStart.toList.length)
      if (more.lookup key).isSome then more
      else (key, ⟨ofVariable key text, some "the environment"⟩) :: more
    else more

/-! ## Loading -/

/-- The name of the file in the working directory. -/
def fileName : String := "corpus"

/-- Loads settings from the working directory and the environment. -/
def load (tree : Tree) (environment : List (String × String)) : Except LoadError Settings := do
  let fields ←
    match find tree fileName with
    | .ok found => readFound tree found
    | .error _ => .ok []
  ofFields (ofVariables environment ++ fields)

/-- Loads settings from one file. -/
def loadFrom (tree : Tree) (path : String) : Except LoadError Settings := do
  let found ← find tree path
  ofFields (← readFound tree found)

end Settings

end Concordance
