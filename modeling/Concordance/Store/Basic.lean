import Std.Data.HashMap
import Concordance.Compact.Pair
import Concordance.Corpus.Entry

/-!
# Stores

A store holds entries: in memory, as the files below a directory, as a compact corpus, or as
several stores joined under names of their own.

* `Store.names` are the names of the entries in the order in which they were found.
* `Store.get` is the content of an entry.
* `Store.ofEntries` and `Store.join` build a store from its parts; two entries of the same name are
  refused.
-/

namespace Concordance

open Concordance.Text (Bytes ofUtf8?)

/-- Where the entries of a corpus are. -/
inductive Store where
  /-- In memory. -/
  | memory (name : String) (names : List String) (contents : Std.HashMap String String)
  /-- Below the directory with the absolute path `root`, a file for each entry. -/
  | directory (root name : String) (names : List String)
  /-- In a compact corpus. -/
  | compact (pair : Compact.Pair)
  /-- In several stores.  Each entry is looked up by its full name: the number of the part that
  has it, and its name in there. -/
  | joined (name : String) (prefixes : List String) (parts : List Store) (names : List String)
    (places : Std.HashMap String (Nat × String))

namespace Store

/-- The name of the corpus. -/
def name : Store → String
  | .memory name _ _ => name
  | .directory _ name _ => name
  | .compact pair => pair.base
  | .joined name _ _ _ _ => name

/-- The names of the entries, in the order in which they were found. -/
def names : Store → List String
  | .memory _ names _ => names
  | .directory _ _ names => names
  | .compact pair => pair.table.names
  | .joined _ _ _ names _ => names

/-- Under which names the parts are joined. -/
def prefixes : Store → List String
  | .joined _ prefixes _ _ _ => prefixes
  | _ => []

/-! ## Reading -/

/-- The content of the file at a path, as an entry. -/
def readFile (tree : Tree) (root name : String) : Except Error String :=
  let path := Path.join root name
  match tree.read path with
  | .ok b =>
    match ofUtf8? b with
    | some content => .ok content
    | none => .error (.notUtf8 name)
  | .error .missing => .error (.notFound name)
  | .error cause => .error (.system path cause)

mutual

/-- The content of an entry. -/
def get (tree : Tree) : Store → String → Except Error String
  | .memory _ _ contents, name =>
    match contents[name]? with
    | some content => .ok content
    | none => .error (.notFound name)
  | .directory root _ _, name => readFile tree root name
  | .compact pair, name => pair.get name
  | .joined _ _ parts _ places, name =>
    match places[name]? with
    | some (part, inner) => getIn tree parts part inner
    | none => .error (.notFound name)

/-- The content of an entry of one of several stores. -/
def getIn (tree : Tree) : List Store → Nat → String → Except Error String
  | [], _, name => .error (.notFound name)
  | store :: _, 0, name => get tree store name
  | _ :: rest, part + 1, name => getIn tree rest part name

end

/-! ## Building -/

/-- Adds entries to those before, whose names are given with the latest first. -/
def ofEntriesFrom (name : String) :
    List String → Std.HashMap String String → List Entry → Except Error Store
  | names, contents, [] => .ok (.memory name names.reverse contents)
  | names, contents, e :: rest =>
    if contents.contains e.name then .error (.duplicateName e.name)
    else ofEntriesFrom name (e.name :: names) (contents.insert e.name e.content) rest

/-- A store in memory. -/
def ofEntries (name : String) (entries : List Entry) : Except Error Store :=
  ofEntriesFrom name [] ∅ entries

/-- The full name of an entry of a part. -/
def fullName (front inner : String) : String := front ++ "/" ++ inner

/-- An entry of a joined store: its full name, the number of its part, and its name in there. -/
structure JoinedName where
  /-- The full name. -/
  full : String
  /-- The number of the part. -/
  part : Nat
  /-- The name in the part. -/
  inner : String
  deriving DecidableEq, Repr

/-- The entries of parts that are numbered from `part` on. -/
def joinedNames : Nat → List (String × Store) → List JoinedName
  | _, [] => []
  | part, (front, store) :: rest =>
    (store.names.map fun inner => ⟨fullName front inner, part, inner⟩)
      ++ joinedNames (part + 1) rest

/-- Enters names into a table; two equal ones are refused. -/
def enter : Std.HashMap String (Nat × String) → List JoinedName →
    Except Error (Std.HashMap String (Nat × String))
  | places, [] => .ok places
  | places, n :: rest =>
    if places.contains n.full then .error (.duplicateName n.full)
    else enter (places.insert n.full (n.part, n.inner)) rest

/-- Joins stores, each under a name of its own. -/
def join (name : String) (parts : List (String × Store)) : Except Error Store := do
  let names := joinedNames 0 parts
  let places ← enter ∅ names
  .ok (.joined name (parts.map Prod.fst) (parts.map Prod.snd) (names.map JoinedName.full) places)

end Store

end Concordance
