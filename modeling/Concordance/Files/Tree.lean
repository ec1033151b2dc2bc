import Concordance.Files.Path
import Concordance.Files.SystemError
import Concordance.Text.Bytes

/-!
# The file tree

A tree has directories and files.  A place in it is given by the names on the way down from the
root; a path is a text that leads to a place from the root or from the working directory.

* `Tree.walk` follows a path to a place, at which there may be nothing yet.
* `Tree.read`, `Tree.isFile`, `Tree.isDirectory` and `Tree.filesBelow` look into the tree.
* `Tree.write`, `Tree.makeDirectory`, `Tree.remove`, `Tree.create` and `Tree.overwrite` change it.
-/

namespace Concordance

open Concordance.Text (Bytes byteLength byteOrder)

/-- A place in a tree: the names on the way down from the root. -/
abbrev Place := List String

/-- What is at a place. -/
inductive Node where
  /-- A directory. -/
  | directory
  /-- A file, with a number that stays the same as long as the file is there. -/
  | file (serial : Nat) (content : Bytes)
  deriving DecidableEq, Repr

/-- A file that has been opened for writing. -/
structure OpenFile where
  /-- Where the file was. -/
  place : Place
  /-- Its number.  A file that is made again at the same place has another one. -/
  serial : Nat
  deriving DecidableEq, Repr

/-- A tree of files. -/
structure Tree where
  /-- What is at each place.  The root is always a directory and not among them. -/
  nodes : List (Place × Node)
  /-- Where relative paths begin. -/
  working : Place
  /-- How many files have been made. -/
  made : Nat
  deriving Repr

namespace Place

/-- The absolute path to a place. -/
def path (p : Place) : String := "/" ++ String.intercalate "/" p

/-- Compares places by their first different name, a place above before one below it. -/
def order : Place → Place → Ordering
  | [], [] => .eq
  | [], _ :: _ => .lt
  | _ :: _, [] => .gt
  | a :: as, b :: bs => (byteOrder a b).then (order as bs)

/-- The way from the place `above` to a place below it. -/
def below? : (above place : Place) → Option Place
  | [], p => some p
  | _ :: _, [] => none
  | a :: as, b :: bs => if a = b then below? as bs else none

end Place

namespace Tree

/-- The greatest length of a name, in bytes. -/
def nameLimit : Nat := 255

/-- The bound of the length of a path, in bytes. -/
def pathLimit : Nat := 4096

/-- The places on the way down to a place, with the place itself. -/
def wayTo (place : Place) : List Place :=
  (List.range place.length).map fun n => place.take (n + 1)

/-- The tree with nothing but a working directory. -/
def empty (working : Place) : Tree :=
  ⟨(wayTo working).map fun p => (p, .directory), working, 0⟩

/-- What is at a place. -/
def node? (t : Tree) (place : Place) : Option Node :=
  if place.isEmpty then some .directory else t.nodes.lookup place

/-- Puts a node at a place. -/
def put (t : Tree) (place : Place) (node : Node) : Tree :=
  { t with nodes := (place, node) :: t.nodes.filter fun n => n.1 ≠ place }

/-! ## Following paths -/

/-- The steps of a path.  A slash at the end asks for a directory. -/
def steps (path : String) : List String :=
  Path.components path ++ if path.toList.getLast? == some '/' then ["."] else []

/-- One step from a place, which has to be a directory. -/
def stepFrom (t : Tree) (place : Place) (name : String) : Except SystemError Place :=
  match t.node? place with
  | none => .error .missing
  | some (.file _ _) => .error .notDirectory
  | some .directory =>
    if name = "." then .ok place
    else if name = ".." then .ok place.dropLast
    else if nameLimit < byteLength name then .error .nameTooLong
    else .ok (place ++ [name])

/-- Where a path begins. -/
def start (t : Tree) (path : String) : Place := if Path.isAbsolute path then [] else t.working

/-- Is the text a path at all? -/
def checkPath (path : String) : Except SystemError Unit :=
  if path.toList.contains '\x00' then .error .nulInPath
  else if path.isEmpty then .error .missing
  else if pathLimit ≤ byteLength path then .error .nameTooLong
  else .ok ()

/-- Follows a path to a place, at which there may be nothing. -/
def walk (t : Tree) (path : String) : Except SystemError Place := do
  checkPath path
  (steps path).foldlM t.stepFrom (t.start path)

/-- What a path leads to. -/
def find (t : Tree) (path : String) : Except SystemError Node := do
  match t.node? (← t.walk path) with
  | some node => .ok node
  | none => .error .missing

/-- Does the path lead to a file? -/
def isFile (t : Tree) (path : String) : Bool :=
  match t.find path with
  | .ok (.file _ _) => true
  | _ => false

/-- Does the path lead to a directory? -/
def isDirectory (t : Tree) (path : String) : Bool :=
  match t.find path with
  | .ok .directory => true
  | _ => false

/-- Does the path lead to anything? -/
def contains (t : Tree) (path : String) : Bool := (t.find path).isOk

/-! ## Reading -/

/-- The content of a file. -/
def read (t : Tree) (path : String) : Except SystemError Bytes := do
  match ← t.find path with
  | .file _ content => .ok content
  | .directory => .error .isDirectory

/-- The place of a directory. -/
def directoryAt (t : Tree) (path : String) : Except SystemError Place := do
  match ← t.find path with
  | .directory => t.walk path
  | .file _ _ => .error .notDirectory

/-- The ways to all files below a place, those below a directory where its name stands among its
siblings. -/
def filesBelow (t : Tree) (root : Place) : List Place :=
  (t.nodes.filterMap fun (place, node) =>
    match node with
    | .file _ _ => Place.below? root place
    | .directory => none).mergeSort fun a b => (Place.order a b).isLE

/-! ## Changing -/

/-- One step from a place, making a directory if there is nothing. -/
def makeStep (s : Tree × Place) (name : String) : Except SystemError (Tree × Place) := do
  let (t, place) := s
  let next ← t.stepFrom place name
  match t.node? next with
  | none => .ok (t.put next .directory, next)
  | some .directory => .ok (t, next)
  | some (.file _ _) => .error .notDirectory

/-- Makes the directories on the way of some steps. -/
def makeSteps (t : Tree) (path : String) (names : List String) :
    Except SystemError (Tree × Place) := do
  checkPath path
  names.foldlM makeStep (t, t.start path)

/-- Makes a directory and those above it. -/
def makeDirectory (t : Tree) (path : String) : Except SystemError Tree :=
  (t.makeSteps path (steps path)).map Prod.fst

/-- Sets the content of the file at a place, which is made if it is not there. -/
def setContent (t : Tree) (place : Place) (content : Bytes) :
    Except SystemError (Tree × OpenFile) :=
  match t.node? place with
  | some .directory => .error .isDirectory
  | some (.file serial _) => .ok (t.put place (.file serial content), ⟨place, serial⟩)
  | none =>
    .ok ({ t.put place (.file t.made content) with made := t.made + 1 }, ⟨place, t.made⟩)

/-- Writes a file; directories above it are made. -/
def write (t : Tree) (path : String) (content : Bytes) : Except SystemError Tree := do
  let (t, _) ← t.makeSteps path (steps path).dropLast
  (t.setContent (← t.walk path) content).map Prod.fst

/-- Removes what a path leads to, and all below it. -/
def remove (t : Tree) (path : String) : Except SystemError Tree := do
  let place ← t.walk path
  match t.node? place with
  | none => .error .missing
  | some _ => .ok { t with nodes := t.nodes.filter fun n => (Place.below? place n.1).isNone }

/-- Opens a file for writing: makes an empty one, or empties the one that is there. -/
def create (t : Tree) (path : String) : Except SystemError (Tree × OpenFile) := do
  t.setContent (← t.walk path) []

/-- Writes over the beginning of an open file.  If the file is gone, nothing happens. -/
def overwrite (t : Tree) (f : OpenFile) (content : Bytes) : Tree :=
  match t.node? f.place with
  | some (.file serial old) =>
    if serial = f.serial then t.put f.place (.file serial (content ++ old.drop content.length))
    else t
  | _ => t

end Tree

end Concordance
