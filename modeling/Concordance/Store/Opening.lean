import Concordance.Settings.Basic
import Concordance.Store.Basic

/-!
# Opening stores

* `Store.openDirectory` takes the files below a directory as entries.
* `Store.openAt` opens a directory or a compact corpus, whichever is at a location.
* `Store.openJoined` joins the stores at several locations.
* `Store.openBelow` joins all compact corpora below a directory.
-/

namespace Concordance.Store

/-- The name of a file by the way to it. -/
def nameOf (way : Place) : String := String.intercalate "/" way

/-- Opens a directory. -/
def openDirectory (tree : Tree) (settings : Settings) (location : String) : Except Error Store :=
  let name := Path.trimEnd location
  match tree.directoryAt location with
  | .ok place =>
    let names := (tree.filesBelow place).map nameOf
    .ok (.directory place.path name (names.filter settings.accepts))
  | .error cause => .error (.cannotOpen name (.system cause))

/-- Opens a compact corpus. -/
def openCompact (tree : Tree) (location : String) : Except Error Store :=
  (Compact.Pair.open? tree location).map .compact

/-- Opens what is at a location: a directory, or else a compact corpus. -/
def openAt (tree : Tree) (settings : Settings) (location : String) : Except Error Store :=
  if tree.isDirectory location then openDirectory tree settings location
  else if tree.contains location || tree.contains (location ++ Compact.indexEnding) then
    openCompact tree location
  else .error (.cannotOpen location .missing)

/-- Opens the stores at several locations. -/
def openEach (tree : Tree) (settings : Settings) :
    List (String × String) → Except Error (List (String × Store))
  | [] => .ok []
  | (front, location) :: rest => do
    let store ← openAt tree settings location
    let more ← openEach tree settings rest
    .ok ((front, store) :: more)

/-- Joins the stores at several locations, each under the name before it. -/
def openJoined (tree : Tree) (settings : Settings) (corpora : List (String × String)) :
    Except Error Store := do
  join "<multi>" (← openEach tree settings corpora)

/-- Opens the compact corpora whose index files are at the end of some ways from a place. -/
def openIndexes (tree : Tree) (root : Place) : List Place → Except Error (List (String × Store))
  | [] => .ok []
  | way :: rest =>
    match Compact.dropEnding? Compact.indexEnding (nameOf way) with
    | none => openIndexes tree root rest
    | some front => do
      let store ← openCompact tree (Place.path (root ++ way))
      let more ← openIndexes tree root rest
      .ok ((front, store) :: more)

/-- Joins all compact corpora below a directory, each under its path from there. -/
def openBelow (tree : Tree) (location : String) : Except Error Store :=
  match tree.directoryAt location with
  | .error _ => .error (.cannotOpen location .noDirectory)
  | .ok place => do
    join (Path.trimEnd location) (← openIndexes tree place (tree.filesBelow place))

end Concordance.Store
