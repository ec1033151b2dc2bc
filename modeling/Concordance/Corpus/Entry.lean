/-!
# Entries

An entry is a named text.  Names are paths with `/` between their components.

* `Entry.shortName` keeps the last two components of a name.
-/

namespace Concordance

/-- A named text. -/
structure Entry where
  /-- The name of the entry. -/
  name : String
  /-- Its text. -/
  content : String
  deriving DecidableEq, Repr

namespace Entry

/-- The components of a name: what stands between the slashes, less the empty ones. -/
def components (name : List Char) : List (List Char) :=
  (go name).filter (· ≠ [])
where
  /-- Cuts at every slash. -/
  go : List Char → List (List Char)
    | [] => [[]]
    | c :: rest =>
      match go rest with
      | [] => [[c]]
      | part :: more => if c = '/' then [] :: part :: more else (c :: part) :: more

/-- What stands before the last dot, if there is a dot. -/
def beforeLastDot? : List Char → Option (List Char)
  | [] => none
  | c :: rest =>
    match beforeLastDot? rest with
    | some part => some (c :: part)
    | none => if c = '.' then some [] else none

/-- Drops the extension of a directory's name.  A dot in front begins no extension. -/
def dropExtension (dir : List Char) : List Char :=
  match beforeLastDot? dir with
  | some (c :: part) => c :: part
  | _ => dir

/-- A name shortened to its file and the directory around it, without the directory's extension.
A name with fewer than two components stays as it is. -/
def shorten (name : String) : String :=
  match (components name.toList).reverse with
  | file :: dir :: _ => String.ofList (dropExtension dir ++ '/' :: file)
  | _ => name

/-- The short name of an entry. -/
def shortName (e : Entry) : String := shorten e.name

end Entry

end Concordance
