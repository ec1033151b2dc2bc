/-!
# Paths

A path is a text with `/` between its components.  It is absolute if it begins with a slash.

* `Path.components` are the parts of a path.
* `Path.fileName?` and `Path.extension?` are the last component and what stands behind its last
  dot.
* `Path.join` puts one path behind another.
-/

namespace Concordance.Path

/-- The parts of a text between slashes. -/
def splitSlash : List Char → List (List Char)
  | [] => [[]]
  | c :: rest =>
    match splitSlash rest with
    | [] => [[c]]
    | part :: more => if c = '/' then [] :: part :: more else (c :: part) :: more

/-- The parts of a path, the empty ones left out. -/
def components (path : String) : List String :=
  ((splitSlash path.toList).filter (· ≠ [])).map String.ofList

/-- Does the path begin at the root? -/
def isAbsolute (path : String) : Bool := path.toList.head? == some '/'

/-- The path without slashes at its end. -/
def trimEnd (path : String) : String :=
  String.ofList (path.toList.reverse.dropWhile (· == '/')).reverse

/-- The last component, if it names a file or directory: dots that stay where they are do not
count, and two dots name nothing. -/
def fileName? (path : String) : Option String :=
  match ((components path).filter (· ≠ ".")).getLast? with
  | some name => if name = ".." then none else some name
  | none => none

/-- Splits a name at its last dot. -/
def splitDot? : List Char → Option (List Char × List Char)
  | [] => none
  | c :: rest =>
    match splitDot? rest with
    | some (stem, ext) => some (c :: stem, ext)
    | none => if c = '.' then some ([], rest) else none

/-- What stands behind the last dot of the file name.  A dot in front begins no extension. -/
def extension? (path : String) : Option String :=
  (fileName? path).bind fun name =>
    match splitDot? name.toList with
    | some (_ :: _, ext) => some (String.ofList ext)
    | _ => none

/-- One path behind another; an absolute path stands for itself. -/
def join (base path : String) : String :=
  if isAbsolute path then path
  else if base.isEmpty then path
  else if base.toList.getLast? == some '/' then base ++ path
  else base ++ "/" ++ path

end Concordance.Path
