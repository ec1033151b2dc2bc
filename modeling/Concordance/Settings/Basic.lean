import Concordance.Error
import Concordance.Files.Path
import Concordance.Index.Names
import Concordance.Marking.Tag

/-!
# Settings

* `Settings` are the choices a corpus is opened with, each with its default.
* `Settings.accepts` tells which files of a directory are entries.
* `Settings.check` refuses an element name that no tag can have.
-/

namespace Concordance

/-- The choices a corpus is opened with. -/
structure Settings where
  /-- The extensions of the files that are entries; without any, every file is one. -/
  extensions : List String := ["xml"]
  /-- The order of the names. -/
  order : SortOrder := .natural
  /-- Look up literals in a trigram index? -/
  trigrams : Bool := true
  /-- The element of the tags around marked text. -/
  markElement : String := "mark"
  deriving DecidableEq, Repr

namespace Settings

/-- Is the file at a path an entry? -/
def accepts (s : Settings) (path : String) : Bool :=
  s.extensions.isEmpty || (Path.extension? path).any s.extensions.contains

/-- Settings whose element name a tag can have. -/
def check (s : Settings) : Except Error Unit :=
  if isTagName s.markElement then .ok () else .error (.badMarker s.markElement)

end Settings

end Concordance
