import Concordance.Document.Ini
import Concordance.Document.Json
import Concordance.Document.Toml
import Concordance.Document.Yaml

/-!
# Formats of settings files

* `Format.ofExtension?` is the format of files with an extension.
* `Format.parse` reads a document.
-/

namespace Concordance.Document

/-- A format of settings files. -/
inductive Format where
  /-- TOML. -/
  | toml
  /-- JSON. -/
  | json
  /-- YAML. -/
  | yaml
  /-- INI. -/
  | ini
  /-- RON, which is known but not read. -/
  | ron
  deriving DecidableEq, Repr

namespace Format

/-- The known extensions, with their formats. -/
def extensions : List (String × Format) :=
  [("toml", .toml), ("json", .json), ("yaml", .yaml), ("yml", .yaml), ("ini", .ini),
    ("json5", .json), ("ron", .ron)]

/-- The format of the files with an extension. -/
def ofExtension? (ext : String) : Option Format := extensions.lookup ext

/-- Reads a document into its fields; nothing if it is malformed. -/
def parse (format : Format) (text : String) : Option Fields :=
  match format with
  | .toml => Toml.parse text.toList
  | .json => Json.parse text.toList
  | .yaml => Yaml.parse text.toList
  | .ini => Ini.parse text.toList
  | .ron => none

end Format

end Concordance.Document
