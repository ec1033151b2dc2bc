import Concordance.Regex.Pattern.Basic
import Concordance.Regex.Property.Binary
import Concordance.Regex.Property.Script

/-!
# Property classes

* `loose` brings a name to its loose form, in which names are compared.
* `propertyMembers?` answers the question of a property class.
* `digits`, `blanks` and `wordChars` are the classes with a letter of their own.
-/

namespace Concordance.Regex

open Concordance.Text (CodePoints)

/-- The loose form of a name: ASCII letters in lower case, without blanks, hyphens, underscores
and non-ASCII characters, and without `is` in front. -/
def loose (name : String) : String :=
  let chars := name.toList.map Char.toLower
  let marked := ['i', 's'].isPrefixOf chars
  let kept := (if marked then chars.drop 2 else chars).filter fun c =>
    c ≠ ' ' && c ≠ '_' && c ≠ '-' && c.toNat < 0x80
  if marked && kept == ['c'] then "isc" else String.ofList kept

/-- The members of a class by a name alone: a binary property, else a category, else a script.
Three abbreviations that properties and categories share mean the category. -/
def named? (name : String) : Option CodePoints :=
  let name := loose name
  let property := if name = "cf" ∨ name = "sc" ∨ name = "lc" then none else binary? name
  (property <|> category? name) <|> script? name

/-- The members of a class by a property and its value. -/
def valued? (name value : String) : Option CodePoints :=
  let name := loose name
  let value := loose value
  if name = "gc" ∨ name = "generalcategory" then category? value
  else if name = "sc" ∨ name = "script" then script? value
  else if name = "scx" ∨ name = "scriptextensions" then scriptExtension? value
  else none

/-- The members of a property class, if there is such a property. -/
def propertyMembers? : PropertyQuery → Option CodePoints
  | .named name => named? name
  | .valued name value => valued? name value

/-- The decimal digits of all scripts. -/
def digits : CodePoints := categoryMembers "nd"

/-- White space. -/
def blanks : CodePoints := tableMembers "whitespace"

/-- The characters that words are made of. -/
def wordChars : CodePoints :=
  unionAll [alphabetic, membersOf ["mn", "mc", "me", "nd", "pc"], tableMembers "joincontrol"]

/-- The edges of `wordChars`, for quick look-up. -/
def wordEdges : Array Nat := wordChars.edges.toArray

/-- Is this a character of a word? -/
def isWordChar (c : Char) : Bool := CodePoints.memberOf wordEdges c.toNat

/-- Is this an ASCII character of a word? -/
def isWordByte (c : Char) : Bool :=
  ('0' ≤ c && c ≤ '9') || ('A' ≤ c && c ≤ 'Z') || c = '_' || ('a' ≤ c && c ≤ 'z')

end Concordance.Regex
