import Concordance.Text.Letters

/-!
# Tags

Marked text stands between a start tag, which has attributes, and an end tag.

* `isTagName` tells which names elements and attributes may have.
* `setAttribute` gives an attribute a value; an attribute that is there keeps its place.
* `startTag` and `endTag` write the tags.
-/

namespace Concordance

open Concordance.Text

/-- May a tag name begin with this character? -/
def isNameStart (c : Char) : Bool := isAlphabetic c || c = '_' || c = ':'

/-- May this character stand in a tag name? -/
def isNameChar (c : Char) : Bool :=
  isAlphanumeric c || c = '_' || c = ':' || c = '-' || c = '.'

/-- May elements and attributes have this name? -/
def isTagName (name : String) : Bool :=
  match name.toList with
  | [] => false
  | c :: rest => isNameStart c && rest.all isNameChar

/-- An attribute with its value. -/
structure Attribute where
  /-- The name of the attribute. -/
  name : String
  /-- Its value. -/
  value : String
  deriving DecidableEq, Repr

/-- Gives an attribute a value, in its place if it is there and at the end otherwise. -/
def setAttribute (a : Attribute) : List Attribute → List Attribute
  | [] => [a]
  | b :: rest => if b.name = a.name then a :: rest else b :: setAttribute a rest

/-- The written form of a character in a value. -/
def escapeChar (c : Char) : List Char :=
  if c = '&' then "&amp;".toList
  else if c = '<' then "&lt;".toList
  else if c = '>' then "&gt;".toList
  else if c = '"' then "&quot;".toList
  else [c]

/-- The written form of a value. -/
def escapeValue (value : String) : List Char := value.toList.flatMap escapeChar

/-- An attribute as it stands in a tag. -/
def Attribute.write (a : Attribute) : List Char :=
  ' ' :: a.name.toList ++ '=' :: '"' :: escapeValue a.value ++ ['"']

/-- The tag before a marked text. -/
def startTag (element : String) (attributes : List Attribute) : List Char :=
  '<' :: element.toList ++ attributes.flatMap Attribute.write ++ ['>']

/-- The tag behind a marked text. -/
def endTag (element : String) : List Char := '<' :: '/' :: element.toList ++ ['>']

end Concordance
