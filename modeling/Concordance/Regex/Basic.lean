import Concordance.Text.Bytes

/-!
# Regular expressions

Regular expressions are the business of an engine that is given from outside.  It alone decides
which texts are regular expressions, and where a text has matches; what is said of queries elsewhere
is said for every engine.

* `Regex.Matcher` is what an engine makes of a text that it accepts, `Regex.Engine` is an engine.
* `Regex.ofPattern?` is the regular expression that a text writes, if the engine accepts the text.
* `Regex.isMatch` tells whether a text has a match, `Regex.findAll` where its matches are.
-/

namespace Concordance

open Concordance.Text (IsBoundary)

namespace Regex

/-- What an engine makes of a text that it accepts. -/
structure Matcher where
  /-- Has a text a match? -/
  isMatch : String → Bool
  /-- The offsets at which the matches in a text begin and end. -/
  findAll : String → List (Nat × Nat)
  /-- Matches begin and end between two characters. -/
  isBoundary_of_mem : ∀ text, ∀ m ∈ findAll text,
    IsBoundary text.toList m.1 ∧ IsBoundary text.toList m.2

/-- An engine for regular expressions. -/
class Engine where
  /-- What the engine makes of a text; none if the text is not a valid regular expression. -/
  compile? : String → Option Matcher

end Regex

/-- A regular expression. -/
structure Regex where
  /-- The text that writes it. -/
  source : String
  /-- What the engine has made of the text. -/
  matcher : Regex.Matcher

namespace Regex

/-- Two regular expressions are compared by their texts. -/
instance : BEq Regex := ⟨fun a b => a.source == b.source⟩

/-- The regular expression that a text writes. -/
def ofPattern? [Engine] (source : String) : Option Regex :=
  (Engine.compile? source).map fun matcher => ⟨source, matcher⟩

/-- Has the text a match? -/
def isMatch (re : Regex) (text : String) : Bool := re.matcher.isMatch text

/-- The offsets of the matches in a text. -/
def findAll (re : Regex) (text : String) : List (Nat × Nat) := re.matcher.findAll text

end Regex

end Concordance
