import Concordance.Query.Formula
import Concordance.Query.Occurrence
import Concordance.Regex.Basic

/-!
# Conditions and tests

A condition asks something of a text: that it contains, begins with, ends with or equals a
literal, or that it has a match of a regular expression.  A test asks a condition of the name or
of the content of an entry.

* `Condition.isMatch` decides a condition, `Condition.spans` tells where it is met.
* `Condition.requiredLiteral` is a literal that every text meeting the condition contains.
-/

namespace Concordance

open Concordance.Text (utf8)

/-- The part of an entry that a test looks at. -/
inductive Field where
  /-- The content. -/
  | text
  /-- The name. -/
  | name
  deriving DecidableEq, Repr

/-- A question about a text. -/
inductive Condition where
  /-- The text contains the literal. -/
  | contains (literal : String)
  /-- The text begins with the literal. -/
  | startsWith (literal : String)
  /-- The text ends with the literal. -/
  | endsWith (literal : String)
  /-- The text is the literal. -/
  | equals (literal : String)
  /-- The text has a match of the regular expression. -/
  | matches (regex : Regex)
  deriving BEq

namespace Condition

/-- Does a text meet the condition? -/
def isMatch (c : Condition) (text : String) : Bool :=
  match c with
  | .contains literal => occursIn (utf8 literal) (utf8 text)
  | .startsWith literal => (utf8 literal).isPrefixOf (utf8 text)
  | .endsWith literal => (utf8 literal).isSuffixOf (utf8 text)
  | .equals literal => text = literal
  | .matches regex => regex.isMatch text

/-- The spans that meet the condition, from left to right, the empty ones left out.  Occurrences
of a literal do not overlap. -/
def spans (c : Condition) (text : String) : List Span :=
  let length := (utf8 text).length
  let found : List Span :=
    match c with
    | .contains literal =>
      if literal.isEmpty then []
      else (occurrences (utf8 literal) (utf8 text)).map fun start =>
        ⟨start, start + (utf8 literal).length⟩
    | .startsWith literal => if c.isMatch text then [⟨0, (utf8 literal).length⟩] else []
    | .endsWith literal =>
      if c.isMatch text then [⟨length - (utf8 literal).length, length⟩] else []
    | .equals _ => if c.isMatch text then [⟨0, length⟩] else []
    | .matches regex => (regex.findAll text).map fun (start, stop) => ⟨start, stop⟩
  found.filter fun s => !s.isEmpty

/-- The literal that every text meeting the condition contains, if there is one. -/
def requiredLiteral : Condition → Option String
  | .contains literal | .startsWith literal | .endsWith literal | .equals literal => some literal
  | .matches _ => none

end Condition

/-- A condition on a part of an entry. -/
structure Test where
  /-- The part looked at. -/
  field : Field
  /-- What is asked of it. -/
  condition : Condition
  deriving BEq

/-- Does an entry with this name and content meet the test? -/
def Test.holds (name content : String) (t : Test) : Bool :=
  match t.field with
  | .name => t.condition.isMatch name
  | .text => t.condition.isMatch content

/-- A query, as a formula over tests. -/
abbrev Expr := Formula Test

/-- Does the query hold for an entry with this name and content? -/
def Expr.holds (e : Expr) (name content : String) : Bool :=
  Formula.holds (Test.holds name content) e

end Concordance
