import Concordance.Query.Condition
import Concordance.Query.Recogniser

/-!
# The query language

A query is a disjunction of conjunctions of factors: `not (…)`, a query in parentheses, one of
the constants `true()` and `false()`, or a call such as `contains(text, 'cat')`.  Blanks may stand
between all words and signs.

* `Call` is a test as it is written, before its regular expression is looked at.
* `parseCalls` reads a query, or gives the record of what failed.
* `parse` reads a query and then checks its regular expressions from left to right.
-/

namespace Concordance.Query

/-! ## Rules and calls -/

/-- The rules of the language that a record can hold, in the order of a report. -/
inductive Rule where
  /-- The end of the query. -/
  | endOfInput
  /-- A whole query. -/
  | query
  /-- A disjunction. -/
  | expr
  /-- A conjunction. -/
  | term
  /-- A negation. -/
  | negation
  /-- A constant. -/
  | constant
  /-- `true()` -/
  | trueLit
  /-- `false()` -/
  | falseLit
  /-- A test. -/
  | call
  /-- The name of a condition. -/
  | function
  /-- The part of an entry. -/
  | field
  /-- `or` -/
  | orOp
  /-- `and` -/
  | andOp
  /-- A literal in quotes. -/
  | stringLiteral
  deriving DecidableEq, Repr

/-- The names of the conditions. -/
inductive Function where
  /-- `contains` -/
  | contains
  /-- `starts-with` -/
  | startsWith
  /-- `ends-with` -/
  | endsWith
  /-- `equals` -/
  | equals
  /-- `matches` -/
  | matches
  deriving DecidableEq, Repr

/-- A test as it is written. -/
structure Call where
  /-- The name of the condition. -/
  function : Function
  /-- The part of an entry. -/
  field : Field
  /-- The literal or the text of the regular expression. -/
  value : String
  deriving DecidableEq, Repr

/-- How the name of a condition is written. -/
def Function.name : Function → String
  | .contains => "contains"
  | .startsWith => "starts-with"
  | .endsWith => "ends-with"
  | .equals => "equals"
  | .matches => "matches"

/-- How the part of an entry is written. -/
def fieldName : Field → String
  | .text => "text"
  | .name => "name"

/-! ## Words -/

/-- Is this a blank of the language? -/
def isBlank (c : Char) : Bool := c = ' ' || c = '\t' || c = '\r' || c = '\n'

/-- May the character follow a word as a part of it? -/
def isWordChar (c : Char) : Bool :=
  ('0' ≤ c && c ≤ '9') || ('A' ≤ c && c ≤ 'Z') || ('a' ≤ c && c ≤ 'z') || c = '_' || c = '-'

/-- A recogniser of a part of a query. -/
abbrev Part := Recogniser Rule

open Recogniser

/-- Any number of blanks. -/
def blanks : Part Unit := (takeWhile isBlank).mapResult fun _ => ()

/-- Given characters. -/
def sign (w : String) : Part Unit := chars w.toList

/-- Blanks, and then `p`. -/
def spaced {α : Type} (p : Part α) : Part α := do
  blanks
  p

/-- `or` or `and`, which no character of a word may follow. -/
def operator (r : Rule) (w : String) : Part Unit :=
  word r do
    sign w
    notNext isWordChar

/-- The name of a condition. -/
def function : Part Function :=
  word .function (firstOf ([.contains, .startsWith, .endsWith, .equals, .matches].map fun f =>
    (sign f.name).mapResult fun _ => f))

/-- The part of an entry. -/
def field : Part Field :=
  word .field (firstOf ([Field.text, .name].map fun f => (sign (fieldName f)).mapResult fun _ => f))

/-- A literal between two of the given quotes. -/
def quotedBy (quote : Char) : Part String := do
  chars [quote]
  let value ← takeWhile (· ≠ quote)
  chars [quote]
  pure (String.ofList value)

/-- A literal in single or double quotes. -/
def stringLiteral : Part String :=
  rule .stringLiteral ((quotedBy '\x27').orElse (quotedBy '"'))

/-! ## Queries -/

/-- A constant with its parentheses. -/
def constantLit (r : Rule) (w : String) (value : Bool) : Part Bool :=
  rule r do
    sign w
    spaced (sign "(")
    spaced (sign ")")
    pure value

/-- A constant. -/
def constant : Part (Formula Call) :=
  (rule .constant
    ((constantLit .trueLit "true" true).orElse (constantLit .falseLit "false" false))).mapResult
    .const

/-- A test. -/
def call : Part (Formula Call) :=
  rule .call do
    let f ← function
    spaced (sign "(")
    let part ← spaced field
    spaced (sign ",")
    let value ← spaced stringLiteral
    spaced (sign ")")
    pure (.test ⟨f, part, value⟩)

/-- A negation of `inner`. -/
def negation (inner : Part (Formula Call)) : Part (Formula Call) :=
  rule .negation do
    sign "not"
    spaced (sign "(")
    let f ← spaced inner
    spaced (sign ")")
    pure (.not f)

/-- `inner` in parentheses. -/
def group (inner : Part (Formula Call)) : Part (Formula Call) := do
  sign "("
  let f ← spaced inner
  spaced (sign ")")
  pure f

/-- One or more of `item` with an operator between them. -/
def chain (op : Part Unit) (item : Part (Formula Call)) : Part (List (Formula Call)) := do
  let first ← item
  let rest ← many (spaced do
    op
    spaced item)
  pure (first :: rest)

/-- A factor, with `inner` for the queries within it. -/
def factor (inner : Part (Formula Call)) : Part (Formula Call) :=
  firstOf [negation inner, group inner, constant, call]

/-- A conjunction, with `inner` for the queries within it. -/
def term (inner : Part (Formula Call)) : Part (Formula Call) :=
  (rule .term (chain (operator .andOp "and") (factor inner))).mapResult
    (Formula.collapse .and)

/-- A disjunction, nested in parentheses less than `depth` times. -/
def expr : Nat → Part (Formula Call)
  | 0 => Recogniser.failure
  | depth + 1 =>
    (rule .expr (chain (operator .orOp "or") (term (expr depth)))).mapResult
      (Formula.collapse .or)

/-- A whole query.  Its parentheses are nested less often than it has characters. -/
def query (length : Nat) : Part (Formula Call) :=
  rule .query do
    let f ← spaced (expr (length + 1))
    spaced (rule .endOfInput atEnd)
    pure f

/-- Reads a query. -/
def parseCalls (source : String) : Except (Attempts Rule) (Formula Call) :=
  (query source.toList.length).run source.toList

/-! ## Regular expressions -/

/-- Why a text is no query. -/
inductive ParseError where
  /-- The text is not in the language; the record tells what was expected, and where. -/
  | malformed (source : String) (attempts : Attempts Rule)
  /-- The text of a regular expression writes no pattern. -/
  | badRegex (pattern : String)
  deriving Repr

variable [Regex.Engine]

/-- The test that a call stands for. -/
def Call.test (c : Call) : Except ParseError Test :=
  match c.function with
  | .contains => .ok ⟨c.field, .contains c.value⟩
  | .startsWith => .ok ⟨c.field, .startsWith c.value⟩
  | .endsWith => .ok ⟨c.field, .endsWith c.value⟩
  | .equals => .ok ⟨c.field, .equals c.value⟩
  | .matches =>
    match Regex.ofPattern? c.value with
    | some regex => .ok ⟨c.field, .matches regex⟩
    | none => .error (.badRegex c.value)

/-- Reads a query and checks its regular expressions. -/
def parse (source : String) : Except ParseError Expr :=
  match parseCalls source with
  | .ok f => f.mapM? Call.test
  | .error attempts => .error (.malformed source attempts)

end Concordance.Query
