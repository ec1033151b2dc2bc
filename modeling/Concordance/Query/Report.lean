import Concordance.Query.Parser
import Concordance.Text.Quoted

/-!
# Reports of query errors

A report shows the line of the query where reading failed, with a mark under the place, and the
rules that were expected there.

* `report` is the report of a malformed query.
* `ParseError.message` is the message of any query error.
-/

namespace Concordance.Query

/-- The name of a rule in a report. -/
def Rule.name : Rule → String
  | .endOfInput => "EOI"
  | .query => "query"
  | .expr => "expr"
  | .term => "term"
  | .negation => "negation"
  | .constant => "constant"
  | .trueLit => "true_lit"
  | .falseLit => "false_lit"
  | .call => "call"
  | .function => "function"
  | .field => "field"
  | .orOp => "or_op"
  | .andOp => "and_op"
  | .stringLiteral => "string_literal"

/-- The rules in the order of a report. -/
def Rule.inOrder : List Rule :=
  [.endOfInput, .query, .expr, .term, .negation, .constant, .trueLit, .falseLit, .call, .function,
    .field, .orOp, .andOp, .stringLiteral]

/-- Names as a list in words: `a`, `a or b`, `a, b, or c`. -/
def inWords : List String → String
  | [] => ""
  | [a] => a
  | [a, b] => a ++ " or " ++ b
  | names => String.intercalate ", " names.dropLast ++ ", or " ++ names.getLastD ""

/-- What was expected, each rule once. -/
def expected (rules : List Rule) : String :=
  inWords ((Rule.inOrder.filter rules.contains).map Rule.name)

/-- The characters after the last line feed. -/
def lastLine (s : List Char) : List Char := (s.reverse.takeWhile (· ≠ '\n')).reverse

/-- The report of a query that could not be read: `attempts` are the rules that failed and where.
A line feed ends a line; the breaks themselves are not shown. -/
def report (source : String) (attempts : Attempts Rule) : String :=
  let text := source.toList
  let before := text.take (text.length - attempts.left)
  let behind := text.drop (text.length - attempts.left)
  let line := toString (before.count '\n' + 1)
  let ahead := lastLine before
  let column := toString (ahead.length + 1)
  let shown := (ahead ++ behind.takeWhile (· ≠ '\n')).filter fun c => c ≠ '\r' && c ≠ '\n'
  let margin := String.ofList (List.replicate line.length ' ')
  let blank := String.ofList ((shown.take ahead.length).map fun c => if c = '\t' then '\t' else ' ')
  String.intercalate "\n"
    [ margin ++ "--> " ++ line ++ ":" ++ column,
      margin ++ " |",
      line ++ " | " ++ String.ofList shown,
      margin ++ " | " ++ blank ++ "^---",
      margin ++ " |",
      margin ++ " = expected " ++ expected attempts.rules ]

/-- The message of a query error. -/
def ParseError.message : ParseError → String
  | .malformed source attempts => report source attempts
  | .badRegex pattern => "invalid regular expression " ++ Text.quoted pattern ++ ": "

end Concordance.Query
