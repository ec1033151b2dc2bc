import Concordance.Query.Compiled
import Concordance.Text.Quoted

/-!
# Outlines

An outline shows how a query, a plan or a program is built, on one line: each part by its name,
with what it is made of in parentheses.

* `Expr.outline`, `Plan.outline` and `Program.outline` are the outlines.
-/

namespace Concordance

open Concordance.Text (quoted)

/-- A name with one part in parentheses. -/
def outlined (name part : String) : String := name ++ "(" ++ part ++ ")"

/-- Outlines in brackets. -/
def bracketed (parts : List String) : String := "[" ++ String.intercalate ", " parts ++ "]"

/-- A truth value in words. -/
def truthName (b : Bool) : String := if b then "true" else "false"

/-- The outline of the part of an entry. -/
def Field.outline : Field → String
  | .text => "Text"
  | .name => "Name"

/-- The outline of a condition. -/
def Condition.outline : Condition → String
  | .contains literal => outlined "Contains" (quoted literal)
  | .startsWith literal => outlined "StartsWith" (quoted literal)
  | .endsWith literal => outlined "EndsWith" (quoted literal)
  | .equals literal => outlined "Equals" (quoted literal)
  | .matches regex => outlined "Matches" (quoted regex.source)

/-- The parts of a test. -/
def Test.outline (t : Test) : String := t.field.outline ++ ", " ++ t.condition.outline

mutual

/-- The outline of a query. -/
def Expr.outline : Formula Test → String
  | .const value => outlined "Const" (truthName value)
  | .test t => outlined "Test" t.outline
  | .not inner => outlined "Not" (Expr.outline inner)
  | .and items => outlined "And" (bracketed (Expr.outlines items))
  | .or items => outlined "Or" (bracketed (Expr.outlines items))

/-- The outlines of several queries. -/
def Expr.outlines : List (Formula Test) → List String
  | [] => []
  | e :: rest => Expr.outline e :: Expr.outlines rest

end

mutual

/-- The outline of a plan. -/
def Plan.outline : Plan → String
  | .all => "All"
  | .nothing => "Nothing"
  | .name entry => outlined "Name" (quoted entry)
  | .literal text => outlined "Substring" (quoted text)
  | .union parts => outlined "Union" (bracketed (Plan.outlines parts))

/-- The outlines of several plans. -/
def Plan.outlines : List Plan → List String
  | [] => []
  | p :: rest => p.outline :: Plan.outlines rest

end

/-- The outline of an instruction. -/
def Instruction.outline : Instruction Test → String
  | .push value => outlined "Push" (truthName value)
  | .check t => outlined "Check" t.outline
  | .not => "Not"
  | .jumpIfFalse target => outlined "JumpIfFalse" (toString target)
  | .jumpIfTrue target => outlined "JumpIfTrue" (toString target)
  | .pop => "Pop"

/-- The outline of a program. -/
def Program.outline (p : Program Test) : String := bracketed (p.map Instruction.outline)

end Concordance
