import Concordance.Program.Plan
import Concordance.Program.View
import Concordance.Query.Parser

/-!
# Compiled queries

A compiled query keeps its text and its formula, with the program that decides it and the plan
that narrows it down.

* `Compiled.ofText` compiles a text.
-/

namespace Concordance

/-- A query ready to be run. -/
structure Compiled where
  /-- The text of the query. -/
  source : String
  /-- The query. -/
  expr : Expr
  /-- The program that decides it. -/
  program : Program Test
  /-- The plan that narrows it down. -/
  plan : Plan
  /-- The program is the one of the query. -/
  program_eq : program = expr.program
  /-- The plan is the one of the query. -/
  plan_eq : plan = Expr.plan expr

namespace Compiled

/-- Compiles a query that has been read from a text. -/
def ofExpr (source : String) (e : Expr) : Compiled :=
  ⟨source, e, e.program, Expr.plan e, rfl, rfl⟩

/-- Reads and compiles a query. -/
def ofText [Regex.Engine] (source : String) : Except Query.ParseError Compiled :=
  (Query.parse source).map (ofExpr source)

end Compiled

end Concordance
