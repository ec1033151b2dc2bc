import Concordance.Regex.Basic
import Concordance.Regex.Matches
import Concordance.Regex.Pattern.Parse

/-!
# An engine

An engine that reads a text as a pattern and searches with the automaton of the pattern.  Sessions
run with it.  Of the properties of characters it knows the general categories, the scripts and the
binary ones, and it refuses patterns with others; no statement about queries depends on that, since
they are about every engine.

* `Regex.automaton?` is the automaton that a text writes.
* `Regex.automata` is the engine.
-/

namespace Concordance.Regex

/-- The automaton that a text writes, if it writes a pattern whose automaton is not too large. -/
def automaton? (source : String) : Option Automaton :=
  match (Pattern.parse? source).bind (·.node? {}) with
  | some (node, _) => if node.cost ≤ costLimit then some (Automaton.ofNode node) else none
  | none => none

/-- The searches with an automaton. -/
def Automaton.matcher (a : Automaton) : Matcher where
  isMatch text := (a.find? (Place.front text.toList)).isSome
  findAll text := a.findAll text.toList
  isBoundary_of_mem text _ := a.isBoundary_of_mem_findAll text.toList

/-- The engine that searches with automata. -/
instance automata : Engine where
  compile? source := (automaton? source).map Automaton.matcher

end Concordance.Regex
