import Concordance.Regex.Node

/-!
# Automata

An automaton reads a text character by character.  Its states read a character of a set, branch
into other states in order of preference, ask for a condition on the place, or accept.

* `Node.build` adds the states of a tree in front of a state that is there already, and gives the
  state to begin with; so a tree is built from its end to its front.
* `Automaton.ofNode` is the automaton of a tree.
-/

namespace Concordance.Regex

/-- A state; states are named by their positions. -/
inductive State where
  /-- Reads a character of the set with these edges and goes on. -/
  | read (edges : Array Nat) (next : Nat)
  /-- Goes on in several ways, the first preferred. -/
  | fork (next : List Nat)
  /-- Goes on if the condition holds here. -/
  | look (condition : Look) (next : Nat)
  /-- The text read so far matches. -/
  | accept
  deriving Repr, Inhabited

/-- A list of states under construction. -/
abbrev States := Array State

/-- Adds a state and gives its name. -/
def States.add (states : States) (s : State) : Nat × States := (states.size, states.push s)

/-- Builds something in front of a state. -/
abbrev Builder := Nat → States → Nat × States

/-- Builds a number of copies, one behind the other. -/
def times (copy : Builder) : Nat → Builder
  | 0 => fun next states => (next, states)
  | n + 1 => fun next states =>
    let (entry, states) := times copy n next states
    copy entry states

/-- Builds up to a number of copies, each of which may be the last. -/
def upTo (copy : Builder) (greedy : Bool) : Nat → Builder
  | 0 => fun next states => (next, states)
  | n + 1 => fun next states =>
    let (rest, states) := upTo copy greedy n next states
    let (entry, states) := copy rest states
    states.add (.fork (if greedy then [entry, next] else [next, entry]))

/-- Builds one or more rounds: gives the state that begins a round, and the ways to go on behind
one. -/
def rounds (copy : Builder) (greedy : Bool) (next : Nat) (states : States) :
    Nat × List Nat × States :=
  let (again, states) := states.add (.fork [])
  let (entry, states) := copy again states
  let ways := if greedy then [entry, next] else [next, entry]
  (entry, ways, states.setIfInBounds again (.fork ways))

mutual

/-- Can the tree match without reading a character? -/
def Node.canBeEmpty : Node → Bool
  | .empty | .look _ => true
  | .set _ => false
  | .seq items => Node.allCanBeEmpty items
  | .choice items => Node.anyCanBeEmpty items
  | .repeated body min _ _ => min == 0 || body.canBeEmpty

/-- Can all the trees match without reading? -/
def Node.allCanBeEmpty : List Node → Bool
  | [] => true
  | n :: rest => n.canBeEmpty && Node.allCanBeEmpty rest

/-- Can one of the trees match without reading? -/
def Node.anyCanBeEmpty : List Node → Bool
  | [] => false
  | n :: rest => n.canBeEmpty || Node.anyCanBeEmpty rest

end

mutual

/-- Builds a tree in front of a state.  In a repetition without bound, a round that may read
nothing is built so that one round comes before the choice to end. -/
def Node.build : Node → Nat → States → Nat × States
  | .empty, next, states => (next, states)
  | .set s, next, states => states.add (.read s.edges.toArray next)
  | .look l, next, states => states.add (.look l next)
  | .seq items, next, states => Node.buildSeq items next states
  | .choice items, next, states =>
    let (entries, states) := Node.buildEach items next states
    states.add (.fork entries)
  | .repeated body min max greedy, next, states =>
    let copy : Builder := fun next states => body.build next states
    match max with
    | some max =>
      let (rest, states) := upTo copy greedy (max - min) next states
      times copy min rest states
    | none =>
      if min = 0 then
        if body.canBeEmpty then
          let (_, ways, states) := rounds copy greedy next states
          states.add (.fork ways)
        else
          let (again, states) := states.add (.fork [])
          let (entry, states) := copy again states
          let ways := if greedy then [entry, next] else [next, entry]
          (again, states.setIfInBounds again (.fork ways))
      else
        let (entry, _, states) := rounds copy greedy next states
        times copy (min - 1) entry states

/-- Builds trees one behind the other in front of a state. -/
def Node.buildSeq : List Node → Nat → States → Nat × States
  | [], next, states => (next, states)
  | n :: rest, next, states =>
    let (entry, states) := Node.buildSeq rest next states
    n.build entry states

/-- Builds trees side by side in front of the same state. -/
def Node.buildEach : List Node → Nat → States → List Nat × States
  | [], _, states => ([], states)
  | n :: rest, next, states =>
    let (entry, states) := n.build next states
    let (entries, states) := Node.buildEach rest next states
    (entry :: entries, states)

end

/-- An automaton. -/
structure Automaton where
  /-- The states. -/
  states : States
  /-- The state to begin with. -/
  start : Nat
  /-- The number of ways to go on without reading, in all states together. -/
  links : Nat
  deriving Inhabited

/-- The ways to go on from a state without reading. -/
def State.links : State → Nat
  | .fork next => next.length
  | .look _ _ => 1
  | _ => 0

/-- The automaton of a tree. -/
def Automaton.ofNode (n : Node) : Automaton :=
  let (start, states) := n.build 0 #[.accept]
  ⟨states, start, states.foldl (fun sum s => sum + s.links) 0⟩

end Concordance.Regex
