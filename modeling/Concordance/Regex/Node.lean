import Concordance.Regex.CaseFold
import Concordance.Regex.Property.Lookup

/-!
# What a pattern means

A pattern's flags, classes and letter cases are resolved into a tree that says only which
characters may come in which order.

* `Pattern.node?` gives the tree; it refuses classes that do not exist, and what could match a
  part of a character once the `u` flag is off.
* `Node.cost` estimates the memory that an automaton for the tree takes, which is limited to
  `costLimit`.
-/

namespace Concordance.Regex

open Concordance.Text (CodePoints)

/-! ## Trees -/

/-- What a word boundary asks of the characters around it. -/
inductive WordTest where
  /-- A word begins or ends. -/
  | boundary
  /-- No word begins or ends. -/
  | inside
  /-- A word begins. -/
  | start
  /-- A word ends. -/
  | stop
  /-- No word character before. -/
  | startHalf
  /-- No word character behind. -/
  | stopHalf
  deriving DecidableEq, Repr

/-- A condition on a place between characters. -/
inductive Look where
  /-- The text begins here. -/
  | textStart
  /-- The text ends here. -/
  | textEnd
  /-- A line begins here. -/
  | lineStart (crlf : Bool)
  /-- A line ends here. -/
  | lineEnd (crlf : Bool)
  /-- A word test, among Unicode or ASCII word characters. -/
  | word (unicode : Bool) (test : WordTest)
  deriving DecidableEq, Repr

/-- The meaning of a pattern. -/
inductive Node where
  /-- Nothing. -/
  | empty
  /-- One character of a set. -/
  | set (members : CodePoints)
  /-- A condition on the place. -/
  | look (condition : Look)
  /-- Trees one after the other. -/
  | seq (items : List Node)
  /-- Trees to choose from, the first preferred. -/
  | choice (items : List Node)
  /-- A repetition; a greedy one prefers more rounds. -/
  | repeated (body : Node) (min : Nat) (max : Option Nat) (greedy : Bool)
  deriving Repr

/-! ## Flags -/

/-- The state of the flags that bear on the meaning. -/
structure Flags where
  /-- Letters match in any case. -/
  caseless : Bool := false
  /-- Line ends count for `^` and `$`. -/
  multiLine : Bool := false
  /-- The dot matches line ends. -/
  dotAll : Bool := false
  /-- Repetitions are lazy unless marked. -/
  swapGreed : Bool := false
  /-- Classes and boundaries know all of Unicode. -/
  unicode : Bool := true
  /-- CR and CR LF end a line too. -/
  crlf : Bool := false
  deriving DecidableEq, Repr

/-- Switches one flag. -/
def Flags.switch (f : Flags) (w : FlagSwitch) : Flags :=
  match w.flag with
  | .caseless => { f with caseless := w.on }
  | .multiLine => { f with multiLine := w.on }
  | .dotAll => { f with dotAll := w.on }
  | .swapGreed => { f with swapGreed := w.on }
  | .unicode => { f with unicode := w.on }
  | .crlf => { f with crlf := w.on }
  | .spaced => f

/-- Switches several flags. -/
def Flags.switchAll (f : Flags) (switches : List FlagSwitch) : Flags :=
  switches.foldl Flags.switch f

/-! ## Classes -/

/-- A set in any case, if letters match so. -/
def Flags.fold (f : Flags) (s : CodePoints) : CodePoints :=
  if !f.caseless then s else if f.unicode then caseClosure s else asciiClosure s

/-- A set, or its complement.  Without the `u` flag a complement would hold single bytes of
characters and is refused. -/
def Flags.negate? (f : Flags) (negated : Bool) (s : CodePoints) : Option CodePoints :=
  if !negated then some s else if f.unicode then some s.compl else none

/-- The members of a class with a name. -/
def NamedClass.members? (f : Flags) : NamedClass → Option CodePoints
  | .letter kind negated =>
    let members :=
      match kind, f.unicode with
      | .digit, true => digits
      | .space, true => blanks
      | .word, true => wordChars
      | .digit, false => ⟨[0x30, 0x3A]⟩
      | .space, false => ⟨[0x09, 0x0E, 0x20, 0x21]⟩
      | .word, false => ⟨[0x30, 0x3A, 0x41, 0x5B, 0x5F, 0x60, 0x61, 0x7B]⟩
    f.negate? negated members
  | .property query negated =>
    if f.unicode then
      match propertyMembers? query with
      | some members => f.negate? negated (f.fold members)
      | none => none
    else none
  | .ascii members negated =>
    let members := unionAll (members.map fun (low, high) => CodePoints.range low.toNat high.toNat)
    f.negate? negated (f.fold members)

/-- A character as a member of a class.  Without the `u` flag classes hold ASCII only. -/
def Literal.member? (f : Flags) (c : Literal) : Option Nat :=
  if f.unicode || c.char.toNat < 0x80 then some c.char.toNat else none

/-- The result of an operation on two sets. -/
def ClassOp.apply (kind : ClassOp) (left right : CodePoints) : CodePoints :=
  match kind with
  | .inter => left.inter right
  | .diff => left.diff right
  | .symmDiff => left.symmDiff right

mutual

/-- The members of the body of a bracketed class. -/
def ClassExpr.members? (f : Flags) : ClassExpr → Option CodePoints
  | .char c => (c.member? f).map CodePoints.single
  | .range low high => do some (CodePoints.range (← low.member? f) (← high.member? f))
  | .named cls => cls.members? f
  | .union items => ClassExpr.unionMembers? f items
  | .op kind left right => do
    some (kind.apply (f.fold (← left.members? f)) (f.fold (← right.members? f)))
  | .bracket negated body => do f.negate? negated (f.fold (← body.members? f))

/-- The members of several bodies together. -/
def ClassExpr.unionMembers? (f : Flags) : List ClassExpr → Option CodePoints
  | [] => some CodePoints.empty
  | e :: rest => do some ((← e.members? f).union (← ClassExpr.unionMembers? f rest))

end

/-! ## Patterns -/

/-- The condition that an edge asks for. -/
def Edge.look (f : Flags) : Edge → Look
  | .lineStart => if f.multiLine then .lineStart f.crlf else .textStart
  | .lineEnd => if f.multiLine then .lineEnd f.crlf else .textEnd
  | .textStart => .textStart
  | .textEnd => .textEnd
  | .word => .word f.unicode .boundary
  | .notWord => .word f.unicode .inside
  | .wordStart => .word f.unicode .start
  | .wordEnd => .word f.unicode .stop
  | .wordStartHalf => .word f.unicode .startHalf
  | .wordEndHalf => .word f.unicode .stopHalf

/-- The characters that a literal matches.  Without the `u` flag a byte above ASCII would match a
part of a character and is refused, and only ASCII letters match in any case. -/
def Literal.matches? (f : Flags) (c : Literal) : Option CodePoints :=
  if !f.unicode && c.asByte && 0x80 ≤ c.char.toNat then none
  else some (f.fold (CodePoints.single c.char.toNat))

/-- The characters that the dot matches. -/
def Flags.dot? (f : Flags) : Option CodePoints :=
  if !f.unicode then none
  else if f.dotAll then some CodePoints.all
  else if f.crlf then some (CodePoints.compl ⟨[0x0A, 0x0B, 0x0D, 0x0E]⟩)
  else some (CodePoints.compl ⟨[0x0A, 0x0B]⟩)

mutual

/-- The tree of a pattern, and the flags behind it. -/
def Pattern.node? (f : Flags) : Pattern → Option (Node × Flags)
  | .empty => some (.empty, f)
  | .flags switches => some (.empty, f.switchAll switches)
  | .char c => (c.matches? f).map fun s => (.set s, f)
  | .dot => f.dot?.map fun s => (.set s, f)
  | .edge kind => some (.look (kind.look f), f)
  | .named cls => (cls.members? f).map fun s => (.set s, f)
  | .bracket negated body => do
    let s ← f.negate? negated (f.fold (← body.members? f))
    some (.set s, f)
  | .group captures switches body => do
    let (node, _) ← body.node? (f.switchAll switches)
    some (if captures then .seq [.empty, node, .empty] else node, f)
  | .repeated body min max greedy => do
    let (node, f) ← body.node? f
    some (.repeated node min max (greedy != f.swapGreed), f)
  | .concat items => do
    let (nodes, f) ← Pattern.nodes? f items
    some (.seq nodes, f)
  | .alternation items => do
    let (nodes, f) ← Pattern.nodes? f items
    some (.choice nodes, f)

/-- The trees of several patterns; flags switched in one hold for the ones behind it. -/
def Pattern.nodes? (f : Flags) : List Pattern → Option (List Node × Flags)
  | [] => some ([], f)
  | p :: rest => do
    let (node, f) ← p.node? f
    let (nodes, f) ← Pattern.nodes? f rest
    some (node :: nodes, f)

end

/-! ## Cost -/

/-- The memory that an automaton may take, in bytes. -/
def costLimit : Nat := 10 * Nat.pow 2 20

/-- The cost of one state. -/
def stateCost : Nat := 32

/-- The cost of a set: a state for each byte of a single character, a state with a short list for
a set of ASCII characters, and about two and a half states for each range beyond. -/
def setCost (s : CodePoints) : Nat :=
  match s.edges with
  | [low, next] =>
    if next = low + 1 then stateCost * (Char.ofNat low).utf8Size
    else if next ≤ 0x80 then stateCost
    else 10 * stateCost
  | edges =>
    let wide := edges.countP (0x80 < ·)
    stateCost + 4 * (edges.length - wide) + 40 * wide

mutual

/-- The cost of a tree. -/
def Node.cost : Node → Nat
  | .empty => stateCost
  | .set s => setCost s
  | .look _ => stateCost
  | .seq items => Node.costs items
  | .choice items => 2 * stateCost + 4 * items.length + Node.costs items
  | .repeated body min max _ =>
    match max with
    | none => (if min = 0 then 1 else min) * body.cost + 2 * stateCost
    | some max => max * body.cost + (max - min) * (stateCost + 8)

/-- The cost of several trees. -/
def Node.costs : List Node → Nat
  | [] => 0
  | n :: rest => n.cost + Node.costs rest

end

end Concordance.Regex
