import Concordance.Program.Basic

/-!
# The machine

The machine runs a program on a stack of truth values.  A run ends when the position leaves the
program; its answer is the top value, or false if there is none.

* `Machine.step` is one instruction, `Machine.run` a number of them.
* `Machine.execute` runs a program to its end.

Tests may have effects, which are those of a monad.  On an empty stack `not`, `pop` and the jumps
do nothing.
-/

namespace Concordance.Machine

/-- Where a run stands. -/
structure State where
  /-- The position of the next instruction. -/
  position : Nat
  /-- The values, the top one first. -/
  stack : List Bool
  deriving DecidableEq, Repr

/-- The state in which a run begins. -/
def State.initial : State := ⟨0, []⟩

/-- The answer of a run that ends in this state. -/
def State.answer (s : State) : Bool := s.stack.headD false

variable {τ : Type} {m : Type → Type} [Monad m]

/-- Runs one instruction. -/
def step (check : τ → m Bool) (s : State) : Instruction τ → m State
  | .push value => pure ⟨s.position + 1, value :: s.stack⟩
  | .check t => do
    let outcome ← check t
    pure ⟨s.position + 1, outcome :: s.stack⟩
  | .not =>
    match s.stack with
    | top :: rest => pure ⟨s.position + 1, (!top) :: rest⟩
    | [] => pure ⟨s.position + 1, []⟩
  | .jumpIfFalse target =>
    if s.stack.head? = some false then pure ⟨target, s.stack⟩ else pure ⟨s.position + 1, s.stack⟩
  | .jumpIfTrue target =>
    if s.stack.head? = some true then pure ⟨target, s.stack⟩ else pure ⟨s.position + 1, s.stack⟩
  | .pop => pure ⟨s.position + 1, s.stack.tail⟩

/-- Runs at most a number of instructions. -/
def run (check : τ → m Bool) (program : Program τ) : Nat → State → m State
  | 0, s => pure s
  | steps + 1, s =>
    match program[s.position]? with
    | none => pure s
    | some instruction => do
      let s ← step check s instruction
      run check program steps s

/-- A number of steps within which every run of a program of `n` instructions ends that ends at
all.  A run without end is one that comes to the same position with the same top value twice,
either at one height of the stack, or on top of a stack that is not touched in between; without
such a return there are at most `2 * n` steps at one height and at most `2 * n` heights. -/
def stepLimit (n : Nat) : Nat := Nat.pow (2 * n + 2) (2 * n + 2)

/-- Runs a program to its end and gives its answer. -/
def execute (check : τ → m Bool) (program : Program τ) : m Bool := do
  let s ← run check program (stepLimit program.length) .initial
  pure s.answer

end Concordance.Machine
