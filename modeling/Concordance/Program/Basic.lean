import Concordance.Query.Formula

/-!
# Programs

A program decides a formula on a stack of truth values.  Jumps leave the value they look at in
place.

* `Formula.emitBehind` appends the program of a formula to the code that there is so far, and
  `Formula.program` is what it makes of no code.
* A conjunction of `a`, `b` and `c` becomes `a`, jump to the end if false, pop, `b`, jump to the
  end if false, pop, `c`; so every formula leaves exactly one value.
* While a chain is emitted, its end is not known.  Its jumps go nowhere at first, and `patch` sets
  their targets once the last part is there.
-/

namespace Concordance

/-- An instruction. -/
inductive Instruction (τ : Type) where
  /-- Pushes a constant. -/
  | push (value : Bool)
  /-- Runs a test and pushes its outcome. -/
  | check (t : τ)
  /-- Turns the top value into its opposite. -/
  | not
  /-- Goes to a position if the top value is false. -/
  | jumpIfFalse (target : Nat)
  /-- Goes to a position if the top value is true. -/
  | jumpIfTrue (target : Nat)
  /-- Takes the top value away. -/
  | pop
  deriving Repr, DecidableEq

/-- A list of instructions; positions count from zero. -/
abbrev Program (τ : Type) := List (Instruction τ)

/-- Replaces the instructions at some positions by jumps to a target. -/
def patch {τ : Type} (jump : Nat → Instruction τ) (target : Nat) (positions : List Nat)
    (code : Program τ) : Program τ :=
  positions.foldl (fun code position => code.set position (jump target)) code

namespace Formula

variable {τ : Type}

mutual

/-- Appends the program of a formula to some code. -/
def emitBehind (code : Program τ) : Formula τ → Program τ
  | .const value => code ++ [.push value]
  | .test t => code ++ [.check t]
  | .not inner => inner.emitBehind code ++ [.not]
  | .and [] => code ++ [.push true]
  | .and items => emitParts .jumpIfFalse [] code items
  | .or [] => code ++ [.push false]
  | .or items => emitParts .jumpIfTrue [] code items

/-- Appends the programs of the parts of a chain to some code, with a jump and a pop behind each
part but the last.  The jumps at the given positions are those of the chain so far; in the end all
of them are set to the end of the chain. -/
def emitParts (jump : Nat → Instruction τ) (positions : List Nat) (code : Program τ) :
    List (Formula τ) → Program τ
  | [] => code
  | [last] =>
    let code := last.emitBehind code
    patch jump code.length positions code
  | f :: rest =>
    let code := f.emitBehind code
    emitParts jump (positions ++ [code.length]) (code ++ [jump 0, .pop]) rest

end

/-- The program of a formula. -/
def program (f : Formula τ) : Program τ := f.emitBehind []

end Formula

end Concordance
