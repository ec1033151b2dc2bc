import Mathlib
import Concordance.Program.Basic
import Concordance.Proofs.Query.Formula

/-!
# Code with its jumps set

A formula is emitted from left to right, and the jumps of a chain are set when its end has been
reached.  What comes out is the code that one would write down with all targets known: it depends on
the code before it only by the position at which it begins, and changes nothing there.

* `emit` is the code of a formula for a position, with its targets.
* `patch_append` says that setting jumps leaves the code behind them alone.
* `emitParts_eq` goes through the parts of a chain, with the jumps that are still to be set.
* `emitBehind_eq` is the statement about formulas.
-/

namespace Concordance

variable {τ : Type}

/-! ## Setting jumps -/

section

variable {jump : Nat → Instruction τ} {target : Nat} {positions : List Nat} {code : Program τ}

@[simp] theorem length_patch : (patch jump target positions code).length = code.length := by
  induction positions generalizing code with
  | nil => rfl
  | cons position positions ih => exact ih.trans List.length_set

/-- Jumps that are set leave the code behind them as it is. -/
theorem patch_append (h : ∀ position ∈ positions, position < code.length) (more : Program τ) :
    patch jump target positions (code ++ more) = patch jump target positions code ++ more := by
  induction positions generalizing code with
  | nil => rfl
  | cons position positions ih =>
    rw [List.forall_mem_cons] at h
    have hrest : ∀ p ∈ positions, p < (code.set position (jump target)).length := by
      rw [List.length_set]
      exact h.2
    calc patch jump target (position :: positions) (code ++ more)
        = patch jump target positions ((code ++ more).set position (jump target)) := rfl
      _ = patch jump target positions (code.set position (jump target) ++ more) := by
        rw [List.set_append_left _ _ h.1]
      _ = patch jump target (position :: positions) code ++ more := ih hrest

/-- The last of some jumps is set behind the others. -/
theorem patch_concat (h : ∀ position ∈ positions, position < code.length) (i : Instruction τ)
    (more : Program τ) :
    patch jump target (positions ++ [code.length]) (code ++ i :: more) =
      patch jump target positions code ++ jump target :: more := by
  have hbefore : patch jump target positions (code ++ i :: more) =
      patch jump target positions code ++ i :: more := patch_append h (i :: more)
  rw [patch, List.foldl_concat, ← patch, hbefore, List.set_append_right _ _ (by simp)]
  simp

end

namespace Formula

/-! ## The code for a position -/

mutual

/-- The code of a formula for the position `start`. -/
def emit (start : Nat) : Formula τ → Program τ
  | .const value => [.push value]
  | .test t => [.check t]
  | .not inner => inner.emit start ++ [.not]
  | .and [] => [.push true]
  | .and (f :: rest) =>
    let code := f.emit start
    code ++ emitRest .jumpIfFalse (start + code.length) rest
  | .or [] => [.push false]
  | .or (f :: rest) =>
    let code := f.emit start
    code ++ emitRest .jumpIfTrue (start + code.length) rest

/-- The code of the parts of a chain behind its first one.  The value of the part before stands on
top; if it decides the chain, a jump goes to the end of the chain. -/
def emitRest (jump : Nat → Instruction τ) (start : Nat) : List (Formula τ) → Program τ
  | [] => []
  | f :: rest =>
    let code := f.emit (start + 2)
    let tail := emitRest jump (start + 2 + code.length) rest
    jump (start + 2 + code.length + tail.length) :: .pop :: (code ++ tail)

end

/-! ## Emitting -/

/-- What is emitted behind some code is the code for the position there. -/
def EmitsBehind (f : Formula τ) : Prop :=
  ∀ code : Program τ, f.emitBehind code = code ++ f.emit code.length

/-- The parts of a chain from one of them on.  The jumps behind the parts before are in the code
already, and are set to the end as well. -/
theorem emitParts_eq (jump : Nat → Instruction τ) {f : Formula τ} {rest : List (Formula τ)}
    (ih : ∀ g ∈ f :: rest, g.EmitsBehind) {positions : List Nat} {code : Program τ}
    (h : ∀ position ∈ positions, position < code.length) :
    let first := f.emit code.length
    let tail := emitRest jump (code.length + first.length) rest
    emitParts jump positions code (f :: rest) =
      patch jump (code.length + first.length + tail.length) positions code ++ (first ++ tail) := by
  induction rest generalizing f positions code with
  | nil =>
    intro first tail
    have hfirst : f.emitBehind code = code ++ first := ih f (by simp) code
    rw [emitParts, hfirst, patch_append h, List.length_append]
    simp [tail, emitRest]
  | cons g rest ihr =>
    intro first tail
    have hfirst : f.emitBehind code = code ++ first := ih f (by simp) code
    have hpositions : ∀ position ∈ positions, position < (code ++ first).length := by
      intro position hposition
      have := h position hposition
      rw [List.length_append]
      omega
    have hopen : ∀ position ∈ positions ++ [(code ++ first).length],
        position < (code ++ first ++ [jump 0, .pop]).length := by
      rw [List.forall_mem_append, List.forall_mem_singleton]
      constructor
      · intro position hposition
        have := hpositions position hposition
        rw [List.length_append]
        omega
      · simp
    have hstart : (code ++ first ++ [jump 0, .pop]).length = code.length + first.length + 2 := by
      simp only [List.length_append, List.length_cons, List.length_nil]
    have hlater := ihr (fun k hk => ih k (List.mem_cons_of_mem _ hk)) hopen
    rw [hstart] at hlater
    -- the end of the chain, as it is found by the other parts and as it is due
    have hend : code.length + first.length + tail.length = code.length + first.length + 2 +
        (g.emit (code.length + first.length + 2)).length +
        (emitRest jump (code.length + first.length + 2 +
          (g.emit (code.length + first.length + 2)).length) rest).length := by
      simp only [tail, emitRest, List.length_cons, List.length_append]
      omega
    -- the jump behind the first part is the last one to be set
    rw [emitParts, hfirst, hlater, patch_concat hpositions, patch_append h, hend]
    · simp only [tail, emitRest, List.append_assoc, List.cons_append, List.nil_append]
    · simp

/-- A chain that has parts. -/
theorem emitsBehind_chain (jump : Nat → Instruction τ) {f : Formula τ} {rest : List (Formula τ)}
    (ih : ∀ g ∈ f :: rest, g.EmitsBehind) (code : Program τ) :
    emitParts jump [] code (f :: rest) =
      code ++ (f.emit code.length ++
        emitRest jump (code.length + (f.emit code.length).length) rest) :=
  emitParts_eq jump ih nofun

/-- A formula is emitted as the code for the position that it comes to stand at, behind the code
that there is already. -/
theorem emitBehind_eq (f : Formula τ) : f.EmitsBehind := by
  induction f with
  | const value => exact fun code => rfl
  | test t => exact fun code => rfl
  | not inner ih =>
    intro code
    rw [emitBehind, ih, emit, List.append_assoc]
  | and items ih =>
    intro code
    cases items with
    | nil => rfl
    | cons f rest => exact emitsBehind_chain .jumpIfFalse ih code
  | or items ih =>
    intro code
    cases items with
    | nil => rfl
    | cons f rest => exact emitsBehind_chain .jumpIfTrue ih code

theorem program_eq_emit (f : Formula τ) : f.program = f.emit 0 := emitBehind_eq f []

end Formula

end Concordance
