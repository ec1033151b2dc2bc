import Mathlib
import Concordance.Program.Machine

/-!
# Runs of the machine

A run takes its steps one after the other, and how many of them it is allowed matters only until
it leaves the program.  Where jumps go forward only, a program of `n` instructions is left after at
most `n` steps.

* `ForwardFrom` says that jumps go forward from a position on; `run_eq_run` says that two runs
  with enough steps then come to the same.
* `Follows` says that a way to go on from a state agrees with the program; `follows_run` gives one.
* `StandsAt` says that code stands at a position of a program.
-/

namespace Concordance

variable {τ : Type}

/-- Where a jump goes to. -/
def Instruction.target? : Instruction τ → Option Nat
  | .jumpIfFalse target | .jumpIfTrue target => some target
  | _ => none

/-- The jump that is taken if the top value is `value`. -/
def Instruction.jumpIf : Bool → Nat → Instruction τ
  | false => .jumpIfFalse
  | true => .jumpIfTrue

@[simp] theorem Instruction.target?_jumpIf (value : Bool) (target : Nat) :
    (jumpIf value target : Instruction τ).target? = some target := by
  cases value <;> rfl

namespace Machine

variable {m : Type → Type} [Monad m] {α : Type}
variable {check : τ → m Bool} {program : Program τ}

/-! ## Steps -/

@[simp] theorem step_push (p : Nat) (stack : List Bool) (value : Bool) :
    step check ⟨p, stack⟩ (.push value) = pure ⟨p + 1, value :: stack⟩ := rfl

@[simp] theorem step_check (p : Nat) (stack : List Bool) (t : τ) :
    step check ⟨p, stack⟩ (.check t) = check t >>= fun b => pure ⟨p + 1, b :: stack⟩ := rfl

@[simp] theorem step_not (p : Nat) (top : Bool) (stack : List Bool) :
    step check ⟨p, top :: stack⟩ .not = pure ⟨p + 1, (!top) :: stack⟩ := rfl

@[simp] theorem step_pop (p : Nat) (top : Bool) (stack : List Bool) :
    step check ⟨p, top :: stack⟩ .pop = pure ⟨p + 1, stack⟩ := rfl

@[simp] theorem step_jumpIf (p : Nat) (top value : Bool) (stack : List Bool) (target : Nat) :
    step check ⟨p, top :: stack⟩ (.jumpIf value target)
      = pure ⟨if top = value then target else p + 1, top :: stack⟩ := by
  cases top <;> cases value <;> rfl

/-! ## Runs -/

theorem run_of_none {s : State} (h : program[s.position]? = none) (n : Nat) :
    run check program n s = pure s := by
  cases n with
  | zero => rfl
  | succ n => rw [run, h]

theorem run_succ {s : State} {i : Instruction τ} (h : program[s.position]? = some i) (n : Nat) :
    run check program (n + 1) s = step check s i >>= run check program n := by
  rw [run, h]

variable [LawfulMonad m]

/-- A run can be taken in two parts. -/
theorem run_add (n k : Nat) (s : State) :
    run check program (n + k) s = run check program n s >>= run check program k := by
  induction n generalizing s with
  | zero => rw [Nat.zero_add, run, pure_bind]
  | succ n ih =>
    match hi : program[s.position]? with
    | none => rw [run_of_none hi, run_of_none hi, pure_bind, run_of_none hi]
    | some i =>
      rw [Nat.add_right_comm, run_succ hi, run_succ hi, bind_assoc]
      exact bind_congr ih

/-- Two ways to go on after an instruction that agree behind its position. -/
theorem step_bind_congr {s : State} {i : Instruction τ} {f g : State → m α}
    (hi : ∀ t, i.target? = some t → s.position < t)
    (h : ∀ s' : State, s.position < s'.position → f s' = g s') :
    step check s i >>= f = step check s i >>= g := by
  obtain ⟨p, stack⟩ := s
  have hnext : ∀ stack, f ⟨p + 1, stack⟩ = g ⟨p + 1, stack⟩ := fun _ => h _ (Nat.lt_succ_self p)
  cases i with
  | push value => simp [hnext]
  | check t => simp [hnext]
  | not => cases stack <;> simp [step, hnext]
  | pop => simp [step, hnext]
  | jumpIfFalse t =>
    have ht : ∀ stack, f ⟨t, stack⟩ = g ⟨t, stack⟩ := fun _ => h _ (hi t rfl)
    simp only [step]
    split <;> simp [hnext, ht]
  | jumpIfTrue t =>
    have ht : ∀ stack, f ⟨t, stack⟩ = g ⟨t, stack⟩ := fun _ => h _ (hi t rfl)
    simp only [step]
    split <;> simp [hnext, ht]

/-- Jumps at `start` or behind it go forward. -/
def ForwardFrom (start : Nat) (program : Program τ) : Prop :=
  ∀ p i t, start ≤ p → program[p]? = some i → i.target? = some t → p < t

/-- Where jumps go forward, as many steps as there are instructions left are enough, and more of
them change nothing. -/
theorem run_eq_run {start : Nat} (hforward : ForwardFrom start program) {n k : Nat} {s : State}
    (hs : start ≤ s.position) (hn : program.length ≤ s.position + n)
    (hk : program.length ≤ s.position + k) :
    run check program n s = run check program k s := by
  induction n generalizing k s with
  | zero => rw [run_of_none (by simpa using hn), run_of_none (by simpa using hn)]
  | succ n ih =>
    match hi : program[s.position]? with
    | none => rw [run_of_none hi, run_of_none hi]
    | some i =>
      have hlt : s.position < program.length := (List.getElem?_eq_some_iff.1 hi).1
      obtain ⟨j, rfl⟩ : ∃ j, k = j + 1 := ⟨k - 1, by omega⟩
      rw [run_succ hi, run_succ hi]
      refine step_bind_congr (fun t ht => hforward _ _ _ hs hi ht) fun s' hs' => ?_
      exact ih (by omega) (by omega) (by omega)

/-! ## Ways to go on -/

/-- From `start` on, `go` takes the steps of the program. -/
def Follows (check : τ → m Bool) (program : Program τ) (start : Nat) (go : State → m α) : Prop :=
  ∀ s i, start ≤ s.position → program[s.position]? = some i → go s = step check s i >>= go

/-- To run to the end of a program is to take its steps. -/
theorem follows_run {start : Nat} (hforward : ForwardFrom start program) :
    Follows check program start
      (fun s => run check program (program.length - s.position) s) := by
  intro s i hs hi
  have hlt : s.position < program.length := (List.getElem?_eq_some_iff.1 hi).1
  obtain ⟨n, hn⟩ : ∃ n, program.length - s.position = n + 1 := ⟨_, (Nat.succ_pred (by omega)).symm⟩
  simp only [hn, run_succ hi]
  refine step_bind_congr (fun t ht => hforward _ _ _ hs hi ht) fun s' hs' => ?_
  exact run_eq_run hforward (by omega) (by omega) (by omega)

/-! ## Code within a program -/

/-- The code stands in the program at the position `start`. -/
def StandsAt (program : Program τ) (start : Nat) (code : Program τ) : Prop :=
  ∃ front back, program = front ++ code ++ back ∧ front.length = start

theorem StandsAt.left {start : Nat} {a b : Program τ} (h : StandsAt program start (a ++ b)) :
    StandsAt program start a := by
  obtain ⟨front, back, rfl, hfront⟩ := h
  exact ⟨front, b ++ back, by simp, hfront⟩

theorem StandsAt.right {start : Nat} {a b : Program τ} (h : StandsAt program start (a ++ b)) :
    StandsAt program (start + a.length) b := by
  obtain ⟨front, back, rfl, hfront⟩ := h
  exact ⟨front ++ a, back, by simp, by simp [hfront]⟩

theorem StandsAt.head {start : Nat} {i : Instruction τ} {code : Program τ}
    (h : StandsAt program start (i :: code)) : program[start]? = some i := by
  obtain ⟨front, back, rfl, rfl⟩ := h
  simp

theorem StandsAt.tail {start : Nat} {i : Instruction τ} {code : Program τ}
    (h : StandsAt program start (i :: code)) : StandsAt program (start + 1) code :=
  StandsAt.right (a := [i]) h

end Machine

end Concordance
