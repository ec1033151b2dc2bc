import Mathlib
import Concordance.Proofs.Program.Emission
import Concordance.Proofs.Program.Machine

/-!
# Programs of formulas

The program of a formula does what an evaluation of the formula from left to right does, whatever
the effects of the tests are.

* `emit_follows` is the statement that goes through the induction: code that stands anywhere in a
  program and is entered on any stack comes to its own end with one more value.
* `forwardFrom_emit` says that the jumps in the code of a formula go forward.
* `run_emit` and `execute_program` are what follows for the machine.
-/

namespace Concordance

variable {τ : Type}

open Machine

/-! ## The code of a chain -/

namespace Formula

/-- The code of a chain. -/
def emitChain (stop : Bool) (start : Nat) : List (Formula τ) → Program τ
  | [] => [.push !stop]
  | f :: rest => f.emit start ++ emitRest (.jumpIf stop) (start + (f.emit start).length) rest

theorem emit_and (start : Nat) (items : List (Formula τ)) :
    (Formula.and items).emit start = emitChain false start items := by
  cases items <;> rfl

theorem emit_or (start : Nat) (items : List (Formula τ)) :
    (Formula.or items).emit start = emitChain true start items := by
  cases items <;> rfl

/-! ## Jumps -/

/-- The jumps of some code that stands at `start` go forward and not behind its end. -/
def JumpsWithin (start : Nat) (code : Program τ) : Prop :=
  ∀ p i t, code[p]? = some i → i.target? = some t → start + p < t ∧ t ≤ start + code.length

theorem JumpsWithin.append {start : Nat} {a b : Program τ} (ha : JumpsWithin start a)
    (hb : JumpsWithin (start + a.length) b) : JumpsWithin start (a ++ b) := by
  intro p i t hi ht
  rw [List.length_append]
  by_cases hp : p < a.length
  · rw [List.getElem?_append_left hp] at hi
    obtain ⟨hlt, hle⟩ := ha p i t hi ht
    exact ⟨hlt, by omega⟩
  · rw [List.getElem?_append_right (by omega)] at hi
    obtain ⟨hlt, hle⟩ := hb _ i t hi ht
    exact ⟨by omega, by omega⟩

theorem JumpsWithin.cons {start : Nat} {i : Instruction τ} {code : Program τ}
    (hi : ∀ t, i.target? = some t → start < t ∧ t ≤ start + 1 + code.length)
    (hcode : JumpsWithin (start + 1) code) : JumpsWithin start (i :: code) := by
  intro p j t hj ht
  rw [List.length_cons]
  cases p with
  | zero =>
    obtain rfl : i = j := by simpa using hj
    obtain ⟨hlt, hle⟩ := hi t ht
    exact ⟨by omega, by omega⟩
  | succ p =>
    obtain ⟨hlt, hle⟩ := hcode p j t (by simpa using hj) ht
    exact ⟨by omega, by omega⟩

theorem JumpsWithin.single {start : Nat} {i : Instruction τ} (hi : i.target? = none) :
    JumpsWithin start [i] :=
  .cons (fun t ht => by rw [hi] at ht; cases ht) (fun p j t hj => by simp at hj)

theorem jumpsWithin_emitRest {stop : Bool} {items : List (Formula τ)}
    (ih : ∀ f ∈ items, ∀ start, JumpsWithin start (f.emit start)) (start : Nat) :
    JumpsWithin start (emitRest (.jumpIf stop) start items) := by
  induction items generalizing start with
  | nil => intro p i t hi; simp [emitRest] at hi
  | cons f rest ihr =>
    have hf := ih f (by simp) (start + 2)
    have hrest := ihr (fun g hg => ih g (by simp [hg])) (start + 2 + (f.emit (start + 2)).length)
    rw [emitRest]
    refine .cons ?_ (.cons ?_ (hf.append hrest))
    · intro t ht
      simp only [Instruction.target?_jumpIf, Option.some.injEq] at ht
      simp only [List.length_cons, List.length_append]
      omega
    · intro t ht
      cases ht

theorem jumpsWithin_emitChain {stop : Bool} {items : List (Formula τ)}
    (ih : ∀ f ∈ items, ∀ start, JumpsWithin start (f.emit start)) (start : Nat) :
    JumpsWithin start (emitChain stop start items) := by
  cases items with
  | nil => exact .single rfl
  | cons f rest =>
    exact (ih f (by simp) start).append (jumpsWithin_emitRest (fun g hg => ih g (by simp [hg])) _)

/-- The jumps of a formula go forward, at most to the end of its code. -/
theorem jumpsWithin_emit (f : Formula τ) (start : Nat) : JumpsWithin start (f.emit start) := by
  induction f generalizing start with
  | const value => exact .single rfl
  | test t => exact .single rfl
  | not inner ih => exact (ih start).append (.single rfl)
  | and items ih => rw [emit_and]; exact jumpsWithin_emitChain ih start
  | or items ih => rw [emit_or]; exact jumpsWithin_emitChain ih start

theorem forwardFrom_emit (f : Formula τ) (front : Program τ) :
    ForwardFrom front.length (front ++ f.emit front.length) := by
  intro p i t hp hi ht
  rw [List.getElem?_append_right hp] at hi
  have := (jumpsWithin_emit f front.length _ i t hi ht).1
  omega

/-! ## Evaluation -/

variable {m : Type → Type} [Monad m] [LawfulMonad m] {α : Type}
variable {check : τ → m Bool} {program : Program τ} {lo : Nat} {go : State → m α}

/-- What `emit_follows` says of one formula. -/
def EmitFollows (check : τ → m Bool) (program : Program τ) (lo : Nat) (go : State → m α)
    (f : Formula τ) : Prop :=
  ∀ start stack, lo ≤ start → StandsAt program start (f.emit start) →
    go ⟨start, stack⟩
      = f.evalM check >>= fun b => go ⟨start + (f.emit start).length, b :: stack⟩

/-- The rest of a chain, entered with the value of the part before it on top. -/
theorem emitRest_follows (hgo : Follows check program lo go) {stop : Bool}
    {items : List (Formula τ)} (ih : ∀ f ∈ items, EmitFollows check program lo go f) (start : Nat)
    (top : Bool) (stack : List Bool) (hlo : lo ≤ start)
    (hat : StandsAt program start (emitRest (.jumpIf stop) start items)) :
    go ⟨start, top :: stack⟩
      = (if top = stop then pure stop else chainM check stop items) >>= fun b =>
          go ⟨start + (emitRest (.jumpIf stop) start items).length, b :: stack⟩ := by
  induction items generalizing start top with
  | nil =>
    cases top <;> cases stop <;> simp [emitRest, chainM]
  | cons f rest ihr =>
    rw [emitRest] at hat ⊢
    rw [hgo _ _ hlo hat.head, step_jumpIf, pure_bind]
    by_cases htop : top = stop
    · simp only [htop, if_true, pure_bind, List.length_cons, List.length_append]
      congr 2
      omega
    · have hcode : StandsAt program (start + 2) _ := hat.tail.tail
      rw [if_neg htop, if_neg htop, hgo _ _ (by simp only; omega) hat.tail.head, step_pop,
        pure_bind, ih f (by simp) (start + 2) _ (by omega) hcode.left, chainM, bind_assoc]
      refine bind_congr fun b => ?_
      rw [ihr (fun g hg => ih g (by simp [hg])) _ _ (by omega) hcode.right]
      refine bind_congr fun b => ?_
      simp only [List.length_cons, List.length_append]
      congr 2
      omega

theorem emitChain_follows (hgo : Follows check program lo go) {stop : Bool}
    {items : List (Formula τ)} (ih : ∀ f ∈ items, EmitFollows check program lo go f) (start : Nat)
    (stack : List Bool) (hlo : lo ≤ start)
    (hat : StandsAt program start (emitChain stop start items)) :
    go ⟨start, stack⟩ = chainM check stop items >>= fun b =>
      go ⟨start + (emitChain stop start items).length, b :: stack⟩ := by
  cases items with
  | nil =>
    rw [hgo _ _ hlo hat.head]
    simp [chainM, emitChain]
  | cons f rest =>
    rw [emitChain] at hat ⊢
    rw [ih f (by simp) _ _ hlo hat.left, chainM, bind_assoc]
    refine bind_congr fun b => ?_
    rw [emitRest_follows hgo (fun g hg => ih g (by simp [hg])) _ _ _ (by omega) hat.right]
    simp only [List.length_append, Nat.add_assoc]

/-- The code of a formula, wherever it stands in a program and whatever is on the stack: a way to
go on that takes the steps of the program comes to the end of the code, with the value of the
formula on top of what was there. -/
theorem emit_follows (hgo : Follows check program lo go) (f : Formula τ) :
    EmitFollows check program lo go f := by
  induction f with
  | const value =>
    intro start stack hlo hat
    rw [hgo _ _ hlo hat.head]
    simp [evalM, emit]
  | test t =>
    intro start stack hlo hat
    rw [hgo _ _ hlo hat.head]
    simp [evalM, emit]
  | not inner ih =>
    intro start stack hlo hat
    rw [emit] at hat ⊢
    rw [ih _ _ hlo hat.left, evalM, bind_assoc]
    refine bind_congr fun b => ?_
    rw [hgo _ _ (by simp only; omega) hat.right.head]
    simp [Nat.add_assoc]
  | and items ih =>
    intro start stack hlo hat
    rw [emit_and] at hat ⊢
    rw [evalM, evalAllM_eq_chainM]
    exact emitChain_follows hgo ih start stack hlo hat
  | or items ih =>
    intro start stack hlo hat
    rw [emit_or] at hat ⊢
    rw [evalM, evalAnyM_eq_chainM]
    exact emitChain_follows hgo ih start stack hlo hat

/-- Emitted behind any instructions and started on any stack, the code of a formula pushes the
value of the formula, leaves what is below as it is, and ends at its own end. -/
theorem run_emit (check : τ → m Bool) (f : Formula τ) (front : Program τ) (stack : List Bool)
    {n : Nat} (hn : (f.emit front.length).length ≤ n) :
    run check (front ++ f.emit front.length) n ⟨front.length, stack⟩
      = f.evalM check >>= fun b =>
          pure ⟨front.length + (f.emit front.length).length, b :: stack⟩ := by
  have hforward := forwardFrom_emit f front
  have hat : StandsAt (front ++ f.emit front.length) front.length (f.emit front.length) :=
    ⟨front, [], by simp, rfl⟩
  have hfollows : Follows check _ _ _ := follows_run hforward
  have hgo := emit_follows hfollows f front.length stack le_rfl hat
  have hend : ∀ b : Bool, (front ++ f.emit front.length)[
      (⟨front.length + (f.emit front.length).length, b :: stack⟩ : State).position]? = none := by
    intro b
    simp
  rw [run_eq_run hforward le_rfl (k := (front ++ f.emit front.length).length - front.length)
    (by simpa using hn) (by simp)]
  simpa only [run_of_none (hend _)] using hgo

theorem le_stepLimit (n : Nat) : n ≤ stepLimit n := by
  have h : 2 * n + 2 < (2 * n + 2) ^ (2 * n + 2) := Nat.lt_pow_self (by omega)
  show n ≤ (2 * n + 2) ^ (2 * n + 2)
  omega

/-- The program of a formula evaluates the formula from left to right, and no further than
needed. -/
theorem execute_program (check : τ → m Bool) (f : Formula τ) :
    execute check f.program = f.evalM check := by
  have h := run_emit check f [] [] (le_stepLimit _)
  simp only [List.nil_append, List.length_nil] at h
  rw [execute, State.initial, program_eq_emit, h, bind_assoc]
  simp [State.answer]

end Formula

end Concordance
