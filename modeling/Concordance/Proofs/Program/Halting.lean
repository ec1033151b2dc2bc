import Mathlib
import Concordance.Proofs.Except
import Concordance.Proofs.Program.View

/-!
# Programs that end

A program whose jumps go forward ends after at most as many instructions as it has.  In the
program of a formula, moreover, the height of the stack is known at every position: it is the
number of values that the code before the position adds, whichever way a run has come there.  So
no instruction ever looks for a value on an empty stack, and one value is left at the end.

* `Machine.Goes` is one instruction of a run and `Machine.Ends` a run to its end, both without a
  bound on the number of instructions.
* `Machine.exists_ends` says that runs end where jumps go forward, `Machine.Ends.run_outcome` that
  a run with enough steps comes to the same.
* `Machine.Level` says that the height of the stack is known; `Formula.level_emit` says this of the
  code of a formula, `Machine.atLevel_of_reaches` what follows for runs.
* `View.programs_end` is the statement about runs on entries.
-/

namespace Concordance

variable {τ σ ε : Type}

namespace Instruction

/-- Does the instruction look for a value on top of the stack? -/
def takesTop : Instruction τ → Bool
  | .push _ => false
  | .check _ => false
  | .not => true
  | .jumpIfFalse _ => true
  | .jumpIfTrue _ => true
  | .pop => true

/-- How many values the instruction adds to the stack. -/
def gain : Instruction τ → Int
  | .push _ => 1
  | .check _ => 1
  | .not => 0
  | .jumpIfFalse _ => 0
  | .jumpIfTrue _ => 0
  | .pop => -1

theorem gain_of_target? {i : Instruction τ} {t : Nat} (h : i.target? = some t) : i.gain = 0 := by
  cases i with
  | jumpIfFalse target => rfl
  | jumpIfTrue target => rfl
  | _ => cases h

end Instruction

/-! ## Runs to the end -/

namespace Machine

variable {check : τ → StateT σ (Reading ε) Bool} {program : Program τ} {i : Instruction τ}
  {s s' : State} {v v' : σ} {n : Nat}

/-- One instruction of a run: from a state, and what the tests have done so far, to the next. -/
def Goes (check : τ → StateT σ (Reading ε) Bool) (program : Program τ) (c c' : State × σ) : Prop :=
  ∃ i, program[c.1.position]? = some i ∧ (step check c.1 i c.2).outcome = .ok c'

/-- A run ends after exactly this number of instructions: it has left the program, or a test has
failed. -/
inductive Ends (check : τ → StateT σ (Reading ε) Bool) (program : Program τ) :
    Nat → State × σ → Except ε (State × σ) → Prop where
  /-- The position is outside of the program. -/
  | outside {c : State × σ} (h : program[c.1.position]? = none) : Ends check program 0 c (.ok c)
  /-- A test fails. -/
  | failed {c : State × σ} {i : Instruction τ} {e : ε} (h : program[c.1.position]? = some i)
      (hstep : (step check c.1 i c.2).outcome = .error e) : Ends check program 1 c (.error e)
  /-- An instruction is run, and the run ends from there. -/
  | goes {n : Nat} {c c' : State × σ} {result : Except ε (State × σ)} (h : Goes check program c c')
      (hrest : Ends check program n c' result) : Ends check program (n + 1) c result

theorem run_succ_apply (hi : program[s.position]? = some i) (n : Nat) (v : σ) :
    run check program (n + 1) s v =
      step check s i v >>= fun c => run check program n c.1 c.2 := by
  rw [run_succ hi]
  rfl

/-- A run that ends comes to the same if it is allowed more steps. -/
theorem Ends.run_outcome {c : State × σ} {result : Except ε (State × σ)}
    (h : Ends check program n c result) {k : Nat} (hk : n ≤ k) :
    (run check program k c.1 c.2).outcome = result := by
  induction h generalizing k with
  | outside h =>
    rw [run_of_none h]
    rfl
  | failed h hstep =>
    obtain ⟨k, rfl⟩ := Nat.exists_eq_add_of_le' hk
    rw [run_succ_apply h, Reading.bind_outcome, hstep]
    rfl
  | goes h hrest ih =>
    obtain ⟨i, hi, hstep⟩ := h
    obtain ⟨k, rfl⟩ := Nat.exists_eq_add_of_le' (Nat.le_of_add_left_le hk)
    rw [run_succ_apply hi, Reading.bind_outcome, hstep]
    exact ih (Nat.le_of_succ_le_succ hk)

/-! ### What one instruction does -/

/-- A test leaves its outcome on the stack. -/
theorem exists_of_step_check {t : τ} (h : (step check s (.check t) v).outcome = .ok (s', v')) :
    ∃ b, s' = ⟨s.position + 1, b :: s.stack⟩ := by
  obtain ⟨p, hcheck, hp⟩ := bind_eq_ok_iff.1 ((Reading.bind_outcome _ _).symm.trans h)
  cases hp
  exact ⟨p.1, rfl⟩

/-- An instruction goes to the one behind it, or jumps; and if it finds the value that it looks
for, it adds as many values as it says. -/
theorem step_does (h : (step check s i v).outcome = .ok (s', v')) :
    (s'.position = s.position + 1 ∨ i.target? = some s'.position) ∧
      ((i.takesTop = true → s.stack ≠ []) → (s'.stack.length : Int) = s.stack.length + i.gain) := by
  obtain ⟨position, stack⟩ := s
  cases i with
  | push value =>
    cases h
    exact ⟨.inl rfl, fun _ => rfl⟩
  | check t =>
    obtain ⟨b, rfl⟩ := exists_of_step_check h
    exact ⟨.inl rfl, fun _ => rfl⟩
  | not =>
    cases stack with
    | nil =>
      cases h
      exact ⟨.inl rfl, fun hne => absurd rfl (hne rfl)⟩
    | cons top rest =>
      cases h
      exact ⟨.inl rfl, fun _ => (Int.add_zero _).symm⟩
  | jumpIfFalse target =>
    rw [step] at h
    split at h
    · cases h
      exact ⟨.inr rfl, fun _ => (Int.add_zero _).symm⟩
    · cases h
      exact ⟨.inl rfl, fun _ => (Int.add_zero _).symm⟩
  | jumpIfTrue target =>
    rw [step] at h
    split at h
    · cases h
      exact ⟨.inr rfl, fun _ => (Int.add_zero _).symm⟩
    · cases h
      exact ⟨.inl rfl, fun _ => (Int.add_zero _).symm⟩
  | pop =>
    cases stack with
    | nil =>
      cases h
      exact ⟨.inl rfl, fun hne => absurd rfl (hne rfl)⟩
    | cons top rest =>
      cases h
      refine ⟨.inl rfl, fun _ => ?_⟩
      simp [Instruction.gain]

/-- Where jumps go forward, a run ends after at most as many instructions as there are from its
position on. -/
theorem exists_ends (hforward : ForwardFrom 0 program) {k : Nat} (c : State × σ)
    (hk : program.length ≤ c.1.position + k) :
    ∃ n ≤ k, ∃ result, Ends check program n c result := by
  induction k generalizing c with
  | zero => exact ⟨0, le_rfl, _, .outside (List.getElem?_eq_none hk)⟩
  | succ k ih =>
    match hi : program[c.1.position]? with
    | none => exact ⟨0, Nat.zero_le _, _, .outside hi⟩
    | some i =>
      match hstep : (step check c.1 i c.2).outcome with
      | .error e => exact ⟨1, Nat.le_add_left 1 k, _, .failed hi hstep⟩
      | .ok c' =>
        have hlt : c.1.position < c'.1.position := by
          rcases (step_does hstep).1 with hnext | hjump
          · omega
          · exact hforward _ i _ (Nat.zero_le _) hi hjump
        obtain ⟨n, hn, result, hrest⟩ := ih c' (by omega)
        exact ⟨n + 1, Nat.succ_le_succ hn, result, .goes ⟨i, hi, hstep⟩ hrest⟩

/-! ## The height of the stack -/

/-- How many values some code adds to the stack when it is run from its first to its last
instruction. -/
def height (code : Program τ) : Int := (code.map Instruction.gain).sum

@[simp] theorem height_nil : height ([] : Program τ) = 0 := rfl

@[simp] theorem height_cons (i : Instruction τ) (code : Program τ) :
    height (i :: code) = i.gain + height code := List.sum_cons

@[simp] theorem height_append (a b : Program τ) : height (a ++ b) = height a + height b := by
  rw [height, List.map_append, List.sum_append]
  rfl

/-- The height of the stack is known in some code that stands at `start` and is entered with
`below` values on the stack: jumps keep it, and no instruction finds the stack empty. -/
structure Level (start : Nat) (below : Int) (code : Program τ) : Prop where
  /-- Jumps go forward, at most to the end of the code. -/
  within : Formula.JumpsWithin start code
  /-- Where an instruction looks for a value, there is one. -/
  top : ∀ p i, code[p]? = some i → i.takesTop = true → 0 < below + height (code.take p)
  /-- At the target of a jump the stack is as high as at the jump. -/
  jumps : ∀ p i t, code[p]? = some i → i.target? = some t →
    height (code.take (t - start)) = height (code.take p)

theorem Level.append {start : Nat} {below : Int} {a b : Program τ} (ha : Level start below a)
    (hb : Level (start + a.length) (below + height a) b) : Level start below (a ++ b) := by
  have hleft : ∀ p ≤ a.length, (a ++ b).take p = a.take p := fun p hp =>
    List.take_append_of_le_length hp
  have hright : ∀ p, (a ++ b).take (a.length + p) = a ++ b.take p := fun p => List.take_length_add_append p
  refine ⟨ha.within.append hb.within, ?_, ?_⟩
  · intro p i hi htop
    by_cases hp : p < a.length
    · rw [List.getElem?_append_left hp] at hi
      rw [hleft p hp.le]
      exact ha.top p i hi htop
    · obtain ⟨q, rfl⟩ := Nat.exists_eq_add_of_le (Nat.le_of_not_lt hp)
      rw [List.getElem?_append_right (by omega), Nat.add_sub_cancel_left] at hi
      rw [hright, height_append, ← Int.add_assoc]
      exact hb.top q i hi htop
  · intro p i t hi ht
    by_cases hp : p < a.length
    · rw [List.getElem?_append_left hp] at hi
      obtain ⟨hlt, hle⟩ := ha.within p i t hi ht
      rw [hleft p hp.le, hleft (t - start) (by omega)]
      exact ha.jumps p i t hi ht
    · obtain ⟨q, rfl⟩ := Nat.exists_eq_add_of_le (Nat.le_of_not_lt hp)
      rw [List.getElem?_append_right (by omega), Nat.add_sub_cancel_left] at hi
      obtain ⟨hlt, hle⟩ := hb.within q i t hi ht
      have htarget : t - start = a.length + (t - (start + a.length)) := by omega
      rw [htarget, hright, hright, height_append, height_append, hb.jumps q i t hi ht]

theorem Level.cons {start : Nat} {below : Int} {i : Instruction τ} {code : Program τ}
    (htop : i.takesTop = true → 0 < below)
    (hjump : ∀ t, i.target? = some t → start < t ∧ t ≤ start + 1 + code.length ∧
      height ((i :: code).take (t - start)) = 0)
    (hcode : Level (start + 1) (below + i.gain) code) : Level start below (i :: code) := by
  refine ⟨.cons (fun t ht => ⟨(hjump t ht).1, (hjump t ht).2.1⟩) hcode.within, ?_, ?_⟩
  · intro p j hj hjtop
    cases p with
    | zero =>
      obtain rfl : i = j := by simpa using hj
      simpa using htop hjtop
    | succ p =>
      have h := hcode.top p j (by simpa using hj) hjtop
      rwa [List.take_succ_cons, height_cons, ← Int.add_assoc]
  · intro p j t hj ht
    cases p with
    | zero =>
      obtain rfl : i = j := by simpa using hj
      exact (hjump t ht).2.2
    | succ p =>
      have hj' : code[p]? = some j := by simpa using hj
      obtain ⟨hlt, -⟩ := hcode.within p j t hj' ht
      have htarget : t - start = (t - (start + 1)) + 1 := by omega
      rw [htarget, List.take_succ_cons, List.take_succ_cons, height_cons, height_cons,
        hcode.jumps p j t hj' ht]

theorem level_nil (start : Nat) (below : Int) : Level start below ([] : Program τ) :=
  ⟨fun p i t hi => by simp at hi, fun p i hi => by simp at hi, fun p i t hi => by simp at hi⟩

theorem Level.single {start : Nat} {below : Int} {i : Instruction τ} (hjump : i.target? = none)
    (htop : i.takesTop = true → 0 < below) : Level start below [i] := by
  refine .cons htop ?_ (level_nil _ _)
  intro t ht
  rw [hjump] at ht
  cases ht

/-- The stack is as high as the code before the position makes it. -/
def AtLevel (program : Program τ) (s : State) : Prop :=
  (s.stack.length : Int) = height (program.take s.position)

theorem AtLevel.ne_nil (h : AtLevel program s) (hlevel : Level 0 0 program)
    (hi : program[s.position]? = some i) (htop : i.takesTop = true) : s.stack ≠ [] := by
  intro hnil
  have hpos := hlevel.top s.position i hi htop
  rw [Int.zero_add, ← h, hnil] at hpos
  exact lt_irrefl _ hpos

/-- One instruction keeps the stack at its height. -/
theorem atLevel_of_goes (hlevel : Level 0 0 program) {c c' : State × σ} (h : AtLevel program c.1)
    (hgoes : Goes check program c c') : AtLevel program c'.1 := by
  obtain ⟨i, hi, hstep⟩ := hgoes
  obtain ⟨hposition, hlength⟩ := step_does hstep
  have hgain := hlength fun htop => h.ne_nil hlevel hi htop
  rw [AtLevel, hgain, h]
  rcases hposition with hnext | hjump
  · rw [hnext, List.take_add_one, hi, height_append]
    simp
  · have htarget := hlevel.jumps c.1.position i _ hi hjump
    rw [Nat.sub_zero] at htarget
    rw [htarget, Instruction.gain_of_target? hjump, Int.add_zero]

/-- A whole run keeps the stack at its height. -/
theorem atLevel_of_reaches (hlevel : Level 0 0 program) {c : State × σ}
    (h : Relation.ReflTransGen (Goes check program) (.initial, v) c) : AtLevel program c.1 := by
  induction h with
  | refl => rfl
  | tail _ hgoes ih => exact atLevel_of_goes hlevel ih hgoes

end Machine

/-! ## Programs of formulas -/

namespace Formula

open Machine

/-- In the code of the formula, wherever it stands, the height of the stack is known, and the code
adds one value. -/
def AddsOne (f : Formula τ) : Prop :=
  ∀ start below, 0 ≤ below → Level start below (f.emit start) ∧ height (f.emit start) = 1

/-- The rest of a chain is entered with the value of the part before it, and leaves one value. -/
theorem level_emitRest {stop : Bool} {items : List (Formula τ)} (ih : ∀ f ∈ items, AddsOne f)
    (start : Nat) {below : Int} (hbelow : 0 ≤ below) :
    Level start (below + 1) (emitRest (.jumpIf stop) start items) ∧
      height (emitRest (.jumpIf stop) start items) = 0 := by
  induction items generalizing start with
  | nil => exact ⟨level_nil _ _, rfl⟩
  | cons f rest ihr =>
    rw [List.forall_mem_cons] at ih
    obtain ⟨hcode, hheight⟩ := ih.1 (start + 2) below hbelow
    obtain ⟨htail, htailHeight⟩ := ihr ih.2 (start + 2 + (f.emit (start + 2)).length)
    rw [emitRest]
    set code := f.emit (start + 2)
    set tail := emitRest (.jumpIf stop) (start + 2 + code.length) rest
    have hbody : Level (start + 2) below (code ++ tail) := by
      refine hcode.append ?_
      rw [hheight]
      exact htail
    have hbodyHeight : height (.pop :: (code ++ tail)) = 0 := by
      rw [height_cons, height_append, hheight, htailHeight]
      rfl
    have hpop : Level (start + 1) (below + 1) (.pop :: (code ++ tail)) := by
      refine .cons (fun _ => by omega) ?_ ?_
      · intro t ht
        cases ht
      · rw [Instruction.gain, Int.add_neg_cancel_right]
        exact hbody
    have hjump : (Instruction.jumpIf stop (start + 2 + code.length + tail.length) :
        Instruction τ).gain = 0 := Instruction.gain_of_target? (Instruction.target?_jumpIf _ _)
    refine ⟨.cons (fun _ => by omega) ?_ ?_, ?_⟩
    · -- the jump goes to the end of the chain, where the values of its parts are gone but for one
      intro t ht
      rw [Instruction.target?_jumpIf, Option.some_inj] at ht
      subst ht
      refine ⟨by omega, ?_, ?_⟩
      · simp only [List.length_cons, List.length_append]
        omega
      · rw [List.take_of_length_le, height_cons, hjump, hbodyHeight, Int.add_zero]
        simp only [List.length_cons, List.length_append]
        omega
    · rw [hjump, Int.add_zero]
      exact hpop
    · rw [height_cons, hjump, hbodyHeight, Int.add_zero]

theorem level_emitChain {stop : Bool} {items : List (Formula τ)} (ih : ∀ f ∈ items, AddsOne f)
    (start : Nat) {below : Int} (hbelow : 0 ≤ below) :
    Level start below (emitChain stop start items) ∧
      height (emitChain stop start items) = 1 := by
  cases items with
  | nil => exact ⟨.single rfl nofun, rfl⟩
  | cons f rest =>
    rw [List.forall_mem_cons] at ih
    obtain ⟨hcode, hheight⟩ := ih.1 start below hbelow
    obtain ⟨hrest, hrestHeight⟩ :
        Level (start + (f.emit start).length) (below + 1)
            (emitRest (.jumpIf stop) (start + (f.emit start).length) rest) ∧
          height (emitRest (.jumpIf stop) (start + (f.emit start).length) rest) = 0 :=
      level_emitRest ih.2 _ hbelow
    rw [emitChain]
    refine ⟨hcode.append ?_, ?_⟩
    · rw [hheight]
      exact hrest
    · rw [height_append, hheight, hrestHeight]
      rfl

/-- The code of a formula adds one value, and on the way no instruction finds the stack empty. -/
theorem level_emit (f : Formula τ) : AddsOne f := by
  induction f with
  | const value =>
    intro start below _
    exact ⟨.single rfl nofun, rfl⟩
  | test t =>
    intro start below _
    exact ⟨.single rfl nofun, rfl⟩
  | not inner ih =>
    intro start below hbelow
    obtain ⟨hinner, hheight⟩ := ih start below hbelow
    rw [emit]
    refine ⟨hinner.append (.single rfl fun _ => ?_), ?_⟩
    · omega
    · rw [height_append, hheight]
      rfl
  | and items ih =>
    intro start below hbelow
    rw [emit_and]
    exact level_emitChain ih start hbelow
  | or items ih =>
    intro start below hbelow
    rw [emit_or]
    exact level_emitChain ih start hbelow

/-- Wherever a run of the program of a formula stands: no instruction finds the stack empty, and at
the end there is one value. -/
theorem stack_of_reaches {check : τ → StateT σ (Reading ε) Bool} (f : Formula τ) {v : σ}
    {c : State × σ} (h : Relation.ReflTransGen (Goes check f.program) (.initial, v) c) :
    (∀ i, f.program[c.1.position]? = some i → i.takesTop = true → c.1.stack ≠ []) ∧
      (f.program[c.1.position]? = none → ∃ value, c.1.stack = [value]) := by
  obtain ⟨hlevel, hheight⟩ := level_emit f 0 0 le_rfl
  rw [← program_eq_emit] at hlevel
  have hat : AtLevel f.program c.1 := atLevel_of_reaches hlevel h
  refine ⟨fun i hi htop => hat.ne_nil hlevel hi htop, fun hend => ?_⟩
  rw [AtLevel, List.take_of_length_le (List.getElem?_eq_none_iff.1 hend), program_eq_emit,
    hheight] at hat
  exact List.length_eq_one_iff.1 (Int.ofNat.inj hat)

end Formula

/-! ## Runs on entries -/

namespace View

open Machine

/-- A program whose jumps go forward, wherever to, comes to an end on every entry, after at most as
many instructions as it has; that end is what executing it gives.

The program of a query is such a program, and its jumps do not go behind its end.  In every run of
it, as far as it comes without an error of the loader, no instruction that looks for a value finds
the stack empty, and when the run has left the program there is one value on the stack. -/
theorem programs_end :
    (∀ (program : Program Test) (load : String → Reading ε String) (v : View),
      (∀ (p : Nat) (i : Instruction Test) (t : Nat),
        program[p]? = some i → i.target? = some t → p < t) →
      ∃ n ≤ program.length, ∃ result, Ends (check load) program n (.initial, v) result ∧
        (execute load program v).outcome = result.map fun c => (c.1.answer, c.2)) ∧
    ∀ e : Expr,
      (∀ (p : Nat) (i : Instruction Test) (t : Nat), e.program[p]? = some i →
        i.target? = some t → p < t ∧ t ≤ e.program.length) ∧
      ∀ (load : String → Reading ε String) (v : View) (c : State × View),
        Relation.ReflTransGen (Goes (check load) e.program) (.initial, v) c →
          (∀ i, e.program[c.1.position]? = some i → i.takesTop = true → c.1.stack ≠ []) ∧
          (e.program[c.1.position]? = none → ∃ value, c.1.stack = [value]) := by
  refine ⟨fun program load v hforward => ?_, fun e => ⟨fun p i t hi ht => ?_, ?_⟩⟩
  · have hforward' : ForwardFrom 0 program := fun p i t _ => hforward p i t
    obtain ⟨n, hn, result, hends⟩ : ∃ n ≤ program.length, ∃ result,
        Ends (check load) program n (.initial, v) result :=
      exists_ends hforward' (.initial, v) (Nat.le_add_left _ _)
    refine ⟨n, hn, result, hends, ?_⟩
    have hrun := hends.run_outcome (hn.trans (Formula.le_stepLimit _))
    rw [execute, Machine.execute, bind_apply, Reading.bind_outcome, hrun]
    cases result <;> rfl
  · rw [Formula.program_eq_emit] at hi ⊢
    have hwithin := Formula.jumpsWithin_emit e 0 p i t hi ht
    rwa [Nat.zero_add, Nat.zero_add] at hwithin
  · intro load v c
    exact Formula.stack_of_reaches e

/-- A program that is left by a jump. -/
def leaving : Program Test := [.check ⟨.name, .contains "a"⟩, .jumpIfFalse 9, .pop]

/-- A loader that cannot read any entry. -/
def unreadable : String → Reading String String := .fail

/-- A jump may go beyond the end of the program; the run is over then. -/
theorem programs_end_leaving :
    (∀ (p : Nat) (i : Instruction Test) (t : Nat),
      leaving[p]? = some i → i.target? = some t → p < t) ∧
    (∃ n ≤ 3, ∃ result,
      Ends (check unreadable) leaving n (.initial, ⟨"b", none⟩) result ∧
        (execute unreadable leaving ⟨"b", none⟩).outcome =
          result.map fun c => (c.1.answer, c.2)) ∧
    (execute unreadable leaving ⟨"b", none⟩).outcome = .ok (false, ⟨"b", none⟩) := by
  have hforward : ∀ (p : Nat) (i : Instruction Test) (t : Nat),
      leaving[p]? = some i → i.target? = some t → p < t := by
    intro p i t hi ht
    match p, hi with
    | 0, hi =>
      cases hi
      cases ht
    | 1, hi =>
      cases hi
      cases ht
      decide
    | 2, hi =>
      cases hi
      cases ht
  exact ⟨hforward, programs_end.1 leaving unreadable ⟨"b", none⟩ hforward, rfl⟩

end View

end Concordance
