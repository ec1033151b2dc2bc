import Mathlib
import Concordance.Proofs.Query.Words

/-!
# Reading factors

What a factor begins with tells which rule it follows, so its alternatives, tried in order, read
what an unordered grammar would read.

* `spells_append` and `spells_cons` split the reading of tokens.
* `spaced_group_iff`, `spaced_negation_iff`, `spaced_constant_iff` and `spaced_call_iff` tell what
  each alternative reads, and `spaced_factor_iff` that a factor is what one of them reads.
-/

namespace Concordance.Query

open Recogniser

/-! ## Sequences of tokens -/

theorem spells_append {s rest : List Char} {ts us : List Token} :
    Spells s (ts ++ us) rest ↔ ∃ mid, Spells s ts mid ∧ Spells mid us rest := by
  induction ts generalizing s with
  | nil =>
    constructor
    · exact fun h => ⟨s, .nil s, h⟩
    · rintro ⟨mid, h, hrest⟩
      cases h
      exact hrest
  | cons t ts ih =>
    constructor
    · intro h
      cases h with
      | cons ht h =>
        obtain ⟨mid, hts, hus⟩ := ih.1 h
        exact ⟨mid, .cons ht hts, hus⟩
    · rintro ⟨mid, h, hus⟩
      cases h with
      | cons ht h => exact .cons ht (ih.2 ⟨mid, h, hus⟩)

theorem spells_cons {s rest : List Char} {t : Token} {ts : List Token} :
    Spells s (t :: ts) rest ↔ ∃ mid, t.Takes s mid ∧ Spells mid ts rest := by
  constructor
  · rintro (_ | ⟨ht, h⟩)
    exact ⟨_, ht, h⟩
  · rintro ⟨mid, ht, h⟩
    exact .cons ht h

theorem spells_singleton {s rest : List Char} {t : Token} :
    Spells s [t] rest ↔ t.Takes s rest := by
  rw [spells_cons]
  constructor
  · rintro ⟨mid, ht, h⟩
    cases h
    exact ht
  · exact fun ht => ⟨rest, ht, .nil rest⟩

theorem Token.Takes.length_le {w : String} {s rest : List Char} (h : (Token.word w).Takes s rest) :
    rest.length + w.length ≤ s.length := by
  obtain ⟨front, text, -, rfl, -, rfl⟩ := h
  simp only [List.length_append, String.length_toList]
  omega

/-- The character with which a text goes on behind its blanks. -/
def next? (s : List Char) : Option Char := (s.dropWhile isBlank).head?

theorem Token.Takes.next?_eq {w : String} (hw : (Token.word w).Solid) {s rest : List Char}
    (h : (Token.word w).Takes s rest) : next? s = w.toList.head? := by
  obtain ⟨-, hs⟩ := (Token.takes_word_iff hw).1 h
  obtain ⟨c, tail, hc, -⟩ := hw _ rfl
  rw [next?, hs, hc]
  rfl

/-! ## Signs -/

theorem solid_open : (Token.word "(").Solid := Token.solid_word (by decide)
theorem solid_close : (Token.word ")").Solid := Token.solid_word (by decide)
theorem solid_comma : (Token.word ",").Solid := Token.solid_word (by decide)
theorem solid_not : (Token.word "not").Solid := Token.solid_word (by decide)
theorem solid_true : (Token.word "true").Solid := Token.solid_word (by decide)
theorem solid_false : (Token.word "false").Solid := Token.solid_word (by decide)
theorem solid_and : (Token.word "and").Solid := Token.solid_word (by decide)
theorem solid_or : (Token.word "or").Solid := Token.solid_word (by decide)

theorem spaced_open_iff {s rest : List Char} {u : Unit} :
    (spaced (sign "(")).read s = some (u, rest) ↔ (Token.word "(").Takes s rest :=
  spaced_sign_iff solid_open (by decide)

theorem spaced_close_iff {s rest : List Char} {u : Unit} :
    (spaced (sign ")")).read s = some (u, rest) ↔ (Token.word ")").Takes s rest :=
  spaced_sign_iff solid_close (by decide)

theorem spaced_comma_iff {s rest : List Char} {u : Unit} :
    (spaced (sign ",")).read s = some (u, rest) ↔ (Token.word ",").Takes s rest :=
  spaced_sign_iff solid_comma (by decide)

/-! ## The alternatives of a factor -/

variable {inner : Part (Formula Call)} {s rest : List Char} {f : Formula Call}

theorem read_spaced_bind {α β : Type} (p : Part α) (g : α → Part β) (s : List Char) :
    (spaced (p >>= g)).read s = (spaced p >>= g).read s := rfl

theorem read_spaced_rule {α : Type} (r : Rule) (p : Part α) (s : List Char) :
    (spaced (rule r p)).read s = (spaced p).read s := rfl

theorem spaced_group_iff :
    (spaced (group inner)).read s = some (f, rest) ↔
      ∃ s₁ s₂, (Token.word "(").Takes s s₁ ∧ (spaced inner).read s₁ = some (f, s₂) ∧
        (Token.word ")").Takes s₂ rest := by
  unfold group
  rw [read_spaced_bind, read_bind_eq_some]
  constructor
  · rintro ⟨_, s₁, hopen, h⟩
    obtain ⟨e, s₂, hinner, h⟩ := read_bind_eq_some.1 h
    obtain ⟨_, s₃, hclose, h⟩ := read_bind_eq_some.1 h
    simp only [read_pure, Option.some.injEq, Prod.mk.injEq] at h
    obtain ⟨rfl, rfl⟩ := h
    exact ⟨s₁, s₂, spaced_open_iff.1 hopen, hinner, spaced_close_iff.1 hclose⟩
  · rintro ⟨s₁, s₂, hopen, hinner, hclose⟩
    refine ⟨(), s₁, spaced_open_iff.2 hopen, read_bind_eq_some.2 ⟨f, s₂, hinner, ?_⟩⟩
    exact read_bind_eq_some.2 ⟨(), rest, spaced_close_iff.2 hclose, rfl⟩

/-- A negation is `not` and then a group. -/
theorem spaced_negation_iff :
    (spaced (negation inner)).read s = some (f, rest) ↔
      ∃ s₁ e, (Token.word "not").Takes s s₁ ∧ (spaced (group inner)).read s₁ = some (e, rest) ∧
        f = .not e := by
  have hgroup : ∀ s₁, (spaced (sign "(") >>= fun _ => spaced inner >>= fun e =>
      spaced (sign ")") >>= fun _ => pure (Formula.not e) : Part (Formula Call)).read s₁
      = ((spaced (group inner)).mapResult .not).read s₁ := by
    intro s₁
    unfold group mapResult
    simp only [read_bind, read_spaced_bind, Option.bind_assoc]
    rfl
  unfold negation
  rw [read_spaced_rule, read_spaced_bind, read_bind_eq_some]
  constructor
  · rintro ⟨_, s₁, hnot, h⟩
    obtain ⟨e, he, rfl⟩ := read_mapResult_eq_some.1 ((hgroup s₁).symm.trans h)
    exact ⟨s₁, e, (spaced_sign_iff solid_not (by decide)).1 hnot, he, rfl⟩
  · rintro ⟨s₁, e, hnot, he, rfl⟩
    refine ⟨(), s₁, (spaced_sign_iff solid_not (by decide)).2 hnot, ?_⟩
    exact (hgroup s₁).trans (read_mapResult_eq_some.2 ⟨e, he, rfl⟩)

theorem spaced_constantLit_iff {r : Rule} {w : String} (hw : (Token.word w).Solid)
    (hop : w ≠ "or" ∧ w ≠ "and") {value b : Bool} :
    (spaced (constantLit r w value)).read s = some (b, rest) ↔
      Spells s [.word w, .word "(", .word ")"] rest ∧ b = value := by
  unfold constantLit
  rw [read_spaced_rule, read_spaced_bind, read_bind_eq_some, spells_cons]
  constructor
  · rintro ⟨_, s₁, hword, h⟩
    obtain ⟨_, s₂, hopen, h⟩ := read_bind_eq_some.1 h
    obtain ⟨_, s₃, hclose, h⟩ := read_bind_eq_some.1 h
    simp only [read_pure, Option.some.injEq, Prod.mk.injEq] at h
    obtain ⟨rfl, rfl⟩ := h
    exact ⟨⟨s₁, (spaced_sign_iff hw hop).1 hword, spells_cons.2 ⟨s₂, spaced_open_iff.1 hopen,
      spells_singleton.2 (spaced_close_iff.1 hclose)⟩⟩, rfl⟩
  · rintro ⟨⟨s₁, hword, h⟩, rfl⟩
    obtain ⟨s₂, hopen, h⟩ := spells_cons.1 h
    refine ⟨(), s₁, (spaced_sign_iff hw hop).2 hword, read_bind_eq_some.2
      ⟨(), s₂, spaced_open_iff.2 hopen, read_bind_eq_some.2 ⟨(), rest, ?_, rfl⟩⟩⟩
    exact spaced_close_iff.2 (spells_singleton.1 h)

/-- How a constant is written. -/
def constantWord (value : Bool) : String := if value then "true" else "false"

theorem spaced_constant_iff :
    (spaced constant).read s = some (f, rest) ↔
      ∃ value, Spells s [.word (constantWord value), .word "(", .word ")"] rest ∧
        f = .const value := by
  unfold constant
  rw [read_spaced, read_mapResult_eq_some]
  have htrue := fun b => @spaced_constantLit_iff s rest .trueLit _ solid_true (by decide) true b
  have hfalse := fun b => @spaced_constantLit_iff s rest .falseLit _ solid_false (by decide) false b
  constructor
  · rintro ⟨b, h, rfl⟩
    rcases read_orElse_eq_some.1 h with h | ⟨-, h⟩
    · obtain ⟨hs, rfl⟩ := (htrue b).1 h
      exact ⟨true, hs, rfl⟩
    · obtain ⟨hs, rfl⟩ := (hfalse b).1 h
      exact ⟨false, hs, rfl⟩
  · rintro ⟨value, hs, rfl⟩
    refine ⟨value, read_orElse_eq_some.2 ?_, rfl⟩
    cases value with
    | true => exact Or.inl ((htrue true).2 ⟨hs, rfl⟩)
    | false =>
      refine Or.inr ⟨Option.eq_none_iff_forall_not_mem.2 fun x hx => ?_, (hfalse false).2 ⟨hs, rfl⟩⟩
      obtain ⟨s₁, h₁, -⟩ := spells_cons.1 hs
      obtain ⟨s₂, h₂, -⟩ := spells_cons.1
        ((@spaced_constantLit_iff s x.2 .trueLit _ solid_true (by decide) true x.1).1 hx).1
      exact absurd ((h₁.next?_eq solid_false).symm.trans (h₂.next?_eq solid_true)) (by decide)

/-- How a call is written. -/
def callTokens (c : Call) : List Token :=
  [.word c.function.name, .word "(", .word (fieldName c.field), .word ",", .literal c.value,
    .word ")"]

theorem spaced_call_iff :
    (spaced call).read s = some (f, rest) ↔ ∃ c, Spells s (callTokens c) rest ∧ f = .test c := by
  unfold call
  rw [read_spaced_rule, read_spaced_bind, read_bind_eq_some]
  constructor
  · rintro ⟨function, s₁, hfunction, h⟩
    obtain ⟨_, s₂, hopen, h⟩ := read_bind_eq_some.1 h
    obtain ⟨part, s₃, hfield, h⟩ := read_bind_eq_some.1 h
    obtain ⟨_, s₄, hcomma, h⟩ := read_bind_eq_some.1 h
    obtain ⟨value, s₅, hvalue, h⟩ := read_bind_eq_some.1 h
    obtain ⟨_, s₆, hclose, h⟩ := read_bind_eq_some.1 h
    simp only [read_pure, Option.some.injEq, Prod.mk.injEq] at h
    obtain ⟨rfl, rfl⟩ := h
    exact ⟨⟨function, part, value⟩, .cons (spaced_function_iff.1 hfunction) <|
      .cons (spaced_open_iff.1 hopen) <| .cons (spaced_field_iff.1 hfield) <|
      .cons (spaced_comma_iff.1 hcomma) <| .cons (spaced_stringLiteral_iff.1 hvalue) <|
      .cons (spaced_close_iff.1 hclose) (.nil _), rfl⟩
  · rintro ⟨c, h, rfl⟩
    obtain ⟨s₁, hfunction, h⟩ := spells_cons.1 h
    obtain ⟨s₂, hopen, h⟩ := spells_cons.1 h
    obtain ⟨s₃, hfield, h⟩ := spells_cons.1 h
    obtain ⟨s₄, hcomma, h⟩ := spells_cons.1 h
    obtain ⟨s₅, hvalue, h⟩ := spells_cons.1 h
    have hclose := spells_singleton.1 h
    refine ⟨c.function, s₁, spaced_function_iff.2 hfunction, ?_⟩
    refine read_bind_eq_some.2 ⟨(), s₂, spaced_open_iff.2 hopen, ?_⟩
    refine read_bind_eq_some.2 ⟨c.field, s₃, spaced_field_iff.2 hfield, ?_⟩
    refine read_bind_eq_some.2 ⟨(), s₄, spaced_comma_iff.2 hcomma, ?_⟩
    refine read_bind_eq_some.2 ⟨c.value, s₅, spaced_stringLiteral_iff.2 hvalue, ?_⟩
    exact read_bind_eq_some.2 ⟨(), rest, spaced_close_iff.2 hclose, rfl⟩

/-! ## What a factor begins with -/

theorem next?_of_negation (h : (spaced (negation inner)).read s = some (f, rest)) :
    next? s = some 'n' := by
  obtain ⟨s₁, e, hnot, -⟩ := spaced_negation_iff.1 h
  exact hnot.next?_eq solid_not

theorem next?_of_group (h : (spaced (group inner)).read s = some (f, rest)) :
    next? s = some '(' := by
  obtain ⟨s₁, s₂, hopen, -⟩ := spaced_group_iff.1 h
  exact hopen.next?_eq solid_open

theorem next?_of_constant (h : (spaced constant).read s = some (f, rest)) :
    next? s ∈ [some 't', some 'f'] := by
  obtain ⟨value, hs, -⟩ := spaced_constant_iff.1 h
  obtain ⟨s₁, hword, -⟩ := spells_cons.1 hs
  cases value with
  | true => rw [hword.next?_eq solid_true]; decide
  | false => rw [hword.next?_eq solid_false]; decide

theorem next?_of_call (h : (spaced call).read s = some (f, rest)) :
    next? s ∈ [some 'c', some 's', some 'e', some 'm'] := by
  obtain ⟨c, hs, -⟩ := spaced_call_iff.1 h
  obtain ⟨s₁, hword, -⟩ := spells_cons.1 hs
  rw [hword.next?_eq (Token.solid_function c.function)]
  cases c.function <;> decide

/-- A factor is read by the alternative that can read it; no other one can, as each begins with
characters of its own. -/
theorem spaced_factor_iff :
    (spaced (factor inner)).read s = some (f, rest) ↔
      (spaced (negation inner)).read s = some (f, rest) ∨
      (spaced (group inner)).read s = some (f, rest) ∨
      (spaced constant).read s = some (f, rest) ∨ (spaced call).read s = some (f, rest) := by
  have hnone : ∀ {p : Part (Formula Call)} (cs : List (Option Char)),
      (∀ f rest, (spaced p).read s = some (f, rest) → next? s ∈ cs) → next? s ∉ cs →
      (spaced p).read s = none := by
    intro p cs hp hcs
    exact Option.eq_none_iff_forall_not_mem.2 fun x hx => hcs (hp x.1 x.2 hx)
  have hnegation : next? s ∉ [some 'n'] → (spaced (negation inner)).read s = none :=
    hnone _ fun f rest h => by rw [next?_of_negation h]; decide
  have hgroup : next? s ∉ [some '('] → (spaced (group inner)).read s = none :=
    hnone _ fun f rest h => by rw [next?_of_group h]; decide
  have hconstant : next? s ∉ [some 't', some 'f'] → (spaced constant).read s = none :=
    hnone _ fun f rest h => next?_of_constant h
  have hfactor : (spaced (factor inner)).read s = some (f, rest) ↔
      (spaced (negation inner)).read s = some (f, rest) ∨
      (spaced (negation inner)).read s = none ∧ ((spaced (group inner)).read s = some (f, rest) ∨
        (spaced (group inner)).read s = none ∧ ((spaced constant).read s = some (f, rest) ∨
          (spaced constant).read s = none ∧ (spaced call).read s = some (f, rest))) := by
    rw [read_spaced, factor, firstOf, read_orElse_eq_some, firstOf, read_orElse_eq_some, firstOf,
      read_orElse_eq_some, firstOf, read_orElse_eq_some]
    simp only [firstOf, Recogniser.failure, reduceCtorEq, and_false, or_false]
    rfl
  rw [hfactor]
  constructor
  · rintro (h | ⟨-, h | ⟨-, h | ⟨-, h⟩⟩⟩)
    · exact Or.inl h
    · exact Or.inr (Or.inl h)
    · exact Or.inr (Or.inr (Or.inl h))
    · exact Or.inr (Or.inr (Or.inr h))
  · rintro (h | h | h | h)
    · exact Or.inl h
    · have hs := next?_of_group h
      exact Or.inr ⟨hnegation (by rw [hs]; decide), Or.inl h⟩
    · have hs := next?_of_constant h
      refine Or.inr ⟨hnegation ?_, Or.inr ⟨hgroup ?_, Or.inl h⟩⟩
      · intro hc; revert hs; rw [List.mem_singleton.1 hc]; decide
      · intro hc; revert hs; rw [List.mem_singleton.1 hc]; decide
    · have hs := next?_of_call h
      refine Or.inr ⟨hnegation ?_, Or.inr ⟨hgroup ?_, Or.inr ⟨hconstant ?_, h⟩⟩⟩
      · intro hc; revert hs; rw [List.mem_singleton.1 hc]; decide
      · intro hc; revert hs; rw [List.mem_singleton.1 hc]; decide
      · intro hc
        rcases List.mem_cons.1 hc with hc | hc
        · revert hs; rw [hc]; decide
        · revert hs; rw [List.mem_singleton.1 hc]; decide

end Concordance.Query
