import Mathlib
import Concordance.Proofs.Query.Grammar

/-!
# Reading tokens

Each of the small recognisers of the query language, behind blanks, reads exactly its token: it
succeeds with a rest if and only if the text begins with the token and has that rest.

* `spaced_sign_iff`, `spaced_operator_iff`, `spaced_function_iff`, `spaced_field_iff` and
  `spaced_stringLiteral_iff` are the statements for the kinds of tokens.
* `Token.Takes.dropWhile_eq` tells with which characters the text goes on behind the blanks, so
  that other recognisers can be seen to fail there.
-/

namespace Concordance.Query

open Recogniser

variable {α β : Type}

/-! ## Reading in steps -/

theorem read_bind (p : Part α) (f : α → Part β) (s : List Char) :
    (p >>= f).read s = (p.read s).bind fun x => (f x.1).read x.2 := rfl

theorem read_pure (a : α) (s : List Char) : (pure a : Part α).read s = some (a, s) := rfl

theorem read_rule (r : Rule) (p : Part α) (s : List Char) : (rule r p).read s = p.read s := rfl

theorem read_word (r : Rule) (p : Part α) (s : List Char) : (word r p).read s = p.read s := rfl

theorem read_spaced (p : Part α) (s : List Char) :
    (spaced p).read s = p.read (s.dropWhile isBlank) := rfl

theorem read_bind_eq_some {p : Part α} {f : α → Part β} {s rest : List Char} {b : β} :
    (p >>= f).read s = some (b, rest)
      ↔ ∃ a mid, p.read s = some (a, mid) ∧ (f a).read mid = some (b, rest) := by
  rw [read_bind, Option.bind_eq_some_iff]
  constructor
  · rintro ⟨⟨a, mid⟩, hp, hf⟩
    exact ⟨a, mid, hp, hf⟩
  · rintro ⟨a, mid, hp, hf⟩
    exact ⟨(a, mid), hp, hf⟩

theorem read_mapResult_eq_some {p : Part α} {f : α → β} {s rest : List Char} {b : β} :
    (p.mapResult f).read s = some (b, rest) ↔ ∃ a, p.read s = some (a, rest) ∧ f a = b := by
  rw [mapResult, read_bind_eq_some]
  constructor
  · rintro ⟨a, mid, hp, hf⟩
    rw [read_pure, Option.some.injEq, Prod.mk.injEq] at hf
    obtain ⟨rfl, rfl⟩ := hf
    exact ⟨a, hp, rfl⟩
  · rintro ⟨a, hp, rfl⟩
    exact ⟨a, rest, hp, rfl⟩

theorem read_orElse_eq_some {p q : Part α} {s : List Char} {x : α × List Char} :
    (p.orElse q).read s = some x ↔ p.read s = some x ∨ p.read s = none ∧ q.read s = some x := by
  rw [show (p.orElse q).read s = (p.read s).or (q.read s) from rfl, Option.or_eq_some_iff]

/-! ## Words -/

theorem read_sign_eq_some {w : String} {s rest : List Char} {u : Unit} :
    (sign w).read s = some (u, rest) ↔ s = w.toList ++ rest := by
  unfold sign chars
  by_cases h : w.toList.isPrefixOf s
  · have hs := List.prefix_iff_eq_append.1 (List.isPrefixOf_iff_prefix.1 h)
    simp only [h, if_true, Option.some.injEq, Prod.mk.injEq, true_and]
    constructor
    · rintro rfl
      exact hs.symm
    · rintro rfl
      simp
  · simp only [h, Bool.false_eq_true, if_false, false_iff, reduceCtorEq]
    rintro rfl
    exact h (List.isPrefixOf_iff_prefix.2 (List.prefix_append _ _))

/-- One of several words, none of which begins with another. -/
theorem read_firstOf_eq_some {name : α → String} {items : List α}
    (hdistinct : ∀ a ∈ items, ∀ b ∈ items, (name a).toList <+: (name b).toList → a = b)
    {s rest : List Char} {a : α} :
    (firstOf (items.map fun a => (sign (name a)).mapResult fun _ => a) : Part α).read s
        = some (a, rest)
      ↔ a ∈ items ∧ s = (name a).toList ++ rest := by
  induction items with
  | nil => simp [firstOf, Recogniser.failure]
  | cons b items ih =>
    have hrest := ih fun c hc d hd => hdistinct c (by simp [hc]) d (by simp [hd])
    have hb : ∀ x : α × List Char, ((sign (name b)).mapResult fun _ => b : Part α).read s = some x
        ↔ x.1 = b ∧ s = (name b).toList ++ x.2 := by
      rintro ⟨c, rest⟩
      rw [read_mapResult_eq_some]
      constructor
      · rintro ⟨u, hread, rfl⟩
        exact ⟨rfl, read_sign_eq_some.1 hread⟩
      · rintro ⟨rfl, hs⟩
        exact ⟨(), read_sign_eq_some.2 hs, rfl⟩
    rw [List.map_cons, firstOf, read_orElse_eq_some, hb, hrest]
    constructor
    · rintro (⟨rfl, hs⟩ | ⟨-, hmem, hs⟩)
      · exact ⟨by simp, hs⟩
      · exact ⟨by simp [hmem], hs⟩
    · rintro ⟨hmem, hs⟩
      rcases List.mem_cons.1 hmem with rfl | hmem
      · exact Or.inl ⟨rfl, hs⟩
      · by_cases hba : b = a
        · exact Or.inl ⟨hba.symm, by rw [hba]; exact hs⟩
        · refine Or.inr ⟨Option.eq_none_iff_forall_not_mem.2 fun x hx => ?_, hmem, hs⟩
          -- both words begin the text, so one of them begins the other
          obtain ⟨-, hs'⟩ := (hb x).1 hx
          have h1 : (name a).toList <+: s := ⟨rest, hs.symm⟩
          have h2 : (name b).toList <+: s := ⟨x.2, hs'.symm⟩
          rcases List.prefix_or_prefix_of_prefix h1 h2 with h | h
          · exact hba (hdistinct a (by simp [hmem]) b (by simp) h).symm
          · exact hba (hdistinct b (by simp) a (by simp [hmem]) h)

theorem read_function_eq_some {s rest : List Char} {f : Function} :
    function.read s = some (f, rest) ↔ s = f.name.toList ++ rest := by
  unfold function
  rw [read_word, read_firstOf_eq_some (by decide)]
  have : f ∈ [Function.contains, .startsWith, .endsWith, .equals, .matches] := by
    cases f <;> decide
  exact and_iff_right this

theorem read_field_eq_some {s rest : List Char} {f : Field} :
    field.read s = some (f, rest) ↔ s = (fieldName f).toList ++ rest := by
  unfold field
  rw [read_word, read_firstOf_eq_some (by decide)]
  have : f ∈ [Field.text, .name] := by
    cases f <;> decide
  exact and_iff_right this

theorem read_operator_eq_some {r : Rule} {w : String} {s rest : List Char} {u : Unit} :
    (operator r w).read s = some (u, rest)
      ↔ s = w.toList ++ rest ∧ ∀ c, rest.head? = some c → isWordChar c = false := by
  unfold operator
  rw [read_word, read_bind_eq_some]
  constructor
  · rintro ⟨v, mid, hsign, hnext⟩
    rw [read_sign_eq_some] at hsign
    by_cases hc : mid.head?.any isWordChar
    · simp [notNext, hc] at hnext
    · simp only [notNext, hc, Bool.false_eq_true, if_false, Option.some.injEq, Prod.mk.injEq,
        true_and] at hnext
      obtain rfl := hnext
      refine ⟨hsign, fun c hmid => ?_⟩
      simpa [hmid] using hc
  · rintro ⟨hs, hnext⟩
    refine ⟨(), rest, read_sign_eq_some.2 hs, ?_⟩
    have : rest.head?.any isWordChar = false := by
      cases h : rest.head? with
      | none => rfl
      | some c => simpa using hnext c h
    simp [notNext, this]

/-! ## Literals -/

theorem forall_ne_quote {quote : Char} {v : List Char} (h : quote ∉ v) :
    ∀ c ∈ v, decide (c ≠ quote) = true := by
  intro c hc
  rw [decide_eq_true_iff]
  rintro rfl
  exact h hc

theorem takeWhile_ne_append {quote : Char} {v rest : List Char} (h : quote ∉ v) :
    (v ++ quote :: rest).takeWhile (· ≠ quote) = v := by
  rw [List.takeWhile_append_of_pos (forall_ne_quote h)]
  simp

theorem dropWhile_ne_append {quote : Char} {v rest : List Char} (h : quote ∉ v) :
    (v ++ quote :: rest).dropWhile (· ≠ quote) = quote :: rest := by
  rw [List.dropWhile_append_of_pos (forall_ne_quote h)]
  simp

theorem read_chars_singleton {c : Char} {s rest : List Char} {u : Unit} :
    (chars [c] : Part Unit).read s = some (u, rest) ↔ s = c :: rest := by
  simpa [sign] using read_sign_eq_some (w := String.ofList [c]) (s := s) (u := u)

theorem read_quotedBy_eq_some {quote : Char} {s rest : List Char} {value : String} :
    (quotedBy quote).read s = some (value, rest)
      ↔ quote ∉ value.toList ∧ s = quote :: (value.toList ++ [quote]) ++ rest := by
  unfold quotedBy
  constructor
  · intro h
    obtain ⟨_, s', hopen, h⟩ := read_bind_eq_some.1 h
    obtain ⟨v, s'', hvalue, h⟩ := read_bind_eq_some.1 h
    obtain ⟨_, s₃, hclose, h⟩ := read_bind_eq_some.1 h
    rw [read_chars_singleton] at hopen hclose
    simp only [takeWhile, Option.some.injEq, Prod.mk.injEq] at hvalue
    obtain ⟨rfl, hrest⟩ := hvalue
    simp only [read_pure, Option.some.injEq, Prod.mk.injEq] at h
    obtain ⟨rfl, rfl⟩ := h
    rw [String.toList_ofList]
    refine ⟨fun hmem => ?_, ?_⟩
    · simpa using List.mem_takeWhile_imp hmem
    · have hsplit := List.takeWhile_append_dropWhile (p := (· ≠ quote)) (l := s')
      rw [hrest, hclose] at hsplit
      rw [hopen, List.cons_append, List.append_assoc, List.singleton_append, hsplit]
  · rintro ⟨hquote, rfl⟩
    refine read_bind_eq_some.2 ⟨(), value.toList ++ [quote] ++ rest,
      read_chars_singleton.2 rfl, ?_⟩
    refine read_bind_eq_some.2 ⟨value.toList, quote :: rest, ?_, ?_⟩
    · rw [List.append_assoc, List.singleton_append]
      simp only [takeWhile, takeWhile_ne_append hquote, dropWhile_ne_append hquote]
    · refine read_bind_eq_some.2 ⟨(), rest, read_chars_singleton.2 rfl, ?_⟩
      rw [read_pure, String.ofList_toList]

theorem read_stringLiteral_eq_some {s rest : List Char} {value : String} :
    stringLiteral.read s = some (value, rest)
      ↔ ∃ text, (Token.literal value).Written text ∧ s = text ++ rest := by
  unfold stringLiteral
  rw [read_rule, read_orElse_eq_some]
  constructor
  · rintro (h | ⟨-, h⟩)
    · obtain ⟨hquote, hs⟩ := read_quotedBy_eq_some.1 h
      exact ⟨_, ⟨_, Or.inl rfl, hquote, rfl⟩, hs⟩
    · obtain ⟨hquote, hs⟩ := read_quotedBy_eq_some.1 h
      exact ⟨_, ⟨_, Or.inr rfl, hquote, rfl⟩, hs⟩
  · rintro ⟨_, ⟨quote, rfl | rfl, hquote, rfl⟩, hs⟩
    · exact Or.inl (read_quotedBy_eq_some.2 ⟨hquote, hs⟩)
    · refine Or.inr ⟨Option.eq_none_iff_forall_not_mem.2 fun x hx => ?_,
        read_quotedBy_eq_some.2 ⟨hquote, hs⟩⟩
      -- the text begins with the other quote
      obtain ⟨-, hs'⟩ := read_quotedBy_eq_some.1 hx
      rw [hs] at hs'
      simp at hs'

/-! ## Blanks -/

theorem dropWhile_isBlank_append {front rest : List Char} {c : Char}
    (hfront : ∀ c ∈ front, isBlank c = true) (hc : isBlank c = false) :
    (front ++ c :: rest).dropWhile isBlank = c :: rest := by
  rw [List.dropWhile_append_of_pos hfront, List.dropWhile_cons, hc]
  simp

/-- A token whose written forms begin with a character that is no blank. -/
def Token.Solid (t : Token) : Prop :=
  ∀ text, t.Written text → ∃ c tail, text = c :: tail ∧ isBlank c = false

theorem Token.solid_literal (value : String) : (Token.literal value).Solid := by
  rintro _ ⟨quote, rfl | rfl, -, rfl⟩
  · exact ⟨_, _, rfl, by decide⟩
  · exact ⟨_, _, rfl, by decide⟩

theorem Token.solid_word {w : String} (h : (w.toList.head?.any fun c => !isBlank c) = true) :
    (Token.word w).Solid := by
  rintro _ rfl
  cases hw : w.toList with
  | nil => simp [hw] at h
  | cons c tail => exact ⟨c, tail, rfl, by simpa [hw] using h⟩

theorem Token.solid_function (f : Function) : (Token.word f.name).Solid :=
  solid_word (by cases f <;> decide)

theorem Token.solid_field (f : Field) : (Token.word (fieldName f)).Solid :=
  solid_word (by cases f <;> decide)

/-- A token is taken if what follows the blanks is one of its written forms and then the rest. -/
theorem Token.takes_iff {t : Token} (ht : t.Solid) {s rest : List Char} :
    t.Takes s rest
      ↔ t.Ends rest ∧ ∃ text, t.Written text ∧ s.dropWhile isBlank = text ++ rest := by
  constructor
  · rintro ⟨front, text, hfront, htext, hends, rfl⟩
    obtain ⟨c, tail, rfl, hc⟩ := ht text htext
    exact ⟨hends, _, htext, dropWhile_isBlank_append hfront hc⟩
  · rintro ⟨hends, text, htext, hs⟩
    refine ⟨s.takeWhile isBlank, text, fun c hc => List.mem_takeWhile_imp hc, htext, hends, ?_⟩
    rw [← hs, List.takeWhile_append_dropWhile]

theorem Token.takes_word_iff {w : String} (hw : (Token.word w).Solid) {s rest : List Char} :
    (Token.word w).Takes s rest
      ↔ (Token.word w).Ends rest ∧ s.dropWhile isBlank = w.toList ++ rest := by
  rw [Token.takes_iff hw]
  constructor
  · rintro ⟨hends, _, rfl, hs⟩
    exact ⟨hends, hs⟩
  · rintro ⟨hends, hs⟩
    exact ⟨hends, _, rfl, hs⟩

/-- Only the operators ask something of what follows them. -/
theorem Token.ends_word {w : String} (h : w ≠ "or" ∧ w ≠ "and") (rest : List Char) :
    (Token.word w).Ends rest := by
  rintro (rfl | rfl)
  · exact absurd rfl h.1
  · exact absurd rfl h.2

theorem Token.ends_operator {w : String} (h : w = "or" ∨ w = "and") {rest : List Char} :
    (Token.word w).Ends rest ↔ ∀ c, rest.head? = some c → isWordChar c = false :=
  imp_iff_right h

/-! ## Recognisers of tokens -/

theorem spaced_sign_iff {w : String} (hw : (Token.word w).Solid) (hop : w ≠ "or" ∧ w ≠ "and")
    {s rest : List Char} {u : Unit} :
    (spaced (sign w)).read s = some (u, rest) ↔ (Token.word w).Takes s rest := by
  rw [read_spaced, read_sign_eq_some, Token.takes_word_iff hw,
    and_iff_right (Token.ends_word hop rest)]

theorem spaced_operator_iff {r : Rule} {w : String} (hw : (Token.word w).Solid)
    (hop : w = "or" ∨ w = "and") {s rest : List Char} {u : Unit} :
    (spaced (operator r w)).read s = some (u, rest) ↔ (Token.word w).Takes s rest := by
  rw [read_spaced, read_operator_eq_some, Token.takes_word_iff hw,
    Token.ends_operator hop, and_comm]

theorem spaced_function_iff {s rest : List Char} {f : Function} :
    (spaced function).read s = some (f, rest) ↔ (Token.word f.name).Takes s rest := by
  rw [read_spaced, read_function_eq_some, Token.takes_word_iff (Token.solid_function f),
    and_iff_right (Token.ends_word (by cases f <;> decide) rest)]

theorem spaced_field_iff {s rest : List Char} {f : Field} :
    (spaced field).read s = some (f, rest) ↔ (Token.word (fieldName f)).Takes s rest := by
  rw [read_spaced, read_field_eq_some, Token.takes_word_iff (Token.solid_field f),
    and_iff_right (Token.ends_word (by cases f <;> decide) rest)]

theorem spaced_stringLiteral_iff {s rest : List Char} {value : String} :
    (spaced stringLiteral).read s = some (value, rest) ↔ (Token.literal value).Takes s rest := by
  rw [read_spaced, read_stringLiteral_eq_some, Token.takes_iff (Token.solid_literal value),
    and_iff_right (show (Token.literal value).Ends rest from trivial)]

end Concordance.Query
