import Mathlib
import Concordance.Proofs.Query.Factors

/-!
# The reader of queries and the grammar

The reader joins as many parts as it can and never goes back into a part that it has read.  It reads
exactly what the grammar derives all the same, as no query goes on with an operator behind a place
where the grammar ends a chain.

* `Sound` says that what is read is derived; `sound_expr` is that statement for queries.
* `Stops` says what must not follow a part; `read_of_derives` reads what is derived.
* `parseCalls_eq_ok_iff` puts the two together for whole texts.
-/

namespace Concordance.Query

open Recogniser

variable {s rest : List Char} {f : Formula Call}

/-! ## Chains -/

theorem joined_cons (w : String) (p : List Token × Formula Call)
    (parts : List (List Token × Formula Call)) :
    joined w (p :: parts) = p.1 ++ parts.flatMap fun q => .word w :: q.1 := by
  induction parts generalizing p with
  | nil => simp [joined]
  | cons q parts ih =>
    have hcons : joined w (p :: q :: parts) = p.1 ++ Token.word w :: joined w (q :: parts) := by
      simp [joined, List.intercalate]
    rw [hcons, ih q, List.flatMap_cons, List.cons_append]

/-- One round of a chain: an operator and a part. -/
def round (op : Part Unit) (item : Part (Formula Call)) : Part (Formula Call) :=
  spaced do
    op
    spaced item

variable {op : Part Unit} {item : Part (Formula Call)} {w : String} {level : Level}

theorem read_round_eq_some
    (hop : ∀ {s rest u}, (spaced op).read s = some (u, rest) ↔ (Token.word w).Takes s rest) :
    (round op item).read s = some (f, rest) ↔
      ∃ mid, (Token.word w).Takes s mid ∧ (spaced item).read mid = some (f, rest) := by
  unfold round
  rw [read_spaced_bind, read_bind_eq_some]
  constructor
  · rintro ⟨_, mid, h, hitem⟩
    exact ⟨mid, hop.1 h, hitem⟩
  · rintro ⟨mid, h, hitem⟩
    exact ⟨(), mid, hop.2 h, hitem⟩

theorem read_chain (s : List Char) :
    (spaced (chain op item)).read s = ((spaced item).read s).map fun x =>
      (x.1 :: ((round op item).readMany (x.2.length + 1) x.2).1,
        ((round op item).readMany (x.2.length + 1) x.2).2) := by
  unfold chain
  rw [read_spaced_bind, read_bind]
  cases (spaced item).read s <;> rfl

/-! ## What is read is derived -/

/-- What a recogniser reads is derived at the level. -/
def Sound (level : Level) (p : Part (Formula Call)) : Prop :=
  ∀ s f rest, (spaced p).read s = some (f, rest) → ∃ ts, Derives level ts f ∧ Spells s ts rest

theorem sound_readMany (hitem : Sound level item)
    (hop : ∀ {s rest u}, (spaced op).read s = some (u, rest) ↔ (Token.word w).Takes s rest)
    (fuel : Nat) (s : List Char) :
    ∃ parts : List (List Token × Formula Call),
      parts.map Prod.snd = ((round op item).readMany fuel s).1 ∧
      (∀ p ∈ parts, Derives level p.1 p.2) ∧
      Spells s (parts.flatMap fun p => .word w :: p.1) ((round op item).readMany fuel s).2 := by
  induction fuel generalizing s with
  | zero => exact ⟨[], rfl, by simp, .nil s⟩
  | succ fuel ih =>
    rw [readMany]
    cases hread : (round op item).read s with
    | none => exact ⟨[], rfl, by simp, .nil s⟩
    | some x =>
      obtain ⟨f, rest⟩ := x
      obtain ⟨mid, htakes, hread⟩ := (read_round_eq_some hop).1 hread
      obtain ⟨ts, hts, hspells⟩ := hitem _ _ _ hread
      obtain ⟨parts, hparts, hderives, hrest⟩ := ih rest
      refine ⟨(ts, f) :: parts, by simp [hparts], ?_, ?_⟩
      · intro p hp
        rcases List.mem_cons.1 hp with rfl | hp
        · exact hts
        · exact hderives p hp
      · rw [List.flatMap_cons, List.cons_append, spells_cons]
        exact ⟨mid, htakes, spells_append.2 ⟨rest, hspells, hrest⟩⟩

theorem sound_chain (hitem : Sound level item)
    (hop : ∀ {s rest u}, (spaced op).read s = some (u, rest) ↔ (Token.word w).Takes s rest)
    {fs : List (Formula Call)} (h : (spaced (chain op item)).read s = some (fs, rest)) :
    ∃ parts : List (List Token × Formula Call), parts ≠ [] ∧ parts.map Prod.snd = fs ∧
      (∀ p ∈ parts, Derives level p.1 p.2) ∧ Spells s (joined w parts) rest := by
  rw [read_chain, Option.map_eq_some_iff] at h
  obtain ⟨⟨f, mid⟩, hread, hmany⟩ := h
  obtain ⟨ts, hts, hspells⟩ := hitem _ _ _ hread
  obtain ⟨parts, hparts, hderives, hrest⟩ := sound_readMany hitem hop (mid.length + 1) mid
  simp only [Prod.mk.injEq] at hmany
  obtain ⟨rfl, rfl⟩ := hmany
  refine ⟨(ts, f) :: parts, by simp, by simp [hparts], ?_, ?_⟩
  · intro p hp
    rcases List.mem_cons.1 hp with rfl | hp
    · exact hts
    · exact hderives p hp
  · rw [joined_cons]
    exact spells_append.2 ⟨mid, hspells, hrest⟩

/-- A chain of one part is that part; a longer one is what the parts are joined to. -/
theorem derives_collapse {upper : Level} {join : List (Formula Call) → Formula Call}
    (hsingle : ∀ {ts f}, Derives level ts f → Derives upper ts f)
    (hjoin : ∀ parts, 2 ≤ parts.length → (∀ p ∈ parts, Derives level p.1 p.2) →
      Derives upper (joined w parts) (join (parts.map Prod.snd)))
    {parts : List (List Token × Formula Call)} (hne : parts ≠ [])
    (hparts : ∀ p ∈ parts, Derives level p.1 p.2) :
    Derives upper (joined w parts) (Formula.collapse join (parts.map Prod.snd)) := by
  match parts with
  | [] => exact absurd rfl hne
  | [p] =>
    rw [joined_cons, List.flatMap_nil, List.append_nil]
    exact hsingle (hparts p (by simp))
  | p :: q :: parts => exact hjoin _ (by simp) hparts

theorem spaced_and_iff {s rest : List Char} {u : Unit} :
    (spaced (operator .andOp "and")).read s = some (u, rest) ↔ (Token.word "and").Takes s rest :=
  spaced_operator_iff solid_and (by decide)

theorem spaced_or_iff {s rest : List Char} {u : Unit} :
    (spaced (operator .orOp "or")).read s = some (u, rest) ↔ (Token.word "or").Takes s rest :=
  spaced_operator_iff solid_or (by decide)

variable {inner : Part (Formula Call)}

theorem sound_factor (hinner : Sound .expr inner) : Sound .factor (factor inner) := by
  have hgroup : ∀ {s f rest}, (spaced (group inner)).read s = some (f, rest) →
      ∃ ts, Derives .expr ts f ∧ Spells s (.word "(" :: (ts ++ [.word ")"])) rest := by
    intro s f rest h
    obtain ⟨s₁, s₂, hopen, hread, hclose⟩ := spaced_group_iff.1 h
    obtain ⟨ts, hts, hspells⟩ := hinner _ _ _ hread
    exact ⟨ts, hts, .cons hopen (spells_append.2 ⟨s₂, hspells, spells_singleton.2 hclose⟩)⟩
  intro s f rest h
  rcases spaced_factor_iff.1 h with h | h | h | h
  · obtain ⟨s₁, e, hnot, hread, rfl⟩ := spaced_negation_iff.1 h
    obtain ⟨ts, hts, hspells⟩ := hgroup hread
    exact ⟨_, .not hts, .cons hnot hspells⟩
  · obtain ⟨ts, hts, hspells⟩ := hgroup h
    exact ⟨_, .group hts, hspells⟩
  · obtain ⟨value, hspells, rfl⟩ := spaced_constant_iff.1 h
    cases value with
    | true => exact ⟨_, .true, hspells⟩
    | false => exact ⟨_, .false, hspells⟩
  · obtain ⟨c, hspells, rfl⟩ := spaced_call_iff.1 h
    exact ⟨_, .call c.function c.field c.value, hspells⟩

theorem sound_term (hinner : Sound .expr inner) : Sound .term (term inner) := by
  intro s f rest h
  obtain ⟨fs, hread, rfl⟩ := read_mapResult_eq_some.1 h
  obtain ⟨parts, hne, rfl, hparts, hspells⟩ :=
    sound_chain (sound_factor hinner) spaced_and_iff hread
  exact ⟨_, derives_collapse .single .and hne hparts, hspells⟩

theorem sound_expr (depth : Nat) : Sound .expr (expr depth) := by
  induction depth with
  | zero =>
    intro s f rest h
    simp [read_spaced, expr, Recogniser.failure] at h
  | succ depth ih =>
    intro s f rest h
    obtain ⟨fs, hread, rfl⟩ := read_mapResult_eq_some.1 h
    obtain ⟨parts, hne, rfl, hparts, hspells⟩ := sound_chain (sound_term ih) spaced_or_iff hread
    exact ⟨_, derives_collapse .term .or hne hparts, hspells⟩

/-! ## What is derived is read -/

theorem Spells.length_le {ts : List Token} (h : Spells s ts rest) : rest.length ≤ s.length := by
  induction h with
  | nil s => exact le_rfl
  | cons ht _ ih =>
    obtain ⟨front, text, -, -, -, rfl⟩ := ht
    simp only [List.length_append]
    omega

/-- What must not follow a part of a level: the operators by which it could go on. -/
def Stops : Level → List Char → Prop
  | .factor, _ => True
  | .term, rest => next? rest ≠ some 'a'
  | .expr, rest => next? rest ≠ some 'a' ∧ next? rest ≠ some 'o'

/-- An item reads what is derived at the level, from texts of at most a given length. -/
def Reads (level : Level) (p : Part (Formula Call)) (length : Nat) (ts : List Token)
    (f : Formula Call) : Prop :=
  ∀ s rest, Spells s ts rest → s.length ≤ length → Stops level rest →
    (spaced p).read s = some (f, rest)

theorem readMany_complete {length : Nat} {parts : List (List Token × Formula Call)}
    (hop : ∀ {s rest u}, (spaced op).read s = some (u, rest) ↔ (Token.word w).Takes s rest)
    (hw : 0 < w.length) (hnext : ∀ s rest, (Token.word w).Takes s rest → Stops level s)
    (hparts : ∀ p ∈ parts, Reads level item length p.1 p.2)
    (hspells : Spells s (parts.flatMap fun p => .word w :: p.1) rest) (hs : s.length ≤ length)
    (hstop : Stops level rest) (hend : ∀ mid, ¬ (Token.word w).Takes rest mid) {fuel : Nat}
    (hfuel : s.length < fuel) :
    (round op item).readMany fuel s = (parts.map Prod.snd, rest) := by
  induction parts generalizing s fuel with
  | nil =>
    cases hspells
    obtain ⟨fuel, rfl⟩ : ∃ n, fuel = n + 1 := ⟨fuel - 1, by omega⟩
    have hnone : (round op item).read rest = none := by
      refine Option.eq_none_iff_forall_ne_some.2 fun x hx => ?_
      obtain ⟨mid, htakes, -⟩ := (read_round_eq_some hop).1 hx
      exact hend mid htakes
    rw [readMany, hnone]
    rfl
  | cons p parts ih =>
    rw [List.flatMap_cons, List.cons_append, spells_cons] at hspells
    obtain ⟨mid, htakes, h⟩ := hspells
    obtain ⟨s₂, hp, hrest⟩ := spells_append.1 h
    have hmid := htakes.length_le
    have hs₂ := hp.length_le
    have hstop₂ : Stops level s₂ := by
      -- behind a part stands the operator of the next one, or what follows the chain
      cases parts with
      | nil => cases hrest; exact hstop
      | cons q parts =>
        obtain ⟨mid₂, htakes₂, -⟩ := spells_cons.1 hrest
        exact hnext s₂ mid₂ htakes₂
    have hread : (round op item).read s = some (p.2, s₂) :=
      (read_round_eq_some hop).2
        ⟨mid, htakes, hparts p (by simp) mid s₂ hp (by omega) hstop₂⟩
    obtain ⟨fuel, rfl⟩ : ∃ n, fuel = n + 1 := ⟨fuel - 1, by omega⟩
    have hmany : (round op item).readMany fuel s₂ = (parts.map Prod.snd, rest) :=
      ih (fun q hq => hparts q (by simp [hq])) hrest (by omega) (by omega)
    rw [readMany, hread]
    show (p.2 :: ((round op item).readMany fuel s₂).1, ((round op item).readMany fuel s₂).2) = _
    rw [hmany, List.map_cons]

theorem chain_complete {length : Nat} {parts : List (List Token × Formula Call)}
    (hop : ∀ {s rest u}, (spaced op).read s = some (u, rest) ↔ (Token.word w).Takes s rest)
    (hw : 0 < w.length) (hnext : ∀ s rest, (Token.word w).Takes s rest → Stops level s)
    (hne : parts ≠ []) (hparts : ∀ p ∈ parts, Reads level item length p.1 p.2)
    (hspells : Spells s (joined w parts) rest) (hs : s.length ≤ length)
    (hstop : Stops level rest) (hend : ∀ mid, ¬ (Token.word w).Takes rest mid) :
    (spaced (chain op item)).read s = some (parts.map Prod.snd, rest) := by
  obtain ⟨p, parts, rfl⟩ := List.exists_cons_of_ne_nil hne
  rw [joined_cons] at hspells
  obtain ⟨mid, hp, hrest⟩ := spells_append.1 hspells
  have hmid := hp.length_le
  have hstop' : Stops level mid := by
    cases parts with
    | nil => cases hrest; exact hstop
    | cons q parts =>
      obtain ⟨mid₂, htakes₂, -⟩ := spells_cons.1 hrest
      exact hnext mid mid₂ htakes₂
  have hread := hparts p (by simp) s mid hp hs hstop'
  have hmany := readMany_complete hop hw hnext (fun q hq => hparts q (by simp [hq])) hrest
    (by omega) hstop hend (Nat.lt_succ_self mid.length)
  rw [read_chain, hread, Option.map_some, hmany]
  rfl

/-- The reader of a level, within a given number of parentheses. -/
def reader : Level → Nat → Part (Formula Call)
  | .factor, depth => factor (expr depth)
  | .term, depth => term (expr depth)
  | .expr, depth => expr (depth + 1)

theorem stops_of_and (s rest : List Char) (_ : (Token.word "and").Takes s rest) :
    Stops .factor s := trivial

theorem stops_of_or (s rest : List Char) (h : (Token.word "or").Takes s rest) :
    Stops .term s := by
  rw [Stops, h.next?_eq solid_or]
  decide

theorem not_takes_and (h : next? rest ≠ some 'a') (mid : List Char) :
    ¬ (Token.word "and").Takes rest mid :=
  fun htakes => h (htakes.next?_eq solid_and)

theorem not_takes_or (h : next? rest ≠ some 'o') (mid : List Char) :
    ¬ (Token.word "or").Takes rest mid :=
  fun htakes => h (htakes.next?_eq solid_or)

/-- What is in parentheses is read with one level of them less. -/
theorem group_complete {length : Nat} {ts : List Token}
    (ih : ∀ depth, Reads .expr (reader .expr depth) depth ts f)
    (h : Spells s (.word "(" :: (ts ++ [.word ")"])) rest) (hs : s.length ≤ length) :
    (spaced (group (expr length))).read s = some (f, rest) := by
  obtain ⟨s₁, hopen, h⟩ := spells_cons.1 h
  obtain ⟨s₂, hts, hclose⟩ := spells_append.1 h
  have hlength : s₁.length + 1 ≤ s.length := hopen.length_le
  obtain ⟨depth, rfl⟩ : ∃ n, length = n + 1 := ⟨length - 1, by omega⟩
  rw [spells_singleton] at hclose
  refine spaced_group_iff.2 ⟨s₁, s₂, hopen, ih depth s₁ s₂ hts ?_ ?_, hclose⟩
  · omega
  · rw [Stops, hclose.next?_eq solid_close]
    decide

theorem collapse_of_two_le {join : List (Formula Call) → Formula Call} :
    ∀ {fs : List (Formula Call)}, 2 ≤ fs.length → Formula.collapse join fs = join fs
  | [_], h => absurd h (by simp)
  | [], _ => rfl
  | _ :: _ :: _, _ => rfl

/-- Factors joined by `and` are read as a term. -/
theorem term_complete {depth : Nat} {parts : List (List Token × Formula Call)} (hne : parts ≠ [])
    (hparts : ∀ p ∈ parts, Reads .factor (reader .factor depth) depth p.1 p.2) :
    Reads .term (reader .term depth) depth (joined "and" parts)
      (Formula.collapse .and (parts.map Prod.snd)) := by
  intro s rest h hs hstop
  have hchain := chain_complete spaced_and_iff (by decide) stops_of_and hne hparts h hs trivial
    (not_takes_and hstop)
  exact read_mapResult_eq_some.2 ⟨_, hchain, rfl⟩

/-- Terms joined by `or` are read as an expression. -/
theorem expr_complete {depth : Nat} {parts : List (List Token × Formula Call)} (hne : parts ≠ [])
    (hparts : ∀ p ∈ parts, Reads .term (reader .term depth) depth p.1 p.2) :
    Reads .expr (reader .expr depth) depth (joined "or" parts)
      (Formula.collapse .or (parts.map Prod.snd)) := by
  intro s rest h hs hstop
  have hchain := chain_complete spaced_or_iff (by decide) stops_of_or hne hparts h hs hstop.1
    (not_takes_or hstop.2)
  exact read_mapResult_eq_some.2 ⟨_, hchain, rfl⟩

theorem ne_nil_of_two_le {α : Type} {l : List α} (h : 2 ≤ l.length) : l ≠ [] := by
  rintro rfl
  simp at h

/-- What the grammar derives is read, with enough parentheses for the length of the text. -/
theorem read_of_derives {ts : List Token} (h : Derives level ts f) (depth : Nat) :
    Reads level (reader level depth) depth ts f := by
  induction h generalizing depth with
  | not _ ih =>
    intro s rest h hs _
    obtain ⟨s₁, hnot, h⟩ := spells_cons.1 h
    have hlength := hnot.length_le
    have hs₁ : s₁.length ≤ depth := by omega
    have hgroup := group_complete (fun depth => ih depth) h hs₁
    exact spaced_factor_iff.2 (Or.inl (spaced_negation_iff.2 ⟨s₁, _, hnot, hgroup, rfl⟩))
  | group _ ih =>
    intro s rest h hs _
    exact spaced_factor_iff.2 (Or.inr (Or.inl (group_complete (fun depth => ih depth) h hs)))
  | true =>
    intro s rest h _ _
    exact spaced_factor_iff.2
      (Or.inr (Or.inr (Or.inl (spaced_constant_iff.2 ⟨true, h, rfl⟩))))
  | false =>
    intro s rest h _ _
    exact spaced_factor_iff.2
      (Or.inr (Or.inr (Or.inl (spaced_constant_iff.2 ⟨false, h, rfl⟩))))
  | call function field value =>
    intro s rest h _ _
    exact spaced_factor_iff.2
      (Or.inr (Or.inr (Or.inr (spaced_call_iff.2 ⟨⟨function, field, value⟩, h, rfl⟩))))
  | @single ts f _ ih =>
    have hparts : ∀ p ∈ [(ts, f)], Reads .factor (reader .factor depth) depth p.1 p.2 := by
      simpa using ih depth
    simpa [joined_cons, Formula.collapse] using term_complete (List.cons_ne_nil _ _) hparts
  | and parts hlength _ ih =>
    have hterm := term_complete (ne_nil_of_two_le hlength) fun p hp => ih p hp depth
    rwa [collapse_of_two_le (by simpa using hlength)] at hterm
  | @term ts f _ ih =>
    have hparts : ∀ p ∈ [(ts, f)], Reads .term (reader .term depth) depth p.1 p.2 := by
      simpa using ih depth
    simpa [joined_cons, Formula.collapse] using expr_complete (List.cons_ne_nil _ _) hparts
  | or parts hlength _ ih =>
    have hexpr := expr_complete (ne_nil_of_two_le hlength) fun p hp => ih p hp depth
    rwa [collapse_of_two_le (by simpa using hlength)] at hexpr

/-! ## Whole texts -/

theorem dropWhile_eq_nil_iff : s.dropWhile isBlank = [] ↔ ∀ c ∈ s, isBlank c = true :=
  List.dropWhile_eq_nil_iff

theorem read_query_eq_some {length : Nat} :
    (query length).read s = some (f, rest) ↔
      (∃ mid, (spaced (expr (length + 1))).read s = some (f, mid) ∧
        ∀ c ∈ mid, isBlank c = true) ∧ rest = [] := by
  unfold query
  rw [read_rule, read_bind_eq_some]
  constructor
  · rintro ⟨e, mid, hread, h⟩
    obtain ⟨_, s₂, hend, h⟩ := read_bind_eq_some.1 h
    simp only [read_pure, Option.some.injEq, Prod.mk.injEq] at h
    obtain ⟨rfl, rfl⟩ := h
    rw [read_spaced, read_rule, atEnd] at hend
    by_cases hblank : (mid.dropWhile isBlank).isEmpty
    · simp only [hblank, if_true, Option.some.injEq, Prod.mk.injEq, true_and] at hend
      rw [List.isEmpty_iff] at hblank
      exact ⟨⟨mid, hread, dropWhile_eq_nil_iff.1 hblank⟩, hend ▸ hblank⟩
    · simp [hblank] at hend
  · rintro ⟨⟨mid, hread, hblank⟩, rfl⟩
    rw [← dropWhile_eq_nil_iff] at hblank
    refine ⟨f, mid, hread, read_bind_eq_some.2 ⟨(), [], ?_, rfl⟩⟩
    rw [read_spaced, read_rule, hblank]
    rfl

/-- The reader accepts exactly the queries of the grammar, and builds what they derive. -/
theorem parseCalls_eq_ok_iff {source : String} :
    parseCalls source = .ok f ↔ Sentence source f := by
  have hrun : parseCalls source = .ok f ↔
      ∃ rest, (query source.toList.length).read source.toList = some (f, rest) := by
    unfold parseCalls run
    cases (query source.toList.length).read source.toList with
    | none => simp
    | some x => simp [Prod.ext_iff]
  rw [hrun]
  constructor
  · rintro ⟨rest, h⟩
    obtain ⟨⟨mid, hread, hblank⟩, -⟩ := read_query_eq_some.1 h
    obtain ⟨ts, hts, hspells⟩ := sound_expr _ _ _ _ hread
    exact ⟨ts, mid, hspells, hts, hblank⟩
  · rintro ⟨ts, mid, hspells, hts, hblank⟩
    refine ⟨[], read_query_eq_some.2 ⟨⟨mid, ?_, hblank⟩, rfl⟩⟩
    have hnext : next? mid = none := by
      rw [next?, dropWhile_eq_nil_iff.2 hblank]
      rfl
    refine read_of_derives hts _ _ _ hspells le_rfl ?_
    rw [Stops, hnext]
    decide

end Concordance.Query
