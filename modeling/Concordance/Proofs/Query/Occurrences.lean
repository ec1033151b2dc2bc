import Mathlib
import Concordance.Proofs.Query.Spans

/-!
# The occurrences of a literal

A literal may overlap with itself, so its occurrences in a text are not all marked.  From left to
right, each occurrence is marked that begins at or behind the end of the one marked before.

* `Leftmost` says of spans that they are the occurrences of some bytes found in this way: there is
  no further occurrence in the gaps that they leave.
* `Leftmost.unique` says that there is one way only, and `leftmost_occurrencesFrom` that the search
  for occurrences goes this way.
* `Condition.spans_of_literal` is the statement about the conditions that compare with a literal:
  where they are met, and that they are met if they are met somewhere.
-/

namespace Concordance

open Concordance.Text

variable {needle bytes : Bytes} {spans : List Span} {s : Span} {start : Nat}

/-! ## Leftmost occurrences -/

/-- Does the span hold an occurrence of `needle` in the bytes? -/
def Span.Marks (needle bytes : Bytes) (s : Span) : Prop :=
  needle <+: bytes.drop s.start ∧ s.stop = s.start + needle.length

/-- The gaps that spans leave between two offsets: before the first of them, between two of them,
and behind the last. -/
def gaps (start stop : Nat) : List Span → List Span
  | [] => [⟨start, stop⟩]
  | s :: rest => ⟨start, s.start⟩ :: gaps s.stop stop rest

/-- The spans are the occurrences of `needle` in the bytes from the offset `start` on, taken from
left to right without overlap. -/
structure Leftmost (needle bytes : Bytes) (start : Nat) (spans : List Span) : Prop where
  /-- Each span holds an occurrence. -/
  marks : ∀ s ∈ spans, s.Marks needle bytes
  /-- Each has bytes, and they are among the bytes from `start` on. -/
  inside : ∀ s ∈ spans, start ≤ s.start ∧ s.start < s.stop ∧ s.stop ≤ bytes.length
  /-- Each begins behind the start of the one before, and not before its end. -/
  apart : spans.Pairwise fun a b => a.start < b.start ∧ a.stop ≤ b.start
  /-- No occurrence begins in a gap. -/
  gaps : ∀ g ∈ gaps start bytes.length spans, ∀ n, g.Covers n → ¬ needle <+: bytes.drop n

theorem leftmost_nil_iff : Leftmost needle bytes start [] ↔
    ∀ n, start ≤ n → n < bytes.length → ¬ needle <+: bytes.drop n := by
  constructor
  · intro h n hstart hlength
    exact h.gaps ⟨start, bytes.length⟩ (by simp [gaps]) n ⟨hstart, hlength⟩
  · intro h
    refine ⟨by simp, by simp, List.Pairwise.nil, fun g hg n hn => ?_⟩
    rw [gaps, List.mem_singleton] at hg
    subst hg
    exact h n hn.1 hn.2

/-- The first of the occurrences has none before it, and the others are those from its end on. -/
theorem leftmost_cons_iff : Leftmost needle bytes start (s :: spans) ↔
    (s.Marks needle bytes ∧ start ≤ s.start ∧ s.start < s.stop ∧ s.stop ≤ bytes.length) ∧
      (∀ n, start ≤ n → n < s.start → ¬ needle <+: bytes.drop n) ∧
      Leftmost needle bytes s.stop spans := by
  constructor
  · intro h
    obtain ⟨hbehind, hapart⟩ := List.pairwise_cons.1 h.apart
    refine ⟨⟨h.marks s (by simp), h.inside s (by simp)⟩, fun n hstart hn => ?_, ?_⟩
    · exact h.gaps ⟨start, s.start⟩ (by simp [gaps]) n ⟨hstart, hn⟩
    · refine ⟨fun t ht => h.marks t (by simp [ht]), fun t ht => ?_, hapart, fun g hg => ?_⟩
      · exact ⟨(hbehind t ht).2, (h.inside t (by simp [ht])).2⟩
      · exact h.gaps g (by simp [gaps, hg])
  · rintro ⟨⟨hmarks, hstart, hbytes, hlength⟩, hbefore, h⟩
    refine ⟨?_, ?_, ?_, ?_⟩
    · exact List.forall_mem_cons.2 ⟨hmarks, h.marks⟩
    · refine List.forall_mem_cons.2 ⟨⟨hstart, hbytes, hlength⟩, fun t ht => ?_⟩
      obtain ⟨hbehind, hinside⟩ := h.inside t ht
      exact ⟨by omega, hinside⟩
    · refine List.pairwise_cons.2 ⟨fun t ht => ?_, h.apart⟩
      have hbehind := (h.inside t ht).1
      exact ⟨by omega, hbehind⟩
    · refine List.forall_mem_cons.2 ⟨fun n hn => hbefore n hn.1 hn.2, h.gaps⟩

/-- No occurrence begins at `start`, so those from there on are those behind it. -/
theorem Leftmost.before (h : Leftmost needle bytes (start + 1) spans)
    (hstart : ¬ needle <+: bytes.drop start) : Leftmost needle bytes start spans := by
  have hlater : ∀ n stop, (∀ n, start + 1 ≤ n → n < stop → ¬ needle <+: bytes.drop n) →
      start ≤ n → n < stop → ¬ needle <+: bytes.drop n := by
    intro n stop hnone hn hstop
    rcases Nat.eq_or_lt_of_le hn with rfl | hlt
    · exact hstart
    · exact hnone n hlt hstop
  cases spans with
  | nil =>
    rw [leftmost_nil_iff] at h ⊢
    exact fun n => hlater n _ h
  | cons s rest =>
    obtain ⟨⟨hmarks, hbehind, hinside⟩, hbefore, hrest⟩ := leftmost_cons_iff.1 h
    exact leftmost_cons_iff.2
      ⟨⟨hmarks, by omega, hinside⟩, fun n => hlater n _ hbefore, hrest⟩

/-- There is one way to take the occurrences from left to right. -/
theorem Leftmost.unique {other : List Span} (h : Leftmost needle bytes start spans)
    (hother : Leftmost needle bytes start other) : spans = other := by
  induction spans generalizing start other with
  | nil =>
    cases other with
    | nil => rfl
    | cons t others =>
      obtain ⟨⟨hmarks, hstart, hbytes, hlength⟩, -, -⟩ := leftmost_cons_iff.1 hother
      exact absurd hmarks.1 (leftmost_nil_iff.1 h t.start hstart (by omega))
  | cons s rest ih =>
    obtain ⟨⟨hmarks, hstart, hbytes, hlength⟩, hbefore, hrest⟩ := leftmost_cons_iff.1 h
    cases other with
    | nil => exact absurd hmarks.1 (leftmost_nil_iff.1 hother s.start hstart (by omega))
    | cons t others =>
      obtain ⟨⟨hmarks', hstart', -, -⟩, hbefore', hrest'⟩ := leftmost_cons_iff.1 hother
      -- the first one of each begins in no gap of the other
      have heq : s.start = t.start := by
        rcases Nat.lt_trichotomy s.start t.start with hlt | heq | hlt
        · exact absurd hmarks.1 (hbefore' s.start hstart hlt)
        · exact heq
        · exact absurd hmarks'.1 (hbefore t.start hstart' hlt)
      have hst : s = t := by
        obtain ⟨a, b⟩ := s
        obtain ⟨c, d⟩ := t
        have hb := hmarks.2
        have hd := hmarks'.2
        simp only at heq hb hd
        rw [hb, hd, heq]
      subst hst
      rw [ih hrest hrest']

/-! ## Searching -/

/-- The search finds the occurrences from left to right: from the offset behind the bytes that
belong to the occurrence before. -/
theorem leftmost_occurrencesFrom (hneedle : needle ≠ []) (at_ skip : Nat) {rest : Bytes}
    (hrest : bytes.drop at_ = rest) :
    Leftmost needle bytes (at_ + skip)
      ((occurrencesFrom needle at_ skip rest).map fun n => ⟨n, n + needle.length⟩) := by
  have hpos : 0 < needle.length := List.length_pos_of_ne_nil hneedle
  induction rest generalizing at_ skip with
  | nil =>
    have hlength : bytes.length ≤ at_ := List.drop_eq_nil_iff.1 hrest
    exact leftmost_nil_iff.2 fun n _ _ => by omega
  | cons b rest ih =>
    have hnext : bytes.drop (at_ + 1) = rest := by
      rw [← List.drop_drop, hrest, List.drop_one, List.tail_cons]
    cases skip with
    | succ skip =>
      have h := ih (at_ + 1) skip hnext
      rwa [Nat.add_assoc, Nat.add_comm 1 skip] at h
    | zero =>
      rw [occurrencesFrom, Nat.add_zero]
      by_cases hfront : needle.isPrefixOf (b :: rest) = true
      · rw [if_pos hfront, List.map_cons]
        rw [List.isPrefixOf_iff_prefix, ← hrest] at hfront
        have hlength := hfront.length_le
        rw [List.length_drop] at hlength
        have h := ih (at_ + 1) (needle.length - 1) hnext
        have hstop : at_ + 1 + (needle.length - 1) = at_ + needle.length := by omega
        rw [hstop] at h
        have hinside : at_ < at_ + needle.length ∧ at_ + needle.length ≤ bytes.length := by omega
        exact leftmost_cons_iff.2 ⟨⟨⟨hfront, rfl⟩, le_rfl, hinside⟩,
          fun n hn hlt => absurd hn (Nat.not_le.2 hlt), h⟩
      · rw [if_neg hfront]
        refine (ih (at_ + 1) 0 hnext).before fun hoccurs => hfront ?_
        rwa [List.isPrefixOf_iff_prefix, ← hrest]

/-- Some occurrence is found if there is one. -/
theorem Leftmost.ne_nil_iff (hneedle : needle ≠ []) (h : Leftmost needle bytes 0 spans) :
    spans ≠ [] ↔ needle <:+: bytes := by
  constructor
  · intro hne
    obtain ⟨s, rest, rfl⟩ := List.exists_cons_of_ne_nil hne
    exact (h.marks s (by simp)).1.isInfix.trans (List.drop_suffix _ _).isInfix
  · rintro ⟨front, back, rfl⟩ rfl
    have hpos : 0 < needle.length := List.length_pos_of_ne_nil hneedle
    refine leftmost_nil_iff.1 h front.length (Nat.zero_le _) ?_ ?_
    · simp only [List.length_append]
      omega
    · rw [List.append_assoc, List.drop_left]
      exact List.prefix_append needle back

/-! ## Conditions on a literal -/

/-- The conditions that compare a text with a literal. -/
def literalConditions (literal : String) : List Condition :=
  [.contains literal, .startsWith literal, .endsWith literal, .equals literal]

variable {literal text : String}

/-- What is so for each of the four conditions on a literal. -/
theorem forall_mem_literalConditions {p : Condition → Prop} (contains : p (.contains literal))
    (startsWith : p (.startsWith literal)) (endsWith : p (.endsWith literal))
    (equals : p (.equals literal)) : ∀ c ∈ literalConditions literal, p c := by
  simp only [literalConditions, List.forall_mem_cons, List.not_mem_nil, false_imp_iff,
    implies_true, and_true]
  exact ⟨contains, startsWith, endsWith, equals⟩

theorem utf8_ne_nil (h : literal ≠ "") : utf8 literal ≠ [] := fun hnil =>
  h (String.toList_eq_nil_iff.1 (encode_eq_nil_iff.1 hnil))

theorem byteLength_pos_iff : 0 < byteLength literal ↔ literal ≠ "" := by
  refine ⟨?_, fun h => List.length_pos_of_ne_nil (utf8_ne_nil h)⟩
  rintro hpos rfl
  exact absurd hpos (Nat.lt_irrefl 0)

/-- A single span, found under a condition, is left out if it is empty. -/
theorem filter_single (found : Prop) [Decidable found] (s : Span) :
    ((if found then [s] else []).filter fun s => !s.isEmpty) =
      if s.start < s.stop ∧ found then [s] else [] := by
  by_cases hfound : found
  · by_cases hbytes : s.start < s.stop
    · simp [hfound, Span.isEmpty, hbytes]
    · simp [hfound, Span.isEmpty, hbytes]
  · simp [hfound]

namespace Condition

theorem spans_contains (h : literal ≠ "") : (contains literal).spans text =
    (occurrences (utf8 literal) (utf8 text)).map fun n => ⟨n, n + (utf8 literal).length⟩ := by
  have hpos : 0 < (utf8 literal).length := List.length_pos_of_ne_nil (utf8_ne_nil h)
  have hempty : ¬ literal.isEmpty = true := by simpa using h
  simp only [spans, if_neg hempty]
  refine List.filter_eq_self.2 fun s hs => ?_
  obtain ⟨n, -, rfl⟩ := List.mem_map.1 hs
  simp only [Span.isEmpty, Bool.not_eq_true', decide_eq_false_iff_not]
  omega

/-- The spans of a literal are its occurrences from left to right. -/
theorem leftmost_spans_contains (h : literal ≠ "") :
    Leftmost (utf8 literal) (utf8 text) 0 ((contains literal).spans text) := by
  rw [spans_contains h]
  exact leftmost_occurrencesFrom (utf8_ne_nil h) 0 0 rfl

theorem spans_startsWith (literal text : String) : (startsWith literal).spans text =
    if literal ≠ "" ∧ utf8 literal <+: utf8 text then [⟨0, byteLength literal⟩] else [] := by
  refine (filter_single _ _).trans (if_congr ?_ rfl rfl)
  exact and_congr byteLength_pos_iff List.isPrefixOf_iff_prefix

theorem spans_endsWith (literal text : String) : (endsWith literal).spans text =
    if literal ≠ "" ∧ utf8 literal <:+ utf8 text then
      [⟨byteLength text - byteLength literal, byteLength text⟩] else [] := by
  refine (filter_single _ _).trans (if_congr ?_ rfl rfl)
  rw [isMatch, List.isSuffixOf_iff_suffix]
  refine and_congr_left fun hsuffix => ?_
  have hle : byteLength literal ≤ byteLength text := hsuffix.length_le
  rw [← byteLength_pos_iff]
  show byteLength text - byteLength literal < byteLength text ↔ _
  omega

theorem spans_equals (literal text : String) : (equals literal).spans text =
    if literal ≠ "" ∧ text = literal then [⟨0, byteLength text⟩] else [] := by
  refine (filter_single _ _).trans (if_congr ?_ rfl rfl)
  rw [isMatch, decide_eq_true_iff]
  refine and_congr_left fun heq => ?_
  rw [← heq]
  exact byteLength_pos_iff

theorem requiredLiteral_eq_some : ∀ c ∈ literalConditions literal,
    c.requiredLiteral = some literal :=
  forall_mem_literalConditions rfl rfl rfl rfl

/-- Where a condition on a literal is met, there is the literal. -/
theorem marks_of_mem_spans : ∀ c ∈ literalConditions literal,
    ∀ s ∈ c.spans text, s.Marks (utf8 literal) (utf8 text) := by
  refine forall_mem_literalConditions ?_ ?_ ?_ ?_
  · by_cases hempty : literal = ""
    · simp [spans, hempty]
    · exact (leftmost_spans_contains hempty).marks
  · intro s hs
    rw [spans_startsWith, List.mem_ite_nil_right, List.mem_singleton] at hs
    obtain ⟨⟨-, hfront⟩, rfl⟩ := hs
    exact ⟨hfront, (Nat.zero_add _).symm⟩
  · intro s hs
    rw [spans_endsWith, List.mem_ite_nil_right, List.mem_singleton] at hs
    obtain ⟨⟨-, hback⟩, rfl⟩ := hs
    have hle : byteLength literal ≤ byteLength text := hback.length_le
    refine ⟨?_, (Nat.sub_add_cancel hle).symm⟩
    show utf8 literal <+: (utf8 text).drop ((utf8 text).length - (utf8 literal).length)
    rw [← List.suffix_iff_eq_drop.1 hback]
  · intro s hs
    rw [spans_equals, List.mem_ite_nil_right, List.mem_singleton] at hs
    obtain ⟨⟨-, rfl⟩, rfl⟩ := hs
    exact ⟨List.prefix_rfl, (Nat.zero_add _).symm⟩

/-- A condition on a literal that is not empty is met if it is met somewhere. -/
theorem spans_ne_nil_iff (h : literal ≠ "") : ∀ c ∈ literalConditions literal,
    c.spans text ≠ [] ↔ c.isMatch text = true := by
  refine forall_mem_literalConditions ?_ ?_ ?_ ?_
  · rw [(leftmost_spans_contains h).ne_nil_iff (utf8_ne_nil h), isMatch, occursIn_iff]
  · simp [spans_startsWith, h, isMatch, List.isPrefixOf_iff_prefix]
  · simp [spans_endsWith, h, isMatch, List.isSuffixOf_iff_suffix]
  · simp [spans_equals, h, isMatch]

/-- A condition on the empty literal is met nowhere. -/
theorem spans_eq_nil : ∀ c ∈ literalConditions "", c.spans text = [] := by
  refine forall_mem_literalConditions rfl ?_ ?_ ?_
  · simp [spans_startsWith]
  · simp [spans_endsWith]
  · simp [spans_equals]

/-- The spans of a literal that a text is to contain are its occurrences, from left to right
without overlap, and no other spans are.  The spans of the other conditions on a literal are its
single place at the front, at the end or in the whole of the text.  Of all these conditions, one on
a literal that is not empty is met if it is met somewhere, one on the empty literal is met nowhere,
and a text that meets one contains the literal that it requires. -/
theorem spans_of_literal (literal text : String) :
    (literal ≠ "" → ∀ spans, (contains literal).spans text = spans ↔
      Leftmost (utf8 literal) (utf8 text) 0 spans) ∧
    ((startsWith literal).spans text =
      if literal ≠ "" ∧ utf8 literal <+: utf8 text then [⟨0, byteLength literal⟩] else []) ∧
    ((endsWith literal).spans text =
      if literal ≠ "" ∧ utf8 literal <:+ utf8 text then
        [⟨byteLength text - byteLength literal, byteLength text⟩] else []) ∧
    ((equals literal).spans text =
      if literal ≠ "" ∧ text = literal then [⟨0, byteLength text⟩] else []) ∧
    ∀ c ∈ literalConditions literal,
      (∀ s ∈ c.spans text, s.Marks (utf8 literal) (utf8 text)) ∧
      (literal ≠ "" → (c.spans text ≠ [] ↔ c.isMatch text = true)) ∧
      (literal = "" → c.spans text = []) ∧
      c.requiredLiteral = some literal ∧
      (c.isMatch text = true → utf8 literal <:+: utf8 text) := by
  refine ⟨fun h spans => ?_, spans_startsWith _ _, spans_endsWith _ _, spans_equals _ _,
    fun c hc => ?_⟩
  · constructor
    · rintro rfl
      exact leftmost_spans_contains h
    · exact (leftmost_spans_contains h).unique
  · have hrequired := requiredLiteral_eq_some c hc
    refine ⟨marks_of_mem_spans c hc, fun h => spans_ne_nil_iff h c hc, ?_, hrequired,
      infix_of_isMatch hrequired⟩
    rintro rfl
    exact spans_eq_nil c hc

example : (contains "aba").spans "ababababa" = [⟨0, 3⟩, ⟨4, 7⟩] := by decide

end Condition

end Concordance
