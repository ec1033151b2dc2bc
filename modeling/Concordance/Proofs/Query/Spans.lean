import Mathlib
import Concordance.Proofs.Text.Bytes
import Concordance.Query.Condition

/-!
# Where conditions are met

A literal occurs in a text where its bytes occur in those of the text.  What a condition marks are
spans of the text: they have bytes, and they begin and end between two characters.

* `occursIn_iff` and `isPrefix_of_mem_occurrences` say what occurrences are.
* `Span.Fits` are the spans of a text, and `Condition.fits_of_mem_spans` says that a condition
  marks no others.
-/

namespace Concordance

open Concordance.Text

/-! ## Occurrences -/

/-- Some bytes occur in others if they are an infix of them. -/
theorem occursIn_iff {needle bytes : Bytes} : occursIn needle bytes = true ↔ needle <:+: bytes := by
  induction bytes with
  | nil => simp [occursIn]
  | cons b bytes ih =>
    rw [occursIn, Bool.or_eq_true, ih, List.isPrefixOf_iff_prefix, List.infix_cons_iff]

theorem mem_occurrencesFrom {needle bytes : Bytes} {at_ skip n : Nat}
    (h : n ∈ occurrencesFrom needle at_ skip bytes) :
    at_ ≤ n ∧ needle <+: bytes.drop (n - at_) := by
  induction bytes generalizing at_ skip with
  | nil => simp [occurrencesFrom] at h
  | cons b bytes ih =>
    have hlater : ∀ {skip}, n ∈ occurrencesFrom needle (at_ + 1) skip bytes →
        at_ ≤ n ∧ needle <+: (b :: bytes).drop (n - at_) := by
      intro skip h
      obtain ⟨hle, hprefix⟩ := ih h
      have hn : n - at_ = n - (at_ + 1) + 1 := by omega
      exact ⟨by omega, by rwa [hn, List.drop_succ_cons]⟩
    cases skip with
    | succ skip => exact hlater h
    | zero =>
      rw [occurrencesFrom] at h
      by_cases hneedle : needle.isPrefixOf (b :: bytes) = true
      · rw [if_pos hneedle] at h
        rcases List.mem_cons.1 h with rfl | h
        · rw [Nat.sub_self]
          exact ⟨le_rfl, List.isPrefixOf_iff_prefix.1 hneedle⟩
        · exact hlater h
      · rw [if_neg hneedle] at h
        exact hlater h

theorem isPrefix_of_mem_occurrences {needle bytes : Bytes} {n : Nat}
    (h : n ∈ occurrences needle bytes) : needle <+: bytes.drop n := by
  simpa using (mem_occurrencesFrom h).2

/-! ## Spans -/

/-- The span has bytes, and it begins and ends between two characters of the text. -/
structure Span.Fits (text : List Char) (s : Span) : Prop where
  /-- It has bytes. -/
  nonempty : s.start < s.stop
  /-- It begins at a boundary. -/
  start : IsBoundary text s.start
  /-- It ends at a boundary. -/
  stop : IsBoundary text s.stop

theorem Span.Fits.stop_le {text : List Char} {s : Span} (h : s.Fits text) :
    s.stop ≤ (encode text).length :=
  h.stop.le_length

namespace Condition

/-- A text that meets a condition contains the literal that the condition requires. -/
theorem infix_of_isMatch {c : Condition} {literal text : String}
    (hliteral : c.requiredLiteral = some literal) (h : c.isMatch text = true) :
    utf8 literal <:+: utf8 text := by
  cases c with
  | contains part =>
    cases hliteral
    exact occursIn_iff.1 h
  | startsWith part =>
    cases hliteral
    exact (List.isPrefixOf_iff_prefix.1 h).isInfix
  | endsWith part =>
    cases hliteral
    exact (List.isSuffixOf_iff_suffix.1 h).isInfix
  | equals part =>
    cases hliteral
    rw [of_decide_eq_true h]
  | «matches» regex => cases hliteral

/-- What a condition marks are spans of the text. -/
theorem fits_of_mem_spans {c : Condition} {text : String} {s : Span} (h : s ∈ c.spans text) :
    s.Fits text.toList := by
  have hzero : IsBoundary text.toList 0 := isBoundary_zero _
  have hlength : IsBoundary text.toList (utf8 text).length := isBoundary_length _
  simp only [spans, List.mem_filter, Span.isEmpty, Bool.not_eq_true', decide_eq_false_iff_not,
    Nat.not_le] at h
  obtain ⟨hfound, hnonempty⟩ := h
  suffices hends : IsBoundary text.toList s.start ∧ IsBoundary text.toList s.stop from
    ⟨hnonempty, hends.1, hends.2⟩
  cases c with
  | contains literal =>
    by_cases hempty : literal.isEmpty = true
    · simp [hempty] at hfound
    · simp only [hempty, Bool.false_eq_true, if_false, List.mem_map] at hfound
      obtain ⟨n, hn, rfl⟩ := hfound
      have hne : literal.toList ≠ [] := by
        intro hnil
        exact hempty (by simpa using hnil)
      exact isBoundary_of_occurs hne (isPrefix_of_mem_occurrences hn)
  | startsWith literal =>
    by_cases hmatch : (startsWith literal).isMatch text = true
    · simp only [hmatch, if_true, List.mem_singleton] at hfound
      subst hfound
      obtain ⟨rest, hrest⟩ := isPrefix_of_encode (List.isPrefixOf_iff_prefix.1 hmatch)
      exact ⟨hzero, hrest ▸ isBoundary_append literal.toList rest⟩
    · simp [hmatch] at hfound
  | endsWith literal =>
    by_cases hmatch : (endsWith literal).isMatch text = true
    · simp only [hmatch, if_true, List.mem_singleton] at hfound
      subst hfound
      obtain ⟨front, hfront⟩ := isSuffix_of_encode (List.isSuffixOf_iff_suffix.1 hmatch)
      refine ⟨⟨front, literal.toList, hfront.symm, ?_⟩, hlength⟩
      show (utf8 text).length - (utf8 literal).length = (encode front).length
      rw [utf8, utf8, ← hfront, encode_append, List.length_append]
      omega
    · simp [hmatch] at hfound
  | equals literal =>
    by_cases hmatch : (equals literal).isMatch text = true
    · simp only [hmatch, if_true, List.mem_singleton] at hfound
      subst hfound
      exact ⟨hzero, hlength⟩
    · simp [hmatch] at hfound
  | «matches» regex =>
    obtain ⟨m, hm, rfl⟩ := List.mem_map.1 hfound
    exact regex.matcher.isBoundary_of_mem text m hm

end Condition

end Concordance
