import Mathlib
import Concordance.Compact.Field

/-!
# Cutting bytes into lines and fields

* `splitLast?_eq_some_iff` and `splitLast?_eq_none_iff` tell where bytes are split.
* `CutInto` says what the lines of some bytes are; `cutInto_lines` says that `lines` gives them.
-/

namespace Concordance.Compact

open Concordance.Text (Bytes)

/-! ## Fields -/

theorem splitLast?_eq_none_iff {mark : UInt8} {s : Bytes} :
    splitLast? mark s = none ↔ mark ∉ s := by
  induction s with
  | nil => simp [splitLast?]
  | cons b rest ih =>
    rw [splitLast?]
    cases hrest : splitLast? mark rest with
    | some found =>
      have hmem : mark ∈ rest := by
        by_contra hnot
        rw [ih.2 hnot] at hrest
        cases hrest
      simp [hmem]
    | none =>
      have hnot : mark ∉ rest := ih.1 hrest
      by_cases hb : b = mark
      · simp [hb]
      · simp [hb, hnot, Ne.symm hb]

/-- Bytes are split where the mark occurs for the last time. -/
theorem splitLast?_eq_some_iff {mark : UInt8} {s before behind : Bytes} :
    splitLast? mark s = some (before, behind) ↔
      s = before ++ mark :: behind ∧ mark ∉ behind := by
  induction s generalizing before with
  | nil => simp [splitLast?]
  | cons b rest ih =>
    rw [splitLast?]
    cases hrest : splitLast? mark rest with
    | some found =>
      obtain ⟨front, back⟩ := found
      constructor
      · intro h
        cases h
        obtain ⟨rfl, hnot⟩ := ih.1 hrest
        exact ⟨rfl, hnot⟩
      · rintro ⟨heq, hnot⟩
        cases before with
        | nil =>
          -- the mark occurs again behind the first byte
          obtain ⟨rfl, rfl⟩ := List.cons.inj heq
          rw [splitLast?_eq_none_iff.2 hnot] at hrest
          cases hrest
        | cons a before =>
          obtain ⟨rfl, hsplit⟩ := List.cons.inj heq
          have h := ih.2 ⟨hsplit, hnot⟩
          rw [hrest] at h
          cases h
          rfl
    | none =>
      have hnot : mark ∉ rest := splitLast?_eq_none_iff.1 hrest
      constructor
      · intro h
        by_cases hb : b = mark
        · simp only [hb, if_true, Option.some.injEq, Prod.mk.injEq] at h
          obtain ⟨rfl, rfl⟩ := h
          exact ⟨by rw [hb]; rfl, hnot⟩
        · simp [hb] at h
      · rintro ⟨heq, -⟩
        cases before with
        | nil =>
          obtain ⟨rfl, rfl⟩ := List.cons.inj heq
          simp
        | cons a before =>
          obtain ⟨-, rfl⟩ := List.cons.inj heq
          simp at hnot

/-! ## Lines -/

/-- The lines make up the bytes, no line is empty, a line feed is only at the end of a line, and
all lines but the last one have one. -/
structure CutInto (s : Bytes) (ls : List Bytes) : Prop where
  /-- The lines one after another are the bytes. -/
  flatten : ls.flatten = s
  /-- No line is empty. -/
  ne_nil : ∀ l ∈ ls, l ≠ []
  /-- A line feed is only at the end of a line. -/
  feed : ∀ l ∈ ls, 0x0A ∉ l.dropLast
  /-- All lines but the last one end with a line feed. -/
  ends : ∀ l ∈ ls.dropLast, l.getLast? = some 0x0A

theorem lines_cons (b : UInt8) (rest : Bytes) :
    lines (b :: rest) = if b = 0x0A then [b] :: lines rest
      else match lines rest with
        | [] => [[b]]
        | line :: more => (b :: line) :: more := rfl

theorem lines_eq_nil_iff {s : Bytes} : lines s = [] ↔ s = [] := by
  cases s with
  | nil => simp [lines]
  | cons b rest =>
    rw [lines_cons]
    split
    · simp
    · split <;> simp

/-- A line with its line feed is cut off. -/
theorem lines_append {line : Bytes} (h : 0x0A ∉ line) (rest : Bytes) :
    lines (line ++ 0x0A :: rest) = (line ++ [0x0A]) :: lines rest := by
  induction line with
  | nil => rw [List.nil_append, lines_cons, if_pos rfl, List.nil_append]
  | cons b line ih =>
    simp only [List.mem_cons, not_or] at h
    rw [List.cons_append, lines_cons, if_neg (Ne.symm h.1), ih h.2]
    rfl

theorem cutInto_lines (s : Bytes) : CutInto s (lines s) := by
  induction s with
  | nil => exact ⟨rfl, by simp [lines], by simp [lines], by simp [lines]⟩
  | cons b rest ih =>
    rw [lines_cons]
    by_cases hb : b = 0x0A
    · rw [if_pos hb]
      refine ⟨by rw [List.flatten_cons, ih.flatten]; rfl, ?_, ?_, ?_⟩
      · intro l hl
        rcases List.mem_cons.1 hl with rfl | hl
        · exact List.cons_ne_nil _ _
        · exact ih.ne_nil l hl
      · intro l hl
        rcases List.mem_cons.1 hl with rfl | hl
        · simp
        · exact ih.feed l hl
      · intro l hl
        cases hlines : lines rest with
        | nil => simp [hlines] at hl
        | cons line more =>
          rw [hlines, List.dropLast_cons_cons] at hl
          rcases List.mem_cons.1 hl with rfl | hl
          · simp [hb]
          · exact ih.ends l (hlines ▸ hl)
    · rw [if_neg hb]
      cases hlines : lines rest with
      | nil =>
        rw [lines_eq_nil_iff.1 hlines]
        exact ⟨rfl, by simp, by simp, by simp⟩
      | cons line more =>
        rw [hlines] at ih
        have hline := ih.ne_nil line (by simp)
        refine ⟨?_, ?_, ?_, ?_⟩
        · have hflatten := ih.flatten
          rw [List.flatten_cons] at hflatten ⊢
          rw [List.cons_append, hflatten]
        · intro l hl
          rcases List.mem_cons.1 hl with rfl | hl
          · exact List.cons_ne_nil _ _
          · exact ih.ne_nil l (by simp [hl])
        · intro l hl
          rcases List.mem_cons.1 hl with rfl | hl
          · rw [List.dropLast_cons_of_ne_nil hline, List.mem_cons, not_or]
            exact ⟨Ne.symm hb, ih.feed line (by simp)⟩
          · exact ih.feed l (by simp [hl])
        · intro l hl
          cases more with
          | nil => simp at hl
          | cons a more =>
            rw [List.dropLast_cons_cons] at hl
            rcases List.mem_cons.1 hl with rfl | hl
            · have hend := ih.ends line (by simp)
              rw [List.getLast?_cons, hend]
              rfl
            · refine ih.ends l ?_
              rw [List.dropLast_cons_cons]
              exact List.mem_cons_of_mem _ hl

end Concordance.Compact
