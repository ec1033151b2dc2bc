import Mathlib
import Concordance.Ascending

/-!
# Numbers in increasing order

Sorting without repeats keeps the numbers.  In an increasing array a number can be looked for by
halving, so the numbers that such arrays have in common can be found one array after another,
whichever comes first.

* `mem_ascending` and `pairwise_ascending` say that the numbers stay the same and strictly increase.
* `binSearchContains_iff` says that halving finds the numbers that are there.
* `mem_common` and `pairwise_common` say what several arrays have in common.
-/

namespace Concordance

theorem mem_dropRepeats {s : List Nat} {n : Nat} : n ∈ dropRepeats s ↔ n ∈ s := by
  induction s using dropRepeats.induct with
  | case1 a rest ih =>
    rw [dropRepeats, if_pos rfl, ih]
    simp
  | case2 a b rest hne ih =>
    rw [dropRepeats, if_neg hne, List.mem_cons, ih]
    exact List.mem_cons.symm
  | case3 s hs =>
    cases s with
    | nil => rfl
    | cons a s =>
      cases s with
      | nil => rfl
      | cons b s => exact absurd rfl (hs a b s)

theorem pairwise_dropRepeats {s : List Nat} (h : s.Pairwise (· ≤ ·)) :
    (dropRepeats s).Pairwise (· < ·) := by
  induction s using dropRepeats.induct with
  | case1 a rest ih =>
    rw [dropRepeats, if_pos rfl]
    exact ih (List.pairwise_cons.1 h).2
  | case2 a b rest hne ih =>
    obtain ⟨hle, htail⟩ := List.pairwise_cons.1 h
    rw [dropRepeats, if_neg hne, List.pairwise_cons]
    refine ⟨fun n hn => ?_, ih htail⟩
    have hab : a ≤ b := hle b (by simp)
    have hbn : b ≤ n := by
      rcases List.mem_cons.1 (mem_dropRepeats.1 hn) with rfl | hn
      · exact le_rfl
      · exact (List.pairwise_cons.1 htail).1 n hn
    omega
  | case3 s hs =>
    cases s with
    | nil => exact List.Pairwise.nil
    | cons a s =>
      cases s with
      | nil => exact List.pairwise_singleton _ _
      | cons b s => exact absurd rfl (hs a b s)

/-- The numbers stay the same. -/
theorem mem_ascending {s : List Nat} {n : Nat} : n ∈ ascending s ↔ n ∈ s := by
  rw [ascending, mem_dropRepeats, List.mem_mergeSort]

/-- The numbers strictly increase. -/
theorem pairwise_ascending (s : List Nat) : (ascending s).Pairwise (· < ·) := by
  refine pairwise_dropRepeats ?_
  have htrans : ∀ a b c : Nat, decide (a ≤ b) = true → decide (b ≤ c) = true →
      decide (a ≤ c) = true := by
    intro a b c hab hbc
    simp only [decide_eq_true_eq] at *
    omega
  have htotal : ∀ a b : Nat, (decide (a ≤ b) || decide (b ≤ a)) = true := by
    intro a b
    simp only [Bool.or_eq_true, decide_eq_true_eq]
    omega
  exact (List.pairwise_mergeSort htrans htotal _).imp of_decide_eq_true

/-- Strictly increasing lists of the same numbers are equal. -/
theorem eq_of_pairwise_lt {s t : List Nat} (hs : s.Pairwise (· < ·)) (ht : t.Pairwise (· < ·))
    (h : ∀ n, n ∈ s ↔ n ∈ t) : s = t := by
  have hperm : s.Perm t := (List.perm_ext_iff_of_nodup (hs.imp Nat.ne_of_lt)
    (ht.imp Nat.ne_of_lt)).2 h
  exact hperm.eq_of_pairwise (fun a b _ _ hab hba => absurd hba (Nat.lt_asymm hab)) hs ht

/-! ## Halving -/

section

variable {s : Array Nat} (hs : s.toList.Pairwise (· < ·)) {n : Nat}

include hs

/-- In an increasing array what is less comes first. -/
theorem place_lt_of_lt {i j : Nat} (hi : i < s.size) (hj : j < s.size) (h : s[i] < s[j]) :
    i < j := by
  by_contra hji
  rcases Nat.eq_or_lt_of_le (Nat.le_of_not_lt hji) with rfl | hji
  · exact Nat.lt_irrefl _ h
  · have hless := List.pairwise_iff_getElem.1 hs j i hj hi hji
    rw [Array.getElem_toList, Array.getElem_toList] at hless
    exact Nat.lt_asymm h hless

/-- Halving the places from `low` to `high` finds the numbers at these places. -/
theorem binSearchAux_iff (low : Fin (s.size + 1)) (high : Fin s.size) (hle : low.1 ≤ high.1) :
    Array.binSearchAux (fun a b => decide (a < b)) Option.isSome s n low high hle = true ↔
      ∃ i, ∃ hi : i < s.size, low.1 ≤ i ∧ i ≤ high.1 ∧ s[i] = n := by
  fun_induction Array.binSearchAux with
  | case1 low high _ middle a hless hnext _ ih =>
    -- all places up to the middle hold less
    rw [ih]
    constructor
    · rintro ⟨i, hi, hlow, hhigh, hn⟩
      have hlow' : middle + 1 ≤ i := hlow
      exact ⟨i, hi, by omega, hhigh, hn⟩
    · rintro ⟨i, hi, hlow, hhigh, rfl⟩
      have hright := place_lt_of_lt hs _ hi (of_decide_eq_true hless)
      exact ⟨i, hi, hright, hhigh, rfl⟩
  | case2 low high _ middle a hless hstop _ =>
    simp only [Option.isSome_none, Bool.false_eq_true, false_iff]
    rintro ⟨i, hi, hlow, hhigh, rfl⟩
    have hright := place_lt_of_lt hs _ hi (of_decide_eq_true hless)
    omega
  | case3 low high _ middle a _ hgreater hstop _ =>
    simp only [Option.isSome_none, Bool.false_eq_true, false_iff]
    rintro ⟨i, hi, hlow, hhigh, rfl⟩
    have hleft := place_lt_of_lt hs hi _ (of_decide_eq_true hgreater)
    omega
  | case4 low high _ middle a _ hgreater hnext _ ih =>
    -- all places from the middle on hold more
    rw [ih]
    constructor
    · rintro ⟨i, hi, hlow, hhigh, hn⟩
      have hhigh' : i ≤ middle - 1 := hhigh
      exact ⟨i, hi, hlow, by omega, hn⟩
    · rintro ⟨i, hi, hlow, hhigh, rfl⟩
      have hleft := place_lt_of_lt hs hi _ (of_decide_eq_true hgreater)
      exact ⟨i, hi, hlow, Nat.le_sub_one_of_lt hleft, rfl⟩
  | case5 low high _ middle a hless hgreater _ =>
    simp only [decide_eq_true_eq] at hless hgreater
    simp only [Option.isSome_some, true_iff]
    exact ⟨middle, by omega, by omega, by omega, by omega⟩

/-- Halving finds the numbers that are in an increasing array. -/
theorem binSearchContains_iff : s.binSearchContains n (· < ·) = true ↔ n ∈ s := by
  rw [Array.mem_iff_getElem]
  unfold Array.binSearchContains
  by_cases hempty : s.size = 0
  · simp [hempty]
  · have hlast : s.size - 1 < s.size := by omega
    rw [dif_pos (Nat.pos_of_ne_zero hempty)]
    simp only [if_pos hlast, Nat.zero_le, dif_pos]
    rw [binSearchAux_iff hs]
    constructor
    · rintro ⟨i, hi, -, -, hn⟩
      exact ⟨i, hi, hn⟩
    · rintro ⟨i, hi, hn⟩
      exact ⟨i, hi, Nat.zero_le i, Nat.le_sub_one_of_lt hi, hn⟩

end

/-! ## Common numbers -/

section

variable {arrays : List (Array Nat)} {found : List Nat} {n : Nat}

/-- What is looked for in some arrays after others stays in its order. -/
theorem retain_sublist : (retain found arrays).Sublist found := by
  induction arrays generalizing found with
  | nil => exact List.Sublist.refl _
  | cons s rest ih =>
    rw [retain]
    split
    · exact List.nil_sublist _
    · exact ih.trans List.filter_sublist

/-- What is left is what is in all of the arrays; ending early leaves nothing out. -/
theorem mem_retain (h : ∀ s ∈ arrays, s.toList.Pairwise (· < ·)) :
    n ∈ retain found arrays ↔ n ∈ found ∧ ∀ s ∈ arrays, n ∈ s := by
  induction arrays generalizing found with
  | nil => simp [retain]
  | cons s rest ih =>
    rw [List.forall_mem_cons] at h
    have hleft : n ∈ found.filter (fun n => s.binSearchContains n (· < ·)) ↔
        n ∈ found ∧ n ∈ s := by
      rw [List.mem_filter, binSearchContains_iff h.1]
    rw [List.forall_mem_cons, ← and_assoc, ← hleft, retain]
    split
    next hnone => simp [List.isEmpty_iff.1 hnone]
    · exact ih h.2

/-- It makes no difference which array is the shortest. -/
theorem mem_common (h : ∀ s ∈ arrays, s.toList.Pairwise (· < ·)) (hne : arrays ≠ []) :
    n ∈ common arrays ↔ ∀ s ∈ arrays, n ∈ s := by
  have hperm := List.mergeSort_perm arrays fun a b => a.size ≤ b.size
  unfold common
  split
  next hnil =>
    rw [hnil] at hperm
    exact absurd hperm.nil_eq.symm hne
  next shortest rest hsorted =>
    rw [hsorted] at hperm
    have hall : ∀ {p : Array Nat → Prop}, (∀ s ∈ arrays, p s) ↔ p shortest ∧ ∀ s ∈ rest, p s := by
      intro p
      rw [← List.forall_mem_cons]
      exact forall_congr' fun s => by rw [hperm.mem_iff]
    rw [mem_retain (hall.1 h).2, Array.mem_toList_iff, hall]

/-- What several arrays have in common strictly increases as well. -/
theorem pairwise_common (h : ∀ s ∈ arrays, s.toList.Pairwise (· < ·)) :
    (common arrays).Pairwise (· < ·) := by
  unfold common
  split
  next => exact List.Pairwise.nil
  next shortest rest hsorted =>
    have hmem : shortest ∈ arrays.mergeSort fun a b => a.size ≤ b.size := by
      rw [hsorted]
      exact List.mem_cons_self
    exact (h shortest (List.mem_mergeSort.1 hmem)).sublist retain_sublist

end

end Concordance
