import Mathlib
import Concordance.Marking.Layer
import Concordance.Proofs.Ascending
import Concordance.Proofs.Marking.Region

/-!
# Cutting at changes

A text is cut at the ends of all merged spans of its layers.  These are the offsets at which the
layers that cover a byte change, so the pieces are the longest ones whose bytes are covered alike.

* `pairwise_cuts` and `mem_cuts` say what the cuts are.
* `slices` are the pieces between given cuts; `splitBy_eq_slices` says that pieces cut wherever a
  relation between neighbours fails are such pieces.
* `mem_cuts_iff_changes` says that the cuts within a text are the changes.
-/

namespace Concordance

/-! ## Cuts -/

variable {layers : List Layer} {length n : Nat}

theorem pairwise_cuts (length : Nat) (layers : List Layer) :
    (cuts length layers).Pairwise (· < ·) :=
  pairwise_ascending _

theorem mem_cuts : n ∈ cuts length layers ↔
    n = 0 ∨ n = length ∨ ∃ l ∈ layers, ∃ s ∈ l.spans, n = s.start ∨ n = s.stop := by
  unfold cuts
  rw [mem_ascending]
  simp only [List.mem_cons, List.mem_flatMap, List.not_mem_nil, or_false]

/-- The first cut is the front of the text. -/
theorem exists_cuts_eq (length : Nat) (layers : List Layer) :
    ∃ stops, cuts length layers = 0 :: stops := by
  have hzero : 0 ∈ cuts length layers := mem_cuts.2 (Or.inl rfl)
  have hsorted := pairwise_cuts length layers
  cases hcuts : cuts length layers with
  | nil => simp [hcuts] at hzero
  | cons first stops =>
    rw [hcuts] at hzero hsorted
    rcases List.mem_cons.1 hzero with rfl | hmem
    · exact ⟨stops, rfl⟩
    · exact absurd ((List.pairwise_cons.1 hsorted).1 0 hmem) (Nat.not_lt_zero first)

/-! ## Pieces -/

variable {α : Type}

/-- The pieces of a list from the offset `start` to each of the later stops. -/
def slices (start : Nat) : List Nat → List α → List (List α)
  | [], _ => []
  | stop :: more, xs => xs.take (stop - start) :: slices stop more (xs.drop (stop - start))

/-- A list whose beginning stays together and parts from what follows. -/
theorem splitBy_append {r : α → α → Bool} {l m : List α} (hl : l ≠ [])
    (h : l.IsChain fun x y => r x y = true)
    (hlm : ∀ x ∈ m.head?, r (l.getLast hl) x = false) :
    (l ++ m).splitBy r = l :: m.splitBy r := by
  have hflatten : (l :: m.splitBy r).flatten = l ++ m := by
    rw [List.flatten_cons, List.flatten_splitBy]
  rw [← hflatten]
  refine List.splitBy_flatten ?_ ?_ ?_
  · simp only [List.mem_cons, not_or]
    exact ⟨Ne.symm hl, List.nil_notMem_splitBy r m⟩
  · intro piece hpiece
    rcases List.mem_cons.1 hpiece with rfl | hpiece
    · exact h
    · exact List.isChain_of_mem_splitBy hpiece
  · refine List.isChain_cons.2 ⟨fun piece hpiece => ?_, List.isChain_getLast_head_splitBy r m⟩
    have hne : m.splitBy r ≠ [] := by
      intro hnil
      simp [hnil] at hpiece
    have hm : m ≠ [] := List.splitBy_ne_nil.1 hne
    have hhead : (m.splitBy r).head hne = piece := by
      rw [List.head?_eq_some_head hne] at hpiece
      exact Option.some.inj hpiece
    subst hhead
    refine ⟨hl, List.ne_nil_of_mem_splitBy (List.head_mem hne), ?_⟩
    rw [List.head_head_splitBy r hm]
    exact hlm _ (List.head_mem_head? hm)

/-- Do the numbers of the elements count from `start` on? -/
def CountsFrom (start : Nat) (xs : List (α × Nat)) : Prop :=
  ∀ i (h : i < xs.length), xs[i].2 = start + i

theorem countsFrom_zipIdx (xs : List α) (start : Nat) : CountsFrom start (xs.zipIdx start) := by
  intro i h
  simp

theorem CountsFrom.take {start k : Nat} {xs : List (α × Nat)} (h : CountsFrom start xs) :
    CountsFrom start (xs.take k) := by
  intro i hi
  rw [List.getElem_take]
  exact h i _

theorem CountsFrom.drop {start k : Nat} {xs : List (α × Nat)} (h : CountsFrom start xs) :
    CountsFrom (start + k) (xs.drop k) := by
  intro i hi
  rw [List.getElem_drop, h, Nat.add_assoc]

/-- What is cut wherever two neighbours are not `same` is what is cut at the places where that is
so. -/
theorem splitBy_eq_slices {same : Nat → Nat → Bool} {start : Nat} {stops : List Nat}
    {xs : List (α × Nat)} (hxs : CountsFrom start xs)
    (hsorted : (start :: stops).Pairwise (· < ·)) (hle : ∀ n ∈ stops, n ≤ start + xs.length)
    (hend : start + xs.length ∈ start :: stops)
    (hsame : ∀ n, start < n → n < start + xs.length → (n ∈ stops ↔ same (n - 1) n = false)) :
    xs.splitBy (fun a b => same a.2 b.2) = slices start stops xs := by
  induction stops generalizing start xs with
  | nil =>
    have hnil : xs = [] := by
      rw [List.mem_singleton] at hend
      exact List.length_eq_zero_iff.1 (by omega)
    subst hnil
    rfl
  | cons stop more ih =>
    obtain ⟨hstart, htail⟩ := List.pairwise_cons.1 hsorted
    have hpos : start < stop := hstart stop (by simp)
    have hstop : stop ≤ start + xs.length := hle stop (by simp)
    have hlater : ∀ n ∈ more, stop < n := (List.pairwise_cons.1 htail).1
    have hstep : start + (stop - start) = stop := by omega
    have hlength : (xs.take (stop - start)).length = stop - start := by
      rw [List.length_take]
      omega
    have hne : xs.take (stop - start) ≠ [] := by
      intro hnil
      rw [hnil, List.length_nil] at hlength
      omega
    have hrest : CountsFrom stop (xs.drop (stop - start)) := by
      have hdrop := hxs.drop (k := stop - start)
      rwa [hstep] at hdrop
    have hchain : (xs.take (stop - start)).IsChain fun a b => same a.2 b.2 = true := by
      -- no stop lies between two neighbours of the first piece
      refine List.isChain_iff_getElem.2 fun i hi => ?_
      rw [hxs.take i (by omega), hxs.take (i + 1) hi]
      have hnot : start + (i + 1) ∉ stop :: more := by
        intro hmem
        rcases List.mem_cons.1 hmem with heq | hmem
        · omega
        · have := hlater _ hmem
          omega
      by_contra hfalse
      exact hnot ((hsame _ (by omega) (by omega)).2 (by simpa using hfalse))
    have hpart : ∀ x ∈ (xs.drop (stop - start)).head?,
        same ((xs.take (stop - start)).getLast hne).2 x.2 = false := by
      intro x hx
      have hdrop : 0 < (xs.drop (stop - start)).length := by
        cases hxs' : xs.drop (stop - start) with
        | nil => simp [hxs'] at hx
        | cons y ys => simp
      have hx2 : x.2 = stop := by
        rw [List.head?_eq_getElem?, List.getElem?_eq_getElem hdrop] at hx
        rw [← Option.some.inj hx, hrest 0 hdrop, Nat.add_zero]
      have hlast : ((xs.take (stop - start)).getLast hne).2 = stop - 1 := by
        rw [List.getLast_eq_getElem, hxs.take]
        omega
      rw [hlast, hx2]
      rw [List.length_drop] at hdrop
      exact (hsame stop hpos (by omega)).1 (by simp)
    have hcut : xs.splitBy (fun a b => same a.2 b.2) = xs.take (stop - start) ::
        (xs.drop (stop - start)).splitBy fun a b => same a.2 b.2 := by
      conv_lhs => rw [← List.take_append_drop (stop - start) xs]
      exact splitBy_append hne hchain hpart
    have hlengths : stop + (xs.drop (stop - start)).length = start + xs.length := by
      rw [List.length_drop]
      omega
    rw [hcut, slices, ih hrest htail]
    · intro n hn
      rw [hlengths]
      exact hle n (by simp [hn])
    · rw [hlengths]
      rcases List.mem_cons.1 hend with heq | hend
      · omega
      · exact hend
    · intro n hn hn'
      rw [hlengths] at hn'
      rw [← hsame n (by omega) hn', List.mem_cons]
      constructor
      · exact Or.inr
      · rintro (rfl | hmem)
        · omega
        · exact hmem

/-! ## Changes -/

/-- The cuts within a text are the offsets at which the layers that cover a byte change. -/
theorem mem_cuts_iff_changes (hmerged : ∀ l ∈ layers, Merged l.spans) (hn : 0 < n)
    (hlength : n < length) :
    n ∈ cuts length layers ↔ ∃ l ∈ layers, ¬ (Covered l.spans (n - 1) ↔ Covered l.spans n) := by
  rw [mem_cuts]
  constructor
  · rintro (rfl | rfl | ⟨l, hl, hends⟩)
    · omega
    · omega
    · exact ⟨l, hl, ((hmerged l hl).changes_iff hn).2 hends⟩
  · rintro ⟨l, hl, hchange⟩
    exact Or.inr (Or.inr ⟨l, hl, ((hmerged l hl).changes_iff hn).1 hchange⟩)

end Concordance
