import Mathlib
import Concordance.Compact.Pair
import Concordance.Proofs.Compact.Table
import Concordance.Proofs.Files.Tree
import Concordance.Proofs.Gzip.Member

/-!
# Opening a pair of files

* `dropEnding?_eq_some_iff` says what the base name of a path is.
* `Pair.open?_index` opens a corpus whose two files are there.
* `Tiles` says that spans lie side by side.
-/

namespace Concordance.Compact

open Concordance.Text

/-! ## Base names -/

theorem dropEnding?_eq_some_iff {ending text base : String} :
    dropEnding? ending text = some base ↔ text = base ++ ending := by
  rw [dropEnding?]
  constructor
  · intro h
    split at h
    · next hsuffix =>
      cases h
      have hends : ending.toList <:+ text.toList := by simpa using hsuffix
      obtain ⟨front, hfront⟩ := hends
      apply String.toList_injective
      rw [String.toList_append, ← hfront]
      simp
    · cases h
  · rintro rfl
    simp

/-- A text that ends with another character does not have the ending. -/
theorem dropEnding?_append_of_ne {ending other base : String} (h : other.toList ≠ [])
    (hne : ending.toList.getLast? ≠ other.toList.getLast?) (hending : ending.toList ≠ []) :
    dropEnding? ending (base ++ other) = none := by
  refine Option.eq_none_iff_forall_ne_some.2 fun found hfound => hne ?_
  have hchars := congrArg String.toList (dropEnding?_eq_some_iff.1 hfound)
  rw [String.toList_append, String.toList_append] at hchars
  have hlast := congrArg List.getLast? hchars
  rw [List.getLast?_append_of_ne_nil _ h, List.getLast?_append_of_ne_nil _ hending] at hlast
  exact hlast.symm

theorem isEnding_dataEnding : Tree.IsEnding dataEnding := by
  refine ⟨?_, ?_, ?_⟩ <;> decide +kernel

theorem isEnding_indexEnding : Tree.IsEnding indexEnding := by
  refine ⟨?_, ?_, ?_⟩ <;> decide +kernel

/-- The two files of a corpus have names that end differently. -/
theorem getLast?_dataEnding_ne :
    dataEnding.toList.getLast? ≠ indexEnding.toList.getLast? := by
  decide +kernel

theorem Pair.baseOf_index (tree : Tree) (base : String) :
    Pair.baseOf tree (base ++ indexEnding) = .ok base := by
  have hdata : dropEnding? dataEnding (base ++ indexEnding) = none :=
    dropEnding?_append_of_ne isEnding_indexEnding.ne_nil getLast?_dataEnding_ne
      isEnding_dataEnding.ne_nil
  rw [Pair.baseOf, hdata, dropEnding?_eq_some_iff.2 rfl]

/-! ## Opening -/

/-- A corpus is opened by the path of its index file. -/
theorem Pair.open?_index {tree : Tree} {base : String} {index data : Bytes}
    (hindex : tree.read (base ++ indexEnding) = .ok index)
    (hdata : tree.read (base ++ dataEnding) = .ok (Gzip.encode data)) :
    Pair.open? tree (base ++ indexEnding) =
      ((Table.parse data.length index).map fun table => ⟨base, data, table⟩).mapError fun cause =>
        .cannotOpen (base ++ indexEnding) (.badTable cause) := by
  have hread : Pair.readData tree base = .ok data := by
    rw [Pair.readData, hdata]
    dsimp only
    rw [Gzip.decode_encode]
  rw [Pair.open?, Pair.baseOf_index, ok_bind]
  dsimp only
  rw [hindex]
  dsimp only
  rw [hread, ok_bind]
  cases Table.parse data.length index <;> rfl

/-! ## Spans side by side -/

/-- The spans lie side by side from `start` to `stop`, in their order. -/
def Tiles : Nat → Nat → List Span → Prop
  | start, stop, [] => start = stop
  | start, stop, span :: rest =>
    span.start = start ∧ span.start ≤ span.stop ∧ Tiles span.stop stop rest

theorem Tiles.stop_le {start stop : Nat} {spans : List Span} (h : Tiles start stop spans) :
    start ≤ stop ∧ ∀ span ∈ spans, span.stop ≤ stop := by
  induction spans generalizing start with
  | nil => exact ⟨le_of_eq h, by simp⟩
  | cons span rest ih =>
    obtain ⟨hstart, hle, hrest⟩ := h
    obtain ⟨hstop, hspans⟩ := ih hrest
    refine ⟨by omega, fun s hs => ?_⟩
    rcases List.mem_cons.1 hs with rfl | hs
    · exact hstop
    · exact hspans s hs

end Concordance.Compact
