import Mathlib
import Concordance.Proofs.Text.Bytes
import Concordance.Text.Natural

/-!
# The natural order is an order

Runs are ordered, runs of digits by number and other runs by bytes, lists of runs are ordered by the
first difference, and what is left equal is ordered by its bytes.

* `compareRuns_eq` says that lists of runs are compared lexicographically.
* The instances for `naturalOrder` say that it is oriented and transitive, and that only equal names
  compare equal.
* `naturalOrder_strict_total` says what that comes to: any two different names are in order one way
  and not the other, and the order has no cycles.
-/

namespace Concordance.Text

open Std (TransCmp OrientedCmp LawfulEqCmp)

/-- An order of what names are mapped to gives an order of names. -/
theorem transCmp_of_map {α β : Type} (f : α → β) (cmp : β → β → Ordering) [TransCmp cmp] :
    TransCmp fun a b => cmp (f a) (f b) where
  eq_swap {a b} := @OrientedCmp.eq_swap β cmp _ (f a) (f b)
  isLE_trans {a b c} := @TransCmp.isLE_trans β cmp _ (f a) (f b) (f c)

instance : TransCmp byteOrder := transCmp_of_map utf8 compare

/-- Digit runs are compared by what is left of them without leading zeros: its length, and then its
bytes. -/
instance : TransCmp compareDigits :=
  inferInstanceAs <| TransCmp <| compareLex
    (compareOn fun run : Bytes => (run.dropWhile (· == 0x30)).length)
    (compareOn fun run : Bytes => run.dropWhile (· == 0x30))

instance : TransCmp Run.order where
  eq_swap {a b} := by
    cases a with
    | digits a =>
      cases b with
      | digits b => exact @OrientedCmp.eq_swap _ compareDigits _ a b
      | other b => rfl
    | other a =>
      cases b with
      | digits b => rfl
      | other b => exact Std.OrientedOrd.eq_swap
  isLE_trans {a b c} hab hbc := by
    cases a with
    | digits a =>
      cases c with
      | other c => rfl
      | digits c =>
        cases b with
        | digits b => exact @TransCmp.isLE_trans _ compareDigits _ a b c hab hbc
        | other b => cases hbc
    | other a =>
      cases b with
      | digits b => cases hab
      | other b =>
        cases c with
        | digits c => cases hbc
        | other c => exact @Std.TransOrd.isLE_trans Bytes _ _ a b c hab hbc

theorem compareRuns_eq : compareRuns = List.compareLex Run.order := by
  funext a b
  induction a generalizing b with
  | nil => cases b <;> rfl
  | cons first rest ih =>
    cases b with
    | nil => rfl
    | cons first' rest' => rw [compareRuns, ih, List.compareLex_cons_cons]

/-- Names are compared by their runs and then by their bytes. -/
instance : TransCmp naturalOrder := by
  have hruns : TransCmp fun a b => compareRuns (runs (utf8 a)) (runs (utf8 b)) := by
    rw [compareRuns_eq]
    exact transCmp_of_map (fun name => runs (utf8 name)) (List.compareLex Run.order)
  exact inferInstanceAs <| TransCmp <| compareLex
    (fun a b => compareRuns (runs (utf8 a)) (runs (utf8 b))) byteOrder

/-! ## Equal names -/

theorem utf8_injective : Function.Injective utf8 := by
  intro a b h
  apply String.toList_injective
  exact encode_injective h

/-- Texts with the same bytes are equal. -/
instance : LawfulEqCmp byteOrder where
  eq_of_compare {a b} h := by
    apply utf8_injective
    exact LawfulEqCmp.eq_of_compare h

/-- Names whose runs compare equal may differ in leading zeros, so it is their bytes that tell them
apart. -/
instance : LawfulEqCmp naturalOrder where
  eq_of_compare {a b} h := by
    obtain ⟨-, hbytes⟩ := Ordering.then_eq_eq.1 h
    exact LawfulEqCmp.eq_of_compare hbytes

/-- The natural order is a strict total order of names: exactly equal names compare equal, the other
way round the comparison is reversed, and what is less than something less is less. -/
theorem naturalOrder_strict_total (a b c : String) :
    (naturalOrder a b = .eq ↔ a = b) ∧
    naturalOrder b a = (naturalOrder a b).swap ∧
    (naturalOrder a b = .lt → naturalOrder b c = .lt → naturalOrder a c = .lt) := by
  refine ⟨?_, ?_, ?_⟩
  · exact LawfulEqCmp.compare_eq_iff_eq
  · exact OrientedCmp.eq_swap
  · intro hab hbc
    exact TransCmp.lt_trans hab hbc

end Concordance.Text
