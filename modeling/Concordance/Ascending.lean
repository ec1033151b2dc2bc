/-!
# Numbers in increasing order

* `ascending` are the numbers of a list in increasing order, each once.
* `common` are the numbers that several increasing arrays have in common.
-/

namespace Concordance

/-- Removes what equals the element before it. -/
def dropRepeats : List Nat → List Nat
  | a :: b :: rest => if a = b then dropRepeats (b :: rest) else a :: dropRepeats (b :: rest)
  | s => s

/-- The numbers of a list in increasing order, each once. -/
def ascending (s : List Nat) : List Nat := dropRepeats (s.mergeSort fun a b => a ≤ b)

/-! ## Common numbers -/

/-- Those of some numbers that are in each of some increasing arrays, one array after another.
Nothing is looked for any more once no number is left. -/
def retain (found : List Nat) : List (Array Nat) → List Nat
  | [] => found
  | s :: rest =>
    let left := found.filter fun n => s.binSearchContains n (· < ·)
    if left.isEmpty then [] else retain left rest

/-- The numbers that several increasing arrays have in common, looked for among those of the
shortest one. -/
def common (arrays : List (Array Nat)) : List Nat :=
  match arrays.mergeSort fun a b => a.size ≤ b.size with
  | [] => []
  | shortest :: rest => retain shortest.toList rest

end Concordance
