/-!
# Sets of code points

A set of code points is kept as the increasing list of its *edges*: the points where membership
changes.  The first edge is the least member, the second the least point after it that is no
member, and so on; a point is a member when an odd number of edges is at or below it.

* `CodePoints.contains` is membership.
* `CodePoints.combine` is union, intersection and difference in one sweep over the edges.
* `CodePoints.Sorted` is the invariant, as a check that can be run.
-/

namespace Concordance.Text

/-- A set of code points, by its edges. -/
structure CodePoints where
  /-- The points where membership changes, in increasing order. -/
  edges : List Nat
  deriving Repr, DecidableEq, Inhabited

namespace CodePoints

/-- Membership of `n` behind the given edges, when `inside` holds before them. -/
def insideAfter (n : Nat) (inside : Bool) : List Nat → Bool
  | [] => inside
  | e :: rest => if n < e then inside else insideAfter n (!inside) rest

/-- Is `n` a member? -/
def contains (s : CodePoints) (n : Nat) : Bool := insideAfter n false s.edges

/-- Is the character a member? -/
def has (s : CodePoints) (c : Char) : Bool := s.contains c.toNat

/-- Do these edges increase? -/
def increasing : List Nat → Bool
  | a :: b :: rest => a < b && increasing (b :: rest)
  | _ => true

/-- The invariant of a set: its edges increase. -/
def Sorted (s : CodePoints) : Prop := increasing s.edges = true

instance (s : CodePoints) : Decidable s.Sorted := inferInstanceAs (Decidable (_ = true))

/-! ## Building sets -/

/-- The set without members. -/
def empty : CodePoints := ⟨[]⟩

/-- All code points. -/
def all : CodePoints := ⟨[0, 0x110000]⟩

/-- The code points from `low` to `high`; none if `high` is below `low`. -/
def range (low high : Nat) : CodePoints := if low ≤ high then ⟨[low, high + 1]⟩ else empty

/-- The set of one code point. -/
def single (n : Nat) : CodePoints := range n n

/-- The edges of two sets swept together: `x` and `y` tell whether the sweep is inside the first
and inside the second set, and an edge is kept where `keep x y` changes. -/
def sweep (keep : Bool → Bool → Bool) (x y : Bool) : List Nat → List Nat → List Nat
  | [], [] => []
  | a :: as, [] => step (keep x y) (keep (!x) y) a (sweep keep (!x) y as [])
  | [], b :: bs => step (keep x y) (keep x (!y)) b (sweep keep x (!y) [] bs)
  | a :: as, b :: bs =>
    if a < b then step (keep x y) (keep (!x) y) a (sweep keep (!x) y as (b :: bs))
    else if b < a then step (keep x y) (keep x (!y)) b (sweep keep x (!y) (a :: as) bs)
    else step (keep x y) (keep (!x) (!y)) a (sweep keep (!x) (!y) as bs)
termination_by s t => s.length + t.length
where
  /-- Keeps the edge `e` if membership differs before and after it. -/
  step (before after : Bool) (e : Nat) (rest : List Nat) : List Nat :=
    if before == after then rest else e :: rest

/-- The points at which `keep` holds of the memberships in `s` and in `t`.  A point in neither is
never in the result. -/
def combine (keep : Bool → Bool → Bool) (s t : CodePoints) : CodePoints :=
  ⟨sweep (fun x y => (x || y) && keep x y) false false s.edges t.edges⟩

/-- The points in either set. -/
def union (s t : CodePoints) : CodePoints := combine (· || ·) s t

/-- The points in both sets. -/
def inter (s t : CodePoints) : CodePoints := combine (· && ·) s t

/-- The points of the first set that are not in the second. -/
def diff (s t : CodePoints) : CodePoints := combine (fun x y => x && !y) s t

/-- The points in exactly one of the sets. -/
def symmDiff (s t : CodePoints) : CodePoints := combine xor s t

/-- The code points that are not members. -/
def compl (s : CodePoints) : CodePoints := all.diff s

/-- The members as ranges with their ends. -/
def ranges (s : CodePoints) : List (Nat × Nat) := go s.edges
where
  /-- Pairs the edges. -/
  go : List Nat → List (Nat × Nat)
    | low :: next :: rest => (low, next - 1) :: go rest
    | [low] => [(low, 0x10FFFF)]
    | [] => []

/-! ## Sets written as text -/

/-- The value of a hexadecimal digit. -/
def hexDigit? (c : Char) : Option Nat :=
  if '0' ≤ c ∧ c ≤ '9' then some (c.toNat - 48)
  else if 'a' ≤ c ∧ c ≤ 'f' then some (c.toNat - 87)
  else if 'A' ≤ c ∧ c ≤ 'F' then some (c.toNat - 55)
  else none

/-- The number that hexadecimal digits write. -/
def hexNumber (digits : List Char) : Nat :=
  digits.foldl (fun n c => n * 16 + (hexDigit? c).getD 0) 0

/-- The edges of every other point from `low`, `count` points in all. -/
def everyOther (low : Nat) : Nat → List Nat
  | 0 => []
  | count + 1 => low :: (low + 1) :: everyOther (low + 2) count

/-- The edges of one word of a written set: `41-5a` is a range, `100~12e` is every other point
from the first to the last, and `aa` is one point. -/
def wordEdges (word : List Char) : List Nat :=
  let first := word.takeWhile fun c => c ≠ '-' && c ≠ '~'
  let low := hexNumber first
  match word.drop first.length with
  | '-' :: high => [low, hexNumber high + 1]
  | '~' :: high => everyOther low ((hexNumber high - low) / 2 + 1)
  | _ => [low, low + 1]

/-- The words between blanks. -/
def words : List Char → List (List Char)
  | [] => [[]]
  | c :: rest =>
    match words rest with
    | [] => [[c]]
    | word :: more => if c = ' ' then [] :: word :: more else (c :: word) :: more

/-- The set written in some lines, as words in increasing order. -/
def ofLines (lines : List String) : CodePoints :=
  ⟨lines.flatMap fun line => (words line.toList).flatMap wordEdges⟩

/-! ## Quick membership -/

/-- How many of the edges at positions from `low` up to `high` are at or below `n`, added to
`low`; found by halving. -/
def rank (edges : Array Nat) (n low high : Nat) : Nat :=
  if h : low < high then
    let mid := (low + high) / 2
    if edges.getD mid 0 ≤ n then rank edges n (mid + 1) high else rank edges n low mid
  else low
termination_by high - low

/-- Membership in the set with these edges. -/
def memberOf (edges : Array Nat) (n : Nat) : Bool := rank edges n 0 edges.size % 2 == 1

end CodePoints

end Concordance.Text
