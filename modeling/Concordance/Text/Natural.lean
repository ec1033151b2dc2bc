import Concordance.Text.Bytes

/-!
# The natural order of names

Names are compared run by run, where a run is a longest sequence of ASCII digits or a longest
sequence of other bytes.  Two runs of digits compare by the number they denote, two other runs by
their bytes, and digits come before anything else.  So `2.xml` comes before `10.xml`.  Names whose
runs all compare equal differ in leading zeros only, and are told apart by their bytes.

* `runs` cuts a name into its runs.
* `naturalOrder` is the order, `naturalLE` its use for sorting.
-/

namespace Concordance.Text

/-- A run of digits or of other bytes. -/
inductive Run where
  /-- ASCII digits only. -/
  | digits (run : Bytes)
  /-- No ASCII digit. -/
  | other (run : Bytes)
  deriving DecidableEq, Repr

/-- Is the byte an ASCII digit? -/
def isDigit (b : UInt8) : Bool := 0x30 ≤ b && b ≤ 0x39

/-- Puts a byte in front of some runs, into the first run if it is of the byte's kind. -/
def Run.push (b : UInt8) (rest : List Run) : List Run :=
  if isDigit b then
    match rest with
    | .digits run :: more => .digits (b :: run) :: more
    | _ => .digits [b] :: rest
  else
    match rest with
    | .other run :: more => .other (b :: run) :: more
    | _ => .other [b] :: rest

/-- The runs of some bytes, in order. -/
def runs : Bytes → List Run
  | [] => []
  | b :: rest => Run.push b (runs rest)

/-- Compares two digit runs by value: without leading zeros the longer one is greater, and of two
equally long ones the one that is greater by its bytes. -/
def compareDigits (a b : Bytes) : Ordering :=
  let a := a.dropWhile (· == 0x30)
  let b := b.dropWhile (· == 0x30)
  (compare a.length b.length).then (compare a b)

/-- Compares two runs. -/
def Run.order : Run → Run → Ordering
  | .digits a, .digits b => compareDigits a b
  | .other a, .other b => compare a b
  | .digits _, .other _ => .lt
  | .other _, .digits _ => .gt

/-- Compares lists of runs by the first difference; if there is none the shorter list is less. -/
def compareRuns : List Run → List Run → Ordering
  | [], [] => .eq
  | [], _ :: _ => .lt
  | _ :: _, [] => .gt
  | a :: as, b :: bs => (a.order b).then (compareRuns as bs)

/-- The natural order of two names. -/
def naturalOrder (a b : String) : Ordering :=
  (compareRuns (runs (utf8 a)) (runs (utf8 b))).then (byteOrder a b)

/-- Is `a` before `b` in natural order, or equal to it? -/
def naturalLE (a b : String) : Bool := (naturalOrder a b).isLE

end Concordance.Text
