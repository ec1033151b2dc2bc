/-!
# Binary numbers of double precision

A double is a whole number of at most 53 bits times a power of two, or infinite, or not a number.

* `Double.ofDecimal` is the double nearest to a decimal number.
-/

namespace Concordance

/-- A binary number of double precision. -/
inductive Double where
  /-- Not a number. -/
  | nan
  /-- Above or below all numbers. -/
  | infinite (negative : Bool)
  /-- The number `m * 2 ^ q`.  Zero has a sign too. -/
  | finite (negative : Bool) (m : Nat) (q : Int)
  deriving DecidableEq, Repr

namespace Double

/-- The least power of two. -/
def minPower : Int := -1074

/-- The greatest power of two. -/
def maxPower : Int := 971

/-- The bound of the whole numbers. -/
def bound : Nat := Nat.pow 2 53

/-- `b ^ e`, or one for a negative `e`. -/
def powerUp (b : Nat) (e : Int) : Nat := Nat.pow b e.toNat

/-- The whole number nearest to a quotient; of two equally near ones the even one. -/
def roundQuotient (a b : Nat) : Nat :=
  let low := a / b
  let rest := 2 * (a % b)
  if rest < b ∨ (rest = b ∧ low % 2 = 0) then low else low + 1

/-- A whole number times a power of two, where the number may have reached the bound. -/
def ofParts (negative : Bool) (m : Nat) (q : Int) : Double :=
  let (m, q) := if m = bound then (bound / 2, q + 1) else (m, q)
  if maxPower < q then .infinite negative else .finite negative m q

/-- The double nearest to the quotient of two numbers above zero. -/
def ofQuotient (negative : Bool) (a b : Nat) : Double :=
  let power := max ((a.log2 : Int) - b.log2 - 53) minPower
  let scaled (q : Int) : Nat × Nat := (a * powerUp 2 (-q), b * powerUp 2 q)
  let (low, unit) := scaled power
  let power := if bound ≤ low / unit then power + 1 else power
  let (a, b) := scaled power
  ofParts negative (roundQuotient a b) power

/-- The number of decimal digits. -/
def digitCount (n : Nat) : Nat := (Nat.toDigits 10 n).length

/-- The double nearest to `n * 10 ^ e`. -/
def ofDecimal (negative : Bool) (n : Nat) (e : Int) : Double :=
  if n = 0 then .finite negative 0 0
  else if 310 < digitCount n + e then .infinite negative
  else if digitCount n + e < -330 then .finite negative 0 0
  else ofQuotient negative (n * powerUp 10 e) (powerUp 10 (-e))

/-- Is the number zero? -/
def isZero : Double → Bool
  | .finite _ m _ => m == 0
  | _ => false

/-- Is the number infinite? -/
def isInfinite : Double → Bool
  | .infinite _ => true
  | _ => false

/-- Is the number finite? -/
def isFinite : Double → Bool
  | .finite _ _ _ => true
  | _ => false

end Double

end Concordance
