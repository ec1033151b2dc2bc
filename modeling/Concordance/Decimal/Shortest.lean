import Concordance.Decimal.Double

/-!
# Shortest decimal texts

A double is written with the fewest digits that read back as the same double, and of those the
nearest to it.  There is no exponent.

* `Double.text` is the text of a double.
-/

namespace Concordance.Double

/-- The numbers that read back as a double, scaled: the double itself, and the ends of the
interval around it, in quarters of its last bit. -/
structure Neighbourhood where
  /-- The lower end. -/
  low : Nat
  /-- The double. -/
  mid : Nat
  /-- The upper end. -/
  high : Nat
  /-- Do the ends belong to it? -/
  closed : Bool

/-- The neighbourhood of `m * 2 ^ q`.  Below a power of two the next double is nearer. -/
def neighbourhood (m : Nat) (q : Int) : Neighbourhood :=
  let low := if m = bound / 2 ∧ minPower < q then 4 * m - 1 else 4 * m - 2
  ⟨low, 4 * m, 4 * m + 2, m % 2 == 0⟩

/-- Does a scaled number lie in the neighbourhood, scaled by `s`? -/
def Neighbourhood.has (n : Neighbourhood) (s x : Nat) : Bool :=
  if n.closed then n.low * s ≤ x && x ≤ n.high * s else n.low * s < x && x < n.high * s

/-- The multiple of `10 ^ p` that is in the neighbourhood of `m * 2 ^ q` and nearest to it, divided
by `10 ^ p`. -/
def onGrid? (m : Nat) (q p : Int) : Option Nat :=
  let n := neighbourhood m q
  let s := powerUp 2 (q - 2) * powerUp 10 (-p)
  let unit := powerUp 2 (2 - q) * powerUp 10 p
  let c := n.mid * s / unit
  let rest := 2 * (n.mid * s % unit)
  let below := n.has s (c * unit)
  let above := n.has s ((c + 1) * unit)
  if below ∧ (¬ above ∨ rest < unit ∨ (rest = unit ∧ c % 2 = 0)) then some c
  else if above then some (c + 1)
  else none

/-- The first of `fuel` grids, each ten times finer, that has a number in the neighbourhood, with
that number. -/
def shortestFrom (m : Nat) (q : Int) : Nat → Int → Nat × Int
  | 0, p => (0, p)
  | fuel + 1, p =>
    match onGrid? m q p with
    | some c => (c, p)
    | none => shortestFrom m q fuel (p - 1)

/-- The least number with the fewest digits, and its power of ten.  From the grid of the greatest
double down to that of the least one there are 632. -/
def shortest (m : Nat) (q : Int) : Nat × Int := shortestFrom m q 640 309

/-- The digits of a number without the zeros at the end of its fraction, of which there are
`places` digits. -/
def withPoint (digits : List Char) (places : Nat) : List Char :=
  let digits := List.replicate (places + 1 - digits.length) '0' ++ digits
  let whole := digits.take (digits.length - places)
  let fraction := ((digits.drop (digits.length - places)).reverse.dropWhile (· == '0')).reverse
  if fraction.isEmpty then whole else whole ++ '.' :: fraction

/-- The text of a double. -/
def text : Double → String
  | .nan => "NaN"
  | .infinite negative => if negative then "-inf" else "inf"
  | .finite negative m q =>
    let sign := if negative then ['-'] else []
    if m = 0 then String.ofList (sign ++ ['0'])
    else
      let (c, p) := shortest m q
      let digits := Nat.toDigits 10 (c * powerUp 10 p)
      String.ofList (sign ++ withPoint digits (-p).toNat)

end Concordance.Double
