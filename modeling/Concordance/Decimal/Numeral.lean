import Concordance.Decimal.Double

/-!
# Numerals

* `integer?` reads a whole number of 64 bits.
* `double?` reads a number with a fraction and an exponent, or the name of one that is not finite.
-/

namespace Concordance.Numeral

/-- The value of a digit. -/
def digitValue (c : Char) : Nat :=
  let n := c.toNat
  if 48 ≤ n ∧ n ≤ 57 then n - 48
  else if 97 ≤ n ∧ n ≤ 122 then n - 87
  else if 65 ≤ n ∧ n ≤ 90 then n - 55
  else 36

/-- The number that some digits stand for in a base; nothing if there are none or a character is
no digit. -/
def natural? (base : Nat) (s : List Char) : Option Nat :=
  if !s.isEmpty && s.all (fun c => digitValue c < base) then
    some (s.foldl (fun n c => n * base + digitValue c) 0)
  else none

/-- Splits off a sign.  The flag says whether it is a minus sign. -/
def splitSign : List Char → Bool × List Char
  | '+' :: rest => (false, rest)
  | '-' :: rest => (true, rest)
  | s => (false, s)

/-- A whole number of 64 bits. -/
def ofSigned? (negative : Bool) (n : Nat) : Option Int :=
  if negative then if n ≤ Nat.pow 2 63 then some (-n) else none
  else if n < Nat.pow 2 63 then some n else none

/-- The whole number of 64 bits with this written form, in a base. -/
def integerIn? (base : Nat) (s : List Char) : Option Int :=
  let (negative, digits) := splitSign s
  (natural? base digits).bind (ofSigned? negative)

/-- The whole number of 64 bits with this written form. -/
def integer? (s : List Char) : Option Int := integerIn? 10 s

/-- Is the character a decimal digit? -/
def isDigit (c : Char) : Bool := digitValue c < 10

/-- An exponent: nothing, or a letter with a whole number. -/
def exponent? : List Char → Option Int
  | [] => some 0
  | c :: rest =>
    if c = 'e' ∨ c = 'E' then
      let (negative, digits) := splitSign rest
      (natural? 10 digits).map fun n => if negative then -n else n
    else none

/-- A number without a sign: digits, perhaps with a point among, before or behind them, and an
exponent. -/
def unsigned? (negative : Bool) (s : List Char) : Option Double :=
  let whole := s.takeWhile isDigit
  let rest := s.dropWhile isDigit
  let (fraction, rest) :=
    match rest with
    | '.' :: more => (more.takeWhile isDigit, more.dropWhile isDigit)
    | _ => ([], rest)
  match natural? 10 (whole ++ fraction), exponent? rest with
  | some n, some e => some (.ofDecimal negative n (e - fraction.length))
  | _, _ => none

/-- The number with this written form. -/
def double? (s : List Char) : Option Double :=
  let (negative, rest) := splitSign s
  match String.ofList (rest.map Char.toLower) with
  | "inf" | "infinity" => some (.infinite negative)
  | "nan" => some .nan
  | _ => unsigned? negative rest

end Concordance.Numeral
