import Concordance.Text.Bytes

/-!
# Numbers of the index file

Offsets and sizes are written in base 64 with the digits `A`–`Z`, `a`–`z`, `0`–`9`, `+`, `/`, the
most significant digit first, without padding and without leading zeros; zero is `A`.  The
numbers have at most 64 bits.

* `encode` writes a number, `decode?` reads one: it refuses an empty text, a byte that is no
  digit, and a value that does not fit.
-/

namespace Concordance.Compact.Number

open Concordance.Text (Bytes)

/-- The bound of the numbers. -/
def limit : Nat := Nat.pow 2 64

/-- The digit that stands for a value below 64. -/
def digit (v : Nat) : Char :=
  if v < 26 then Char.ofNat (65 + v)
  else if v < 52 then Char.ofNat (97 + (v - 26))
  else if v < 62 then Char.ofNat (48 + (v - 52))
  else if v = 62 then '+'
  else '/'

/-- The value of a digit. -/
def value? (b : UInt8) : Option Nat :=
  let n := b.toNat
  if 65 ≤ n ∧ n ≤ 90 then some (n - 65)
  else if 97 ≤ n ∧ n ≤ 122 then some (n - 97 + 26)
  else if 48 ≤ n ∧ n ≤ 57 then some (n - 48 + 52)
  else if n = 43 then some 62
  else if n = 47 then some 63
  else none

/-- The digits of a number, in front of `rest`. -/
def digits (n : Nat) (rest : List Char) : List Char :=
  if n < 64 then digit n :: rest else digits (n / 64) (digit (n % 64) :: rest)
termination_by n
decreasing_by omega

/-- The written form of a number. -/
def encode (n : UInt64) : String := String.ofList (digits n.toNat [])

/-- Reads digits behind a value already read.  Another digit is refused once it would carry the
value out of 64 bits. -/
def decodeFrom (v : Nat) : Bytes → Option Nat
  | [] => some v
  | b :: rest =>
    match value? b with
    | none => none
    | some d => if v * 64 < limit then decodeFrom (v * 64 + d) rest else none

/-- The number with this written form; leading zeros are allowed. -/
def decode? : Bytes → Option Nat
  | [] => none
  | b => decodeFrom 0 b

end Concordance.Compact.Number
