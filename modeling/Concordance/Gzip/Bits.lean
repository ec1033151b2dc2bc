import Concordance.Gzip.Error
import Concordance.Text.Bytes

/-!
# Bits

Compressed data is read bit by bit, the least significant bit of each byte first.

* `bitsOf` are the bits of some bytes.
* `takeBit`, `takeNumber`, `takeByte` and `skipToByte` read from the front of the bits that are
  left.  Where they end too early, the blocks are incomplete.
* `bytesOf` are the whole bytes that are left.
-/

namespace Concordance.Gzip

open Concordance.Text (Bytes)

/-- What is left of a sequence of bits. -/
abbrev Bits := List Bool

/-- Reading from the front of bits. -/
abbrev Scan := StateT Bits (Except GzipError)

/-- The bits of a byte. -/
def bitsOfByte (b : UInt8) : Bits := (List.range 8).map b.toNat.testBit

/-- The bits of some bytes. -/
def bitsOf (b : Bytes) : Bits := b.flatMap bitsOfByte

/-- The number with these bits, the least significant bit first. -/
def numberOf : Bits → Nat
  | [] => 0
  | bit :: rest => bit.toNat + 2 * numberOf rest

/-- The whole bytes of some bits. -/
def bytesOf : Bits → Bytes
  | a :: b :: c :: d :: e :: f :: g :: h :: rest =>
    UInt8.ofNat (numberOf [a, b, c, d, e, f, g, h]) :: bytesOf rest
  | _ => []

/-- Reads a bit. -/
def takeBit : Scan Bool
  | [] => .error .incompleteBlocks
  | bit :: rest => .ok (bit, rest)

/-- Reads a number of `n` bits. -/
def takeNumber (n : Nat) : Scan Nat := fun bits =>
  let taken := bits.take n
  if taken.length = n then .ok (numberOf taken, bits.drop n) else .error .incompleteBlocks

/-- Reads a byte. -/
def takeByte : Scan UInt8 := UInt8.ofNat <$> takeNumber 8

/-- Drops the bits that are left of a byte that has been begun. -/
def skipToByte : Scan Unit := fun bits => .ok ((), bits.drop (bits.length % 8))

/-- Refuses the blocks. -/
def corrupt {α : Type} : Scan α := fun _ => .error .corruptBlocks

end Concordance.Gzip
