import Concordance.Text.Bytes

/-!
# The checksum of compressed data

* `crc` is the cyclic redundancy check of some bytes with the polynomial `0xEDB88320`, the least
  significant bit first.
-/

namespace Concordance.Gzip

open Concordance.Text (Bytes)

/-- Divides one bit. -/
def crcShift (r : UInt32) : UInt32 :=
  if r &&& 1 = 1 then (r >>> 1) ^^^ 0xEDB88320 else r >>> 1

/-- Takes one byte into the remainder. -/
def crcByte (r : UInt32) (b : UInt8) : UInt32 :=
  Nat.repeat crcShift 8 (r ^^^ b.toUInt32)

/-- The check of some bytes. -/
def crc (b : Bytes) : UInt32 := b.foldl crcByte 0xFFFFFFFF ^^^ 0xFFFFFFFF

end Concordance.Gzip
