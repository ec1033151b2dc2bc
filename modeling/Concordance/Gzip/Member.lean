import Concordance.Gzip.Block
import Concordance.Gzip.Checksum

/-!
# Compressed files

A compressed file is a sequence of members.  A member has a header, compressed blocks, and a
trailer with the checksum and the length of the content, both in 32 bits.  The content of the file
is that of its members one after another.

* `decode` reads a file.
* `encode` writes a file with one member, whose blocks hold the bytes as they are.
-/

namespace Concordance.Gzip

open Concordance.Text (Bytes)

/-! ## Numbers -/

/-- The number that some bytes stand for, the least significant byte first. -/
def littleEndian : Bytes → Nat
  | [] => 0
  | b :: rest => b.toNat + 256 * littleEndian rest

/-- The `n` bytes of a number, the least significant byte first. -/
def toLittleEndian : Nat → Nat → Bytes
  | 0, _ => []
  | n + 1, v => UInt8.ofNat v :: toLittleEndian n (v / 256)

/-! ## Headers -/

/-- Splits off the first `n` bytes. -/
def splitBytes (n : Nat) (b : Bytes) : Except GzipError (Bytes × Bytes) :=
  let taken := b.take n
  if taken.length = n then .ok (taken, b.drop n) else .error .unexpectedEnd

/-- The greatest length of a text in a header. -/
def textLimit : Nat := 65535

/-- Drops a text and the zero byte behind it; `room` is how long the text may still be. -/
def dropText : Nat → Bytes → Except GzipError Bytes
  | _, [] => .error .unexpectedEnd
  | 0, b :: rest => if b = 0 then .ok rest else .error .textTooLong
  | room + 1, b :: rest => if b = 0 then .ok rest else dropText room rest

/-- Drops an extra field with its length. -/
def dropExtra (b : Bytes) : Except GzipError Bytes := do
  let (length, b) ← splitBytes 2 b
  let (_, b) ← splitBytes (littleEndian length) b
  pure b

/-- Checks the header's own checksum, the lower half of that of all bytes before it. -/
def dropHeaderCheck (file b : Bytes) : Except GzipError Bytes := do
  let header := file.take (file.length - b.length)
  let (check, b) ← splitBytes 2 b
  if littleEndian check = (crc header).toNat % 65536 then pure b else .error .badChecksum

/-- Drops the header of a member: two fixed bytes, the method, flags for further fields, six bytes
that do not matter, and the fields. -/
def dropHeader (file : Bytes) : Except GzipError Bytes := do
  let (fixed, b) ← splitBytes 10 file
  match fixed with
  | 0x1F :: 0x8B :: 8 :: flags :: _ =>
    let has (bit : Nat) : Bool := flags.toNat.testBit bit
    if has 5 || has 6 || has 7 then .error .badHeader
    else
      let b ← if has 2 then dropExtra b else pure b
      let b ← if has 3 then dropText textLimit b else pure b
      let b ← if has 4 then dropText textLimit b else pure b
      if has 1 then dropHeaderCheck file b else pure b
  | _ => .error .badHeader

/-! ## Reading -/

/-- Checks the trailer of a member against its content. -/
def dropTrailer (content b : Bytes) : Except GzipError Bytes := do
  let (check, b) ← splitBytes 4 b
  let (length, b) ← splitBytes 4 b
  if littleEndian check = (crc content).toNat ∧ littleEndian length = content.length % Nat.pow 2 32 then
    pure b
  else .error .badChecksum

/-- Reads a member, and gives its content and what is left of the file. -/
def takeMember (file : Bytes) : Except GzipError (Bytes × Bytes) := do
  let b ← dropHeader file
  let (content, bits) ← takeBlocks.run (bitsOf b)
  let b ← dropTrailer content (bytesOf bits)
  pure (content, b)

/-- Reads members up to the end of the file, at most `fuel` of them. -/
def decodeFrom : Nat → Bytes → Except GzipError Bytes
  | 0, _ => .ok []
  | fuel + 1, file => do
    let (content, rest) ← takeMember file
    if rest.isEmpty then pure content
    else
      let more ← decodeFrom fuel rest
      pure (content ++ more)

/-- Reads a file with at least one member.  There are no more members than bytes. -/
def decode (file : Bytes) : Except GzipError Bytes := decodeFrom (file.length + 1) file

/-! ## Writing -/

/-- The header of a written member: no flags, no time, and an unknown system. -/
def header : Bytes := [0x1F, 0x8B, 8, 0, 0, 0, 0, 0, 0, 0xFF]

/-- The greatest length of a block of bytes as they are. -/
def blockLimit : Nat := 65535

/-- A block of bytes as they are. -/
def storedBlock (last : Bool) (b : Bytes) : Bytes :=
  (if last then 1 else 0) :: toLittleEndian 2 b.length ++ toLittleEndian 2 (0xFFFF - b.length) ++ b

/-- Blocks of bytes as they are. -/
def storedBlocks (b : Bytes) : Bytes :=
  if b.length ≤ blockLimit then storedBlock true b
  else storedBlock false (b.take blockLimit) ++ storedBlocks (b.drop blockLimit)
termination_by b.length
decreasing_by
  have : 0 < blockLimit := by decide
  simp only [List.length_drop]
  omega

/-- Writes a file with one member. -/
def encode (content : Bytes) : Bytes :=
  header ++ storedBlocks content ++ toLittleEndian 4 (crc content).toNat
    ++ toLittleEndian 4 content.length

end Concordance.Gzip
