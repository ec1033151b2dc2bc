import Concordance.Gzip.Code

/-!
# Compressed blocks

Compressed data is a sequence of blocks, of which the last one is marked.  A block holds bytes as
they are, or symbols of a code: a symbol below 256 is a byte, 256 ends the block, and a symbol
above stands for a repetition of bytes already written, with a length and a distance.

* `takeBlocks` reads all blocks into the bytes they stand for.
-/

namespace Concordance.Gzip

open Concordance.Text (Bytes)

/-- The least value of a symbol for lengths or distances, and the number of bits to add. -/
structure Base where
  /-- The least value. -/
  value : Nat
  /-- The number of bits that follow. -/
  extra : Nat
  deriving DecidableEq, Repr

/-- Bases from their numbers of bits, each beginning where the one before ends. -/
def basesFrom : Nat → List Nat → List Base
  | _, [] => []
  | value, extra :: rest => ⟨value, extra⟩ :: basesFrom (value + 2 ^ extra) rest

/-- The lengths of the symbols from 257 on; the last one is the greatest length by itself. -/
def lengthBases : List Base :=
  basesFrom 3 ([0, 0, 0, 0, 0, 0, 0, 0, 1, 1, 1, 1, 2, 2, 2, 2, 3, 3, 3, 3, 4, 4, 4, 4, 5, 5, 5, 5])
    ++ [⟨258, 0⟩]

/-- The distances of the symbols of the second code. -/
def distanceBases : List Base :=
  basesFrom 1 [0, 0, 0, 0, 1, 1, 2, 2, 3, 3, 4, 4, 5, 5, 6, 6, 7, 7, 8, 8, 9, 9, 10, 10, 11, 11,
    12, 12, 13, 13]

/-- Reads the value of a symbol with a base. -/
def takeValue (bases : List Base) (symbol : Nat) : Scan Nat :=
  match bases[symbol]? with
  | none => corrupt
  | some base => do return base.value + (← takeNumber base.extra)

/-! ## Bytes as they are -/

/-- Reads `n` bytes behind those already written. -/
def takeBytes : Nat → Array UInt8 → Scan (Array UInt8)
  | 0, out => pure out
  | n + 1, out => do
    let b ← takeByte
    takeBytes n (out.push b)

/-- Reads a block of bytes as they are: their number, its complement, and the bytes. -/
def takeStored (out : Array UInt8) : Scan (Array UInt8) := do
  skipToByte
  let length ← takeNumber 16
  let complement ← takeNumber 16
  if length + complement = 0xFFFF then takeBytes length out else corrupt

/-! ## Symbols -/

/-- Writes `n` bytes again that stand at a distance. -/
def copyBytes (distance : Nat) : Nat → Array UInt8 → Array UInt8
  | 0, out => out
  | n + 1, out => copyBytes distance n (out.push (out.getD (out.size - distance) 0))

/-- Reads symbols up to the end of the block, at most `fuel` of them.  Every symbol has at least
one bit, so there are no more symbols than bits. -/
def takeSymbols (literals distances : Code) : Nat → Array UInt8 → Scan (Array UInt8)
  | 0, _ => corrupt
  | fuel + 1, out => do
    let symbol ← literals.take
    if symbol < 256 then takeSymbols literals distances fuel (out.push (UInt8.ofNat symbol))
    else if symbol = 256 then pure out
    else
      let length ← takeValue lengthBases (symbol - 257)
      let distance ← takeValue distanceBases (← distances.take)
      if distance ≤ out.size then
        takeSymbols literals distances fuel (copyBytes distance length out)
      else corrupt

/-- Reads the symbols of a block. -/
def takeCoded (literals distances : Code) (out : Array UInt8) : Scan (Array UInt8) := fun bits =>
  takeSymbols literals distances (bits.length + 1) out bits

/-- The code of the literals and lengths where a block gives none. -/
def fixedLiterals : Code :=
  .ofLengths (List.replicate 144 8 ++ List.replicate 112 9 ++ List.replicate 24 7
    ++ List.replicate 8 8)

/-- The code of the distances where a block gives none. -/
def fixedDistances : Code := .ofLengths (List.replicate 32 5)

/-! ## Codes of a block -/

/-- The order in which the lengths of the words for lengths are given. -/
def lengthOrder : List Nat := [16, 17, 18, 0, 8, 7, 9, 6, 10, 5, 11, 4, 12, 3, 13, 2, 14, 1, 15]

/-- Reads a number for each of some symbols. -/
def takeThrees : List Nat → Scan (List (Nat × Nat))
  | [] => pure []
  | symbol :: rest => do
    let length ← takeNumber 3
    return (symbol, length) :: (← takeThrees rest)

/-- Reads the code in which the lengths of the other codes are written.  Without any word, each
bit stands for the length zero. -/
def takeLengthCode (n : Nat) : Scan Code := do
  let given ← takeThrees (lengthOrder.take n)
  let lengths := (List.range 19).map fun symbol => (given.lookup symbol).getD 0
  let code := Code.ofLengths lengths
  if code.isEmpty then pure ⟨[2], [0, 0]⟩
  else if code.isComplete then pure code
  else corrupt

/-- Reads `n` lengths, where some symbols stand for repeated lengths; `lengths` are those already
read, the latest first.  Each round reads at least one length, so `fuel` is as many as are
missing. -/
def takeLengths (code : Code) (n : Nat) : Nat → List Nat → Scan (List Nat)
  | 0, lengths => pure lengths.reverse
  | fuel + 1, lengths => do
    if n ≤ lengths.length then pure lengths.reverse
    else
      let symbol ← code.take
      if symbol < 16 then takeLengths code n fuel (symbol :: lengths)
      else
        let (length, count) ←
          if symbol = 16 then do
            let count ← takeNumber 2
            match lengths with
            | last :: _ => pure (last, 3 + count)
            | [] => corrupt
          else if symbol = 17 then do pure (0, 3 + (← takeNumber 3))
          else do pure (0, 11 + (← takeNumber 7))
        if lengths.length + count ≤ n then
          takeLengths code n fuel (List.replicate count length ++ lengths)
        else corrupt

/-- Can the code be used for distances?  It may be incomplete if it has one word or none. -/
def isDistanceCode (code : Code) : Bool := code.isComplete || code.isSingle || code.isEmpty

/-- Can the code be used for literals and lengths? -/
def isLiteralCode (code : Code) : Bool := code.isComplete || code.isSingle

/-- Reads the two codes of a block. -/
def takeCodes : Scan (Code × Code) := do
  let literals := (← takeNumber 5) + 257
  let distances := (← takeNumber 5) + 1
  let given := (← takeNumber 4) + 4
  if 286 < literals ∨ 30 < distances then corrupt
  else
    let code ← takeLengthCode given
    let lengths ← takeLengths code (literals + distances) (literals + distances) []
    let literalCode := Code.ofLengths (lengths.take literals)
    let distanceCode := Code.ofLengths (lengths.drop literals)
    if lengths.getD 256 0 ≠ 0 ∧ isLiteralCode literalCode ∧ isDistanceCode distanceCode then
      pure (literalCode, distanceCode)
    else corrupt

/-! ## Blocks -/

/-- Reads blocks up to the last one, at most `fuel` of them, behind what is already written. -/
def takeBlocksFrom : Nat → Array UInt8 → Scan (Array UInt8)
  | 0, _ => corrupt
  | fuel + 1, out => do
    let last ← takeBit
    let kind ← takeNumber 2
    let out ←
      match kind with
      | 0 => takeStored out
      | 1 => takeCoded fixedLiterals fixedDistances out
      | 2 => do
        let (literals, distances) ← takeCodes
        takeCoded literals distances out
      | _ => corrupt
    if last then pure out else takeBlocksFrom fuel out

/-- Reads all blocks, and what is left of the last byte.  There are no more blocks than bits. -/
def takeBlocks : Scan Bytes := do
  let bits ← get
  let out ← takeBlocksFrom (bits.length + 1) #[]
  skipToByte
  pure out.toList

end Concordance.Gzip
