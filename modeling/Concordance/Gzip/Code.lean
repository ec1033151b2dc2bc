import Concordance.Gzip.Bits

/-!
# Codes with words of different lengths

A code is given by the length of the word of each symbol, with zero for a symbol without a word.
Words are in order of length and, at one length, of their symbols, so the lengths are all there is
to know.

* `Code.ofLengths` is the code with some lengths, `Code.take` reads one symbol.
* `Code.spare` is the part of the words that no symbol has: a code that has more words than fit is
  over-full, one that has fewer is incomplete.
-/

namespace Concordance.Gzip

/-- A code. -/
structure Code where
  /-- How many words there are of each length, from one bit on. -/
  counts : List Nat
  /-- The symbols in the order of their words. -/
  symbols : List Nat
  deriving DecidableEq, Repr

namespace Code

/-- The code in which the symbols from zero on have words of these lengths. -/
def ofLengths (lengths : List Nat) : Code :=
  let longest := lengths.foldl max 1
  let ofLength (n : Nat) : List Nat :=
    (lengths.zipIdx.filter fun (length, _) => length == n).map Prod.snd
  let words := (List.range longest).map fun n => ofLength (n + 1)
  ⟨words.map List.length, words.flatten⟩

/-- What is left of a number of words once the words of each length are taken, in words of the
greatest length; nothing if there are too many. -/
def spareOf : Nat → List Nat → Option Nat
  | left, [] => some left
  | left, count :: rest => if count ≤ 2 * left then spareOf (2 * left - count) rest else none

/-- The words that no symbol has; nothing if the code is over-full. -/
def spare (code : Code) : Option Nat := spareOf 1 code.counts

/-- Does some symbol have a word? -/
def isEmpty (code : Code) : Bool := code.symbols.isEmpty

/-- Does every sequence of bits begin with a word? -/
def isComplete (code : Code) : Bool := code.spare == some 0

/-- Is one bit the length of the only word? -/
def isSingle (code : Code) : Bool := code.counts == [1]

/-- Reads a word bit by bit.  The number is the place of the bits read among the words of their
length, `counts` are those of the greater lengths and `symbols` theirs. -/
def takeWord : List Nat → List Nat → Nat → Scan Nat
  | [], _, _ => corrupt
  | count :: counts, symbols, place => do
    let bit ← takeBit
    let place := 2 * place + bit.toNat
    if place < count then
      match symbols[place]? with
      | some symbol => pure symbol
      | none => corrupt
    else takeWord counts (symbols.drop count) (place - count)

/-- Reads one symbol. -/
def take (code : Code) : Scan Nat := takeWord code.counts code.symbols 0

end Code

end Concordance.Gzip
