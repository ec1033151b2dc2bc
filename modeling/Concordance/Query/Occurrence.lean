import Concordance.Text.Bytes

/-!
# Spans and occurrences

A span is a range of bytes in a text, from its start up to but not including its stop.

* `occurrences` are the places where some bytes occur in others, from left to right and without
  overlap: each is the first one at or behind the end of the one before it.
-/

namespace Concordance

open Concordance.Text (Bytes)

/-- A range of bytes. -/
structure Span where
  /-- The offset of the first byte. -/
  start : Nat
  /-- The offset behind the last byte. -/
  stop : Nat
  deriving DecidableEq, Repr

namespace Span

/-- Has the span no bytes? -/
def isEmpty (s : Span) : Bool := s.stop ≤ s.start

/-- Does the span cover the byte at offset `n`? -/
def Covers (s : Span) (n : Nat) : Prop := s.start ≤ n ∧ n < s.stop

instance (s : Span) (n : Nat) : Decidable (s.Covers n) := inferInstanceAs (Decidable (_ ∧ _))

end Span

/-- The offsets at which `needle` occurs in some bytes without overlap, from left to right.  The
bytes begin at offset `at_`, and the next `skip` of them belong to the occurrence before. -/
def occurrencesFrom (needle : Bytes) (at_ skip : Nat) : Bytes → List Nat
  | [] => []
  | b :: rest =>
    match skip with
    | skip + 1 => occurrencesFrom needle (at_ + 1) skip rest
    | 0 =>
      if needle.isPrefixOf (b :: rest) then
        at_ :: occurrencesFrom needle (at_ + 1) (needle.length - 1) rest
      else occurrencesFrom needle (at_ + 1) 0 rest

/-- The offsets at which `needle`, which is not empty, occurs in `bytes` without overlap. -/
def occurrences (needle bytes : Bytes) : List Nat := occurrencesFrom needle 0 0 bytes

/-- Does `needle` occur in some bytes? -/
def occursIn (needle : Bytes) : Bytes → Bool
  | [] => needle.isEmpty
  | b :: rest => needle.isPrefixOf (b :: rest) || occursIn needle rest

end Concordance
