import Concordance.Text.Bytes

/-!
# Lines and fields of bytes

* `splitLast?` splits at the last occurrence of a byte.
* `trimBreak` removes the break at the end of a line.
* `lines` cuts bytes into lines, each with its break.
-/

namespace Concordance.Compact

open Concordance.Text (Bytes)

/-- The bytes before and behind the last `mark`, if there is one. -/
def splitLast? (mark : UInt8) : Bytes → Option (Bytes × Bytes)
  | [] => none
  | b :: rest =>
    match splitLast? mark rest with
    | some (before, behind) => some (b :: before, behind)
    | none => if b = mark then some ([], rest) else none

/-- Removes one `b` from the end of some bytes. -/
def dropEnd (b : UInt8) (s : Bytes) : Bytes := if s.getLast? = some b then s.dropLast else s

/-- Removes a line feed from the end, and then a carriage return. -/
def trimBreak (s : Bytes) : Bytes := dropEnd 0x0D (dropEnd 0x0A s)

/-- The lines of some bytes, each up to and with its line feed. -/
def lines : Bytes → List Bytes
  | [] => []
  | b :: rest =>
    if b = 0x0A then [b] :: lines rest
    else match lines rest with
      | [] => [[b]]
      | line :: more => (b :: line) :: more

end Concordance.Compact
