import Concordance.Decimal.Double

/-!
# Document values

Settings files of all formats are read into the same kind of value.

* `Value` is a value, `Scan` reads from the front of a text.
-/

namespace Concordance.Document

/-- A value of a settings file. -/
inductive Value where
  /-- No value. -/
  | null
  /-- A truth value. -/
  | bool (b : Bool)
  /-- A whole number of 64 bits. -/
  | integer (n : Int)
  /-- Another number. -/
  | number (x : Double)
  /-- A text. -/
  | text (s : String)
  /-- Several values in order. -/
  | list (items : List Value)
  /-- Values under keys. -/
  | table (fields : List (String × Value))
  deriving Repr, Inhabited

/-- Values under keys. -/
abbrev Fields := List (String × Value)

namespace Fields

/-- The value under a key. -/
def get? (fields : Fields) (key : String) : Option Value := List.lookup key fields

/-- Sets the value under a key. -/
def set (fields : Fields) (key : String) (v : Value) : Fields :=
  if fields.any fun f => f.1 = key then
    fields.map fun f => if f.1 = key then (key, v) else f
  else fields ++ [(key, v)]

end Fields

/-- Reading from the front of a text; it may fail. -/
abbrev Scan := StateT (List Char) Option

namespace Scan

/-- The next character, which stays. -/
def peek : Scan (Option Char) := fun s => some (s.head?, s)

/-- Takes the next character. -/
def char : Scan Char
  | [] => none
  | c :: rest => some (c, rest)

/-- Takes a given text. -/
def word (w : List Char) : Scan Unit := fun s =>
  if w.isPrefixOf s then some ((), s.drop w.length) else none

/-- Takes a given text if it is there, and tells whether it was. -/
def optional (w : List Char) : Scan Bool := fun s =>
  if w.isPrefixOf s then some (true, s.drop w.length) else some (false, s)

/-- Takes characters as long as they meet a condition. -/
def span (p : Char → Bool) : Scan (List Char) := fun s => some (s.takeWhile p, s.dropWhile p)

/-- Takes exactly `n` characters. -/
def take (n : Nat) : Scan (List Char) := fun s =>
  let taken := s.take n
  if taken.length = n then some (taken, s.drop n) else none

/-- Reads a whole text; nothing may be left. -/
def whole {α : Type} (scan : Scan α) (s : List Char) : Option α :=
  match scan s with
  | some (a, []) => some a
  | _ => none

end Scan

end Concordance.Document
