import Std.Data.HashMap
import Concordance.Compact.Field
import Concordance.Compact.Number
import Concordance.Query.Occurrence

/-!
# The index file

The index file of a compact corpus has a line for each entry: the name, the offset of its content
in the data, and its size, with a tab before each number.  Where a line has no tab left, a space
does instead.

* `Row.ofLine` reads a line, `Row.check` compares it with the length of the data; a sum of its two
  numbers that overflows is outside of any data.
* `Table.parse` reads an index file; its names are in the order of the lines.
-/

namespace Concordance.Compact

open Concordance.Text (Bytes ofUtf8?)

/-- Why an index file cannot be used. -/
inductive TableError where
  /-- A line is not made of a name and two numbers. -/
  | malformed (line : Nat)
  /-- A name is not UTF-8. -/
  | nameNotUtf8 (line : Nat)
  /-- The content would not lie within the data. -/
  | outside (name : String)
  /-- Two lines have the same name. -/
  | duplicate (name : String)
  deriving DecidableEq, Repr

/-- The text for an unusable index file. -/
def TableError.message : TableError → String
  | .malformed line => "malformed index line " ++ toString line
  | .nameNotUtf8 line => "index line " ++ toString line ++ ": entry name is not UTF-8"
  | .outside name => "entry " ++ name ++ " lies outside the data file"
  | .duplicate name => "duplicate entry name: " ++ name

/-- Splits off the last field of a line: at the last tab, or at the last space if there is no
tab. -/
def splitField? (line : Bytes) : Option (Bytes × Bytes) :=
  (splitLast? 0x09 line).or (splitLast? 0x20 line)

/-- An entry of the index file. -/
structure Row where
  /-- The name of the entry. -/
  name : String
  /-- Where its content begins. -/
  offset : Nat
  /-- How many bytes it has. -/
  size : Nat
  deriving DecidableEq, Repr

/-- The span of an entry's content in the data. -/
def Row.span (r : Row) : Span := ⟨r.offset, r.offset + r.size⟩

/-- Reads a line, given its number and without its break. -/
def Row.ofLine (number : Nat) (line : Bytes) : Except TableError Row :=
  match splitField? line with
  | none => .error (.malformed number)
  | some (rest, size) =>
    match splitField? rest with
    | none => .error (.malformed number)
    | some (name, offset) =>
      match Number.decode? offset, Number.decode? size with
      | some offset, some size =>
        match ofUtf8? name with
        | some name => .ok ⟨name, offset, size⟩
        | none => .error (.nameNotUtf8 number)
      | _, _ => .error (.malformed number)

/-- Where the content of an entry ends, unless this has more than 64 bits. -/
def Row.stop? (r : Row) : Option Nat :=
  let stop := r.offset + r.size
  if stop < Number.limit then some stop else none

/-- Does the content of an entry lie within data of this length? -/
def Row.check (length : Nat) (r : Row) : Except TableError Row :=
  match r.stop?.filter (· ≤ length) with
  | some _ => .ok r
  | none => .error (.outside r.name)

/-- The names of an index file, and where the content of each lies. -/
structure Table where
  /-- The names, in the order of the lines. -/
  names : List String
  /-- The span of each name's content. -/
  spans : Std.HashMap String Span

namespace Table

/-- Where the content of an entry lies. -/
def span? (t : Table) (name : String) : Option Span := t.spans[name]?

/-- Reads lines, the first of which has the given number; blank lines are skipped.  `names` are
those of the lines before, the latest first. -/
def parseLines (length : Nat) : Nat → List String → Std.HashMap String Span → List Bytes →
    Except TableError Table
  | _, names, spans, [] => .ok ⟨names.reverse, spans⟩
  | number, names, spans, line :: rest =>
    let line := trimBreak line
    if line.isEmpty then parseLines length (number + 1) names spans rest
    else
      match (Row.ofLine number line).bind (Row.check length) with
      | .error e => .error e
      | .ok row =>
        if spans.contains row.name then .error (.duplicate row.name)
        else
          parseLines length (number + 1) (row.name :: names) (spans.insert row.name row.span) rest

/-- Reads an index file for data of the given length. -/
def parse (length : Nat) (index : Bytes) : Except TableError Table :=
  parseLines length 1 [] ∅ (lines index)

end Table

end Concordance.Compact
