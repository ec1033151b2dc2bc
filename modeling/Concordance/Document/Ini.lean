import Concordance.Decimal.Numeral
import Concordance.Document.Value

/-!
# INI documents

A document has keys with texts, and sections with further ones.

* `Ini.parse` reads a document; each section is a table.
-/

namespace Concordance.Document.Ini

/-- Is the character blank? -/
def isBlank (c : Char) : Bool := c == ' ' || c == '\t' || c == '\r' || c == '\n'

/-- Trims blanks at both ends. -/
def trim (s : List Char) : List Char :=
  ((s.dropWhile isBlank).reverse.dropWhile isBlank).reverse

/-- Trims blanks at the end. -/
def trimEnd (s : List Char) : List Char := (s.reverse.dropWhile isBlank).reverse

/-- The characters that a backslash with another character stands for. -/
def escaped : Scan (List Char) := do
  match ← Scan.char with
  | '0' => pure ['\x00']
  | 'a' => pure ['\x07']
  | 'b' => pure ['\x08']
  | 't' => pure ['\t']
  | 'r' => pure ['\r']
  | 'n' => pure ['\n']
  | '\n' => pure []
  | 'x' =>
    match Numeral.natural? 16 (← Scan.take 4) with
    | some n => if 0xD800 ≤ n ∧ n < 0xE000 then failure else pure [Char.ofNat n]
    | none => failure
  | c => pure [c]

/-- Takes characters up to one that meets a condition, at most `fuel` of them.  The text may end
there only if `atEnd` says so. -/
def upToRest (stop : Char → Bool) (atEnd : Bool) : Nat → Scan (List Char)
  | 0 => if atEnd then pure [] else failure
  | fuel + 1 => do
    match ← Scan.peek with
    | none => if atEnd then pure [] else failure
    | some c =>
      if stop c then pure []
      else
        let _ ← Scan.char
        let first ← if c = '\\' then escaped else pure [c]
        return first ++ (← upToRest stop atEnd fuel)

/-- Takes characters up to one that meets a condition. -/
def upTo (stop : Char → Bool) (atEnd : Bool) : Scan (List Char) := fun s =>
  upToRest stop atEnd (s.length + 1) s

/-- The rest of a value: parts in quotes, and what stands behind them on the line; at most `fuel`
parts.  Blanks in front count unless the value begins here. -/
def valueRest : Nat → Bool → Scan (List Char)
  | 0, _ => failure
  | fuel + 1, begins => do
    match ← Scan.peek with
    | none => pure []
    | some c =>
      if c = '"' ∨ c = '\'' then do
        let _ ← Scan.char
        let quoted ← upTo (· == c) false
        Scan.word [c]
        return quoted ++ (← valueRest fuel false)
      else do
        let plain ← upTo (fun c => c == '\n' || c == '\r') true
        pure (if begins then trim plain else trimEnd plain)

/-- A value behind its mark. -/
def value : Scan (List Char) := fun s =>
  (do
    let _ ← Scan.span fun c => c == ' ' || c == '\t'
    valueRest (s.length + 1) true : Scan (List Char)) s

/-- Sets a field, in a section or outside of all. -/
def put (fields : Fields) (sect : Option String) (key : String) (v : String) : Fields :=
  match sect with
  | none => fields.set key (.text v)
  | some name =>
    match fields.get? name with
    | some (.table inner) => fields.set name (.table (Fields.set inner key (.text v)))
    | _ => fields.set name (.table [(key, .text v)])

/-- Skips blanks, and tells whether the next character begins a line, if it did before. -/
def skip (begins : Bool) : Scan Bool := do
  let blanks ← Scan.span isBlank
  pure (match blanks.getLast? with
    | none => begins
    | some c => c == '\n')

/-- Reads the rest of a document, at most `fuel` pieces.  `begins` tells whether the next
character begins a line. -/
def pieces : Nat → Bool → Option String → Fields → Scan Fields
  | 0, _, _, fields => pure fields
  | fuel + 1, begins, sect, fields => do
    let begins ← skip begins
    match ← Scan.peek with
    | none => pure fields
    | some c =>
      if c = ';' ∨ c = '#' then
        if begins then do
          let _ ← Scan.span (· != '\n')
          pieces fuel false sect fields
        else failure
      else if c = '[' then do
        let _ ← Scan.char
        let name := String.ofList (trim (← upTo (· == ']') false))
        let _ ← Scan.char
        let fields := match fields.get? name with
          | some (.table _) => fields
          | _ => fields.set name (.table [])
        pieces fuel false (some name) fields
      else do
        let key := trim (← upTo (fun c => c == '=' || c == ':') false)
        let _ ← Scan.char
        if key.isEmpty then failure
        else
          let v ← value
          pieces fuel false sect (put fields sect (String.ofList key) (String.ofList v))

/-- Reads a document into its fields. -/
def parse (s : List Char) : Option Fields := Scan.whole (pieces (s.length + 1) true none []) s

end Concordance.Document.Ini
