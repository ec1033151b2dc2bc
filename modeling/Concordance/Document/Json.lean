import Concordance.Decimal.Numeral
import Concordance.Document.Value

/-!
# JSON documents

* `Json.parse` reads a document, whose value has to be an object.
-/

namespace Concordance.Document.Json

/-- Is the character blank? -/
def isBlank (c : Char) : Bool := c == ' ' || c == '\t' || c == '\n' || c == '\r'

/-- Skips blanks. -/
def skip : Scan Unit := do let _ ← Scan.span isBlank

/-! ## Texts -/

/-- A character given by four digits in base 16. -/
def unit : Scan Nat := do
  match Numeral.natural? 16 (← Scan.take 4) with
  | some n => pure n
  | none => failure

/-- Is the number the first half of a character beyond `U+FFFF`? -/
def isHigh (n : Nat) : Bool := 0xD800 ≤ n && n < 0xDC00

/-- Is the number the second half of such a character? -/
def isLow (n : Nat) : Bool := 0xDC00 ≤ n && n < 0xE000

/-- A character given by one or two numbers. -/
def escapedUnit : Scan Char := do
  let high ← unit
  if isHigh high then
    Scan.word ['\\', 'u']
    let low ← unit
    if isLow low then pure (Char.ofNat (0x10000 + (high - 0xD800) * 0x400 + (low - 0xDC00)))
    else failure
  else if isLow high then failure
  else pure (Char.ofNat high)

/-- The character behind a backslash. -/
def escaped : Scan Char := do
  match ← Scan.char with
  | '"' => pure '"'
  | '\\' => pure '\\'
  | '/' => pure '/'
  | 'b' => pure '\x08'
  | 'f' => pure '\x0c'
  | 'n' => pure '\n'
  | 'r' => pure '\r'
  | 't' => pure '\t'
  | 'u' => escapedUnit
  | _ => failure

/-- The rest of a text behind its opening quote; it has at most `fuel` characters. -/
def textRest : Nat → Scan (List Char)
  | 0 => failure
  | fuel + 1 => do
    let c ← Scan.char
    if c = '"' then pure []
    else if c = '\\' then do return (← escaped) :: (← textRest fuel)
    else if c.toNat < 0x20 then failure
    else do return c :: (← textRest fuel)

/-- A text with its quotes. -/
def text : Scan String := fun s =>
  (do Scan.word ['"']; return String.ofList (← textRest s.length) : Scan String) s

/-! ## Numbers -/

/-- Digits, at least one. -/
def digits : Scan (List Char) := do
  let d ← Scan.span Numeral.isDigit
  if d.isEmpty then failure else pure d

/-- Digits without a needless zero in front. -/
def wholeDigits : Scan (List Char) := do
  match ← digits with
  | '0' :: _ :: _ => failure
  | d => pure d

/-- A fraction, if there is one. -/
def fraction : Scan (List Char) := do
  if ← Scan.optional ['.'] then digits else pure []

/-- An exponent, if there is one. -/
def exponent : Scan (Option Int) := do
  match ← Scan.peek with
  | some c =>
    if c = 'e' ∨ c = 'E' then do
      let _ ← Scan.char
      let plus ← Scan.optional ['+']
      let minus ← if plus then pure false else Scan.optional ['-']
      let n := (Numeral.natural? 10 (← digits)).getD 0
      pure (some (if minus then -n else n))
    else pure none
  | none => pure none

/-- A number: a whole number if it has 64 bits and no fraction or exponent. -/
def number : Scan Value := do
  let negative ← Scan.optional ['-']
  let whole ← wholeDigits
  let part ← fraction
  let power ← exponent
  let n := (Numeral.natural? 10 (whole ++ part)).getD 0
  let x := Double.ofDecimal negative n (power.getD 0 - part.length)
  if part.isEmpty ∧ power.isNone ∧ ¬ (negative ∧ n = 0) then
    match Numeral.ofSigned? negative n with
    | some i => pure (.integer i)
    | none => pure (.number x)
  else if x.isInfinite then failure
  else pure (.number x)

/-! ## Values -/

/-- The items of a list behind its bracket, at most `fuel` of them. -/
def items (value : Scan Value) : Nat → Scan (List Value)
  | 0 => failure
  | fuel + 1 => do
    let first ← value
    skip
    if ← Scan.optional [','] then do return first :: (← items value fuel)
    else do Scan.word [']']; return [first]

/-- The fields of an object behind its brace, at most `fuel` of them; of equal keys the last one
counts. -/
def fields (value : Scan Value) : Nat → Fields → Scan Fields
  | 0, _ => failure
  | fuel + 1, before => do
    skip
    let key ← text
    skip
    Scan.word [':']
    let v ← value
    skip
    let now := before.set key v
    if ← Scan.optional [','] then fields value fuel now
    else do Scan.word ['}']; return now

/-- A value in which lists and objects are nested less than `depth` deep. -/
def value : Nat → Scan Value
  | 0 => failure
  | depth + 1 => do
    skip
    let fuel := (← get).length
    match ← Scan.peek with
    | some '"' => do return .text (← text)
    | some '[' => do
      let _ ← Scan.char
      skip
      if depth = 0 then failure
      else if ← Scan.optional [']'] then pure (.list [])
      else do return .list (← items (value depth) fuel)
    | some '{' => do
      let _ ← Scan.char
      skip
      if depth = 0 then failure
      else if ← Scan.optional ['}'] then pure (.table [])
      else do return .table (← fields (value depth) fuel [])
    | some 't' => do Scan.word "true".toList; pure (.bool true)
    | some 'f' => do Scan.word "false".toList; pure (.bool false)
    | some 'n' => do Scan.word "null".toList; pure .null
    | some _ => number
    | none => failure

/-- How deep lists and objects can be nested, a plain value included. -/
def maxDepth : Nat := 128

/-- Reads a document into the fields of its object. -/
def parse (s : List Char) : Option Fields :=
  match Scan.whole (do let v ← value maxDepth; skip; return v) s with
  | some (.table fields) => some fields
  | _ => none

end Concordance.Document.Json
