import Concordance.Decimal.Numeral
import Concordance.Document.Value

/-!
# TOML documents

A document is a sequence of lines, each with a key and a value, or with the header of a table to
which the following lines belong.

* `Toml.value` reads a value, `Branch.define` and its neighbours put it into the tree of tables.
* `Toml.parse` reads a document.
-/

namespace Concordance.Document.Toml

/-! ## Blanks -/

/-- Skips blanks within a line. -/
def skip : Scan Unit := do let _ ← Scan.span fun c => c == ' ' || c == '\t'

/-- Takes the end of a line if it is there, and tells whether it was. -/
def lineEnd : Scan Bool := do
  if ← Scan.optional ['\n'] then pure true else Scan.optional ['\r', '\n']

/-- May the character stand in a comment or a text? -/
def isPlain (c : Char) : Bool := c == '\t' || (0x20 ≤ c.toNat && c.toNat ≠ 0x7F)

/-- Skips a comment. -/
def comment : Scan Unit := do
  if ← Scan.optional ['#'] then let _ ← Scan.span isPlain

/-- Skips blanks, comments and ends of lines, at most `fuel` lines. -/
def skipLines : Nat → Scan Unit
  | 0 => skip
  | fuel + 1 => do
    skip
    comment
    if ← lineEnd then skipLines fuel

/-- Skips blanks, comments and ends of lines. -/
def skipAll : Scan Unit := fun s => skipLines s.length s

/-! ## Texts -/

/-- The character with a code point. -/
def codePoint (n : Nat) : Scan Char :=
  if n < 0xD800 ∨ (0xE000 ≤ n ∧ n < 0x110000) then pure (Char.ofNat n) else failure

/-- The character behind a backslash. -/
def escaped : Scan Char := do
  match ← Scan.char with
  | 'b' => pure '\x08'
  | 't' => pure '\t'
  | 'n' => pure '\n'
  | 'f' => pure '\x0c'
  | 'r' => pure '\r'
  | '"' => pure '"'
  | '\\' => pure '\\'
  | 'u' =>
    match Numeral.natural? 16 (← Scan.take 4) with
    | some n => codePoint n
    | none => failure
  | 'U' =>
    match Numeral.natural? 16 (← Scan.take 8) with
    | some n => codePoint n
    | none => failure
  | _ => failure

/-- The rest of a text of one line behind its opening quote, at most `fuel` characters. -/
def textRest (quote : Char) : Nat → Scan (List Char)
  | 0 => failure
  | fuel + 1 => do
    let c ← Scan.char
    if c = quote then pure []
    else if c = '\\' ∧ quote = '"' then do return (← escaped) :: (← textRest quote fuel)
    else if isPlain c then do return c :: (← textRest quote fuel)
    else failure

/-- Is a backslash here the end of a line, with nothing but blanks between? -/
def joinsLines (s : List Char) : Bool :=
  match s.dropWhile fun c => c == ' ' || c == '\t' with
  | '\n' :: _ => true
  | '\r' :: '\n' :: _ => true
  | _ => false

/-- The quotes at the end of a text of several lines: up to two of them belong to the text. -/
def closing (quote : Char) : Scan (List Char) := do
  let one ← Scan.optional [quote]
  let two ← if one then Scan.optional [quote] else pure false
  pure (if two then [quote, quote] else if one then [quote] else [])

/-- The rest of a text of several lines behind its opening quotes, at most `fuel` characters. -/
def linesRest (quote : Char) : Nat → Scan (List Char)
  | 0 => failure
  | fuel + 1 => do
    if ← Scan.optional [quote, quote, quote] then closing quote
    else
      let c ← Scan.char
      if c = '\\' ∧ quote = '"' then
        if joinsLines (← get) then do
          let _ ← Scan.span fun c => c == ' ' || c == '\t' || c == '\n' || c == '\r'
          linesRest quote fuel
        else do return (← escaped) :: (← linesRest quote fuel)
      else if c = '\r' then do
        Scan.word ['\n']
        return '\n' :: (← linesRest quote fuel)
      else if isPlain c ∨ c = '\n' then do return c :: (← linesRest quote fuel)
      else failure

/-- A text of one line. -/
def shortText (quote : Char) : Scan String := fun s =>
  (do Scan.word [quote]; return String.ofList (← textRest quote s.length) : Scan String) s

/-- A text in quotes, of one line or of several. -/
def text (quote : Char) : Scan String := fun s =>
  (do
    if ← Scan.optional [quote, quote, quote] then
      let _ ← lineEnd
      return String.ofList (← linesRest quote s.length)
    else shortText quote : Scan String) s

/-! ## Keys -/

/-- May the character stand in a key without quotes? -/
def isBare (c : Char) : Bool :=
  Numeral.digitValue c < 36 || c == '_' || c == '-'

/-- A part of a key. -/
def keyPart : Scan String := do
  match ← Scan.peek with
  | some '"' => shortText '"'
  | some '\'' => shortText '\''
  | _ =>
    let bare ← Scan.span isBare
    if bare.isEmpty then failure else pure (String.ofList bare)

/-- The further parts of a key, each behind a point, at most `fuel` of them. -/
def keyRest : Nat → Scan (List String)
  | 0 => failure
  | fuel + 1 => do
    skip
    if ← Scan.optional ['.'] then do
      skip
      return (← keyPart) :: (← keyRest fuel)
    else pure []

/-- A key: its parts in front of the last one, and the last one. -/
def key : Scan (List String × String) := fun s =>
  (do
    let first ← keyPart
    let parts := first :: (← keyRest s.length)
    return (parts.dropLast, parts.getLastD first) : Scan (List String × String)) s

/-! ## Numbers and dates -/

/-- Digits without their underscores, each of which has to stand between two digits. -/
def plainDigits? : List Char → Option (List Char)
  | [] => some []
  | [c] => if c = '_' then none else some [c]
  | '_' :: _ => none
  | [_, '_'] => none
  | c :: '_' :: rest => (plainDigits? rest).map (c :: ·)
  | c :: rest => (plainDigits? rest).map (c :: ·)

/-- A whole number without a needless zero in front. -/
def decimal? (s : List Char) : Option Value :=
  let (negative, digits) := Numeral.splitSign s
  match plainDigits? digits with
  | some ('0' :: _ :: _) => none
  | some digits =>
    ((Numeral.natural? 10 digits).bind (Numeral.ofSigned? negative)).map .integer
  | none => none

/-- A whole number in another base. -/
def based? (base : Nat) (digits : List Char) : Option Value :=
  (((plainDigits? digits).bind (Numeral.natural? base)).bind (Numeral.ofSigned? false)).map .integer

/-- A number with a fraction or an exponent. -/
def fractional? (s : List Char) : Option Value :=
  let (negative, rest) := Numeral.splitSign s
  let whole := rest.takeWhile fun c => Numeral.isDigit c || c == '_'
  let behind := rest.dropWhile fun c => Numeral.isDigit c || c == '_'
  let isMark (c : Char) : Bool := c == 'e' || c == 'E'
  let (fraction, power) :=
    match behind with
    | '.' :: more => (some (more.takeWhile (!isMark ·)), more.dropWhile (!isMark ·))
    | _ => (none, behind)
  let places : Option (List Char) :=
    match fraction with
    | none => if power.isEmpty then none else some []
    | some [] => none
    | some digits => (plainDigits? digits).filter (·.all Numeral.isDigit)
  let exponent : Option Int :=
    match power with
    | [] => some 0
    | _ :: digits =>
      let (minus, digits) := Numeral.splitSign digits
      ((plainDigits? digits).bind (Numeral.natural? 10)).map fun n => if minus then -n else n
  match decimalDigits? whole, places, exponent with
  | some whole, some places, some e =>
    let x := Double.ofDecimal negative ((Numeral.natural? 10 (whole ++ places)).getD 0)
      (e - places.length)
    if x.isInfinite then none else some (.number x)
  | _, _, _ => none
where
  /-- Digits in front of a point. -/
  decimalDigits? (s : List Char) : Option (List Char) :=
    match plainDigits? s with
    | some [] => none
    | some ('0' :: _ :: _) => none
    | digits => digits

/-- A number that is not finite. -/
def special? (s : List Char) : Option Value :=
  let (negative, rest) := Numeral.splitSign s
  if rest = "inf".toList then some (.number (.infinite negative))
  else if rest = "nan".toList then some (.number .nan)
  else none

/-- Two digits within bounds. -/
def pair? (low high : Nat) (s : List Char) : Bool :=
  s.length == 2 && (Numeral.natural? 10 s).any fun n => low ≤ n && n ≤ high

/-- A date: four digits for the year, two for the month and two for the day. -/
def isDate (s : List Char) : Bool :=
  match s with
  | [_, _, _, _, '-', _, _, '-', _, _] =>
    (s.take 4).all Numeral.isDigit && pair? 1 12 ((s.drop 5).take 2) && pair? 1 31 (s.drop 8)
  | _ => false

/-- A time of day without its fraction. -/
def isTime (s : List Char) : Bool :=
  match s with
  | [_, _, ':', _, _, ':', _, _] =>
    pair? 0 23 (s.take 2) && pair? 0 59 ((s.drop 3).take 2) && pair? 0 60 (s.drop 6)
  | _ => false

/-- A distance from universal time, as it is written again; none is allowed. -/
def offset? (s : List Char) : Option (List Char) :=
  match s with
  | [] => some []
  | ['Z'] | ['z'] => some ['Z']
  | [sign, _, _, ':', _, _] =>
    let isSign := sign == '+' || sign == '-'
    if isSign && pair? 0 23 ((s.drop 1).take 2) && pair? 0 59 (s.drop 4) then some s else none
  | _ => none

/-- A time of day with its fraction, as it is written again, and what stands behind it. -/
def time? (s : List Char) : Option (List Char × List Char) :=
  let clock := s.take 8
  if isTime clock then
    match s.drop 8 with
    | '.' :: rest =>
      let digits := rest.takeWhile Numeral.isDigit
      let kept := (((digits.take 9).reverse).dropWhile (· == '0')).reverse
      let behind := rest.dropWhile Numeral.isDigit
      if digits.isEmpty then none
      else some (if kept.isEmpty then clock else clock ++ '.' :: kept, behind)
    | rest => some (clock, rest)
  else none

/-- A date, a time, or both, as a text. -/
def moment? (s : List Char) : Option Value :=
  let written (s : List Char) : Value := .text (String.ofList s)
  if isDate (s.take 10) then
    match s.drop 10 with
    | [] => some (written s)
    | mark :: rest =>
      if mark = 'T' ∨ mark = 't' ∨ mark = ' ' then do
        let (time, behind) ← time? rest
        let offset ← offset? behind
        some (written (s.take 10 ++ 'T' :: time ++ offset))
      else none
  else
    match time? s with
    | some (time, []) => some (written time)
    | _ => none

/-- A number or a date with this written form. -/
def scalar? (s : List Char) : Option Value :=
  match s with
  | '0' :: 'x' :: digits => based? 16 digits
  | '0' :: 'o' :: digits => based? 8 digits
  | '0' :: 'b' :: digits => based? 2 digits
  | _ => (special? s).or ((decimal? s).or ((fractional? s).or (moment? s)))

/-- May the character stand in a number or a date? -/
def isScalar (c : Char) : Bool :=
  Numeral.digitValue c < 36 || c == '_' || c == '-' || c == '+' || c == '.' || c == ':'

/-- A truth value, a number or a date.  Between a date and a time there may be a blank. -/
def scalar : Scan Value := do
  let first ← Scan.span isScalar
  let rest ← get
  let continues := isDate first && match rest with
    | ' ' :: c :: _ => Numeral.isDigit c
    | _ => false
  let written ← if continues then do
      let _ ← Scan.char
      pure (first ++ ' ' :: (← Scan.span isScalar))
    else pure first
  if written = "true".toList then pure (.bool true)
  else if written = "false".toList then pure (.bool false)
  else match scalar? written with
    | some v => pure v
    | none => failure

/-! ## Tables -/

/-- How a table came to be. -/
inductive Making where
  /-- On the way to the table of a header. -/
  | implicit
  /-- On the way of a key with points. -/
  | dotted
  /-- By its own header. -/
  | header
  deriving DecidableEq, Repr

/-- What is under a key. -/
inductive Entry where
  /-- A value. -/
  | leaf (v : Value)
  /-- A table. -/
  | table (made : Making) (fields : List (String × Entry))
  /-- A list of tables, each with a header. -/
  | tables (items : List (List (String × Entry)))

/-- A table of entries. -/
abbrev Branch := List (String × Entry)

mutual

/-- The value of an entry. -/
def Entry.value : Entry → Value
  | .leaf v => v
  | .table _ fields => .table (fieldsOf fields)
  | .tables items => .list (tablesOf items)

/-- The field of an entry under its key. -/
def fieldOf : String × Entry → String × Value
  | (key, e) => (key, e.value)

/-- The fields of a table. -/
def fieldsOf : List (String × Entry) → List (String × Value)
  | [] => []
  | f :: rest => fieldOf f :: fieldsOf rest

/-- The values of tables. -/
def tablesOf : List (List (String × Entry)) → List Value
  | [] => []
  | b :: rest => .table (fieldsOf b) :: tablesOf rest

end

namespace Branch

/-- Puts another entry under a key. -/
def replace (b : Branch) (key : String) (e : Entry) : Branch :=
  b.map fun f => if f.1 = key then (key, e) else f

/-- Changes the table at the end of a path.  Tables that are missing are made.  A key with points
does not lead into a table with a header of its own. -/
def update (dotted : Bool) (change : Branch → Option Branch) : List String → Branch → Option Branch
  | [], b => change b
  | key :: path, b =>
    match b.lookup key with
    | none =>
      (update dotted change path []).map fun sub =>
        b ++ [(key, .table (if dotted then .dotted else .implicit) sub)]
    | some (.table made sub) =>
      if dotted ∧ made = .header then none
      else (update dotted change path sub).map fun sub => b.replace key (.table made sub)
    | some (.tables items) =>
      if dotted then none
      else
        (update dotted change path (items.getLastD [])).map fun sub =>
          b.replace key (.tables (items.dropLast ++ [sub]))
    | some (.leaf _) => none

/-- Puts a value under a key that is not there yet. -/
def define (b : Branch) (path : List String) (key : String) (v : Value) : Option Branch :=
  update true (fun b => if (b.lookup key).isSome then none else some (b ++ [(key, .leaf v)])) path b

/-- Begins a table with a header. -/
def openTable (b : Branch) (path : List String) (key : String) : Option Branch :=
  update false (fun b =>
    match b.lookup key with
    | none => some (b ++ [(key, .table .header [])])
    | some (.table .implicit sub) => some (b.replace key (.table .header sub))
    | some _ => none) path b

/-- Begins a further table of a list. -/
def openItem (b : Branch) (path : List String) (key : String) : Option Branch :=
  update false (fun b =>
    match b.lookup key with
    | none => some (b ++ [(key, .tables [[]])])
    | some (.tables items) => some (b.replace key (.tables (items ++ [[]])))
    | some _ => none) path b

end Branch

/-! ## Values -/

/-- What an attempt gives; nothing makes the text malformed. -/
def orFail {α : Type} : Option α → Scan α
  | some a => pure a
  | none => failure

/-- The items of a list behind its bracket, at most `fuel` of them. -/
def items (value : Scan Value) : Nat → Scan (List Value)
  | 0 => failure
  | fuel + 1 => do
    skipAll
    if ← Scan.optional [']'] then pure []
    else
      let first ← value
      skipAll
      if ← Scan.optional [','] then do return first :: (← items value fuel)
      else do Scan.word [']']; return [first]

/-- The fields of a table in braces, at most `fuel` of them. -/
def braced (value : Scan Value) : Nat → Branch → Scan Branch
  | 0, _ => failure
  | fuel + 1, before => do
    skip
    let (path, last) ← key
    skip
    Scan.word ['=']
    skip
    let now ← orFail (before.define path last (← value))
    skip
    if ← Scan.optional [','] then braced value fuel now
    else do Scan.word ['}']; return now

/-- A value in which lists and tables are nested less than `depth` deep. -/
def value : Nat → Scan Value
  | 0 => failure
  | depth + 1 => do
    let fuel := (← get).length
    match ← Scan.peek with
    | some '"' => do return .text (← text '"')
    | some '\'' => do return .text (← text '\'')
    | some '[' => do
      let _ ← Scan.char
      return .list (← items (value depth) fuel)
    | some '{' => do
      let _ ← Scan.char
      skip
      if ← Scan.optional ['}'] then pure (.table [])
      else do return .table (fieldsOf (← braced (value depth) fuel []))
    | _ => scalar

/-- How deep lists and tables can be nested, a plain value included. -/
def maxDepth : Nat := 80

/-! ## Lines -/

/-- Skips what may stand behind a value or a header, up to the end of the line. -/
def finishLine : Scan Unit := do
  skip
  comment
  let ended ← lineEnd
  if ¬ ended ∧ (← get) ≠ [] then failure

/-- Reads the rest of a document, at most `fuel` lines.  `table` is the path to the table to which
lines belong. -/
def lines : Nat → List String → Branch → Scan Branch
  | 0, _, b => pure b
  | fuel + 1, table, b => do
    skipAll
    match ← Scan.peek with
    | none => pure b
    | some '[' =>
      let isItem ← Scan.optional ['[', '[']
      if ¬ isItem then Scan.word ['[']
      skip
      let (path, last) ← key
      skip
      Scan.word (if isItem then [']', ']'] else [']'])
      let b ← orFail (if isItem then b.openItem path last else b.openTable path last)
      finishLine
      lines fuel (path ++ [last]) b
    | some _ =>
      let (path, last) ← key
      skip
      Scan.word ['=']
      skip
      let v ← value maxDepth
      let b ← orFail (b.update false (fun inner => inner.define path last v) table)
      finishLine
      lines fuel table b

/-- Reads a document into its fields. -/
def parse (s : List Char) : Option Fields :=
  (Scan.whole (lines (s.length + 1) [] []) s).map fieldsOf

end Concordance.Document.Toml
