import Concordance.Decimal.Numeral
import Concordance.Document.Value

/-!
# YAML documents

A document is made of lines.  Lines that are indented alike belong to one list or one table; what
is indented further belongs to the item before.  Between brackets and braces the lines do not
matter.

* `Yaml.ofPlain?` is the value of a text without quotes.
* `Yaml.block` reads lines, `Yaml.flow` what stands between brackets and braces.
* `Yaml.parse` reads a document, whose value has to be a table.
-/

namespace Concordance.Document.Yaml

/-- Is the character blank? -/
def isBlank (c : Char) : Bool := c == ' ' || c == '\t'

/-- Trims blanks in front. -/
def trimStart (s : List Char) : List Char := s.dropWhile isBlank

/-- Trims blanks at the end. -/
def trimEnd (s : List Char) : List Char := (s.reverse.dropWhile isBlank).reverse

/-! ## Plain texts -/

/-- A whole number, in base 10, 16 or 8. -/
def integer? (s : List Char) : Option Int :=
  let based :=
    match s with
    | '0' :: 'x' :: digits => Numeral.integerIn? 16 digits
    | '0' :: 'o' :: digits => Numeral.integerIn? 8 digits
    | '+' :: digits => Numeral.integer? digits
    | _ => none
  based.or (Numeral.integer? s)

/-- The names of numbers that are not finite. -/
def specials : List String :=
  [".inf", ".Inf", ".INF", "+.inf", "+.Inf", "+.INF", "-.inf", "-.Inf", "-.INF", ".nan", ".NaN",
    ".NAN"]

/-- The value of a text without quotes.  Numbers that are not finite are refused. -/
def ofPlain? (s : List Char) : Option Value :=
  let text := String.ofList s
  if text = "" ∨ text = "~" ∨ text = "null" then some .null
  else if text = "true" then some (.bool true)
  else if text = "false" then some (.bool false)
  else if specials.contains text then none
  else
    match integer? s with
    | some n => some (.integer n)
    | none =>
      match if s.any Numeral.isDigit then Numeral.double? s else none with
      | some x => some (.number x)
      | none => some (.text text)

/-- The key that a value stands for. -/
def keyOf? (written : List Char) : Value → Option String
  | .text s => some s
  | .integer n => some (toString n)
  | .bool b => some (if b then "true" else "false")
  | .number _ => some (String.ofList written)
  | _ => none

/-! ## Texts in quotes -/

/-- The character with a code point of `n` digits. -/
def coded (n : Nat) : Scan Char := do
  match Numeral.natural? 16 (← Scan.take n) with
  | some n => if n < 0xD800 ∨ (0xE000 ≤ n ∧ n < 0x110000) then pure (Char.ofNat n) else failure
  | none => failure

/-- The character behind a backslash. -/
def escaped : Scan Char := do
  match ← Scan.char with
  | '0' => pure '\x00'
  | 'a' => pure '\x07'
  | 'b' => pure '\x08'
  | 't' | '\t' => pure '\t'
  | 'n' => pure '\n'
  | 'v' => pure '\x0b'
  | 'f' => pure '\x0c'
  | 'r' => pure '\r'
  | 'e' => pure '\x1b'
  | ' ' => pure ' '
  | '"' => pure '"'
  | '/' => pure '/'
  | '\\' => pure '\\'
  | 'N' => pure '\u0085'
  | '_' => pure '\u00a0'
  | 'L' => pure '\u2028'
  | 'P' => pure '\u2029'
  | 'x' => coded 2
  | 'u' => coded 4
  | 'U' => coded 8
  | _ => failure

/-- The rest of a text in double quotes, at most `fuel` characters. -/
def doubleRest : Nat → Scan (List Char)
  | 0 => failure
  | fuel + 1 => do
    let c ← Scan.char
    if c = '"' then pure []
    else if c = '\\' then do return (← escaped) :: (← doubleRest fuel)
    else do return c :: (← doubleRest fuel)

/-- The rest of a text in single quotes, in which a quote is written twice; at most `fuel`
characters. -/
def singleRest : Nat → Scan (List Char)
  | 0 => failure
  | fuel + 1 => do
    let c ← Scan.char
    if c = '\'' then
      if ← Scan.optional ['\''] then do return '\'' :: (← singleRest fuel)
      else pure []
    else do return c :: (← singleRest fuel)

/-- A text in quotes. -/
def quoted : Scan (List Char) := do
  let fuel := (← get).length
  match ← Scan.char with
  | '"' => doubleRest fuel
  | '\'' => singleRest fuel
  | _ => failure

/-- Does a text begin with a quote? -/
def beginsQuoted (s : List Char) : Bool :=
  match s.head? with
  | some c => c == '"' || c == '\''
  | none => false

/-! ## Between brackets and braces -/

/-- Skips blanks. -/
def skip : Scan Unit := do let _ ← Scan.span isBlank

/-- Does a colon here end a key, given what stands behind it? -/
def endsKey (flow : Bool) (behind : List Char) : Bool :=
  match behind with
  | [] => true
  | c :: _ => isBlank c || (flow && (c == ',' || c == '[' || c == ']' || c == '{' || c == '}'))

/-- Takes a text without quotes between brackets or braces. -/
def flowPlain : List Char → List Char × List Char
  | [] => ([], [])
  | c :: rest =>
    if c = ',' ∨ c = '[' ∨ c = ']' ∨ c = '{' ∨ c = '}' ∨ (c = ':' ∧ endsKey true rest) then
      ([], c :: rest)
    else
      let (taken, left) := flowPlain rest
      (c :: taken, left)

/-- A text between brackets or braces: its characters, and its value. -/
def flowText : Scan (List Char × Value) := do
  if beginsQuoted (← get) then
    let s ← quoted
    pure (s, .text (String.ofList s))
  else
    let s ← fun s => some (flowPlain s)
    let s := trimEnd s
    if s.isEmpty then failure
    else
      match ofPlain? s with
      | some v => pure (s, v)
      | none => failure

/-- The items of a list behind its bracket, at most `fuel` of them. -/
def items (flow : Scan Value) : Nat → Scan (List Value)
  | 0 => failure
  | fuel + 1 => do
    skip
    if ← Scan.optional [']'] then pure []
    else
      let first ← flow
      skip
      if ← Scan.optional [','] then do return first :: (← items flow fuel)
      else do Scan.word [']']; return [first]

/-- The fields of a table behind its brace, at most `fuel` of them.  A key may stand alone. -/
def fields (flow : Scan Value) : Nat → Fields → Scan Fields
  | 0, _ => failure
  | fuel + 1, before => do
    skip
    if ← Scan.optional ['}'] then pure before
    else
      let (written, v) ← flowText
      match keyOf? written v with
      | none => failure
      | some key =>
        if (before.get? key).isSome then failure
        else
          skip
          let v ← if ← Scan.optional [':'] then do
              skip
              match ← Scan.peek with
              | some ',' | some '}' => pure .null
              | _ => flow
            else pure .null
          skip
          let now := before ++ [(key, v)]
          if ← Scan.optional [','] then fields flow fuel now
          else do Scan.word ['}']; return now

/-- A value between brackets or braces, nested less than `depth` deep. -/
def flow : Nat → Scan Value
  | 0 => failure
  | depth + 1 => do
    skip
    let fuel := (← get).length
    match ← Scan.peek with
    | some '[' => do
      let _ ← Scan.char
      return .list (← items (flow depth) fuel)
    | some '{' => do
      let _ ← Scan.char
      return .table (← fields (flow depth) fuel [])
    | _ => do return (← flowText).2

/-! ## Lines -/

/-- A line: how far it is indented, and what it says. -/
structure Line where
  /-- The number of blanks in front. -/
  indent : Nat
  /-- The text behind them. -/
  text : List Char
  deriving Repr

/-- The lines of a text. -/
def splitLines : List Char → List (List Char)
  | [] => [[]]
  | c :: rest =>
    match splitLines rest with
    | [] => [[c]]
    | line :: more => if c = '\n' then [] :: line :: more else (c :: line) :: more

/-- A line, if it says anything. -/
def ofLine? (raw : List Char) : Option Line :=
  let raw := raw.filter (· ≠ '\r')
  let indent := (raw.takeWhile (· == ' ')).length
  let text := trimEnd (raw.drop indent)
  match text with
  | [] => none
  | '#' :: _ => none
  | _ => some ⟨indent, text⟩

/-- Is a text nothing but a comment? -/
def isComment (s : List Char) : Bool :=
  match s with
  | [] => true
  | c :: _ => c == '#'

/-- A text without the comment at its end. -/
def dropComment : List Char → List Char
  | [] => []
  | c :: rest =>
    if isBlank c ∧ rest.head? = some '#' then [] else c :: dropComment rest

/-- Does the line begin an item of a list? -/
def isItem (s : List Char) : Bool :=
  match s with
  | ['-'] => true
  | '-' :: c :: _ => isBlank c
  | _ => false

/-- Splits at the first colon that ends a key. -/
def splitColon? : List Char → Option (List Char × List Char)
  | [] => none
  | c :: rest =>
    if c = ':' ∧ endsKey false rest then some ([], rest)
    else (splitColon? rest).map fun (key, behind) => (c :: key, behind)

/-- The characters with a meaning of their own at the beginning of a value. -/
def marks : List Char :=
  ['[', ']', '{', '}', ',', '#', '&', '*', '!', '|', '>', '\'', '"', '%', '@', Char.ofNat 96]

/-- May a text without quotes begin with this character? -/
def beginsPlain (c : Char) : Bool := !marks.contains c

/-- The key of a line, and what stands behind its colon. -/
def keyed? (s : List Char) : Option (String × List Char) :=
  if beginsQuoted s then
    match quoted s with
    | some (key, rest) =>
      match trimStart rest with
      | ':' :: behind => if endsKey false behind then some (String.ofList key, behind) else none
      | _ => none
    | none => none
  else if s.head?.all beginsPlain then
    (splitColon? (dropComment s)).bind fun (written, behind) =>
      let written := trimEnd written
      ((ofPlain? written).bind (keyOf? written)).map fun key => (key, behind)
  else none

/-- The lines that go on with a text, indented at least so far, and those behind them. -/
def continuation (least : Nat) (lines : List Line) : List Line × List Line :=
  (lines.takeWhile fun l => least ≤ l.indent, lines.dropWhile fun l => least ≤ l.indent)

/-- Reads a text in quotes, or one between brackets or braces, which may go on over the next lines
that are indented at least so far; at most `fuel` of them. -/
def spread (scan : Scan Value) (least : Nat) : Nat → List Char → List Line →
    Option (Value × List Line)
  | fuel, s, lines =>
    match scan s with
    | some (v, rest) => if isComment (trimStart rest) then some (v, lines) else none
    | none =>
      match fuel, lines with
      | fuel + 1, l :: more =>
        if least ≤ l.indent then spread scan least fuel (s ++ ' ' :: l.text) more else none
      | _, _ => none

/-- Does a text have a key where there must be none? -/
def hasKey (s : List Char) : Bool := (splitColon? s).isSome

/-- Joins lines, with a character between them. -/
def joinLines (between : Char) : List (List Char) → List Char
  | [] => []
  | [s] => s
  | s :: rest => s ++ between :: joinLines between rest

/-- A text whose lines are kept or joined, given its mark. -/
def blockText? (mark : List Char) (lines : List Line) : Option Value :=
  let indent := ((lines.head?).map Line.indent).getD 0
  let texts := lines.map fun l => List.replicate (l.indent - indent) ' ' ++ l.text
  let ended (s : List Char) (keep : Bool) : Value :=
    .text (String.ofList (if keep && !s.isEmpty then s ++ ['\n'] else s))
  match mark with
  | ['|'] | ['|', '+'] => some (ended (joinLines '\n' texts) true)
  | ['|', '-'] => some (ended (joinLines '\n' texts) false)
  | ['>'] | ['>', '+'] => some (ended (joinLines ' ' texts) true)
  | ['>', '-'] => some (ended (joinLines ' ' texts) false)
  | _ => none

/-- Reads a value that begins within a line; the next lines that are indented at least so far go
on with it. -/
def inline (least : Nat) (s : List Char) (lines : List Line) : Option (Value × List Line) :=
  match s with
  | [] => none
  | c :: _ =>
    if c = '"' ∨ c = '\'' then
      spread ((fun s => Value.text (String.ofList s)) <$> quoted) least lines.length s lines
    else if c = '[' ∨ c = '{' then spread (flow (s.length + 1)) least lines.length s lines
    else if c = '|' ∨ c = '>' then
      let (own, rest) := continuation least lines
      (blockText? (dropComment s) own).map fun v => (v, rest)
    else if beginsPlain c then
      let (own, rest) := continuation least lines
      let parts := (dropComment s :: own.map fun l => dropComment l.text).map trimEnd
      if parts.any hasKey then none
      else (ofPlain? (joinLines ' ' parts)).map fun v => (v, rest)
    else none

mutual

/-- Reads a value from the lines that are indented at least so far. -/
def block : Nat → Nat → List Line → Option (Value × List Line)
  | 0, _, _ => none
  | _ + 1, _, [] => some (.null, [])
  | fuel + 1, least, l :: rest =>
    if l.indent < least then some (.null, l :: rest)
    else if isItem l.text then (listItems fuel l.indent (l :: rest)).map fun (v, r) => (.list v, r)
    else if (keyed? l.text).isSome then
      (entries fuel l.indent (l :: rest) []).map fun (v, r) => (.table v, r)
    else inline least l.text rest

/-- Reads the items of a list from the lines that are indented so far. -/
def listItems : Nat → Nat → List Line → Option (List Value × List Line)
  | 0, _, _ => none
  | _ + 1, _, [] => some ([], [])
  | fuel + 1, indent, l :: rest =>
    if l.indent < indent then some ([], l :: rest)
    else if indent < l.indent then none
    else if !isItem l.text then some ([], l :: rest)
    else do
      let behind := l.text.drop 1
      let text := trimStart behind
      let lines :=
        if isComment text then rest
        else ⟨indent + (l.text.length - text.length), text⟩ :: rest
      let (first, rest) ← block fuel (indent + 1) lines
      let (more, rest) ← listItems fuel indent rest
      some (first :: more, rest)

/-- Reads the fields of a table from the lines that are indented so far. -/
def entries : Nat → Nat → List Line → Fields → Option (Fields × List Line)
  | 0, _, _, _ => none
  | _ + 1, _, [], before => some (before, [])
  | fuel + 1, indent, l :: rest, before =>
    if l.indent < indent then some (before, l :: rest)
    else if indent < l.indent then none
    else do
      let (key, behind) ← keyed? l.text
      if (before.get? key).isSome then none
      else
        let text := trimStart behind
        let (v, rest) ←
          if isComment text then
            match rest with
            | next :: _ =>
              if next.indent = indent ∧ isItem next.text then
                (listItems fuel indent rest).map fun (v, r) => (Value.list v, r)
              else block fuel (indent + 1) rest
            | [] => some (.null, [])
          else if isItem text then none
          else inline (indent + 1) text rest
        entries fuel indent rest (before ++ [(key, v)])

end

/-! ## Documents -/

/-- Does the line begin a document? -/
def isStart (l : Line) : Bool :=
  match l.indent, l.text with
  | 0, '-' :: '-' :: '-' :: rest => rest.head?.all isBlank
  | _, _ => false

/-- Does the line end a document? -/
def isEnd (l : Line) : Bool := l.indent == 0 && l.text == ['.', '.', '.']

/-- The lines of the only document; the flag says whether it has a beginning of its own. -/
def onlyDocument? (lines : List Line) : Option (Bool × List Line) :=
  let lines := if (lines.getLast?).any isEnd then lines.dropLast else lines
  let (marked, lines) :=
    match lines with
    | l :: rest =>
      if isStart l then
        let text := trimStart (l.text.drop 3)
        (true, if isComment text then rest else ⟨l.text.length - text.length, text⟩ :: rest)
      else (false, lines)
    | [] => (false, [])
  if lines.any fun l => isStart l || isEnd l then none else some (marked, lines)

/-- Reads a document into the fields of its table.  A document without any line is an empty
table. -/
def parse (s : List Char) : Option Fields := do
  let (marked, lines) ← onlyDocument? ((splitLines s).filterMap ofLine?)
  if lines.isEmpty ∧ ¬ marked then some []
  else if lines.any fun l => l.text.head? == some '\t' then none
  else
    match block (2 * s.length + 2) 0 lines with
    | some (.table fields, []) => some fields
    | _ => none

end Concordance.Document.Yaml
