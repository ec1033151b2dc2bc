import Concordance.Regex.Pattern.Basic
import Concordance.Text.CodePoints
import Concordance.Text.Letters
import Concordance.Text.Blank

/-!
# Reading patterns

A pattern is read from left to right.  Each reader takes the characters that are left and gives
what it read with the characters behind it, or nothing if the pattern is malformed; only whether
a pattern is well formed is ever reported, so a failure carries no reason.

* `Pattern.parse?` reads a whole pattern; the nesting limit is checked at the end.

The readers of groups and of bracketed classes call themselves on what is inside.  Their first
argument bounds the number of steps; every step takes a character away, so the length of the
pattern is enough.
-/

namespace Concordance.Regex

open Concordance.Text

/-! ## Blanks, digits and names -/

/-- Skips blanks and comments, if the pattern is `spaced`. -/
def skipBlanks (spaced : Bool) (s : List Char) : List Char :=
  if spaced then go false s else s
where
  /-- Skips; `comment` says that a comment has begun and its line has not ended. -/
  go (comment : Bool) : List Char → List Char
    | [] => []
    | c :: rest =>
      if comment then go (c ≠ '\n') rest
      else if isBlank c then go false rest
      else if c = '#' then go true rest
      else c :: rest

/-- Takes one character away, and the blanks behind it. -/
def advance (spaced : Bool) (s : List Char) : List Char := skipBlanks spaced s.tail

/-- The text behind a given beginning. -/
def behind? (front s : List Char) : Option (List Char) :=
  if front.isPrefixOf s then some (s.drop front.length) else none

/-- Characters with a meaning of their own in a pattern. -/
def isMeta (c : Char) : Bool := "\\.+*?()|[]\x7b\x7d^$#&-~".toList.contains c

/-- Is this an ASCII letter or digit? -/
def isWordAscii (c : Char) : Bool :=
  ('0' ≤ c && c ≤ '9') || ('A' ≤ c && c ≤ 'Z') || ('a' ≤ c && c ≤ 'z')

/-- May a backslash stand before this character to mean just the character? -/
def isEscapable (c : Char) : Bool :=
  isMeta c || (c.toNat < 0x80 && !isWordAscii c && c ≠ '<' && c ≠ '>')

/-- May the character stand in the name of a group? -/
def isGroupNameChar (first : Bool) (c : Char) : Bool :=
  if first then c = '_' || isAlphabetic c
  else c = '_' || c = '.' || c = '[' || c = ']' || isAlphanumeric c

/-- The value of decimal digits, if it has at most 32 bits. -/
def decimal? (digits : List Char) : Option Nat :=
  let value := digits.foldl (fun n c => n * 10 + (c.toNat - 48)) 0
  if digits.isEmpty || Nat.pow 2 32 ≤ value then none else some value

/-- Digits, with blanks between them where the pattern is spaced. -/
def takeDigits (spaced : Bool) : Nat → List Char → List Char × List Char
  | fuel + 1, c :: rest =>
    if '0' ≤ c ∧ c ≤ '9' then
      let (digits, left) := takeDigits spaced fuel (skipBlanks spaced rest)
      (c :: digits, left)
    else ([], c :: rest)
  | _, s => ([], s)

/-- A decimal number, with blanks around it.  No digits at all are told apart from a number that
is too large, by the inner option. -/
def takeDecimal (spaced : Bool) (s : List Char) : Option (Option Nat) × List Char :=
  let (digits, left) := takeDigits spaced s.length (s.dropWhile isBlank)
  let value := if digits.isEmpty then none else some (decimal? digits)
  (value, skipBlanks spaced (left.dropWhile isBlank))

/-! ## Escapes -/

/-- What a backslash can introduce. -/
inductive Escape where
  /-- A character. -/
  | char (c : Literal)
  /-- A place between characters. -/
  | edge (kind : Edge)
  /-- A class with a name. -/
  | named (cls : NamedClass)
  deriving Repr

/-- The character with this code point; code points of surrogates are none. -/
def charOfNat? (n : Nat) : Option Char := if n.isValidChar then some (Char.ofNat n) else none

/-- The value of hexadecimal digits. -/
def hexValue (digits : List Nat) : Nat := digits.foldl (fun n d => n * 16 + d) 0

/-- A fixed number of hexadecimal digits. -/
def takeHex (spaced : Bool) : Nat → List Char → Option (List Nat × List Char)
  | 0, s => some ([], s)
  | n + 1, c :: rest => do
    let d ← CodePoints.hexDigit? c
    let (more, left) ← takeHex spaced n (skipBlanks spaced rest)
    some (d :: more, left)
  | _ + 1, [] => none

/-- Hexadecimal digits up to a closing brace, which is taken too. -/
def takeHexBraced (spaced : Bool) : Nat → List Char → Option (List Nat × List Char)
  | fuel + 1, c :: rest =>
    if c = '\x7d' then some ([], skipBlanks spaced rest)
    else do
      let d ← CodePoints.hexDigit? c
      let (more, left) ← takeHexBraced spaced fuel (skipBlanks spaced rest)
      some (d :: more, left)
  | _, _ => none

/-- A character by its number; `s` begins at the letter that tells how many digits there are. -/
def parseHex (spaced : Bool) (kind : Char) (s : List Char) : Option (Literal × List Char) := do
  let s := advance spaced s
  match s with
  | [] => none
  | c :: rest =>
    if c = '\x7b' then
      let (digits, left) ← takeHexBraced spaced s.length (skipBlanks spaced rest)
      if digits.isEmpty then none
      let char ← charOfNat? (hexValue digits)
      some (⟨char, false⟩, left)
    else
      let count := if kind = 'x' then 2 else if kind = 'u' then 4 else 8
      let (digits, left) ← takeHex spaced count s
      let char ← charOfNat? (hexValue digits)
      some (⟨char, kind = 'x'⟩, left)

/-- Splits at the first place where `mark` stands. -/
def splitAt? (mark : List Char) : List Char → Option (List Char × List Char)
  | [] => none
  | c :: rest =>
    match behind? mark (c :: rest) with
    | some left => some ([], left)
    | none => (splitAt? mark rest).map fun (before, after) => (c :: before, after)

/-- The class that the text in the braces of a property asks for.  `!=` asks for the complement,
and goes before `:`, which goes before `=`. -/
def propertyClass (negated : Bool) (text : List Char) : NamedClass :=
  let valued name value negated := .property (.valued (.ofList name) (.ofList value)) negated
  match splitAt? ['!', '='] text with
  | some (name, value) => valued name value (!negated)
  | none =>
    match splitAt? [':'] text with
    | some (name, value) => valued name value negated
    | none =>
      match splitAt? ['='] text with
      | some (name, value) => valued name value negated
      | none => .property (.named (.ofList text)) negated

/-- The characters up to a closing brace, without the blanks of a spaced pattern, and what is
behind the brace. -/
def takeBraced (spaced : Bool) : Nat → List Char → Option (List Char × List Char)
  | fuel + 1, c :: rest =>
    if c = '\x7d' then some ([], rest)
    else (takeBraced spaced fuel (skipBlanks spaced rest)).map fun (text, left) => (c :: text, left)
  | _, _ => none

/-- A property class; `s` begins at its `p` or `P`. -/
def parseProperty (spaced negated : Bool) (s : List Char) : Option (NamedClass × List Char) :=
  match advance spaced s with
  | [] => none
  | c :: rest =>
    if c = '\x7b' then
      (takeBraced spaced s.length (skipBlanks spaced rest)).map fun (text, left) =>
        (propertyClass negated text, left)
    else if c = '\\' then none
    else some (.property (.named (.ofList [c])) negated, skipBlanks spaced rest)

/-- Letters and hyphens, with blanks between them where the pattern is spaced. -/
def takeEdgeName (spaced : Bool) : Nat → List Char → List Char × List Char
  | fuel + 1, c :: rest =>
    if ('A' ≤ c ∧ c ≤ 'Z') ∨ ('a' ≤ c ∧ c ≤ 'z') ∨ c = '-' then
      let (name, left) := takeEdgeName spaced fuel (skipBlanks spaced rest)
      (c :: name, left)
    else ([], c :: rest)
  | _, s => ([], s)

/-- The kinds of word boundary that are written in braces. -/
def bracedEdge? (name : List Char) : Option Edge :=
  if name = "start".toList then some .wordStart
  else if name = "end".toList then some .wordEnd
  else if name = "start-half".toList then some .wordStartHalf
  else if name = "end-half".toList then some .wordEndHalf
  else none

/-- A word boundary; `s` is what stands behind `\b`.  A brace that cannot begin the name of a
kind of boundary is left for the repetition it begins. -/
def parseWordEdge (spaced : Bool) (s : List Char) : Option (Edge × List Char) :=
  match s with
  | '\x7b' :: rest =>
    match skipBlanks spaced rest with
    | [] => none
    | inside =>
      match takeEdgeName spaced inside.length inside with
      | ([], _) => some (.word, s)
      | (name, '\x7d' :: left) => (bracedEdge? name).map (·, left)
      | _ => none
  | _ => some (.word, s)

/-- The character that a letter stands for behind a backslash. -/
def letterEscape? (c : Char) : Option Char :=
  if c = 'a' then some '\x07'
  else if c = 'f' then some '\x0c'
  else if c = 't' then some '\t'
  else if c = 'n' then some '\n'
  else if c = 'r' then some '\r'
  else if c = 'v' then some '\x0b'
  else none

/-- An escape; `s` begins behind the backslash. -/
def parseEscape (spaced : Bool) (s : List Char) : Option (Escape × List Char) :=
  match s with
  | [] => none
  | c :: rest =>
    if '0' ≤ c ∧ c ≤ '9' then none
    else if c = 'x' ∨ c = 'u' ∨ c = 'U' then
      (parseHex spaced c s).map fun (char, left) => (.char char, left)
    else if c = 'p' ∨ c = 'P' then
      (parseProperty spaced (c = 'P') s).map fun (cls, left) => (.named cls, left)
    else if c = 'd' ∨ c = 'D' then some (.named (.letter .digit (c = 'D')), rest)
    else if c = 's' ∨ c = 'S' then some (.named (.letter .space (c = 'S')), rest)
    else if c = 'w' ∨ c = 'W' then some (.named (.letter .word (c = 'W')), rest)
    else if isEscapable c then some (.char ⟨c, false⟩, rest)
    else if c = 'A' then some (.edge .textStart, rest)
    else if c = 'z' then some (.edge .textEnd, rest)
    else if c = 'b' then (parseWordEdge spaced rest).map fun (kind, left) => (.edge kind, left)
    else if c = 'B' then some (.edge .notWord, rest)
    else if c = '<' then some (.edge .wordStart, rest)
    else if c = '>' then some (.edge .wordEnd, rest)
    else (letterEscape? c).map fun char => (.char ⟨char, false⟩, rest)

/-! ## Bracketed classes -/

/-- The members of the classes with ASCII names. -/
def asciiClass? (name : List Char) : Option (List (Char × Char)) :=
  [ ("alnum", [('0', '9'), ('A', 'Z'), ('a', 'z')]),
    ("alpha", [('A', 'Z'), ('a', 'z')]),
    ("ascii", [('\x00', '\x7f')]),
    ("blank", [('\t', '\t'), (' ', ' ')]),
    ("cntrl", [('\x00', '\x1f'), ('\x7f', '\x7f')]),
    ("digit", [('0', '9')]),
    ("graph", [('!', '~')]),
    ("lower", [('a', 'z')]),
    ("print", [(' ', '~')]),
    ("punct", [('!', '/'), (':', '@'), ('[', '\x60'), ('\x7b', '~')]),
    ("space", [('\t', '\r'), (' ', ' ')]),
    ("upper", [('A', 'Z')]),
    ("word", [('0', '9'), ('A', 'Z'), ('_', '_'), ('a', 'z')]),
    ("xdigit", [('0', '9'), ('A', 'F'), ('a', 'f')]) ].lookup (String.ofList name)

/-- A class like `[:alpha:]`, if the text begins with one; otherwise its bracket opens a class of
its own. -/
def parseAscii (s : List Char) : Option (NamedClass × List Char) := do
  let inside ← behind? ['[', ':'] s
  let (negated, inside) :=
    match inside with
    | '^' :: rest => (true, rest)
    | _ => (false, inside)
  let name := inside.takeWhile (· ≠ ':')
  let left ← behind? [':', ']'] (inside.drop name.length)
  let members ← asciiClass? name
  some (.ascii members negated, left)

/-- Members side by side; a single one stands for itself. -/
def ClassExpr.ofItems : List ClassExpr → ClassExpr
  | [e] => e
  | items => .union items

/-- Joins the members read so far to the operation that waits for them. -/
def ClassExpr.close (waiting : Option (ClassOp × ClassExpr)) (items : List ClassExpr) : ClassExpr :=
  match waiting with
  | none => .ofItems items.reverse
  | some (kind, left) => .op kind left (.ofItems items.reverse)

/-- The member that an escape gives in a class; places between characters are no members. -/
def Escape.member? : Escape → Option ClassExpr
  | .char c => some (.char c)
  | .named cls => some (.named cls)
  | .edge _ => none

/-- One item of a class: an escape or a character. -/
def parseItem (spaced : Bool) : List Char → Option (Escape × List Char)
  | [] => none
  | '\\' :: rest => parseEscape spaced rest
  | c :: rest => some (.char ⟨c, false⟩, rest)

/-- A member of a class, or a range of members. -/
def parseRange (spaced : Bool) (s : List Char) : Option (ClassExpr × List Char) := do
  let (first, left) ← parseItem spaced s
  match skipBlanks spaced left with
  | [] => none
  | '-' :: rest =>
    match skipBlanks spaced rest with
    | [] => none
    | ']' :: _ => first.member?.map (·, '-' :: rest)
    | '-' :: _ => first.member?.map (·, '-' :: rest)
    | right =>
      match first, parseItem spaced right with
      | .char low, some (.char high, left) =>
        if low.char ≤ high.char then some (.range low high, left) else none
      | _, _ => none
  | left => first.member?.map (·, left)

/-- Hyphens at the front of a class are members. -/
def takeHyphens (spaced : Bool) : Nat → List Char → List ClassExpr × List Char
  | fuel + 1, '-' :: rest =>
    let (more, left) := takeHyphens spaced fuel (skipBlanks spaced rest)
    (.char ⟨'-', false⟩ :: more, left)
  | _, s => ([], s)

/-- The front of a class behind its opening bracket: whether it is a complement, and the members
among the signs that would have another meaning later. -/
def parseOpening (spaced : Bool) (s : List Char) : Bool × List ClassExpr × List Char :=
  let s := skipBlanks spaced s
  let (negated, s) :=
    match s with
    | '^' :: rest => (true, skipBlanks spaced rest)
    | _ => (false, s)
  let (hyphens, s) := takeHyphens spaced s.length s
  match hyphens, s with
  | [], ']' :: rest => (negated, [.char ⟨']', false⟩], skipBlanks spaced rest)
  | _, _ => (negated, hyphens.reverse, s)

/-- The body of a class up to its closing bracket, with `items` the members read so far, latest
first, and `waiting` an operation whose right side is being read. -/
def parseBody (spaced : Bool) :
    Nat → Option (ClassOp × ClassExpr) → List ClassExpr → List Char → Option (ClassExpr × List Char)
  | 0, _, _, _ => none
  | fuel + 1, waiting, items, s =>
    let operate (kind : ClassOp) (rest : List Char) :=
      parseBody spaced fuel (some (kind, .close waiting items)) [] rest
    match skipBlanks spaced s with
    | [] => none
    | ']' :: rest => some (.close waiting items, rest)
    | '&' :: '&' :: rest => operate .inter rest
    | '-' :: '-' :: rest => operate .diff rest
    | '~' :: '~' :: rest => operate .symmDiff rest
    | '[' :: rest =>
      match parseAscii ('[' :: rest) with
      | some (cls, left) => parseBody spaced fuel waiting (.named cls :: items) left
      | none =>
        let (negated, first, inside) := parseOpening spaced rest
        match parseBody spaced fuel none first inside with
        | some (body, left) => parseBody spaced fuel waiting (.bracket negated body :: items) left
        | none => none
    | s =>
      match parseRange spaced s with
      | some (item, left) => parseBody spaced fuel waiting (item :: items) left
      | none => none

/-- A bracketed class; `s` begins behind its opening bracket. -/
def parseBracket (spaced : Bool) (s : List Char) : Option (Pattern × List Char) := do
  let (negated, first, inside) := parseOpening spaced s
  let (body, left) ← parseBody spaced (inside.length + 1) none first inside
  some (.bracket negated body, left)

/-! ## Repetitions -/

/-- The pattern a repetition sign applies to, with the items before it. -/
def repeatable : List Pattern → Option (Pattern × List Pattern)
  | [] => none
  | .empty :: _ => none
  | .flags _ :: _ => none
  | p :: rest => some (p, rest)

/-- A repetition is greedy unless a question mark follows. -/
def parseGreed : List Char → Bool × List Char
  | '?' :: rest => (false, rest)
  | s => (true, s)

/-- The bounds in braces; `s` begins behind the opening brace. -/
def parseBounds (spaced : Bool) (s : List Char) : Option (Nat × Option Nat × List Char) := do
  match skipBlanks spaced s with
  | [] => none
  | s =>
    let (low, left) := takeDecimal spaced s
    match left with
    | ',' :: rest =>
      match skipBlanks spaced rest with
      | [] => none
      | '\x7d' :: rest => do some (← ← low, none, rest)
      | inside =>
        let low ← ← low
        let (high, left) := takeDecimal spaced inside
        let high ← ← high
        match left with
        | '\x7d' :: rest => if low ≤ high then some (low, some high, rest) else none
        | _ => none
    | '\x7d' :: rest => do
      let count ← ← low
      some (count, some count, rest)
    | _ => none

/-! ## Groups -/

/-- The flag of a letter. -/
def flag? (c : Char) : Option Flag :=
  [('i', Flag.caseless), ('m', .multiLine), ('s', .dotAll), ('U', .swapGreed), ('u', .unicode),
    ('R', .crlf), ('x', .spaced)].lookup c

/-- Switches of flags up to `)` or `:`.  `on` turns false at the hyphen, which may stand only once
and not last; no flag may stand twice. -/
def parseSwitches (on afterHyphen : Bool) (done : List FlagSwitch) :
    List Char → Option (List FlagSwitch × List Char)
  | [] => none
  | c :: rest =>
    if c = ')' ∨ c = ':' then if afterHyphen then none else some (done.reverse, c :: rest)
    else if c = '-' then if on then parseSwitches false true done rest else none
    else
      match flag? c with
      | none => none
      | some flag =>
        if done.any (·.flag = flag) then none
        else parseSwitches on false (⟨flag, on⟩ :: done) rest

/-- The name of a group up to its closing bracket, which is taken too. -/
def parseGroupName (s : List Char) : Option (String × List Char) :=
  let name := s.takeWhile (· ≠ '>')
  match name, s.drop name.length with
  | first :: more, '>' :: left =>
    if isGroupNameChar true first && more.all (isGroupNameChar false) then
      some (String.ofList name, left)
    else none
  | _, _ => none

/-- What an opening parenthesis begins. -/
inductive Opening where
  /-- A switch of flags for what follows. -/
  | switches (flags : List FlagSwitch)
  /-- A group that captures nothing, with flags of its own. -/
  | plain (flags : List FlagSwitch)
  /-- A capturing group. -/
  | capture
  /-- A group with a name. -/
  | named (name : String)

/-- What a parenthesis begins; `s` begins behind it.  Looking around is not supported. -/
def parseParenthesis (spaced : Bool) (s : List Char) : Option (Opening × List Char) :=
  match skipBlanks spaced s with
  | '?' :: 'P' :: '<' :: rest => (parseGroupName rest).map fun (name, left) => (.named name, left)
  | '?' :: '<' :: rest =>
    match rest with
    | '=' :: _ | '!' :: _ => none
    | _ => (parseGroupName rest).map fun (name, left) => (.named name, left)
  | '?' :: rest =>
    match parseSwitches true false [] rest with
    | some (flags, ')' :: left) =>
      if flags.isEmpty then none else some (.switches flags, left)
    | some (flags, _ :: left) => some (.plain flags, left)
    | _ => none
  | s => some (.capture, s)

/-- The state of the `x` flag behind some switches. -/
def spacedAfter (spaced : Bool) (switches : List FlagSwitch) : Bool :=
  switches.foldl (fun s w => if w.flag = .spaced then w.on else s) spaced

/-! ## Whole patterns -/

/-- The alternatives of a group up to its closing parenthesis or the end, with `items` the current
alternative and `done` the ones before it, both latest first.  `names` are the group names used
so far. -/
def parseAlternatives : Nat → Bool → List String → List Pattern → List Pattern → List Char →
    Option (Pattern × List String × List Char)
  | 0, _, _, _, _, _ => none
  | fuel + 1, spaced, names, done, items, s =>
    let continueWith (items : List Pattern) (rest : List Char) :=
      parseAlternatives fuel spaced names done items rest
    let finish (left : List Char) :=
      some (Pattern.ofAlternatives (Pattern.ofItems items.reverse :: done).reverse, names, left)
    let repeatWith (low : Nat) (high : Option Nat) (rest : List Char) :=
      match repeatable items with
      | none => none
      | some (body, items) =>
        let (greedy, left) := parseGreed rest
        continueWith (.repeated body low high greedy :: items) left
    match skipBlanks spaced s with
    | [] => finish []
    | ')' :: rest => finish (')' :: rest)
    | '|' :: rest =>
      parseAlternatives fuel spaced names (Pattern.ofItems items.reverse :: done) [] rest
    | '(' :: rest =>
      let inside (captures : Bool) (switches : List FlagSwitch) (taken : List String)
          (left : List Char) :=
        match parseAlternatives fuel (spacedAfter spaced switches) taken [] [] left with
        | some (body, names, ')' :: left) =>
          parseAlternatives fuel spaced names done (.group captures switches body :: items) left
        | _ => none
      match parseParenthesis spaced rest with
      | none => none
      | some (.switches flags, left) =>
        parseAlternatives fuel (spacedAfter spaced flags) names done (.flags flags :: items) left
      | some (.plain flags, left) => inside false flags names left
      | some (.capture, left) => inside true [] names left
      | some (.named name, left) =>
        if names.contains name then none else inside true [] (name :: names) left
    | '[' :: rest =>
      match parseBracket spaced rest with
      | some (cls, left) => continueWith (cls :: items) left
      | none => none
    | '?' :: rest => repeatWith 0 (some 1) rest
    | '*' :: rest => repeatWith 0 none rest
    | '+' :: rest => repeatWith 1 none rest
    | '\x7b' :: rest =>
      match parseBounds spaced rest with
      | some (low, high, left) => repeatWith low high (skipBlanks spaced left)
      | none => none
    | '\\' :: rest =>
      match parseEscape spaced rest with
      | some (.char c, left) => continueWith (.char c :: items) left
      | some (.edge kind, left) => continueWith (.edge kind :: items) left
      | some (.named cls, left) => continueWith (.named cls :: items) left
      | none => none
    | '.' :: rest => continueWith (.dot :: items) rest
    | '^' :: rest => continueWith (.edge .lineStart :: items) rest
    | '$' :: rest => continueWith (.edge .lineEnd :: items) rest
    | c :: rest => continueWith (.char ⟨c, false⟩ :: items) rest

/-- The pattern that a text writes. -/
def Pattern.parse? (text : String) : Option Pattern :=
  match parseAlternatives (text.toList.length + 1) false [] [] [] text.toList with
  | some (p, _, []) => if p.height ≤ nestLimit then some p else none
  | _ => none

end Concordance.Regex
