/-!
# Patterns

A pattern is a regular expression as it is written, before its flags are applied: characters,
classes, repetitions, groups and switches of flags in the order of the text.

* `ClassExpr` is the body of a bracketed class, `Pattern` a whole expression.
* `Pattern.height` counts how deeply constructs are nested, which is limited to `nestLimit`.
-/

namespace Concordance.Regex

/-! ## Flags -/

/-- A flag that a pattern can switch. -/
inductive Flag where
  /-- `i`: letters match in any case. -/
  | caseless
  /-- `m`: `^` and `$` match at line ends too. -/
  | multiLine
  /-- `s`: the dot matches a line feed too. -/
  | dotAll
  /-- `U`: repetitions are lazy unless marked. -/
  | swapGreed
  /-- `u`: classes and boundaries know all of Unicode. -/
  | unicode
  /-- `R`: CR and CR LF end a line too. -/
  | crlf
  /-- `x`: blanks and comments in the pattern are skipped. -/
  | spaced
  deriving DecidableEq, Repr

/-- A switch of one flag, on or off. -/
structure FlagSwitch where
  /-- The flag. -/
  flag : Flag
  /-- Its new state. -/
  on : Bool
  deriving DecidableEq, Repr

/-! ## Leaves -/

/-- A place between characters that a pattern can ask for. -/
inductive Edge where
  /-- `^` -/
  | lineStart
  /-- `$` -/
  | lineEnd
  /-- `\A` -/
  | textStart
  /-- `\z` -/
  | textEnd
  /-- `\b`: a word begins or ends. -/
  | word
  /-- `\B`: no word begins or ends. -/
  | notWord
  /-- `\<`: a word begins. -/
  | wordStart
  /-- `\>`: a word ends. -/
  | wordEnd
  /-- No word character stands before. -/
  | wordStartHalf
  /-- No word character stands behind. -/
  | wordEndHalf
  deriving DecidableEq, Repr

/-- A character, and whether it was written as a byte of two hexadecimal digits. -/
structure Literal where
  /-- The character. -/
  char : Char
  /-- Written as `\xHH`? -/
  asByte : Bool
  deriving DecidableEq, Repr

/-- The classes with a letter of their own. -/
inductive LetterClass where
  /-- `\d` -/
  | digit
  /-- `\s` -/
  | space
  /-- `\w` -/
  | word
  deriving DecidableEq, Repr

/-- The question a property class asks. -/
inductive PropertyQuery where
  /-- A property, category or script by name alone. -/
  | named (name : String)
  /-- A property with a value. -/
  | valued (name value : String)
  deriving DecidableEq, Repr

/-- A class with a name, or its complement. -/
inductive NamedClass where
  /-- `\d`, `\s`, `\w` and their complements. -/
  | letter (kind : LetterClass) (negated : Bool)
  /-- `\p` and `\P`. -/
  | property (query : PropertyQuery) (negated : Bool)
  /-- `[:name:]`, which has ASCII members only. -/
  | ascii (members : List (Char × Char)) (negated : Bool)
  deriving DecidableEq, Repr

/-- An operation between two parts of a bracketed class. -/
inductive ClassOp where
  /-- `&&` -/
  | inter
  /-- `--` -/
  | diff
  /-- `~~` -/
  | symmDiff
  deriving DecidableEq, Repr

/-! ## Bracketed classes -/

/-- The body of a bracketed class. -/
inductive ClassExpr where
  /-- A single character. -/
  | char (c : Literal)
  /-- The characters from one to another. -/
  | range (low high : Literal)
  /-- A class with a name. -/
  | named (cls : NamedClass)
  /-- Members side by side. -/
  | union (items : List ClassExpr)
  /-- An operation between two parts. -/
  | op (kind : ClassOp) (left right : ClassExpr)
  /-- A class within brackets of its own. -/
  | bracket (negated : Bool) (body : ClassExpr)
  deriving Repr

/-! ## Patterns -/

/-- A pattern. -/
inductive Pattern where
  /-- Nothing. -/
  | empty
  /-- A switch of flags for the rest of the group. -/
  | flags (switches : List FlagSwitch)
  /-- One character. -/
  | char (c : Literal)
  /-- The dot. -/
  | dot
  /-- A place between characters. -/
  | edge (kind : Edge)
  /-- A class with a name. -/
  | named (cls : NamedClass)
  /-- A class in brackets. -/
  | bracket (negated : Bool) (body : ClassExpr)
  /-- A group, with flags switched for its inside.  A capturing group marks both its ends. -/
  | group (captures : Bool) (switches : List FlagSwitch) (body : Pattern)
  /-- A repetition, at least `min` and at most `max` times. -/
  | repeated (body : Pattern) (min : Nat) (max : Option Nat) (greedy : Bool)
  /-- Patterns one after the other. -/
  | concat (items : List Pattern)
  /-- Patterns to choose from, the first preferred. -/
  | alternation (items : List Pattern)
  deriving Repr

/-- Several patterns in a row; a single one stands for itself. -/
def Pattern.ofItems : List Pattern → Pattern
  | [] => .empty
  | [p] => p
  | items => .concat items

/-- Several alternatives; a single one stands for itself. -/
def Pattern.ofAlternatives : List Pattern → Pattern
  | [] => .empty
  | [p] => p
  | items => .alternation items

/-! ## Nesting -/

/-- How deeply a pattern may be nested. -/
def nestLimit : Nat := 250

mutual

/-- How deeply the body of a bracketed class is nested. -/
def ClassExpr.height : ClassExpr → Nat
  | .char _ | .range _ _ | .named _ => 0
  | .union items => 1 + ClassExpr.heights items
  | .op _ left right => 1 + max left.height right.height
  | .bracket _ body => 1 + body.height

/-- The greatest nesting in a list of class bodies. -/
def ClassExpr.heights : List ClassExpr → Nat
  | [] => 0
  | e :: rest => max e.height (ClassExpr.heights rest)

end

mutual

/-- How deeply a pattern is nested. -/
def Pattern.height : Pattern → Nat
  | .empty | .flags _ | .char _ | .dot | .edge _ | .named _ => 0
  | .bracket _ body => 1 + body.height
  | .group _ _ body => 1 + body.height
  | .repeated body _ _ _ => 1 + body.height
  | .concat items => 1 + Pattern.heights items
  | .alternation items => 1 + Pattern.heights items

/-- The greatest nesting in a list of patterns. -/
def Pattern.heights : List Pattern → Nat
  | [] => 0
  | p :: rest => max p.height (Pattern.heights rest)

end

end Concordance.Regex
