import Mathlib
import Concordance.Query.Parser

/-!
# The grammar of queries

The grammar has two layers.  A query is a sequence of words, signs and literals, with any blanks
before, between and behind them; and a sequence of these derives a formula by rules that do not say
in which order they are tried, nor how far a rule reaches.

* `Token.Takes` says that a text begins, behind blanks, with a token; `Spells` says it of several
  tokens.
* `Derives` are the rules, on three levels: factors, terms and expressions.
* `Sentence` says that a text is a query for a formula.
-/

namespace Concordance.Query

/-! ## Tokens -/

/-- A part of a query that no blank may interrupt. -/
inductive Token where
  /-- A word or a sign. -/
  | word (w : String)
  /-- A literal, by its value. -/
  | literal (value : String)
  deriving DecidableEq, Repr

namespace Token

/-- How a token is written: a literal stands between two quotes of a kind that it does not
contain. -/
def Written : Token → List Char → Prop
  | .word w, text => text = w.toList
  | .literal value, text =>
    ∃ quote, (quote = '\x27' ∨ quote = '"') ∧ quote ∉ value.toList ∧
      text = quote :: (value.toList ++ [quote])

/-- May a text stand directly behind the token?  Behind an operator it must not go on as a word
does. -/
def Ends : Token → List Char → Prop
  | .word w, rest => w = "or" ∨ w = "and" → ∀ c, rest.head? = some c → isWordChar c = false
  | .literal _, _ => True

/-- The text `s` begins with the token, behind any blanks, and `rest` is what follows. -/
def Takes (s : List Char) (t : Token) (rest : List Char) : Prop :=
  ∃ front text, (∀ c ∈ front, isBlank c = true) ∧ t.Written text ∧ t.Ends rest ∧
    s = front ++ (text ++ rest)

end Token

/-- The text `s` begins with the tokens, and `rest` is what follows. -/
inductive Spells : List Char → List Token → List Char → Prop where
  | nil (s : List Char) : Spells s [] s
  | cons {s s' rest : List Char} {t : Token} {ts : List Token} :
      t.Takes s s' → Spells s' ts rest → Spells s (t :: ts) rest

/-! ## Rules -/

/-- The levels of the grammar. -/
inductive Level where
  /-- What stands between operators. -/
  | factor
  /-- Factors joined by `and`. -/
  | term
  /-- Terms joined by `or`. -/
  | expr
  deriving DecidableEq, Repr

/-- The tokens of several parts with an operator between each two of them. -/
def joined (operator : String) (parts : List (List Token × Formula Call)) : List Token :=
  [Token.word operator].intercalate (parts.map Prod.fst)

/-- The tokens derive the formula at the level. -/
inductive Derives : Level → List Token → Formula Call → Prop where
  /-- `not(expr)` -/
  | not {ts : List Token} {f : Formula Call} : Derives .expr ts f →
      Derives .factor (.word "not" :: .word "(" :: (ts ++ [.word ")"])) (.not f)
  /-- `(expr)` -/
  | group {ts : List Token} {f : Formula Call} : Derives .expr ts f →
      Derives .factor (.word "(" :: (ts ++ [.word ")"])) f
  /-- `true()` -/
  | true : Derives .factor [.word "true", .word "(", .word ")"] (.const true)
  /-- `false()` -/
  | false : Derives .factor [.word "false", .word "(", .word ")"] (.const false)
  /-- `function(field, literal)` -/
  | call (function : Function) (field : Field) (value : String) :
      Derives .factor [.word function.name, .word "(", .word (fieldName field), .word ",",
        .literal value, .word ")"] (.test ⟨function, field, value⟩)
  /-- One factor. -/
  | single {ts : List Token} {f : Formula Call} : Derives .factor ts f → Derives .term ts f
  /-- Two or more factors. -/
  | and (parts : List (List Token × Formula Call)) : 2 ≤ parts.length →
      (∀ p ∈ parts, Derives .factor p.1 p.2) →
      Derives .term (joined "and" parts) (.and (parts.map Prod.snd))
  /-- One term. -/
  | term {ts : List Token} {f : Formula Call} : Derives .term ts f → Derives .expr ts f
  /-- Two or more terms. -/
  | or (parts : List (List Token × Formula Call)) : 2 ≤ parts.length →
      (∀ p ∈ parts, Derives .term p.1 p.2) →
      Derives .expr (joined "or" parts) (.or (parts.map Prod.snd))

/-- The text is a query for the formula; blanks may stand behind it. -/
def Sentence (s : String) (f : Formula Call) : Prop :=
  ∃ ts rest, Spells s.toList ts rest ∧ Derives .expr ts f ∧ ∀ c ∈ rest, isBlank c = true

end Concordance.Query
