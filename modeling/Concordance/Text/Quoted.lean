import Concordance.Text.Printable

/-!
# Quoted texts

Messages show a name, a pattern or a literal in double quotes, so that a reader can tell where it
begins and ends and which characters it holds.

* `escaped` is the written form of one character: a backslash form for the quote, the backslash,
  the tab, the two line breaks and NUL, a numbered form for what does not print, and otherwise the
  character itself.
* `quoted` is the written form of a text.
-/

namespace Concordance.Text

/-- The numbered form of a character, its code point in lower-case hexadecimal. -/
def numbered (c : Char) : List Char :=
  ['\\', 'u', '\x7b'] ++ Nat.toDigits 16 c.toNat ++ ['\x7d']

/-- The written form of a character inside quotes. -/
def escaped (c : Char) : List Char :=
  if c = '"' then ['\\', '"']
  else if c = '\\' then ['\\', '\\']
  else if c = '\t' then ['\\', 't']
  else if c = '\r' then ['\\', 'r']
  else if c = '\n' then ['\\', 'n']
  else if c = '\x00' then ['\\', '0']
  else if isPlain c then [c]
  else numbered c

/-- The written form of a text: its characters' forms between double quotes. -/
def quoted (s : String) : String :=
  String.ofList ('"' :: s.toList.flatMap escaped ++ ['"'])

end Concordance.Text
