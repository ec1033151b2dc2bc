/-!
# Texts as bytes

Offsets, spans and lengths count the bytes of a text in UTF-8.  This file holds the way from a
text to its bytes and back, the byte order of texts, and the cutting of a text at byte offsets.

* `utf8` and `ofUtf8?` go between a text and its bytes; `ofUtf8?` refuses bytes that are not UTF-8.
* `ofUtf8Lossy` reads any bytes, with a replacement character for each piece that is not UTF-8.
* `byteOrder` compares two texts by their bytes.
* `takeBytes` and `dropBytes` cut a text at an offset that lies between two characters.
-/

namespace Concordance.Text

/-- A sequence of bytes. -/
abbrev Bytes := List UInt8

/-- The bytes of some characters. -/
def encode (s : List Char) : Bytes := s.flatMap String.utf8EncodeChar

@[simp] theorem encode_nil : encode [] = [] := rfl

@[simp] theorem encode_cons (c : Char) (s : List Char) :
    encode (c :: s) = String.utf8EncodeChar c ++ encode s := by
  simp [encode]

@[simp] theorem encode_append (p q : List Char) : encode (p ++ q) = encode p ++ encode q := by
  simp [encode]

/-- The bytes of a text. -/
def utf8 (s : String) : Bytes := encode s.toList

/-- The number of bytes of a text. -/
def byteLength (s : String) : Nat := (utf8 s).length

/-- The text with these bytes, if they are UTF-8. -/
def ofUtf8? (b : Bytes) : Option String := String.fromUTF8? ⟨b.toArray⟩

/-! ## Order -/

/-- The byte order of two texts. -/
def byteOrder (a b : String) : Ordering := compare (utf8 a) (utf8 b)

/-- Is `a` before `b` in byte order, or equal to it? -/
def byteLE (a b : String) : Bool := (byteOrder a b).isLE

/-! ## Cutting at byte offsets -/

/-- What is left of some characters once their first `n` bytes are gone.  An offset inside a
character counts as the offset behind it. -/
def dropBytes : Nat → List Char → List Char
  | 0, s => s
  | _ + 1, [] => []
  | n + 1, c :: s => dropBytes (n + 1 - c.utf8Size) s

/-- The characters that begin within the first `n` bytes. -/
def takeBytes : Nat → List Char → List Char
  | 0, _ => []
  | _ + 1, [] => []
  | n + 1, c :: s => c :: takeBytes (n + 1 - c.utf8Size) s

/-- Does the offset `n` lie between two characters, or at an end? -/
def IsBoundary (s : List Char) (n : Nat) : Prop :=
  ∃ p q, s = p ++ q ∧ n = (encode p).length

theorem isBoundary_zero (s : List Char) : IsBoundary s 0 := ⟨[], s, rfl, rfl⟩

/-! ## Reading damaged bytes -/

/-- How many bytes the character beginning with this byte has, with the least and the greatest
byte that may come second; none for a byte that begins no character. -/
def leadByte (b : UInt8) : Option (Nat × UInt8 × UInt8) :=
  if b < 0x80 then some (1, 0, 0)
  else if 0xC2 ≤ b ∧ b ≤ 0xDF then some (2, 0x80, 0xBF)
  else if b = 0xE0 then some (3, 0xA0, 0xBF)
  else if b = 0xED then some (3, 0x80, 0x9F)
  else if 0xE1 ≤ b ∧ b ≤ 0xEF then some (3, 0x80, 0xBF)
  else if b = 0xF0 then some (4, 0x90, 0xBF)
  else if 0xF1 ≤ b ∧ b ≤ 0xF3 then some (4, 0x80, 0xBF)
  else if b = 0xF4 then some (4, 0x80, 0x8F)
  else none

/-- The length of the piece at the front of some bytes: a character, or the longest beginning of
one, or a single byte that begins none.  The flag says whether it is a whole character. -/
def pieceLength : Bytes → Nat × Bool
  | [] => (0, false)
  | b :: rest =>
    match leadByte b with
    | none => (1, false)
    | some (1, _, _) => (1, true)
    | some (n, low, high) =>
      match rest with
      | c :: more =>
        if low ≤ c ∧ c ≤ high then
          let tails := (more.take (n - 2)).takeWhile fun d => 0x80 ≤ d ∧ d ≤ 0xBF
          (2 + tails.length, tails.length == n - 2)
        else (1, false)
      | [] => (1, false)

/-- The text of any bytes: pieces that are no characters become replacement characters. -/
def ofUtf8Lossy (b : Bytes) : String :=
  String.join (go b.length b)
where
  /-- Reads at most `fuel` pieces; there are no more pieces than bytes. -/
  go : Nat → Bytes → List String
    | 0, _ => []
    | _, [] => []
    | fuel + 1, b =>
      let (n, whole) := pieceLength b
      let piece := if whole then (ofUtf8? (b.take n)).getD "\ufffd" else "\ufffd"
      piece :: go fuel (b.drop n)

end Concordance.Text
