/-!
# Recognisers

A recogniser reads something at the front of a text, or fails.  Beside that it keeps a record of
the rules that were tried and failed, so that an error can tell what was expected at the farthest
place that was reached.

* `Recogniser.read` is what is read, with the characters behind it.
* `Recogniser.note` is what an attempt, failed or not, changes in the record.
* `rule` gives a recogniser a name in the record; `word` gives one to a recogniser whose inside
  leaves no record.

Places are named by the number of characters left, so a farther place has a smaller number.
-/

namespace Concordance.Query

/-! ## The record of failed attempts -/

/-- The rules that failed at the farthest place where one did. -/
structure Attempts (ρ : Type) where
  /-- How many characters are left at the place. -/
  left : Nat
  /-- The rules that failed there, in the order they failed. -/
  rules : List ρ
  deriving Repr

namespace Attempts

variable {ρ : Type}

/-- How many rules have failed at a place. -/
def countAt (a : Attempts ρ) (left : Nat) : Nat := if left = a.left then a.rules.length else 0

/-- Records that a rule failed at a place: `before` is the record when the rule began and `a` the
record of what was tried within it.  If exactly one rule was recorded within it at its own place,
that one says more and stays alone.  Otherwise the rule takes the place of the ones within it,
and a farther place takes that of a nearer one. -/
def fail (a : Attempts ρ) (r : ρ) (left : Nat) (before : Attempts ρ) : Attempts ρ :=
  if a.countAt left = before.countAt left + 1 then a
  else if left = a.left then ⟨left, a.rules.take (before.countAt left) ++ [r]⟩
  else if left < a.left then ⟨left, [r]⟩
  else a

end Attempts

/-! ## Recognisers -/

/-- Reads an `α`, and keeps a record over rules `ρ`. -/
structure Recogniser (ρ α : Type) where
  /-- What is read, with the characters behind it. -/
  read : List Char → Option (α × List Char)
  /-- The record after the attempt. -/
  note : List Char → Attempts ρ → Attempts ρ

namespace Recogniser

variable {ρ α β : Type}

instance : Monad (Recogniser ρ) where
  pure a := ⟨fun s => some (a, s), fun _ t => t⟩
  bind p f :=
    ⟨fun s => (p.read s).bind fun (a, rest) => (f a).read rest,
     fun s t =>
      match p.read s with
      | none => p.note s t
      | some (a, rest) => (f a).note rest (p.note s t)⟩

instance : Inhabited (Recogniser ρ α) := ⟨⟨fun _ => none, fun _ t => t⟩⟩

/-- Fails, and leaves no record. -/
def failure : Recogniser ρ α := ⟨fun _ => none, fun _ t => t⟩

/-- Reads given characters. -/
def chars (w : List Char) : Recogniser ρ Unit :=
  ⟨fun s => if w.isPrefixOf s then some ((), s.drop w.length) else none, fun _ t => t⟩

/-- Reads the characters up to the first that does not satisfy `p`. -/
def takeWhile (p : Char → Bool) : Recogniser ρ (List Char) :=
  ⟨fun s => some (s.takeWhile p, s.dropWhile p), fun _ t => t⟩

/-- Reads nothing, and fails if the next character satisfies `p`. -/
def notNext (p : Char → Bool) : Recogniser ρ Unit :=
  ⟨fun s => if s.head?.any p then none else some ((), s), fun _ t => t⟩

/-- Reads nothing, and fails before the end of the text. -/
def atEnd : Recogniser ρ Unit :=
  ⟨fun s => if s.isEmpty then some ((), s) else none, fun _ t => t⟩

/-- Tries `p`, and `q` if `p` fails. -/
def orElse (p q : Recogniser ρ α) : Recogniser ρ α :=
  ⟨fun s => (p.read s).or (q.read s),
   fun s t => if (p.read s).isSome then p.note s t else q.note s (p.note s t)⟩

/-- The result of a recogniser, changed by a function. -/
def mapResult (f : α → β) (p : Recogniser ρ α) : Recogniser ρ β := p >>= fun a => pure (f a)

/-- Tries several recognisers in order. -/
def firstOf : List (Recogniser ρ α) → Recogniser ρ α
  | [] => failure
  | p :: rest => p.orElse (firstOf rest)

/-- What rounds of `p` read, up to the first that fails; at most `fuel` rounds. -/
def readMany (p : Recogniser ρ α) : Nat → List Char → List α × List Char
  | 0, s => ([], s)
  | fuel + 1, s =>
    match p.read s with
    | none => ([], s)
    | some (a, rest) =>
      let (more, rest) := p.readMany fuel rest
      (a :: more, rest)

/-- The record after rounds of `p`, the failing one with them. -/
def noteMany (p : Recogniser ρ α) : Nat → List Char → Attempts ρ → Attempts ρ
  | 0, _, t => t
  | fuel + 1, s, t =>
    match p.read s with
    | none => p.note s t
    | some (_, rest) => p.noteMany fuel rest (p.note s t)

/-- Any number of rounds of `p`, each of which reads at least one character. -/
def many (p : Recogniser ρ α) : Recogniser ρ (List α) :=
  ⟨fun s => some (p.readMany (s.length + 1) s), fun s t => p.noteMany (s.length + 1) s t⟩

/-- Gives `p` a name in the record. -/
def rule (r : ρ) (p : Recogniser ρ α) : Recogniser ρ α :=
  ⟨p.read, fun s t =>
    if (p.read s).isSome then p.note s t else (p.note s t).fail r s.length t⟩

/-- Gives `p` a name in the record, in which nothing within `p` has a part. -/
def word (r : ρ) (p : Recogniser ρ α) : Recogniser ρ α :=
  ⟨p.read, fun s t => if (p.read s).isSome then t else t.fail r s.length t⟩

/-- What `p` makes of a whole text: what it reads, or the record of what failed. -/
def run (p : Recogniser ρ α) (s : List Char) : Except (Attempts ρ) α :=
  match p.read s with
  | some (a, _) => .ok a
  | none => .error (p.note s ⟨s.length, []⟩)

end Recogniser

end Concordance.Query
