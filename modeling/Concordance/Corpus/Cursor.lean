import Concordance.Corpus.Search

/-!
# Cursors

A cursor goes through the names of a corpus, all of them or those that match a query, one at a
time and only once.  The corpus may be closed at any moment; from then on there are no more names.

* `Cursor.advance` gives the next name, or nothing at the end.  A closed corpus is an error each
  time and leaves the cursor as it is; after any other error the cursor is at its end.
* `Cursor.next` does the same for iterating: a closed corpus is reported once.
* `Cursor.drain` iterates up to the end.
-/

namespace Concordance

/-- How far a cursor has come. -/
inductive CursorState where
  /-- Not advanced yet. -/
  | created
  /-- More names may follow. -/
  | active
  /-- There are no more names. -/
  | exhausted
  deriving DecidableEq, Repr

/-- What a cursor goes through. -/
inductive Traversal where
  /-- All names, from a slot on. -/
  | entries (slot : Nat)
  /-- The names that match a query among those at some slots; nothing before the slots have been
  looked up. -/
  | query (query : Compiled) (slots : Option (List Nat))

/-- A way through the names of a corpus. -/
structure Cursor where
  /-- What is still to come. -/
  traversal : Traversal
  /-- How far the cursor has come. -/
  state : CursorState
  /-- Has iterating reported that the corpus is closed? -/
  reported : Bool

/-- A corpus that may have been closed. -/
abbrev Handle := Option Corpus

/-- What comes of a step of a cursor. -/
structure Advance (α : Type) where
  /-- What the step gives. -/
  result : α
  /-- The names that the store was asked for. -/
  asked : List String
  /-- The cursor afterwards. -/
  cursor : Cursor
  /-- The corpus afterwards: a step may build its trigram index. -/
  corpus : Handle

namespace Cursor

/-- A cursor through all names. -/
def entries : Cursor := ⟨.entries 0, .created, false⟩

/-- A cursor through the names that match a query. -/
def matching (query : Compiled) : Cursor := ⟨.query query none, .created, false⟩

/-- The cursor with another state. -/
def withState (c : Cursor) (state : CursorState) : Cursor := { c with state }

/-- The next name at a slot. -/
def stepEntries (corpus : Corpus) (c : Cursor) (slot : Nat) :
    Advance (Except Error (Option String)) :=
  match corpus.index.names.nameAt? slot with
  | some name =>
    ⟨.ok name, [], { c with traversal := .entries (slot + 1), state := .active }, corpus⟩
  | none => ⟨.ok none, [], c.withState .exhausted, corpus⟩

/-- The next match among some slots, `asked` being the names asked for before. -/
def stepSlots (tree : Tree) (corpus : Corpus) (c : Cursor) (query : Compiled) (asked : List String)
    (slots : List Nat) : Advance (Except Error (Option String)) :=
  let found := query.firstMatch (corpus.load tree) corpus.index.names slots
  let asked := asked ++ found.asked
  match found.outcome with
  | .ok (some (name, rest)) =>
    ⟨.ok name, asked, { c with traversal := .query query rest, state := .active }, corpus⟩
  | .ok none =>
    ⟨.ok none, asked, { c with traversal := .query query (some []), state := .exhausted }, corpus⟩
  | .error e => ⟨.error e, asked, c.withState .exhausted, corpus⟩

/-- The next name of an open corpus. -/
def step (tree : Tree) (corpus : Corpus) (c : Cursor) : Advance (Except Error (Option String)) :=
  match c.traversal with
  | .entries slot => stepEntries corpus c slot
  | .query query (some slots) => stepSlots tree corpus c query [] slots
  | .query query none =>
    let found := corpus.candidates tree query
    match found.outcome with
    | .ok (slots, index) => stepSlots tree { corpus with index } c query found.asked slots
    | .error e => ⟨.error e, found.asked, c.withState .exhausted, corpus⟩

/-- Goes to the next name.  At the end there is no name and no error, whatever has become of the
corpus. -/
def advance (tree : Tree) (corpus : Handle) (c : Cursor) : Advance (Except Error (Option String)) :=
  if c.state = .exhausted then ⟨.ok none, [], c, corpus⟩
  else
    match corpus with
    | none => ⟨.error .closed, [], c, none⟩
    | some corpus => c.step tree corpus

/-- Iterates one step: a name, an error, or nothing at the end.  A closed corpus is an error
once, and the end from then on. -/
def next (tree : Tree) (corpus : Handle) (c : Cursor) : Advance (Option (Except Error String)) :=
  if c.reported then ⟨none, [], c, corpus⟩
  else
    let a := c.advance tree corpus
    match a.result with
    | .ok (some name) => { a with result := some (.ok name) }
    | .ok none => { a with result := none }
    | .error .closed =>
      { a with result := some (.error .closed), cursor := { a.cursor with reported := true } }
    | .error e => { a with result := some (.error e) }

/-- Iterates at most `fuel` steps. -/
def drainFrom (tree : Tree) : Nat → Handle → Cursor → Advance (List (Except Error String))
  | 0, corpus, c => ⟨[], [], c, corpus⟩
  | fuel + 1, corpus, c =>
    let a := c.next tree corpus
    match a.result with
    | none => { a with result := [] }
    | some item =>
      let rest := drainFrom tree fuel a.corpus a.cursor
      { rest with result := item :: rest.result, asked := a.asked ++ rest.asked }

/-- Iterates up to the end.  There is at most one error besides the names, and one step more is
the end. -/
def drain (tree : Tree) (corpus : Handle) (c : Cursor) : Advance (List (Except Error String)) :=
  drainFrom tree ((corpus.map Corpus.size).getD 0 + 2) corpus c

end Cursor

end Concordance
