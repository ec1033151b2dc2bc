import Concordance.Regex.Automaton

/-!
# Searching

A search looks for the leftmost match, and among matches that begin there for the one that the
order of preference of the automaton comes to first.  All ways through the automaton are followed
at once, in that order, so each character is looked at once for each state.

* `Place` is a place in a text: what is before it, what is behind it, and its offset.
* `Automaton.find?` is the leftmost match from a place on.
* `Automaton.findAll` are the matches one after the other.
-/

namespace Concordance.Regex

open Concordance.Text (CodePoints)

/-! ## Places -/

/-- A place in a text. -/
structure Place where
  /-- The character before the place. -/
  before : Option Char
  /-- The characters behind the place. -/
  rest : List Char
  /-- The offset of the place, in bytes. -/
  offset : Nat

/-- The place at the front of a text. -/
def Place.front (text : List Char) : Place := ⟨none, text, 0⟩

/-- The place behind the next character; the end stays where it is. -/
def Place.next (p : Place) : Place :=
  match p.rest with
  | [] => p
  | c :: rest => ⟨some c, rest, p.offset + c.utf8Size⟩

/-- Does a word test hold between two characters of which it is known whether they are word
characters? -/
def WordTest.holds (before behind : Bool) : WordTest → Bool
  | .boundary => before != behind
  | .inside => before == behind
  | .start => !before && behind
  | .stop => before && !behind
  | .startHalf => !before
  | .stopHalf => !behind

/-- Does a condition hold at a place? -/
def Look.holds (p : Place) : Look → Bool
  | .textStart => p.before.isNone
  | .textEnd => p.rest.isEmpty
  | .lineStart crlf =>
    match p.before with
    | none => true
    | some c => c = '\n' || (crlf && c = '\r' && p.rest.head? ≠ some '\n')
  | .lineEnd crlf =>
    match p.rest with
    | [] => true
    | c :: _ =>
      if crlf then c = '\r' || (c = '\n' && p.before ≠ some '\r') else c = '\n'
  | .word unicode test =>
    let isWord := if unicode then isWordChar else isWordByte
    test.holds (p.before.any isWord) (p.rest.head?.any isWord)

/-! ## Threads -/

/-- A way through the automaton: the state it has come to, and the offset it began at. -/
structure Thread where
  /-- The state, which reads or accepts. -/
  state : Nat
  /-- Where the match begins. -/
  start : Nat

/-- The threads at one place in order of preference, and a mark for each state already reached
there. -/
structure Threads where
  /-- For each state, the last round in which it was reached. -/
  marks : Array Nat
  /-- The threads. -/
  list : Array Thread

/-- Follows all ways on from some states without reading, the first ones first, and adds the
threads that come to reading or accepting states.  A state reached before in this round is not
followed again.  The first argument bounds the number of steps; each way on is taken once. -/
def Automaton.follow (a : Automaton) (p : Place) (round start : Nat) :
    Nat → List Nat → Threads → Threads
  | 0, _, threads => threads
  | _, [], threads => threads
  | fuel + 1, q :: pending, threads =>
    if threads.marks.getD q round = round then a.follow p round start fuel pending threads
    else
      let threads := { threads with marks := threads.marks.setIfInBounds q round }
      match a.states.getD q .accept with
      | .fork next => a.follow p round start fuel (next ++ pending) threads
      | .look condition next =>
        if condition.holds p then a.follow p round start fuel (next :: pending) threads
        else a.follow p round start fuel pending threads
      | _ =>
        a.follow p round start fuel pending { threads with list := threads.list.push ⟨q, start⟩ }

/-- The number of steps that suffices to follow all ways on. -/
def Automaton.steps (a : Automaton) : Nat := a.links + 2

/-- A match: where it begins, and the place where it ends. -/
structure Match where
  /-- The offset of its first character. -/
  start : Nat
  /-- The place behind its last character. -/
  stop : Place

/-- Moves the threads at a place over the next character, in order.  An accepting thread gives a
match that is preferred to all threads after it, which are given up. -/
def Automaton.move (a : Automaton) (p : Place) (round : Nat) :
    List Thread → Threads → Option Match → Threads × Option Match
  | [], moved, best => (moved, best)
  | t :: rest, moved, best =>
    match a.states.getD t.state .accept with
    | .accept => (moved, some ⟨t.start, p⟩)
    | .read edges next =>
      match p.rest with
      | c :: _ =>
        if CodePoints.memberOf edges c.toNat then
          a.move p round rest (a.follow p.next round t.start a.steps [next] moved) best
        else a.move p round rest moved best
      | [] => a.move p round rest moved best
    | _ => a.move p round rest moved best

/-- Searches on from a place, with the threads there and the best match so far.  While there is no
match, a new thread begins at each place, with the least preference.  The first argument is the
number of characters left. -/
def Automaton.run (a : Automaton) : Nat → Place → Nat → Threads → Option Match → Option Match
  | left, p, round, threads, best =>
    let threads :=
      match best with
      | none => a.follow p round p.offset a.steps [a.start] threads
      | some _ => threads
    let (moved, best) := a.move p (round + 1) threads.list.toList ⟨threads.marks, #[]⟩ best
    match left with
    | 0 => best
    | left + 1 =>
      if best.isSome && moved.list.isEmpty then best
      else a.run left p.next (round + 1) moved best

/-- The leftmost match from a place on. -/
def Automaton.find? (a : Automaton) (p : Place) : Option Match :=
  a.run p.rest.length p 1 ⟨Array.replicate a.states.size 0, #[]⟩ none

/-- The matches from a place on, one after the other.  An empty match is left out where the match
before it ended.  The first argument bounds the number of searches: each second one goes on by a
character. -/
def Automaton.findFrom (a : Automaton) : Nat → Place → Option Nat → List (Nat × Nat)
  | 0, _, _ => []
  | fuel + 1, p, last =>
    match a.find? p with
    | none => []
    | some m =>
      if m.start = m.stop.offset ∧ last = some m.stop.offset then
        if p.rest.isEmpty then [] else a.findFrom fuel p.next last
      else (m.start, m.stop.offset) :: a.findFrom fuel m.stop (some m.stop.offset)

/-- The matches in a text, each by the offsets where it begins and ends. -/
def Automaton.findAll (a : Automaton) (text : List Char) : List (Nat × Nat) :=
  a.findFrom (2 * text.length + 2) (Place.front text) none

end Concordance.Regex
