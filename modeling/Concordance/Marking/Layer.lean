import Concordance.Ascending
import Concordance.Marking.Region
import Concordance.Marking.Tag
import Concordance.Text.Bytes

/-!
# Layers

A layer is a region of a text that carries an attribute.  Where layers overlap, the text carries
the attributes of all of them.

* `cuts` are the offsets at which a layer begins or ends.
* `Sweep` is a layer with a position among its spans, which moves on from cut to cut.
* `render` cuts a text and writes each piece with the attributes of the layers whose sweeps are at
  a span that has begun.
-/

namespace Concordance

open Concordance.Text (takeBytes dropBytes encode)

/-- A region that carries an attribute. -/
structure Layer where
  /-- The attribute. -/
  attr : Attribute
  /-- The spans of the region, merged. -/
  spans : List Span
  deriving DecidableEq, Repr

/-- The offsets at which a text of a given length is cut, in order: its ends, and the ends of all
spans. -/
def cuts (length : Nat) (layers : List Layer) : List Nat :=
  let ends := layers.flatMap fun l => l.spans.flatMap fun s => [s.start, s.stop]
  ascending (0 :: length :: ends)

/-! ## Sweeps -/

/-- A layer with a position in the list of its spans. -/
structure Sweep where
  /-- The layer. -/
  layer : Layer
  /-- How many spans are behind the sweep. -/
  position : Nat
  deriving DecidableEq, Repr

/-- A sweep before all spans of a layer. -/
def Sweep.ofLayer (l : Layer) : Sweep := ⟨l, 0⟩

/-- Moves a position on over the spans that end at or before an offset, up to the first that does
not; the list are the spans from the position on. -/
def passSpans (n : Nat) : List Span → Nat → Nat
  | [], position => position
  | s :: rest, position => if s.stop ≤ n then passSpans n rest (position + 1) else position

/-- Moves a sweep on to an offset. -/
def Sweep.moveTo (n : Nat) (s : Sweep) : Sweep :=
  { s with position := passSpans n (s.layer.spans.drop s.position) s.position }

/-- Is a sweep at a span that begins at or before an offset? -/
def Sweep.covers (n : Nat) (s : Sweep) : Bool :=
  s.layer.spans[s.position]?.any fun span => span.start ≤ n

/-- The attributes of the layers that their sweeps show to cover an offset, set in order. -/
def sweptAttributes (n : Nat) (sweeps : List Sweep) : List Attribute :=
  sweeps.foldl
    (fun attributes s => if s.covers n then setAttribute s.layer.attr attributes else attributes) []

/-! ## Rendering -/

/-- A piece of text with its attributes; without any it stands as it is. -/
def writePiece (element : String) (attributes : List Attribute) (piece : List Char) : List Char :=
  if attributes.isEmpty then piece
  else startTag element attributes ++ piece ++ endTag element

/-- Writes the pieces of a text from the offset `start` to each of the later cuts.  At the front of
each piece the sweeps are moved on. -/
def renderFrom (element : String) (sweeps : List Sweep) (start : Nat) :
    List Nat → List Char → List Char
  | [], _ => []
  | stop :: more, rest =>
    let sweeps := sweeps.map (Sweep.moveTo start)
    writePiece element (sweptAttributes start sweeps) (takeBytes (stop - start) rest)
      ++ renderFrom element sweeps stop more (dropBytes (stop - start) rest)

/-- Writes a text with the attributes of its layers. -/
def render (element : String) (layers : List Layer) (content : List Char) : List Char :=
  match cuts (encode content).length layers with
  | [] => []
  | start :: more => renderFrom element (layers.map Sweep.ofLayer) start more content

end Concordance
