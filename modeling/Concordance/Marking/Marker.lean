import Concordance.Error
import Concordance.Marking.Layer
import Concordance.Query.Compiled

/-!
# Markers

A marker is a query with an attribute.  Where the query holds for an entry, the places that met
its tests of the content are marked with the attribute.

* `Marker.compile` checks a marker: first its attribute, then its query.
* `markedSpans` are the spans that a query that holds marks.
* `markContent` marks the content of an entry with several markers.
-/

namespace Concordance

/-- A query whose places are marked with an attribute. -/
structure Marker where
  /-- The text of the query. -/
  query : String
  /-- The attribute. -/
  attr : Attribute
  deriving DecidableEq, Repr

/-- A marker that has been checked. -/
structure CompiledMarker where
  /-- The query. -/
  query : Compiled
  /-- The attribute. -/
  attr : Attribute

/-- Checks a marker. -/
def Marker.compile [Regex.Engine] (m : Marker) : Except Error CompiledMarker :=
  if isTagName m.attr.name then
    match Compiled.ofText m.query with
    | .ok query => .ok ⟨query, m.attr⟩
    | .error e => .error (.badQuery e)
  else .error (.badMarker m.attr.name)

/-- Checks markers in order; the first bad one is an error. -/
def compileMarkers [Regex.Engine] : List Marker → Except Error (List CompiledMarker)
  | [] => .ok []
  | m :: rest => do
    let marker ← m.compile
    let markers ← compileMarkers rest
    .ok (marker :: markers)

mutual

/-- The spans that a query marks in an entry: those of its tests of the content.  Of a disjunction
only the parts that hold are marked, and of a negation nothing is. -/
def markedSpans (name content : String) : Formula Test → List Span
  | .const _ => []
  | .test ⟨.text, condition⟩ => condition.spans content
  | .test ⟨.name, _⟩ => []
  | .not _ => []
  | .and items => markedInAll name content items
  | .or items => markedInHolding name content items

/-- The spans that all of some queries mark. -/
def markedInAll (name content : String) : List (Formula Test) → List Span
  | [] => []
  | e :: rest => markedSpans name content e ++ markedInAll name content rest

/-- The spans that those of some queries mark that hold. -/
def markedInHolding (name content : String) : List (Formula Test) → List Span
  | [] => []
  | e :: rest =>
    (if Expr.holds e name content then markedSpans name content e else [])
      ++ markedInHolding name content rest

end

/-- Does the query of a marker hold for an entry with this content? -/
def CompiledMarker.applies (m : CompiledMarker) (name content : String) : Except Error Bool :=
  (View.execute (fun n => .fail (.notFound n)) m.query.program ⟨name, some content⟩).outcome.map
    Prod.fst

/-- The region that a marker marks in an entry, merged. -/
def CompiledMarker.region (m : CompiledMarker) (name content : String) : Except Error (List Span) :=
  (m.applies name content).map fun applies =>
    if applies then mergeSpans (markedSpans name content m.query.expr) else []

/-- The layers of some markers, in order; those with an empty region are left out. -/
def layersOf (name content : String) : List CompiledMarker → Except Error (List Layer)
  | [] => .ok []
  | m :: rest => do
    let spans ← m.region name content
    let layers ← layersOf name content rest
    .ok (if spans.isEmpty then layers else ⟨m.attr, spans⟩ :: layers)

/-- Marks the content of an entry, with `element` as the element of the tags. -/
def markContent (element name content : String) (markers : List CompiledMarker) :
    Except Error String :=
  if isTagName element then
    (layersOf name content markers).map fun layers =>
      if layers.isEmpty then content
      else String.ofList (render element layers content.toList)
  else .error (.badMarker element)

end Concordance
