import Concordance.Query.Occurrence

/-!
# Regions

A region is a set of bytes of a text, given by spans.  Merging brings the spans of a region into
one form: in order, without overlap and without contact.

* `mergeSpans` merges the spans of a region.
-/

namespace Concordance

/-- Is the first span before the second by its start, or by its stop if they start together? -/
def Span.le (a b : Span) : Bool := a.start < b.start || (a.start == b.start && a.stop ≤ b.stop)

/-- Merges spans in order, the first of them being `last`: one that begins before or at the end of
the span before it makes that span longer. -/
def mergeInto (last : Span) : List Span → List Span
  | [] => [last]
  | s :: rest =>
    if s.start ≤ last.stop then mergeInto ⟨last.start, max last.stop s.stop⟩ rest
    else last :: mergeInto s rest

/-- The spans of a region, merged. -/
def mergeSpans (spans : List Span) : List Span :=
  match spans.mergeSort Span.le with
  | [] => []
  | s :: rest => mergeInto s rest

end Concordance
