import Mathlib
import Concordance.Proofs.Marking.Attributes
import Concordance.Proofs.Marking.Cuts
import Concordance.Proofs.Marking.Sweep
import Concordance.Proofs.Query.Spans

/-!
# Rendering layers

Rendering writes the longest pieces of a text whose bytes are covered alike, one after the other,
each with the attributes of the layers that cover it.

* `tagged` is a piece between its tags; `encode_writePiece` says that it is written so.
* `encode_renderFrom` goes through the pieces from cut to cut, and with it the invariant of the
  sweeps.
* `encode_render` is the statement about a whole text.
-/

namespace Concordance

open Concordance.Text

variable {element : String} {layers : List Layer}

/-! ## Tags -/

/-- A piece between its tags. -/
def tagged (element : String) (attributes : List Attribute) (piece : Bytes) : Bytes :=
  let written := attributes.map fun a =>
    " " ++ a.name ++ "=\"" ++ String.ofList (escapeValue a.value) ++ "\""
  utf8 ("<" ++ element ++ String.join written ++ ">") ++ piece ++ utf8 ("</" ++ element ++ ">")

/-- A piece with its attributes; without any it stands as it is. -/
def decorated (element : String) (attributes : List Attribute) (piece : Bytes) : Bytes :=
  if attributes = [] then piece else tagged element attributes piece

theorem toList_startTag (element : String) (attributes : List Attribute) :
    ("<" ++ element ++ String.join (attributes.map fun a =>
      " " ++ a.name ++ "=\"" ++ String.ofList (escapeValue a.value) ++ "\"") ++ ">").toList
      = startTag element attributes := by
  have hwrite : ∀ a : Attribute,
      (" " ++ a.name ++ "=\"" ++ String.ofList (escapeValue a.value) ++ "\"").toList = a.write := by
    intro a
    simp [Attribute.write]
  simp only [String.toList_append, String.toList_join, List.flatMap_map, hwrite, startTag]
  simp

theorem toList_endTag (element : String) :
    ("</" ++ element ++ ">").toList = endTag element := by
  simp [endTag]

theorem encode_writePiece (element : String) (attributes : List Attribute) (piece : List Char) :
    encode (writePiece element attributes piece) = decorated element attributes (encode piece) := by
  cases attributes with
  | nil => rfl
  | cons a attributes =>
    rw [decorated, if_neg (List.cons_ne_nil _ _), tagged, utf8, utf8, toList_startTag,
      toList_endTag, writePiece]
    simp

/-! ## Pieces -/

/-- The bytes of a piece with the attributes of its first byte. -/
def renderPiece (element : String) (layers : List Layer) (piece : List (UInt8 × Nat)) : Bytes :=
  match piece with
  | [] => []
  | b :: rest => decorated element (attributesAt layers b.2) ((b :: rest).map Prod.fst)

theorem renderPiece_zipIdx {bytes : Bytes} (h : bytes ≠ []) (start : Nat) :
    renderPiece element layers (bytes.zipIdx start)
      = decorated element (attributesAt layers start) bytes := by
  obtain ⟨b, rest, rfl⟩ := List.exists_cons_of_ne_nil h
  rw [List.zipIdx_cons, renderPiece, List.map_cons, List.zipIdx_map_fst]

/-- As long as no sweep is behind a span that reaches beyond the cut, each piece is written with the
attributes of its first byte. -/
theorem encode_renderFrom {sweeps : List Sweep} {start : Nat} {stops : List Nat} {rest : List Char}
    (hmerged : ∀ s ∈ sweeps, Merged s.layer.spans) (hbehind : ∀ s ∈ sweeps, s.Behind start)
    (hsorted : (start :: stops).Pairwise (· < ·))
    (hbound : ∀ n ∈ stops, IsBoundary rest (n - start)) :
    encode (renderFrom element sweeps start stops rest)
      = (slices start stops ((encode rest).zipIdx start)).flatMap
          (renderPiece element (sweeps.map Sweep.layer)) := by
  induction stops generalizing sweeps start rest with
  | nil => rfl
  | cons stop more ih =>
    obtain ⟨hstart, htail⟩ := List.pairwise_cons.1 hsorted
    have hpos : start < stop := hstart stop (by simp)
    -- the piece up to the first stop, and what is behind it
    obtain ⟨p, q, rfl, hp⟩ := hbound stop (by simp)
    have hlength : ((encode p).zipIdx start).length = stop - start := by
      rw [List.length_zipIdx, hp]
    have hne : encode p ≠ [] := by
      intro hnil
      rw [hnil, List.length_nil] at hp
      omega
    have hrest : ∀ n ∈ more, IsBoundary q (n - stop) := by
      intro n hn
      have hlt : stop < n := (List.pairwise_cons.1 htail).1 n hn
      have hq := (hbound n (by simp [hn])).rest (by omega)
      have hstep : n - start - (encode p).length = n - stop := by omega
      rwa [hstep] at hq
    have hnext : start + (encode p).length = stop := by omega
    -- the sweeps come to this cut, and are ready for the next one
    have hmoved : ∀ s ∈ sweeps.map (Sweep.moveTo start), Merged s.layer.spans :=
      List.forall_mem_map.2 hmerged
    have hat : ∀ s ∈ sweeps.map (Sweep.moveTo start), s.At start :=
      List.forall_mem_map.2 fun s hs => (hbehind s hs).moveTo le_rfl
    have hready : ∀ s ∈ sweeps.map (Sweep.moveTo start), s.Behind stop := fun s hs =>
      (hat s hs).behind.mono hpos.le
    have hattributes := sweptAttributes_eq hmoved hat
    have hlater := ih hmoved hready htail hrest
    rw [Sweep.map_layer_moveTo] at hattributes hlater
    rw [renderFrom, encode_append, encode_writePiece, slices, List.flatMap_cons, encode_append,
      List.zipIdx_append, List.take_left' hlength, List.drop_left' hlength, hp, takeBytes_append,
      dropBytes_append, renderPiece_zipIdx hne, hnext, hattributes, hlater]

/-! ## Whole texts -/

/-- Do the same layers cover the bytes at two offsets? -/
def coveredAlike (layers : List Layer) (a b : Nat) : Bool :=
  layers.all fun l => decide (Covered l.spans a ↔ Covered l.spans b)

theorem coveredAlike_eq_false_iff {a b : Nat} :
    coveredAlike layers a b = false ↔ ∃ l ∈ layers, ¬ (Covered l.spans a ↔ Covered l.spans b) := by
  simp only [coveredAlike, List.all_eq_false, decide_eq_true_eq]

/-- A text is cut between two characters only. -/
theorem isBoundary_of_mem_cuts {content : List Char} {n : Nat}
    (hfits : ∀ l ∈ layers, ∀ s ∈ l.spans, s.Fits content)
    (hn : n ∈ cuts (encode content).length layers) : IsBoundary content n := by
  rcases mem_cuts.1 hn with rfl | rfl | ⟨l, hl, s, hs, rfl | rfl⟩
  · exact isBoundary_zero content
  · exact isBoundary_length content
  · exact (hfits l hl s hs).start
  · exact (hfits l hl s hs).stop

/-- A text is rendered in the longest pieces whose bytes the same layers cover. -/
theorem encode_render {content : List Char} (hmerged : ∀ l ∈ layers, Merged l.spans)
    (hfits : ∀ l ∈ layers, ∀ s ∈ l.spans, s.Fits content) :
    encode (render element layers content)
      = ((encode content).zipIdx.splitBy fun a b => coveredAlike layers a.2 b.2).flatMap
          (renderPiece element layers) := by
  obtain ⟨stops, hcuts⟩ := exists_cuts_eq (encode content).length layers
  have hsorted := pairwise_cuts (encode content).length layers
  have hmem : ∀ n, n ∈ 0 :: stops ↔ n ∈ cuts (encode content).length layers := by
    intro n
    rw [hcuts]
  have hboundary : ∀ n ∈ 0 :: stops, IsBoundary content n := fun n hn =>
    isBoundary_of_mem_cuts hfits ((hmem n).1 hn)
  rw [hcuts] at hsorted
  have hrender : render element layers content =
      renderFrom element (layers.map Sweep.ofLayer) 0 stops content := by
    unfold render
    rw [hcuts]
  have hbehind : ∀ s ∈ layers.map Sweep.ofLayer, s.Behind 0 :=
    List.forall_mem_map.2 fun l _ => Sweep.behind_ofLayer l 0
  rw [hrender, encode_renderFrom (List.forall_mem_map.2 hmerged) hbehind hsorted fun n hn =>
    hboundary n (by simp [hn]), Sweep.map_layer_ofLayer]
  congr 1
  refine (splitBy_eq_slices (countsFrom_zipIdx _ 0) hsorted ?_ ?_ ?_).symm
  · intro n hn
    have := (hboundary n (by simp [hn])).le_length
    simpa using this
  · rw [hmem, mem_cuts]
    simp
  · intro n hpos hn
    rw [List.length_zipIdx, Nat.zero_add] at hn
    rw [coveredAlike_eq_false_iff, ← mem_cuts_iff_changes hmerged hpos hn, ← hmem, List.mem_cons,
      or_iff_right (by omega)]

/-- However some bytes are cut into pieces, the pieces come to the bytes. -/
theorem flatMap_map_fst_splitBy (bytes : Bytes) (r : UInt8 × Nat → UInt8 × Nat → Bool) :
    ((bytes.zipIdx.splitBy r).flatMap fun piece => piece.map Prod.fst) = bytes := by
  rw [List.flatMap_def, ← List.map_flatten, List.flatten_splitBy, List.zipIdx_map_fst]

/-- A text without layers stands as it is. -/
theorem render_nil (element : String) (content : List Char) :
    render element [] content = content := by
  refine encode_injective ?_
  rw [encode_render (by simp) (by simp)]
  refine Eq.trans (List.flatMap_congr fun piece _ => ?_) (flatMap_map_fst_splitBy _ _)
  cases piece <;> rfl

end Concordance
