import Mathlib
import Concordance.Proofs.Marking.Marker

/-!
# Marking cuts between characters

A piece of a text can only be taken from between two characters to between two characters.  The
places where conditions are met begin and end there, although the search for a literal goes through
bytes, so all pieces can be taken into which marking cuts a content.

* `Text.slice?` takes a piece of a text, and refuses to cut a character in two.
* `renderSlices` renders with pieces taken in this way; `renderSlicesFrom_eq_some` says that it
  refuses nothing from one cut to the next, `renderSlices_eq_some` that it comes to what rendering
  comes to.
* `markContent_cuts_at_boundaries` is the statement about marking.
-/

namespace Concordance

namespace Text

variable {s p q piece : List Char} {n start stop : Nat}

/-! ## Slices -/

/-- What is before and what is behind an offset, unless the offset lies inside a character or behind
the end. -/
def cutAt? : Nat → List Char → Option (List Char × List Char)
  | 0, s => some ([], s)
  | _ + 1, [] => none
  | n + 1, c :: s =>
    if c.utf8Size ≤ n + 1 then (cutAt? (n + 1 - c.utf8Size) s).map fun (p, q) => (c :: p, q)
    else none

/-- The piece of a text between two offsets, unless they are out of order or one of them lies inside
a character or behind the end. -/
def slice? (s : List Char) (start stop : Nat) : Option (List Char) :=
  if start ≤ stop then do
    let (_, rest) ← cutAt? start s
    let (piece, _) ← cutAt? (stop - start) rest
    some piece
  else none

theorem cutAt?_append (p q : List Char) : cutAt? (encode p).length (p ++ q) = some (p, q) := by
  induction p with
  | nil => rw [encode_nil, List.length_nil, List.nil_append, cutAt?]
  | cons c p ih =>
    obtain ⟨n, hn⟩ := Nat.exists_eq_add_one.2 (length_encode_cons_pos c p)
    have hle : c.utf8Size ≤ n + 1 := by
      rw [← hn, length_encode_cons]
      exact Nat.le_add_right _ _
    have hrest : n + 1 - c.utf8Size = (encode p).length := by
      rw [← hn, length_encode_cons, Nat.add_sub_cancel_left]
    rw [hn, List.cons_append, cutAt?, if_pos hle, hrest, ih]
    rfl

/-- A text is cut at its boundaries. -/
theorem cutAt?_eq_some_iff : cutAt? n s = some (p, q) ↔ s = p ++ q ∧ n = (encode p).length := by
  constructor
  · intro h
    induction s generalizing n p with
    | nil =>
      cases n with
      | zero =>
        cases h
        exact ⟨rfl, rfl⟩
      | succ n => cases h
    | cons c s ih =>
      cases n with
      | zero =>
        cases h
        exact ⟨rfl, rfl⟩
      | succ n =>
        rw [cutAt?] at h
        split at h
        · rename_i hle
          obtain ⟨⟨front, back⟩, hcut, heq⟩ := Option.map_eq_some_iff.1 h
          cases heq
          obtain ⟨rfl, hlength⟩ := ih hcut
          refine ⟨rfl, ?_⟩
          rw [length_encode_cons]
          omega
        · cases h
  · rintro ⟨rfl, rfl⟩
    exact cutAt?_append p q

/-- A piece is taken from boundary to boundary. -/
theorem slice?_eq_some_iff : slice? s start stop = some piece ↔
    ∃ p q, s = p ++ piece ++ q ∧ start = (encode p).length ∧
      stop = (encode (p ++ piece)).length := by
  constructor
  · intro h
    rw [slice?] at h
    split at h
    · rename_i hle
      obtain ⟨⟨p, rest⟩, hp, h⟩ := Option.bind_eq_some_iff.1 h
      obtain ⟨⟨mid, q⟩, hq, h⟩ := Option.bind_eq_some_iff.1 h
      cases h
      obtain ⟨rfl, hstart⟩ := cutAt?_eq_some_iff.1 hp
      obtain ⟨rfl, hstop⟩ := cutAt?_eq_some_iff.1 hq
      refine ⟨p, q, (List.append_assoc ..).symm, hstart, ?_⟩
      rw [encode_append, List.length_append]
      omega
    · cases h
  · rintro ⟨p, q, rfl, rfl, rfl⟩
    have hle : (encode p).length ≤ (encode (p ++ piece)).length := by simp
    have hlength : (encode (p ++ piece)).length - (encode p).length = (encode piece).length := by
      simp
    rw [slice?, if_pos hle, hlength, List.append_assoc, cutAt?_append]
    show (cutAt? (encode piece).length (piece ++ q)).bind _ = _
    rw [cutAt?_append]
    rfl

end Text

open Text

variable {element name content : String} {markers : List CompiledMarker} {layers : List Layer}

/-! ## Rendering in slices -/

/-- Writes the pieces of a text from the offset `start` to each of the later cuts, if all of them
can be taken.  At the front of each piece the sweeps are moved on. -/
def renderSlicesFrom (element : String) (sweeps : List Sweep) (content : List Char) (start : Nat) :
    List Nat → Option (List Char)
  | [] => some []
  | stop :: more => do
    let sweeps := sweeps.map (Sweep.moveTo start)
    let piece ← slice? content start stop
    let later ← renderSlicesFrom element sweeps content stop more
    some (writePiece element (sweptAttributes start sweeps) piece ++ later)

/-- Writes a text with the attributes of its layers, piece by piece from each cut to the next, if
all of the pieces can be taken. -/
def renderSlices (element : String) (layers : List Layer) (content : List Char) :
    Option (List Char) :=
  match cuts (encode content).length layers with
  | [] => some []
  | start :: more => renderSlicesFrom element (layers.map Sweep.ofLayer) content start more

/-- From a boundary on, all pieces can be taken, and they are what rendering writes. -/
theorem renderSlicesFrom_eq_some (element : String) (sweeps : List Sweep) {start : Nat}
    {stops : List Nat} {front rest : List Char} (hstart : start = (encode front).length)
    (hsorted : (start :: stops).Pairwise (· < ·))
    (hbound : ∀ n ∈ stops, IsBoundary (front ++ rest) n) :
    renderSlicesFrom element sweeps (front ++ rest) start stops =
      some (renderFrom element sweeps start stops rest) := by
  induction stops generalizing sweeps start front rest with
  | nil => rfl
  | cons stop more ih =>
    obtain ⟨hlater, htail⟩ := List.pairwise_cons.1 hsorted
    have hlt : start < stop := hlater stop (by simp)
    -- the piece up to the first stop, and what is behind it
    obtain ⟨p, q, rfl, hp⟩ := (hbound stop (by simp)).rest (by omega)
    have hstop : stop = (encode (front ++ p)).length := by
      rw [encode_append, List.length_append]
      omega
    rw [← List.append_assoc] at hbound ⊢
    have hslice : slice? (front ++ p ++ q) start stop = some p :=
      slice?_eq_some_iff.2 ⟨front, q, rfl, hstart, hstop⟩
    have hlater := ih (sweeps.map (Sweep.moveTo start)) hstop htail fun n hn =>
      hbound n (List.mem_cons_of_mem _ hn)
    have hlength : stop - start = (encode p).length := by omega
    rw [renderSlicesFrom, renderFrom, hslice, hlater, hlength, takeBytes_append, dropBytes_append]
    rfl

/-- Rendering takes pieces from between two characters to between two characters. -/
theorem renderSlices_eq_some {content : List Char}
    (hfits : ∀ l ∈ layers, ∀ s ∈ l.spans, s.Fits content) :
    renderSlices element layers content = some (render element layers content) := by
  obtain ⟨stops, hcuts⟩ := exists_cuts_eq (encode content).length layers
  have hsorted := pairwise_cuts (encode content).length layers
  have hbound : ∀ n ∈ 0 :: stops, IsBoundary content n := fun n hn =>
    isBoundary_of_mem_cuts hfits (hcuts ▸ hn)
  have hzero : 0 = (encode []).length := rfl
  rw [hcuts] at hsorted
  have hslices := renderSlicesFrom_eq_some element (layers.map Sweep.ofLayer) hzero hsorted
    fun n hn => hbound n (List.mem_cons_of_mem _ hn)
  rw [List.nil_append] at hslices
  simp only [renderSlices, render, hcuts, hslices]

/-! ## Marking -/

/-- What a condition marks begins and ends between two characters of the content, and so does every
piece into which marking cuts the content: all of them can be taken, and marking writes them. -/
theorem markContent_cuts_at_boundaries (element name content : String)
    (markers : List CompiledMarker) (helement : isTagName element = true) :
    (∀ c : Condition, ∀ s ∈ c.spans content, IsBoundary content.toList s.start ∧
      IsBoundary content.toList s.stop ∧ s.start < s.stop ∧ s.stop ≤ byteLength content) ∧
    ∃ layers, layersOf name content markers = .ok layers ∧
      (∀ n ∈ cuts (byteLength content) layers, IsBoundary content.toList n) ∧
      ∃ text, renderSlices element layers content.toList = some text ∧
        markContent element name content markers = .ok (String.ofList text) := by
  refine ⟨fun c s hs => ?_, markerLayers markers name content, layersOf_eq name content markers,
    fun n hn => ?_, _, renderSlices_eq_some fun l hl s hs => fits_of_mem_markerLayers hl hs,
    markContent_eq_render helement⟩
  · have hfits := Condition.fits_of_mem_spans hs
    exact ⟨hfits.start, hfits.stop, hfits.nonempty, hfits.stop_le⟩
  · exact isBoundary_of_mem_cuts (fun l hl s hs => fits_of_mem_markerLayers hl hs) hn

/-- A letter of two bytes is marked as a whole. -/
theorem markContent_cuts_accent :
    isTagName "m" = true ∧
    markContent "m" "e" "née" [literalMarker "é" "k" "1"] =
      .ok "n<m k=\"1\">é</m>e" := by
  have helement : isTagName "m" = true := by decide
  refine ⟨helement, ?_⟩
  obtain ⟨-, layers, hlayers, -, text, htext, hmark⟩ :=
    markContent_cuts_at_boundaries "m" "e" "née" [literalMarker "é" "k" "1"] helement
  have hlayer : layers = [⟨⟨"k", "1"⟩, [⟨1, 3⟩]⟩] := by
    rw [layersOf_eq] at hlayers
    rw [← Except.ok.inj hlayers]
    decide +kernel
  subst hlayer
  have hcuts : cuts (encode "née".toList).length [⟨⟨"k", "1"⟩, [⟨1, 3⟩]⟩] = [0, 1, 3, 4] := by
    refine eq_of_pairwise_lt (pairwise_cuts _ _) (by decide) fun n => ?_
    have hlength : (encode "née".toList).length = 4 := by decide
    rw [mem_cuts, hlength]
    simp only [exists_eq_left, List.mem_cons, List.not_mem_nil, or_false]
    omega
  have hwritten : renderSlices "m" [⟨⟨"k", "1"⟩, [⟨1, 3⟩]⟩] "née".toList =
      some "n<m k=\"1\">é</m>e".toList := by
    rw [renderSlices, hcuts]
    decide
  rw [hmark, Option.some.inj (htext.symm.trans hwritten)]
  rfl

end Concordance
