import Mathlib
import Concordance.Marking.Marker
import Concordance.Proofs.Marking.Rendering
import Concordance.Proofs.Program.View

/-!
# Marking the content of an entry

A marker whose query holds covers the bytes of the spans that its query marks; any other marker
covers nothing.  Marking writes the content in the longest pieces whose bytes are covered by the
same markers.  A piece that no marker covers stands as it is, and any other piece stands once
between tags with the attributes of the markers that cover it.

* `CompiledMarker.Covers` says which bytes a marker covers.
* `markedPieces` are the pieces, `writeMarked` writes one of them.
* `markContent_writes_pieces` is the statement about what marking gives.
-/

namespace Concordance

open Concordance.Text

/-! ## What is covered -/

/-- Does the marker cover the byte at an offset in the content of the entry? -/
def CompiledMarker.Covers (m : CompiledMarker) (name content : String) (n : Nat) : Prop :=
  Expr.holds m.query.expr name content = true ∧
    Covered (markedSpans name content m.query.expr) n

instance (m : CompiledMarker) (name content : String) (n : Nat) :
    Decidable (m.Covers name content n) := inferInstanceAs (Decidable (_ ∧ _))

/-- The bytes of the content with their offsets, cut wherever some marker covers only one of two
neighbours. -/
def markedPieces (markers : List CompiledMarker) (name content : String) :
    List (List (UInt8 × Nat)) :=
  (utf8 content).zipIdx.splitBy fun a b =>
    markers.all fun m => decide (m.Covers name content a.2 ↔ m.Covers name content b.2)

/-- The markers that cover all of a piece, in order. -/
def coveringMarkers (markers : List CompiledMarker) (name content : String)
    (piece : List (UInt8 × Nat)) : List CompiledMarker :=
  markers.filter fun m => piece.all fun b => decide (m.Covers name content b.2)

/-- A piece with the attributes of the markers that cover it: each name once, in the order in which
the names come first, with the value that comes last. -/
def writeMarked (element : String) (markers : List CompiledMarker) (name content : String)
    (piece : List (UInt8 × Nat)) : Bytes :=
  let given := (coveringMarkers markers name content piece).map CompiledMarker.attr
  if given = [] then piece.map Prod.fst
  else tagged element (distinctAttributes given) (piece.map Prod.fst)

/-! ## Layers -/

variable {element name content : String} {markers : List CompiledMarker} {m : CompiledMarker}
  {n : Nat}

theorem markedInAll_eq_flatMap (items : List Expr) :
    markedInAll name content items = items.flatMap (markedSpans name content) := by
  induction items with
  | nil => rfl
  | cons e rest ih => rw [markedInAll, ih, List.flatMap_cons]

theorem markedInHolding_eq_flatMap (items : List Expr) :
    markedInHolding name content items = items.flatMap fun e =>
      if Expr.holds e name content then markedSpans name content e else [] := by
  induction items with
  | nil => rfl
  | cons e rest ih => rw [markedInHolding, ih, List.flatMap_cons]

/-- What a query marks are spans of the content. -/
theorem fits_of_mem_markedSpans {e : Expr} {s : Span} (h : s ∈ markedSpans name content e) :
    s.Fits content.toList := by
  induction e using Formula.induct with
  | const value => simp [markedSpans] at h
  | test t =>
    obtain ⟨field, condition⟩ := t
    cases field with
    | text => exact Condition.fits_of_mem_spans h
    | name => simp [markedSpans] at h
  | not inner _ => simp [markedSpans] at h
  | and items ih =>
    rw [markedSpans, markedInAll_eq_flatMap] at h
    obtain ⟨f, hf, h⟩ := List.mem_flatMap.1 h
    exact ih f hf h
  | or items ih =>
    rw [markedSpans, markedInHolding_eq_flatMap] at h
    obtain ⟨f, hf, h⟩ := List.mem_flatMap.1 h
    rw [List.mem_ite_nil_right] at h
    exact ih f hf h.2

/-- A marker applies where its query holds. -/
theorem CompiledMarker.applies_eq (m : CompiledMarker) (name content : String) :
    m.applies name content = .ok (Expr.holds m.query.expr name content) := by
  rw [applies, m.query.program_eq, View.execute_program_loaded]
  rfl

/-- The spans of the layer of a marker. -/
def CompiledMarker.layerSpans (m : CompiledMarker) (name content : String) : List Span :=
  if Expr.holds m.query.expr name content then mergeSpans (markedSpans name content m.query.expr)
  else []

theorem CompiledMarker.region_eq (m : CompiledMarker) (name content : String) :
    m.region name content = .ok (m.layerSpans name content) := by
  rw [region, applies_eq]
  rfl

theorem CompiledMarker.covered_layerSpans :
    Covered (m.layerSpans name content) n ↔ m.Covers name content n := by
  unfold layerSpans Covers
  by_cases h : Expr.holds m.query.expr name content = true
  · simp only [h, if_true, true_and, covered_mergeSpans]
  · simp [h, Covered]

theorem CompiledMarker.merged_layerSpans (m : CompiledMarker) (name content : String) :
    Merged (m.layerSpans name content) := by
  unfold layerSpans
  split
  · exact merged_mergeSpans fun s hs => (fits_of_mem_markedSpans hs).nonempty
  · exact ⟨by simp, List.Pairwise.nil⟩

theorem CompiledMarker.fits_of_mem_layerSpans {s : Span} (h : s ∈ m.layerSpans name content) :
    s.Fits content.toList := by
  have hnonempty := (m.merged_layerSpans name content).nonempty s h
  unfold layerSpans at h
  split at h
  · obtain ⟨⟨a, ha, hstart⟩, b, hb, hstop⟩ := ends_of_mem_mergeSpans h
    exact ⟨hnonempty, hstart ▸ (fits_of_mem_markedSpans ha).start,
      hstop ▸ (fits_of_mem_markedSpans hb).stop⟩
  · simp at h

/-- A marker without a layer covers nothing. -/
theorem CompiledMarker.layerSpans_eq_nil_iff :
    m.layerSpans name content = [] ↔ ∀ n, ¬ m.Covers name content n := by
  simp only [← covered_layerSpans]
  constructor
  · intro hnil n
    simp [hnil, Covered]
  · intro hnone
    by_contra hne
    obtain ⟨s, rest, hspans⟩ := List.exists_cons_of_ne_nil hne
    have hs : s ∈ m.layerSpans name content := by simp [hspans]
    exact hnone s.start ((m.merged_layerSpans name content).covered_start hs)

/-- The layer of a marker, if it has one. -/
def CompiledMarker.layer? (m : CompiledMarker) (name content : String) : Option Layer :=
  if (m.layerSpans name content).isEmpty then none
  else some ⟨m.attr, m.layerSpans name content⟩

theorem CompiledMarker.layer?_eq_some {l : Layer} :
    m.layer? name content = some l ↔
      m.layerSpans name content ≠ [] ∧ l = ⟨m.attr, m.layerSpans name content⟩ := by
  unfold layer?
  by_cases h : m.layerSpans name content = []
  · simp [h]
  · rw [if_neg (by simpa using h)]
    exact ⟨fun hl => ⟨h, (Option.some.inj hl).symm⟩, fun hl => congrArg some hl.2.symm⟩

theorem layersOf_eq (name content : String) (markers : List CompiledMarker) :
    layersOf name content markers = .ok (markers.filterMap fun m => m.layer? name content) := by
  induction markers with
  | nil => rfl
  | cons m rest ih =>
    rw [layersOf, m.region_eq, ih, List.filterMap_cons]
    unfold CompiledMarker.layer?
    by_cases h : (m.layerSpans name content).isEmpty = true
    · rw [if_pos h]
      show Except.ok _ = _
      rw [if_pos h]
    · rw [if_neg h]
      show Except.ok _ = _
      rw [if_neg h]

/-! ## Pieces -/

/-- The layers of the markers that have one. -/
def markerLayers (markers : List CompiledMarker) (name content : String) : List Layer :=
  markers.filterMap fun m => m.layer? name content

/-- The attributes of a byte are those of the markers that cover it. -/
theorem attributesAt_markerLayers (markers : List CompiledMarker) (name content : String)
    (n : Nat) : attributesAt (markerLayers markers name content) n =
      distinctAttributes
        ((markers.filter fun m => decide (m.Covers name content n)).map CompiledMarker.attr) := by
  have hattrs : ((markerLayers markers name content).filter (·.covers n)).map Layer.attr =
      (markers.filter fun m => decide (m.Covers name content n)).map CompiledMarker.attr := by
    unfold markerLayers
    induction markers with
    | nil => rfl
    | cons m rest ih =>
      rw [List.filterMap_cons, List.filter_cons]
      by_cases hnil : m.layerSpans name content = []
      · have hcovers : ¬ m.Covers name content n := m.layerSpans_eq_nil_iff.1 hnil n
        have hnone : m.layer? name content = none := by simp [CompiledMarker.layer?, hnil]
        rw [hnone, if_neg (by simpa using hcovers), ih]
      · have hsome := m.layer?_eq_some.2 ⟨hnil, rfl⟩
        have hiff : (⟨m.attr, m.layerSpans name content⟩ : Layer).covers n = true ↔
            m.Covers name content n := Layer.covers_iff.trans m.covered_layerSpans
        rw [hsome, List.filter_cons]
        by_cases hcovers : m.Covers name content n
        · rw [if_pos (hiff.2 hcovers), if_pos (by simpa using hcovers), List.map_cons,
            List.map_cons, ih]
        · rw [if_neg (fun h => hcovers (hiff.1 h)), if_neg (by simpa using hcovers), ih]
  rw [← foldl_setAttribute, ← hattrs, List.foldl_map]
  rfl

/-- Two bytes are covered by the same layers if they are covered by the same markers. -/
theorem coveredAlike_markerLayers (markers : List CompiledMarker) (name content : String)
    (a b : Nat) : coveredAlike (markerLayers markers name content) a b =
      markers.all fun m => decide (m.Covers name content a ↔ m.Covers name content b) := by
  rw [Bool.eq_iff_iff]
  simp only [coveredAlike, List.all_eq_true, decide_eq_true_eq, markerLayers, List.mem_filterMap,
    CompiledMarker.layer?_eq_some]
  constructor
  · intro h m hm
    by_cases hnil : m.layerSpans name content = []
    · have hnone := m.layerSpans_eq_nil_iff.1 hnil
      exact iff_of_false (hnone a) (hnone b)
    · have halike := h _ ⟨m, hm, hnil, rfl⟩
      rwa [m.covered_layerSpans, m.covered_layerSpans] at halike
  · rintro h l ⟨m, hm, -, rfl⟩
    rw [m.covered_layerSpans, m.covered_layerSpans]
    exact h m hm

/-- All bytes of a piece are covered by the same markers. -/
theorem covers_iff_of_mem_markedPieces {b : UInt8 × Nat} {rest : List (UInt8 × Nat)}
    (h : b :: rest ∈ markedPieces markers name content) (hm : m ∈ markers) :
    ∀ c ∈ rest, m.Covers name content b.2 ↔ m.Covers name content c.2 := by
  have hchain : (b :: rest).IsChain fun a c =>
      m.Covers name content a.2 ↔ m.Covers name content c.2 := by
    refine (List.isChain_of_mem_splitBy h).imp fun a c halike => ?_
    rw [List.all_eq_true] at halike
    exact of_decide_eq_true (halike m hm)
  clear h
  induction rest generalizing b with
  | nil => simp
  | cons c rest ih =>
    obtain ⟨hbc, htail⟩ := List.isChain_cons_cons.1 hchain
    intro d hd
    rcases List.mem_cons.1 hd with rfl | hd
    · exact hbc
    · exact hbc.trans (ih htail d hd)

/-- A piece is written with the attributes of the layers that cover its first byte. -/
theorem writeMarked_eq_renderPiece {piece : List (UInt8 × Nat)}
    (h : piece ∈ markedPieces markers name content) :
    writeMarked element markers name content piece =
      renderPiece element (markerLayers markers name content) piece := by
  obtain ⟨b, rest, rfl⟩ := List.exists_cons_of_ne_nil (List.ne_nil_of_mem_splitBy h)
  have hcovering : coveringMarkers markers name content (b :: rest) =
      markers.filter fun m => decide (m.Covers name content b.2) := by
    refine List.filter_congr fun m hm => ?_
    rw [Bool.eq_iff_iff]
    simp only [List.all_eq_true, decide_eq_true_eq]
    constructor
    · intro hall
      exact hall b (by simp)
    · intro hb c hc
      rcases List.mem_cons.1 hc with rfl | hc
      · exact hb
      · exact (covers_iff_of_mem_markedPieces h hm c hc).1 hb
  simp only [writeMarked, renderPiece, decorated, hcovering, attributesAt_markerLayers,
    distinctAttributes_eq_nil_iff]

theorem flatMap_map_fst_markedPieces (markers : List CompiledMarker) (name content : String) :
    ((markedPieces markers name content).flatMap fun piece => piece.map Prod.fst) =
      utf8 content :=
  flatMap_map_fst_splitBy _ _

/-! ## Marking -/

theorem merged_of_mem_markerLayers {l : Layer} (hl : l ∈ markerLayers markers name content) :
    Merged l.spans := by
  obtain ⟨m, -, hsome⟩ := List.mem_filterMap.1 hl
  rw [(m.layer?_eq_some.1 hsome).2]
  exact m.merged_layerSpans name content

theorem fits_of_mem_markerLayers {l : Layer} (hl : l ∈ markerLayers markers name content) {s : Span}
    (hs : s ∈ l.spans) : s.Fits content.toList := by
  obtain ⟨m, -, hsome⟩ := List.mem_filterMap.1 hl
  rw [(m.layer?_eq_some.1 hsome).2] at hs
  exact m.fits_of_mem_layerSpans hs

/-- Marking renders the content with the layers of the markers. -/
theorem markContent_eq_render (helement : isTagName element = true) :
    markContent element name content markers =
      .ok (String.ofList (render element (markerLayers markers name content) content.toList)) := by
  have hmark : markContent element name content markers =
      .ok (if (markerLayers markers name content).isEmpty then content
        else String.ofList
          (render element (markerLayers markers name content) content.toList)) := by
    rw [markContent, if_pos helement, layersOf_eq]
    rfl
  rw [hmark]
  by_cases hempty : (markerLayers markers name content).isEmpty = true
  · rw [if_pos hempty, List.isEmpty_iff.1 hempty, render_nil, String.ofList_toList]
  · rw [if_neg hempty]

/-- Marking writes the pieces of the content in order, each with the attributes of the markers that
cover it.  The pieces come to the content, and without any marked byte the content stands as it
is. -/
theorem markContent_writes_pieces (element name content : String) (markers : List CompiledMarker)
    (helement : isTagName element = true) :
    ∃ out, markContent element name content markers = .ok out ∧
      utf8 out = (markedPieces markers name content).flatMap
        (writeMarked element markers name content) ∧
      ((markedPieces markers name content).flatMap fun piece => piece.map Prod.fst) =
        utf8 content ∧
      ((∀ m ∈ markers, ∀ n, ¬ m.Covers name content n) → out = content) := by
  have hpieces : (markedPieces markers name content).flatMap
      (writeMarked element markers name content) =
      (markedPieces markers name content).flatMap
        (renderPiece element (markerLayers markers name content)) :=
    List.flatMap_congr fun piece hpiece => writeMarked_eq_renderPiece hpiece
  refine ⟨_, markContent_eq_render helement, ?_, flatMap_map_fst_markedPieces markers name content,
    fun hnone => ?_⟩
  · rw [hpieces, utf8, String.toList_ofList, encode_render
      (fun l hl => merged_of_mem_markerLayers hl) fun l hl s hs => fits_of_mem_markerLayers hl hs]
    simp only [coveredAlike_markerLayers]
    rfl
  · have hlayers : markerLayers markers name content = [] := by
      refine List.filterMap_eq_nil_iff.2 fun m hm => ?_
      have hnil := m.layerSpans_eq_nil_iff.2 (hnone m hm)
      simp [CompiledMarker.layer?, hnil]
    rw [hlayers, render_nil, String.ofList_toList]

/-- A marker of the places of a literal. -/
def literalMarker (literal name value : String) : CompiledMarker :=
  ⟨Compiled.ofExpr literal (.test ⟨.text, .contains literal⟩), ⟨name, value⟩⟩

/-- Where two markers overlap, the value of the later one stands. -/
theorem markContent_overlap :
    isTagName "m" = true ∧ ∃ out,
      markContent "m" "e" "abc" [literalMarker "ab" "k" "<", literalMarker "bc" "k" "2"] =
        .ok out ∧
      utf8 out = utf8 "<m k=\"&lt;\">a</m><m k=\"2\">b</m><m k=\"2\">c</m>" := by
  have helement : isTagName "m" = true := by decide
  refine ⟨helement, ?_⟩
  obtain ⟨out, hout, hbytes, -⟩ := markContent_writes_pieces "m" "e" "abc"
    [literalMarker "ab" "k" "<", literalMarker "bc" "k" "2"] helement
  refine ⟨out, hout, ?_⟩
  rw [hbytes]
  decide

end Concordance
