import Mathlib
import Concordance.Marking.Layer
import Concordance.Proofs.Marking.Region

/-!
# Sweeping over layers

Rendering does not look for the spans that cover a piece.  It keeps one position for each layer,
moves all of them on at each cut, and looks at one span of each layer only.  That this span tells
whether the layer covers the piece rests on an invariant: no span behind a sweep reaches beyond the
cut.

* `Layer.covers` says where a layer covers a text, `attributesAt` which attributes are due there.
* `Sweep.Behind` is the invariant, `Sweep.At` what a sweep has come to that has been moved on;
  `Sweep.Behind.moveTo` and `Sweep.At.behind` keep them from cut to cut.
* `Sweep.At.covers_iff` says what the one span tells, and `sweptAttributes_eq` that the attributes
  of the sweeps are those that are due.
-/

namespace Concordance

/-! ## What is due -/

/-- Does the layer cover the byte at an offset? -/
def Layer.covers (l : Layer) (n : Nat) : Bool := l.spans.any fun s => s.start ≤ n && n < s.stop

theorem Layer.covers_iff {l : Layer} {n : Nat} : l.covers n = true ↔ Covered l.spans n := by
  simp only [Layer.covers, Covered, Span.Covers, List.any_eq_true, Bool.and_eq_true,
    decide_eq_true_eq]

/-- The attributes of the byte at an offset, those of the layers that cover it in order; a later
layer with the same attribute changes its value. -/
def attributesAt (layers : List Layer) (n : Nat) : List Attribute :=
  (layers.filter (·.covers n)).foldl (fun attributes l => setAttribute l.attr attributes) []

/-! ## One sweep -/

/-- Passing spans stops behind the last of those in front that end at or before the offset. -/
theorem passSpans_spec (n : Nat) (spans : List Span) (position : Nat) :
    ∃ passed rest, spans = passed ++ rest ∧ passSpans n spans position = position + passed.length ∧
      (∀ s ∈ passed, s.stop ≤ n) ∧ ∀ s ∈ rest.head?, n < s.stop := by
  induction spans generalizing position with
  | nil => exact ⟨[], [], rfl, rfl, nofun, nofun⟩
  | cons s spans ih =>
    rw [passSpans]
    split
    next hstop =>
      obtain ⟨passed, rest, rfl, hposition, hpassed, hrest⟩ := ih (position + 1)
      refine ⟨s :: passed, rest, rfl, ?_, List.forall_mem_cons.2 ⟨hstop, hpassed⟩, hrest⟩
      rw [hposition, List.length_cons]
      omega
    next hstop =>
      refine ⟨[], s :: spans, rfl, rfl, nofun, ?_⟩
      rintro _ ⟨⟩
      exact Nat.lt_of_not_le hstop

namespace Sweep

variable {s : Sweep} {n m : Nat}

@[simp] theorem map_layer_moveTo (n : Nat) (sweeps : List Sweep) :
    (sweeps.map (moveTo n)).map layer = sweeps.map layer := by
  rw [List.map_map]
  rfl

@[simp] theorem map_layer_ofLayer (layers : List Layer) :
    (layers.map ofLayer).map layer = layers := by
  rw [List.map_map]
  exact List.map_id layers

/-- No span behind the sweep reaches beyond the offset. -/
def Behind (n : Nat) (s : Sweep) : Prop :=
  ∀ (i : Nat) (span : Span), i < s.position → s.layer.spans[i]? = some span → span.stop ≤ n

/-- The sweep is at the first span that reaches beyond the offset. -/
structure At (n : Nat) (s : Sweep) : Prop where
  /-- No span behind it does. -/
  behind : s.Behind n
  /-- The span that it is at does. -/
  beyond : ∀ span, s.layer.spans[s.position]? = some span → n < span.stop

theorem behind_ofLayer (l : Layer) (n : Nat) : (ofLayer l).Behind n := nofun

theorem Behind.mono (h : s.Behind n) (hle : n ≤ m) : s.Behind m :=
  fun i span hi hspan => (h i span hi hspan).trans hle

/-- Moving a sweep on to a later offset brings it there. -/
theorem Behind.moveTo (h : s.Behind n) (hle : n ≤ m) : (s.moveTo m).At m := by
  obtain ⟨passed, rest, hspans, hposition, hpassed, hrest⟩ :=
    passSpans_spec m (s.layer.spans.drop s.position) s.position
  have hmoved : (s.moveTo m).position = s.position + passed.length := hposition
  have hget : ∀ k, s.layer.spans[s.position + k]? = (passed ++ rest)[k]? := by
    intro k
    rw [← hspans, List.getElem?_drop]
  refine ⟨fun i span hi hspan => ?_, fun span hspan => ?_⟩
  · -- a span behind the sweep was behind it before, or has been passed
    by_cases hold : i < s.position
    · exact h.mono hle i span hold hspan
    · obtain ⟨k, rfl⟩ := Nat.exists_eq_add_of_le (Nat.le_of_not_lt hold)
      have hk : k < passed.length := by omega
      have hat : (passed ++ rest)[k]? = some span := (hget k).symm.trans hspan
      rw [List.getElem?_append_left hk] at hat
      exact hpassed span (List.mem_of_getElem? hat)
  · have hat : (passed ++ rest)[passed.length]? = some span := by
      rw [← hget, ← hmoved]
      exact hspan
    rw [List.getElem?_append_right le_rfl, Nat.sub_self, ← List.head?_eq_getElem?] at hat
    exact hrest span hat

/-- Where merged spans are swept, the span that a sweep is at is the only one that can cover the
offset: those behind it end before, and those ahead of it begin later. -/
theorem At.covers_iff (h : s.At n) (hmerged : Merged s.layer.spans) :
    s.covers n = true ↔ Covered s.layer.spans n := by
  simp only [covers, Option.any_eq_true, decide_eq_true_eq]
  constructor
  · rintro ⟨span, hspan, hstart⟩
    exact ⟨span, List.mem_of_getElem? hspan, hstart, h.beyond span hspan⟩
  · rintro ⟨span, hmem, hstart, hstop⟩
    obtain ⟨i, hspan⟩ := List.getElem?_of_mem hmem
    obtain ⟨hi, hspan_eq⟩ := List.getElem?_eq_some_iff.1 hspan
    rcases Nat.lt_trichotomy i s.position with hlt | rfl | hlt
    · have hbehind := h.behind i span hlt hspan
      omega
    · exact ⟨span, hspan, hstart⟩
    · have hfirst := List.getElem?_eq_getElem (hlt.trans hi)
      have hbeyond := h.beyond _ hfirst
      have hapart := List.pairwise_iff_getElem.1 hmerged.apart s.position i (hlt.trans hi) hi hlt
      rw [hspan_eq] at hapart
      omega

end Sweep

/-! ## All sweeps -/

variable {sweeps : List Sweep} {n : Nat}

/-- At an offset that all sweeps have come to, their attributes are those that are due. -/
theorem sweptAttributes_eq (hmerged : ∀ s ∈ sweeps, Merged s.layer.spans)
    (h : ∀ s ∈ sweeps, s.At n) :
    sweptAttributes n sweeps = attributesAt (sweeps.map Sweep.layer) n := by
  have hcovers : ∀ s ∈ sweeps, s.covers n = s.layer.covers n := by
    intro s hs
    rw [Bool.eq_iff_iff, (h s hs).covers_iff (hmerged s hs), Layer.covers_iff]
  rw [sweptAttributes, attributesAt, List.filter_map, List.foldl_map, List.foldl_filter]
  refine List.foldl_ext _ _ _ fun attributes s hs => ?_
  rw [hcovers s hs]
  rfl

end Concordance
