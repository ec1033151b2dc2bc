import Mathlib
import Concordance.Marking.Region

/-!
# Merged spans

Merging keeps the bytes that are covered, and it leaves spans between which there is at least one
byte that none of them covers.  There is only one such list of spans for each region.

* `Merged` is the form that merging gives.
* `merged_mergeSpans` and `covered_mergeSpans` say that it gives this form and covers the same.
* `Merged.changes_iff` says that the ends of merged spans are the offsets where covering changes.
* `Merged.eq_of_covered_iff` says that merged spans are told by what they cover.
* `mergeSpans_canonical` puts the laws of merging together.
-/

namespace Concordance

variable {spans rest : List Span} {last s t : Span} {n : Nat}

/-- Does one of the spans cover the byte at an offset? -/
def Covered (spans : List Span) (n : Nat) : Prop := ∃ s ∈ spans, s.Covers n

instance (spans : List Span) (n : Nat) : Decidable (Covered spans n) :=
  inferInstanceAs (Decidable (∃ s ∈ spans, s.Covers n))

/-- Spans with bytes, in order, each of which ends before the next one begins. -/
structure Merged (spans : List Span) : Prop where
  /-- Each span has bytes. -/
  nonempty : ∀ s ∈ spans, s.start < s.stop
  /-- There are bytes between them. -/
  apart : spans.Pairwise fun a b => a.stop < b.start

/-! ## Merging -/

/-- Are the spans in the order in which they begin? -/
def Ordered (spans : List Span) : Prop := spans.Pairwise fun a b => a.start ≤ b.start

/-- Joining the first two spans keeps the order. -/
theorem Ordered.joined (h : Ordered (last :: s :: rest)) :
    Ordered (⟨last.start, max last.stop s.stop⟩ :: rest) := by
  obtain ⟨hlast, htail⟩ := List.pairwise_cons.1 h
  exact List.pairwise_cons.2 ⟨fun b hb => hlast b (by simp [hb]), (List.pairwise_cons.1 htail).2⟩

theorem Span.le_total (a b : Span) : (a.le b || b.le a) = true := by
  simp only [Span.le, Bool.or_eq_true, Bool.and_eq_true, decide_eq_true_eq, beq_iff_eq]
  omega

theorem Span.le_trans (a b c : Span) (hab : a.le b = true) (hbc : b.le c = true) :
    a.le c = true := by
  simp only [Span.le, Bool.or_eq_true, Bool.and_eq_true, decide_eq_true_eq, beq_iff_eq] at *
  omega

theorem Span.start_le_of_le {a b : Span} (h : a.le b = true) : a.start ≤ b.start := by
  simp only [Span.le, Bool.or_eq_true, Bool.and_eq_true, decide_eq_true_eq, beq_iff_eq] at h
  omega

theorem ordered_mergeSort (spans : List Span) : Ordered (spans.mergeSort Span.le) :=
  (List.pairwise_mergeSort Span.le_trans Span.le_total spans).imp Span.start_le_of_le

/-- A merged span begins where one of the given spans begins, and ends where one ends. -/
theorem ends_of_mem_mergeInto (h : t ∈ mergeInto last rest) :
    (∃ a ∈ last :: rest, a.start = t.start) ∧ ∃ b ∈ last :: rest, b.stop = t.stop := by
  induction rest generalizing last with
  | nil =>
    rw [mergeInto, List.mem_singleton] at h
    subst h
    exact ⟨⟨t, by simp, rfl⟩, ⟨t, by simp, rfl⟩⟩
  | cons s rest ih =>
    rw [mergeInto] at h
    split at h
    · obtain ⟨⟨a, ha, hstart⟩, b, hb, hstop⟩ := ih h
      constructor
      · rcases List.mem_cons.1 ha with rfl | ha
        · exact ⟨last, by simp, hstart⟩
        · exact ⟨a, by simp [ha], hstart⟩
      · rcases List.mem_cons.1 hb with rfl | hb
        · rcases Nat.le_total last.stop s.stop with hle | hle
          · exact ⟨s, by simp, by rw [← hstop]; exact (Nat.max_eq_right hle).symm⟩
          · exact ⟨last, by simp, by rw [← hstop]; exact (Nat.max_eq_left hle).symm⟩
        · exact ⟨b, by simp [hb], hstop⟩
    · rcases List.mem_cons.1 h with rfl | h
      · exact ⟨⟨t, by simp, rfl⟩, ⟨t, by simp, rfl⟩⟩
      · obtain ⟨⟨a, ha, hstart⟩, b, hb, hstop⟩ := ih h
        exact ⟨⟨a, List.mem_cons_of_mem _ ha, hstart⟩, ⟨b, List.mem_cons_of_mem _ hb, hstop⟩⟩

theorem merged_mergeInto (hnonempty : ∀ s ∈ last :: rest, s.start < s.stop)
    (hordered : Ordered (last :: rest)) : Merged (mergeInto last rest) := by
  induction rest generalizing last with
  | nil => exact ⟨hnonempty, List.pairwise_singleton _ _⟩
  | cons s rest ih =>
    have hbytes : last.start < last.stop := hnonempty last (by simp)
    have htail : Ordered (s :: rest) := (List.pairwise_cons.1 hordered).2
    rw [mergeInto]
    split
    · refine ih (fun t ht => ?_) hordered.joined
      rcases List.mem_cons.1 ht with rfl | ht
      · exact Nat.lt_of_lt_of_le hbytes (Nat.le_max_left _ _)
      · exact hnonempty t (by simp [ht])
    · rename_i hgap
      have hmerged : Merged (mergeInto s rest) :=
        ih (fun t ht => hnonempty t (List.mem_cons_of_mem _ ht)) htail
      refine ⟨?_, List.pairwise_cons.2 ⟨?_, hmerged.apart⟩⟩
      · intro t ht
        rcases List.mem_cons.1 ht with rfl | ht
        · exact hbytes
        · exact hmerged.nonempty t ht
      · intro t ht
        obtain ⟨⟨a, ha, hstart⟩, -⟩ := ends_of_mem_mergeInto ht
        have hsa : s.start ≤ a.start := by
          rcases List.mem_cons.1 ha with rfl | ha
          · exact le_rfl
          · exact (List.pairwise_cons.1 htail).1 a ha
        omega

theorem covered_mergeInto (hordered : Ordered (last :: rest)) :
    Covered (mergeInto last rest) n ↔ Covered (last :: rest) n := by
  induction rest generalizing last with
  | nil => rfl
  | cons s rest ih =>
    obtain ⟨hlast, htail⟩ := List.pairwise_cons.1 hordered
    rw [mergeInto]
    split
    · rename_i htouch
      -- the longer span covers what the two spans cover
      have hlonger : (⟨last.start, max last.stop s.stop⟩ : Span).Covers n ↔
          last.Covers n ∨ s.Covers n := by
        have := hlast s (by simp)
        simp only [Span.Covers]
        omega
      rw [ih hordered.joined]
      simp only [Covered, List.exists_mem_cons_iff, hlonger, or_assoc]
    · have hcovered := ih htail
      simp only [Covered, List.exists_mem_cons_iff] at hcovered ⊢
      rw [hcovered]

/-- Merged spans have bytes between them. -/
theorem merged_mergeSpans (h : ∀ s ∈ spans, s.start < s.stop) : Merged (mergeSpans spans) := by
  have hordered := ordered_mergeSort spans
  have hbytes : ∀ s ∈ spans.mergeSort Span.le, s.start < s.stop := fun s hs =>
    h s (List.mem_mergeSort.1 hs)
  unfold mergeSpans
  cases hsort : spans.mergeSort Span.le with
  | nil => exact ⟨by simp, List.Pairwise.nil⟩
  | cons s rest =>
    rw [hsort] at hordered hbytes
    exact merged_mergeInto hbytes hordered

/-- Merged spans cover what the spans cover that were merged. -/
theorem covered_mergeSpans : Covered (mergeSpans spans) n ↔ Covered spans n := by
  have hordered := ordered_mergeSort spans
  have hmem : Covered (spans.mergeSort Span.le) n ↔ Covered spans n := by
    simp only [Covered, List.mem_mergeSort]
  rw [← hmem]
  unfold mergeSpans
  cases hsort : spans.mergeSort Span.le with
  | nil => rfl
  | cons s rest =>
    rw [hsort] at hordered
    exact covered_mergeInto hordered

theorem ends_of_mem_mergeSpans (h : t ∈ mergeSpans spans) :
    (∃ a ∈ spans, a.start = t.start) ∧ ∃ b ∈ spans, b.stop = t.stop := by
  have hmem : ∀ s, s ∈ spans.mergeSort Span.le ↔ s ∈ spans := fun s => List.mem_mergeSort
  unfold mergeSpans at h
  cases hsort : spans.mergeSort Span.le with
  | nil => simp [hsort] at h
  | cons s rest =>
    simp only [hsort] at h hmem
    obtain ⟨⟨a, ha, hstart⟩, b, hb, hstop⟩ := ends_of_mem_mergeInto h
    exact ⟨⟨a, (hmem a).1 ha, hstart⟩, ⟨b, (hmem b).1 hb, hstop⟩⟩

/-! ## Ends -/

/-- Of two merged spans one ends before the other one begins, if they are not the same. -/
theorem Merged.eq_or_apart (h : Merged spans) (hs : s ∈ spans) (ht : t ∈ spans) :
    s = t ∨ s.stop < t.start ∨ t.stop < s.start := by
  have hsymm : Std.Symm fun a b : Span => a.stop < b.start ∨ b.stop < a.start :=
    ⟨fun _ _ => Or.symm⟩
  have happart : spans.Pairwise fun a b => a.stop < b.start ∨ b.stop < a.start :=
    h.apart.imp Or.inl
  by_cases hst : s = t
  · exact Or.inl hst
  · exact Or.inr (happart.forall hs ht hst)

/-- A merged span covers its first byte. -/
theorem Merged.covered_start (h : Merged spans) (hs : s ∈ spans) : Covered spans s.start :=
  ⟨s, hs, le_rfl, h.nonempty s hs⟩

/-- No merged span covers the byte behind another one. -/
theorem Merged.not_covered_stop (h : Merged spans) (hs : s ∈ spans) :
    ¬ Covered spans s.stop := by
  rintro ⟨t, ht, hcovers⟩
  have hbytes := h.nonempty s hs
  simp only [Span.Covers] at hcovers
  rcases h.eq_or_apart hs ht with rfl | hlt | hlt <;> omega

/-- Covering changes exactly where a merged span begins or ends. -/
theorem Merged.changes_iff (h : Merged spans) (hn : 0 < n) :
    ¬ (Covered spans (n - 1) ↔ Covered spans n) ↔ ∃ s ∈ spans, n = s.start ∨ n = s.stop := by
  constructor
  · intro hchange
    by_cases hbefore : Covered spans (n - 1)
    · have hnot : ¬ Covered spans n := fun hat => hchange ⟨fun _ => hat, fun _ => hbefore⟩
      obtain ⟨s, hs, hcovers⟩ := hbefore
      refine ⟨s, hs, Or.inr ?_⟩
      have hn' : ¬ s.Covers n := fun hcov => hnot ⟨s, hs, hcov⟩
      simp only [Span.Covers] at hcovers hn'
      omega
    · have hat : Covered spans n := by
        by_contra hnot
        exact hchange ⟨fun hb => absurd hb hbefore, fun ha => absurd ha hnot⟩
      obtain ⟨s, hs, hcovers⟩ := hat
      refine ⟨s, hs, Or.inl ?_⟩
      have hn' : ¬ s.Covers (n - 1) := fun hcov => hbefore ⟨s, hs, hcov⟩
      simp only [Span.Covers] at hcovers hn'
      omega
  · rintro ⟨s, hs, rfl | rfl⟩ hiff
    · obtain ⟨t, ht, hcovers⟩ := hiff.2 (h.covered_start hs)
      have hbytes := h.nonempty s hs
      simp only [Span.Covers] at hcovers
      rcases h.eq_or_apart hs ht with rfl | hlt | hlt <;> omega
    · have hbytes := h.nonempty s hs
      have hbefore : Covered spans (s.stop - 1) := ⟨s, hs, by omega, by omega⟩
      exact h.not_covered_stop hs (hiff.1 hbefore)

/-! ## One form for each region -/

variable {others : List Span}

theorem Merged.tail (h : Merged (s :: rest)) : Merged rest :=
  ⟨fun t ht => h.nonempty t (List.mem_cons_of_mem _ ht), (List.pairwise_cons.1 h.apart).2⟩

/-- The other spans cover what is covered behind the first one. -/
theorem Merged.covered_tail_iff (h : Merged (s :: rest)) :
    Covered rest n ↔ Covered (s :: rest) n ∧ s.stop < n := by
  constructor
  · rintro ⟨t, ht, hcovers⟩
    have hlt : s.stop < t.start := (List.pairwise_cons.1 h.apart).1 t ht
    exact ⟨⟨t, List.mem_cons_of_mem _ ht, hcovers⟩, Nat.lt_of_lt_of_le hlt hcovers.1⟩
  · rintro ⟨⟨t, ht, hcovers⟩, hlt⟩
    rcases List.mem_cons.1 ht with rfl | ht
    · exact absurd hcovers.2 (Nat.lt_asymm hlt)
    · exact ⟨t, ht, hcovers⟩

/-- Nothing is covered in front of the first span. -/
theorem Merged.start_le (h : Merged (s :: rest)) (hn : Covered (s :: rest) n) : s.start ≤ n := by
  by_cases hlt : s.stop < n
  · exact Nat.le_of_lt (Nat.lt_trans (h.nonempty s (by simp)) hlt)
  · obtain ⟨t, ht, hcovers⟩ := hn
    rcases List.mem_cons.1 ht with rfl | ht
    · exact hcovers.1
    · exact absurd (h.covered_tail_iff.1 ⟨t, ht, hcovers⟩).2 hlt

/-- Lists of merged spans that cover the same begin with the same span. -/
theorem Merged.head_eq (h : Merged (s :: rest)) (ho : Merged (t :: others))
    (hcovered : ∀ n, Covered (s :: rest) n ↔ Covered (t :: others) n) : s = t := by
  have hstart : s.start = t.start :=
    Nat.le_antisymm (h.start_le ((hcovered _).2 (ho.covered_start (by simp))))
      (ho.start_le ((hcovered _).1 (h.covered_start (by simp))))
  have hstop : s.stop = t.stop := by
    -- the longer one of the two spans would cover the byte behind the shorter one
    have hs := h.nonempty s (by simp)
    have ht := ho.nonempty t (by simp)
    rcases Nat.lt_trichotomy s.stop t.stop with hlt | heq | hlt
    · exact absurd ((hcovered _).2 ⟨t, by simp, by omega, hlt⟩) (h.not_covered_stop (by simp))
    · exact heq
    · exact absurd ((hcovered _).1 ⟨s, by simp, by omega, hlt⟩) (ho.not_covered_stop (by simp))
  calc s = ⟨s.start, s.stop⟩ := rfl
    _ = t := by rw [hstart, hstop]

/-- Merged spans are told by what they cover. -/
theorem Merged.eq_of_covered_iff (h : Merged spans) (ho : Merged others)
    (hcovered : ∀ n, Covered spans n ↔ Covered others n) : spans = others := by
  induction spans generalizing others with
  | nil =>
    cases others with
    | nil => rfl
    | cons t more =>
      exact absurd ((hcovered _).2 (ho.covered_start List.mem_cons_self)) (by simp [Covered])
  | cons s rest ih =>
    cases others with
    | nil => exact absurd ((hcovered _).1 (h.covered_start List.mem_cons_self)) (by simp [Covered])
    | cons t more =>
      obtain rfl := h.head_eq ho hcovered
      have htail : ∀ n, Covered rest n ↔ Covered more n := by
        intro n
        rw [h.covered_tail_iff, ho.covered_tail_iff, hcovered]
      rw [ih h.tail ho.tail htail]

/-- Merging leaves merged spans as they are. -/
theorem Merged.mergeSpans_eq (h : Merged spans) : mergeSpans spans = spans :=
  (merged_mergeSpans h.nonempty).eq_of_covered_iff h fun _ => covered_mergeSpans

/-- Two lists of spans are merged alike exactly if they cover the same. -/
theorem mergeSpans_eq_iff (h : ∀ s ∈ spans, s.start < s.stop)
    (ho : ∀ s ∈ others, s.start < s.stop) :
    mergeSpans others = mergeSpans spans ↔ ∀ n, Covered others n ↔ Covered spans n := by
  constructor
  · intro heq n
    rw [← covered_mergeSpans, heq, covered_mergeSpans]
  · intro hcovered
    refine (merged_mergeSpans ho).eq_of_covered_iff (merged_mergeSpans h) fun n => ?_
    rw [covered_mergeSpans, covered_mergeSpans, hcovered]

/-- Merging brings spans with bytes, however they lie, into the one form of the region that they
cover: each span ends before the next one begins, and the same bytes are covered.  Spans that cover
the same bytes give the same, and what is in this form stays as it is. -/
theorem mergeSpans_canonical (spans : List Span) (h : ∀ s ∈ spans, s.start < s.stop) :
    Merged (mergeSpans spans) ∧
      (∀ n, Covered (mergeSpans spans) n ↔ Covered spans n) ∧
      (∀ others : List Span, (∀ s ∈ others, s.start < s.stop) →
        (mergeSpans others = mergeSpans spans ↔ ∀ n, Covered others n ↔ Covered spans n)) ∧
      (mergeSpans spans = spans ↔ Merged spans) ∧
      mergeSpans (mergeSpans spans) = mergeSpans spans := by
  have hmerged : Merged (mergeSpans spans) := merged_mergeSpans h
  refine ⟨hmerged, fun n => covered_mergeSpans, fun others ho => mergeSpans_eq_iff h ho, ?_,
    hmerged.mergeSpans_eq⟩
  constructor
  · intro heq
    rwa [heq] at hmerged
  · exact Merged.mergeSpans_eq

/-- Spans out of order that cross, touch and lie within each other, one of them twice. -/
def tangled : List Span := [⟨5, 8⟩, ⟨0, 2⟩, ⟨1, 3⟩, ⟨8, 9⟩, ⟨6, 7⟩, ⟨0, 2⟩]

/-- Merged they are two spans, with two bytes between them. -/
theorem mergeSpans_canonical_tangled :
    (∀ s ∈ tangled, s.start < s.stop) ∧
      (∀ n, Covered [⟨0, 3⟩, ⟨5, 9⟩] n ↔ Covered tangled n) ∧
      mergeSpans tangled = [⟨0, 3⟩, ⟨5, 9⟩] ∧
      mergeSpans (mergeSpans tangled) = mergeSpans tangled := by
  have hbytes : ∀ s ∈ tangled, s.start < s.stop := by decide
  have hcovered : ∀ n, Covered [⟨0, 3⟩, ⟨5, 9⟩] n ↔ Covered tangled n := by
    intro n
    simp only [Covered, tangled, Span.Covers, List.exists_mem_cons_iff, List.not_mem_nil,
      false_and, exists_false, or_false]
    omega
  obtain ⟨-, -, hsame, -, hagain⟩ := mergeSpans_canonical tangled hbytes
  obtain ⟨-, -, -, hself, -⟩ := mergeSpans_canonical [⟨0, 3⟩, ⟨5, 9⟩] (by decide)
  have hmerged : Merged [⟨0, 3⟩, ⟨5, 9⟩] := ⟨by decide, by decide⟩
  refine ⟨hbytes, hcovered, ?_, hagain⟩
  calc mergeSpans tangled = mergeSpans [⟨0, 3⟩, ⟨5, 9⟩] :=
        ((hsame [⟨0, 3⟩, ⟨5, 9⟩] (by decide)).2 hcovered).symm
    _ = [⟨0, 3⟩, ⟨5, 9⟩] := hself.2 hmerged

end Concordance
