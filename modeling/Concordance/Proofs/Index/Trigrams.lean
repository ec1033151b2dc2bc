import Mathlib
import Concordance.Index.Trigrams
import Concordance.Proofs.Ascending

/-!
# What the trigram index finds

The index of some contents has, for each trigram, the slots of the contents in which the trigram
occurs, in increasing order.  A literal is looked up by all its trigrams, so no content that
contains the literal is left out.

* `mem_windows_iff` says what trigrams are, and `windows_subset` that what occurs in some bytes has
  no trigrams but theirs.
* `TrigramIndex.Indexes` says that an index is the one of some contents; `Indexes.add` keeps it,
  and so `ofContents` is such an index.
* `Indexes.mem_slotsOfAll` says that several trigrams are looked up by what their slots have in
  common, `Indexes.candidates?_eq` what comes of a literal.
-/

namespace Concordance

open Concordance.Text

/-! ## Trigrams -/

theorem windows_eq_nil_iff {bytes : Bytes} : windows bytes = [] ↔ bytes.length < 3 := by
  match bytes with
  | [] => simp [windows]
  | [a] => simp [windows]
  | [a, b] => simp [windows]
  | a :: b :: c :: rest => simp [windows]

/-- The trigrams of some bytes are what occurs in them and has a length of three. -/
theorem mem_windows_iff {a b c : UInt8} {bytes : Bytes} :
    (a, b, c) ∈ windows bytes ↔ [a, b, c] <:+: bytes := by
  induction bytes with
  | nil => simp [windows]
  | cons x rest ih =>
    rw [List.infix_cons_iff, ← ih]
    match rest with
    | [] => simp [windows]
    | [y] => simp [windows]
    | y :: z :: more => simp [windows, List.cons_prefix_cons]

/-- What occurs in some bytes has no trigrams but theirs. -/
theorem windows_subset {needle bytes : Bytes} (h : needle <:+: bytes) :
    windows needle ⊆ windows bytes := by
  rintro ⟨a, b, c⟩ ht
  exact mem_windows_iff.2 ((mem_windows_iff.1 ht).trans h)

theorem windows_subset_iff {needle bytes : Bytes} :
    windows needle ⊆ windows bytes ↔
      ∀ w : Bytes, w.length = 3 → w <:+: needle → w <:+: bytes := by
  constructor
  · intro h w hw hneedle
    obtain ⟨a, b, c, rfl⟩ := List.length_eq_three.1 hw
    exact mem_windows_iff.1 (h (mem_windows_iff.2 hneedle))
  · rintro h ⟨a, b, c⟩ ht
    exact mem_windows_iff.2 (h [a, b, c] rfl (mem_windows_iff.1 ht))

namespace TrigramIndex

/-! ## Adding contents -/

/-- The slots of a trigram as they are kept. -/
def posting (index : TrigramIndex) (t : Trigram) : Array Nat := (index.postings[t]?).getD #[]

/-- The slots of the entries in which a trigram occurs. -/
def slots (index : TrigramIndex) (t : Trigram) : List Nat := (index.posting t).toList

theorem slots_post (slot : Nat) (index : TrigramIndex) (t u : Trigram) :
    (post slot index t).slots u =
      if u = t ∧ (index.slots t).getLast? ≠ some slot then index.slots u ++ [slot]
      else index.slots u := by
  have hlast : (index.slots t).getLast? = (index.posting t).back? := by
    rw [slots, Array.getLast?_toList]
  have hposting : (post slot index t).posting u =
      if u = t then
        if (index.posting t).back? = some slot then index.posting t
        else (index.posting t).push slot
      else index.posting u := by
    unfold post posting
    rw [Std.HashMap.getElem?_alter]
    by_cases hu : u = t
    · simp [hu]
    · simp [hu, Ne.symm hu]
  rw [slots, hposting, hlast]
  by_cases hu : u = t
  · subst hu
    by_cases hback : (index.posting u).back? = some slot
    · simp [hback, slots]
    · simp [hback, slots]
  · simp [hu, slots]

/-- Posting some trigrams records the slot once for each of them, if it was not recorded before. -/
theorem slots_foldl_post {slot : Nat} (ts : List Trigram) {index : TrigramIndex} {t : Trigram}
    (h : slot ∉ index.slots t) :
    (ts.foldl (post slot) index).slots t =
      if t ∈ ts then index.slots t ++ [slot] else index.slots t := by
  induction ts using List.reverseRecOn with
  | nil => simp
  | append_singleton ts u ih =>
    rw [List.foldl_concat, slots_post, ih]
    by_cases htu : t = u
    · subst htu
      by_cases hts : t ∈ ts
      · simp [ih, hts]
      · have hlast : (index.slots t).getLast? ≠ some slot := by
          intro hsome
          exact h (List.mem_of_getLast? hsome)
        simp [ih, hts, hlast]
    · have hmem : t ∈ ts ++ [u] ↔ t ∈ ts := by simp [htu]
      rw [if_neg (fun hand => htu hand.1)]
      simp only [hmem]

/-- The index has, for each trigram, the slots of the contents in which it occurs. -/
def Indexes (index : TrigramIndex) (contents : List Bytes) : Prop :=
  ∀ t, index.slots t =
    (List.range contents.length).filter fun slot => t ∈ windows (contents.getD slot [])

variable {index : TrigramIndex} {contents : List Bytes}

theorem Indexes.mem_slots (h : index.Indexes contents) {t : Trigram} {slot : Nat} :
    slot ∈ index.slots t ↔ slot < contents.length ∧ t ∈ windows (contents.getD slot []) := by
  rw [h t, List.mem_filter, List.mem_range, decide_eq_true_eq]

theorem indexes_empty : empty.Indexes [] := by
  intro t
  simp [empty, slots, posting]

/-- The slots of each trigram strictly increase. -/
theorem Indexes.pairwise_slots (h : index.Indexes contents) (t : Trigram) :
    (index.slots t).Pairwise (· < ·) := by
  rw [h t]
  exact List.pairwise_lt_range.filter _

theorem Indexes.pairwise_postings (h : index.Indexes contents) (ts : List Trigram) :
    ∀ s ∈ ts.map index.posting, s.toList.Pairwise (· < ·) :=
  List.forall_mem_map.2 fun t _ => h.pairwise_slots t

/-- Adding the next content gives the index of one content more. -/
theorem Indexes.add (h : index.Indexes contents) (content : Bytes) :
    (index.add contents.length content).Indexes (contents ++ [content]) := by
  intro t
  have hfresh : contents.length ∉ index.slots t := fun hmem =>
    Nat.lt_irrefl _ (h.mem_slots.1 hmem).1
  have hadded : (index.add contents.length content).slots t =
      index.slots t ++ if t ∈ windows content then [contents.length] else [] := by
    rw [TrigramIndex.add, slots_foldl_post _ hfresh]
    by_cases ht : t ∈ windows content <;> simp [ht]
  have hold : (List.range contents.length).filter
      (fun slot => t ∈ windows ((contents ++ [content]).getD slot [])) =
      (List.range contents.length).filter fun slot => t ∈ windows (contents.getD slot []) := by
    refine List.filter_congr fun slot hslot => ?_
    rw [List.getD_append _ _ _ _ (List.mem_range.1 hslot)]
  rw [hadded, h t, List.length_append, List.length_singleton, List.range_succ, List.filter_append,
    hold]
  by_cases ht : t ∈ windows content <;> simp [ht]

/-- Adds contents in a row, the first at a given slot. -/
def addFrom (index : TrigramIndex) : Nat → List Bytes → TrigramIndex
  | _, [] => index
  | slot, content :: rest => (index.add slot content).addFrom (slot + 1) rest

theorem Indexes.addFrom {before : List Bytes} (h : index.Indexes before) (contents : List Bytes) :
    (index.addFrom before.length contents).Indexes (before ++ contents) := by
  induction contents generalizing index before with
  | nil => simpa [TrigramIndex.addFrom] using h
  | cons content rest ih =>
    have hrest := ih (h.add content)
    rw [List.length_append, List.length_singleton, List.append_assoc] at hrest
    exact hrest

/-- The index of some contents. -/
def ofContents (contents : List Bytes) : TrigramIndex := empty.addFrom 0 contents

theorem indexes_ofContents (contents : List Bytes) : (ofContents contents).Indexes contents :=
  indexes_empty.addFrom contents

/-! ## Looking up literals -/

/-- Looking up several trigrams fails if one of them is in no entry. -/
theorem mapM_postings (index : TrigramIndex) (ts : List Trigram) :
    (ts.mapM fun t => index.postings[t]?) =
      if ∀ t ∈ ts, t ∈ index.postings then some (ts.map index.posting) else none := by
  induction ts with
  | nil => simp
  | cons t rest ih =>
    rw [List.mapM_cons]
    by_cases ht : t ∈ index.postings
    · have hget : index.postings[t]? = some (index.posting t) := by
        rw [posting, Std.HashMap.getElem?_eq_some_getElem ht]
        rfl
      rw [hget, ih]
      by_cases hrest : ∀ t ∈ rest, t ∈ index.postings
      · rw [if_pos hrest, if_pos (List.forall_mem_cons.2 ⟨ht, hrest⟩)]
        rfl
      · rw [if_neg hrest, if_neg fun hall => hrest (List.forall_mem_cons.1 hall).2]
        rfl
    · rw [Std.HashMap.getElem?_eq_none ht, if_neg fun hall => ht (hall t List.mem_cons_self)]
      rfl

theorem slots_of_not_mem {t : Trigram} (ht : t ∉ index.postings) :
    index.slots t = [] := by
  rw [slots, posting, Std.HashMap.getElem?_eq_none ht]
  rfl

/-- The slots of several trigrams are those that each of them has. -/
theorem Indexes.mem_slotsOfAll (h : index.Indexes contents) {ts : List Trigram} (hne : ts ≠ [])
    {slot : Nat} :
    slot ∈ index.slotsOfAll ts ↔ ∀ t ∈ ts, slot ∈ index.slots t := by
  rw [slotsOfAll, mapM_postings]
  by_cases hall : ∀ t ∈ ts, t ∈ index.postings
  · rw [if_pos hall]
    dsimp only
    rw [mem_common (h.pairwise_postings ts) (by simpa using hne), List.forall_mem_map]
    simp only [slots, Array.mem_toList_iff]
  · rw [if_neg hall]
    simp only [not_forall] at hall
    obtain ⟨t, ht, hnone⟩ := hall
    simp only [List.not_mem_nil, false_iff, not_forall]
    refine ⟨t, ht, ?_⟩
    rw [slots_of_not_mem hnone]
    exact List.not_mem_nil

theorem Indexes.pairwise_slotsOfAll (h : index.Indexes contents) (ts : List Trigram) :
    (index.slotsOfAll ts).Pairwise (· < ·) := by
  rw [slotsOfAll, mapM_postings]
  by_cases hall : ∀ t ∈ ts, t ∈ index.postings
  · rw [if_pos hall]
    exact pairwise_common (h.pairwise_postings ts)
  · rw [if_neg hall]
    exact List.Pairwise.nil

/-- A literal with trigrams is looked up by all of them. -/
theorem Indexes.candidates?_eq (h : index.Indexes contents) (literal : String) :
    index.candidates? literal =
      if (utf8 literal).length < 3 then none
      else some ((List.range contents.length).filter fun slot =>
        windows (utf8 literal) ⊆ windows (contents.getD slot [])) := by
  unfold candidates?
  split
  next hwindows => rw [if_pos (windows_eq_nil_iff.1 hwindows)]
  next hwindows =>
    have hne : windows (utf8 literal) ≠ [] := hwindows
    rw [if_neg fun hshort => hne (windows_eq_nil_iff.2 hshort)]
    congr 1
    apply eq_of_pairwise_lt (h.pairwise_slotsOfAll _) (List.pairwise_lt_range.filter _)
    intro slot
    rw [h.mem_slotsOfAll hne, List.mem_filter, List.mem_range, decide_eq_true_eq]
    simp only [h.mem_slots]
    constructor
    · intro hall
      obtain ⟨t, ht⟩ := List.exists_mem_of_ne_nil _ hne
      exact ⟨(hall t ht).1, fun u hu => (hall u hu).2⟩
    · rintro ⟨hslot, hsubset⟩ t ht
      exact ⟨hslot, hsubset ht⟩

variable {literal : String} {found : List Nat}

/-- A literal is too short to be looked up if it has fewer than three bytes. -/
theorem Indexes.candidates?_eq_none_iff (h : index.Indexes contents) :
    index.candidates? literal = none ↔ (utf8 literal).length < 3 := by
  rw [h.candidates?_eq, ite_eq_left_iff]
  simp

theorem Indexes.pairwise_candidates (h : index.Indexes contents)
    (hfound : index.candidates? literal = some found) : found.Pairwise (· < ·) := by
  rw [h.candidates?_eq, ite_eq_iff] at hfound
  obtain ⟨-, hnone⟩ | ⟨-, hsome⟩ := hfound
  · cases hnone
  · cases hsome
    exact List.pairwise_lt_range.filter _

/-- The candidates are the contents that have all trigrams of the literal. -/
theorem Indexes.mem_candidates (h : index.Indexes contents)
    (hfound : index.candidates? literal = some found) {slot : Nat} :
    slot ∈ found ↔ ∃ content, contents[slot]? = some content ∧
      windows (utf8 literal) ⊆ windows content := by
  rw [h.candidates?_eq, ite_eq_iff] at hfound
  obtain ⟨-, hnone⟩ | ⟨-, hsome⟩ := hfound
  · cases hnone
  · cases hsome
    rw [List.mem_filter, List.mem_range, decide_eq_true_eq]
    cases hcontent : contents[slot]? with
    | none =>
      have hle := List.getElem?_eq_none_iff.1 hcontent
      simp [Nat.not_lt.2 hle]
    | some content =>
      obtain ⟨hlt, rfl⟩ := List.getElem?_eq_some_iff.1 hcontent
      simp [List.getD, hlt]

end TrigramIndex

end Concordance
