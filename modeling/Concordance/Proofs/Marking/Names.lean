import Mathlib
import Concordance.Proofs.Marking.Faults
import Concordance.Regex.Engine

/-!
# Tag names and the names of XML

Tag names are made of letters and numerals as Unicode classes them, names of XML of ranges of code
points.  The two agree but for a few characters, with which a tag name is no name of XML.

* `IsXmlName` are the names of XML 1.0, in its fifth edition.
* `covers` checks that ranges leave no gap; `CodePoints.inRanges_of_has` says that a set of code
  points is made of its ranges, and `CodePoints.insideThroughout` checks a whole range at once.
* `strayRanges` and `attachedRanges` are the exceptions; `inRanges_strayRanges_iff` and
  `inRanges_attachedRanges_iff` say that there are no others, and that none of them is idle.
* `isXmlName_iff_of_isTagName` is the statement about names, markers and settings, and
  `isTagName_ordinal` about a tag name that is no name of XML.
-/

namespace Concordance

open Concordance.Text

/-! ## Names of XML -/

/-- Is the character in one of some ranges of code points? -/
def InRanges (ranges : List (Nat × Nat)) (c : Char) : Prop :=
  ∃ r ∈ ranges, r.1 ≤ c.toNat ∧ c.toNat ≤ r.2

/-- `NameStartChar`: the characters that a name of XML may begin with. -/
def xmlNameStart : List (Nat × Nat) :=
  [(0x3A, 0x3A), (0x41, 0x5A), (0x5F, 0x5F), (0x61, 0x7A), (0xC0, 0xD6), (0xD8, 0xF6),
    (0xF8, 0x2FF), (0x370, 0x37D), (0x37F, 0x1FFF), (0x200C, 0x200D), (0x2070, 0x218F),
    (0x2C00, 0x2FEF), (0x3001, 0xD7FF), (0xF900, 0xFDCF), (0xFDF0, 0xFFFD), (0x10000, 0xEFFFF)]

/-- What `NameChar` has besides: the characters that may stand further on in a name of XML. -/
def xmlNameRest : List (Nat × Nat) :=
  [(0x2D, 0x2E), (0x30, 0x39), (0xB7, 0xB7), (0x300, 0x36F), (0x203F, 0x2040)]

/-- The names of XML. -/
def IsXmlName (name : String) : Prop :=
  match name.toList with
  | [] => False
  | c :: rest => InRanges xmlNameStart c ∧ ∀ d ∈ rest, InRanges (xmlNameStart ++ xmlNameRest) d

instance (ranges : List (Nat × Nat)) (c : Char) : Decidable (InRanges ranges c) :=
  inferInstanceAs (Decidable (∃ r ∈ ranges, r.1 ≤ c.toNat ∧ c.toNat ≤ r.2))

/-- Letters and numerals that stand in no name of XML: ordinals, the micro sign, superscripts,
fractions, and what is circled or in parentheses. -/
def strayRanges : List (Nat × Nat) :=
  [(0xAA, 0xAA), (0xB2, 0xB3), (0xB5, 0xB5), (0xB9, 0xB9), (0xBA, 0xBA), (0xBC, 0xBE),
    (0x2460, 0x249B), (0x24B6, 0x24E9), (0x24EA, 0x24FF), (0x2776, 0x2793)]

/-- Letters that are written above or below others, which no name of XML begins with. -/
def attachedRanges : List (Nat × Nat) := [(0x345, 0x345), (0x363, 0x36F)]

/-! ## Ranges without a gap -/

/-- Do some ranges, taken in their order, leave no gap between two points? -/
def covers : List (Nat × Nat) → Nat → Nat → Bool
  | [], low, high => high < low
  | r :: rest, low, high => covers rest (if r.1 ≤ low then max low (r.2 + 1) else low) high

variable {allowed other : List (Nat × Nat)} {low high n : Nat} {c : Char}

theorem exists_range_of_covers (h : covers allowed low high = true) (hlow : low ≤ n)
    (hhigh : n ≤ high) : ∃ r ∈ allowed, r.1 ≤ n ∧ n ≤ r.2 := by
  induction allowed generalizing low with
  | nil =>
    have hempty : high < low := of_decide_eq_true h
    omega
  | cons r rest ih =>
    by_cases hr : r.1 ≤ n ∧ n ≤ r.2
    · exact ⟨r, List.mem_cons_self, hr⟩
    · rw [covers] at h
      obtain ⟨s, hs, hn⟩ := ih h (by split <;> omega)
      exact ⟨s, List.mem_cons_of_mem r hs, hn⟩

/-- Ranges that cover others have what these have. -/
theorem InRanges.of_covers (h : InRanges other c)
    (hcovers : ∀ r ∈ other, covers allowed r.1 r.2 = true) : InRanges allowed c := by
  obtain ⟨r, hr, hlow, hhigh⟩ := h
  exact exists_range_of_covers (hcovers r hr) hlow hhigh

theorem inRanges_append :
    InRanges (allowed ++ other) c ↔ InRanges allowed c ∨ InRanges other c := by
  simp only [InRanges, List.mem_append, or_and_right, exists_or]

/-- No point is in ranges that are apart. -/
theorem not_inRanges_of_disjoint
    (h : ∀ r ∈ allowed, ∀ s ∈ other, r.2 < s.1 ∨ s.2 < r.1) (hc : InRanges allowed c) :
    ¬ InRanges other c := by
  rintro ⟨s, hs, hsc⟩
  obtain ⟨r, hr, hrc⟩ := hc
  have := h r hr s hs
  omega

/-! ## Sets of code points -/

namespace Text.CodePoints

theorem exists_range_of_insideAfter {edges : List Nat} (hn : n ≤ 0x10FFFF)
    (h : insideAfter n false edges = true) : ∃ r ∈ ranges.go edges, r.1 ≤ n ∧ n ≤ r.2 := by
  induction edges using ranges.go.induct with
  | case1 low next rest ih =>
    rw [ranges.go]
    rw [insideAfter, insideAfter] at h
    split at h
    · cases h
    next hlow =>
      split at h
      next hnext => exact ⟨(low, next - 1), List.mem_cons_self, by dsimp only; omega⟩
      · obtain ⟨r, hr, hrn⟩ := ih h
        exact ⟨r, List.mem_cons_of_mem _ hr, hrn⟩
  | case2 low =>
    rw [insideAfter] at h
    split at h
    · cases h
    next hlow => exact ⟨(low, 0x10FFFF), by simp [ranges.go], by dsimp only; omega⟩
  | case3 => cases h

/-- The members of a set are in its ranges. -/
theorem inRanges_of_has {s : CodePoints} (h : s.has c = true) : InRanges s.ranges c := by
  have hc : c.toNat < 0xD800 ∨ 0xDFFF < c.toNat ∧ c.toNat < 0x110000 := c.valid
  exact exists_range_of_insideAfter (by omega) h

/-- Are all points between two in the set, behind the given edges? -/
def insideThroughout (low high : Nat) (inside : Bool) : List Nat → Bool
  | [] => inside
  | e :: rest =>
    if high < e then inside else e ≤ low && insideThroughout low high (!inside) rest

theorem insideAfter_of_insideThroughout {edges : List Nat} {inside : Bool} (hlow : low ≤ n)
    (hhigh : n ≤ high) (h : insideThroughout low high inside edges = true) :
    insideAfter n inside edges = true := by
  induction edges generalizing inside with
  | nil => exact h
  | cons e rest ih =>
    rw [insideThroughout] at h
    rw [insideAfter]
    split at h
    next he => rwa [if_pos (by omega)]
    next he =>
      rw [Bool.and_eq_true, decide_eq_true_eq] at h
      rw [if_neg (by omega)]
      exact ih h.2

end Text.CodePoints

/-! ## Characters of tag names -/

theorem inRanges_of_isAlphabetic (h : isAlphabetic c = true) :
    InRanges (attachedRanges ++ xmlNameStart ++ strayRanges) c :=
  (CodePoints.inRanges_of_has h).of_covers (by decide +kernel)

theorem inRanges_of_isNumeric (h : isNumeric c = true) :
    InRanges (xmlNameStart ++ xmlNameRest ++ strayRanges) c :=
  (CodePoints.inRanges_of_has h).of_covers (by decide +kernel)

theorem inRanges_of_isNameStart (h : isNameStart c = true) :
    InRanges (attachedRanges ++ xmlNameStart ++ strayRanges) c := by
  simp only [isNameStart, Bool.or_eq_true, decide_eq_true_eq] at h
  rcases h with (halphabetic | rfl) | rfl
  · exact inRanges_of_isAlphabetic halphabetic
  · decide
  · decide

theorem inRanges_of_isNameChar (h : isNameChar c = true) :
    InRanges (xmlNameStart ++ xmlNameRest ++ strayRanges) c := by
  simp only [isNameChar, isAlphanumeric, Bool.or_eq_true, decide_eq_true_eq] at h
  rcases h with ((((halphabetic | hnumeric) | rfl) | rfl) | rfl) | rfl
  · have hc := inRanges_of_isAlphabetic halphabetic
    simp only [inRanges_append] at hc ⊢
    rcases hc with (hc | hc) | hc
    · exact Or.inl (Or.inr (hc.of_covers (by decide)))
    · exact Or.inl (Or.inl hc)
    · exact Or.inr hc
  · exact inRanges_of_isNumeric hnumeric
  all_goals decide

/-- Tag names have the stray characters, and XML has them nowhere. -/
theorem inRanges_strayRanges_iff : InRanges strayRanges c ↔
    isNameChar c = true ∧ ¬ InRanges (xmlNameStart ++ xmlNameRest) c := by
  constructor
  · intro h
    refine ⟨?_, not_inRanges_of_disjoint (by decide) h⟩
    obtain ⟨r, hr, hlow, hhigh⟩ := h
    have hinside : ∀ r ∈ strayRanges,
        CodePoints.insideThroughout r.1 r.2 false alphabeticEdges = true ∨
          CodePoints.insideThroughout r.1 r.2 false numericEdges = true := by decide +kernel
    have hc : isAlphabetic c = true ∨ isNumeric c = true :=
      (hinside r hr).imp (CodePoints.insideAfter_of_insideThroughout hlow hhigh)
        (CodePoints.insideAfter_of_insideThroughout hlow hhigh)
    simp only [isNameChar, isAlphanumeric, Bool.or_eq_true, hc, true_or]
  · rintro ⟨hc, hxml⟩
    exact (inRanges_append.1 (inRanges_of_isNameChar hc)).resolve_left hxml

/-- A tag name may begin with the attached characters, and in XML they stand only further on. -/
theorem inRanges_attachedRanges_iff : InRanges attachedRanges c ↔
    isNameStart c = true ∧ ¬ InRanges xmlNameStart c ∧ InRanges xmlNameRest c := by
  constructor
  · intro h
    refine ⟨?_, not_inRanges_of_disjoint (by decide) h, h.of_covers (by decide)⟩
    obtain ⟨r, hr, hlow, hhigh⟩ := h
    have hinside : ∀ r ∈ attachedRanges,
        CodePoints.insideThroughout r.1 r.2 false alphabeticEdges = true := by decide +kernel
    have hc : isAlphabetic c = true :=
      CodePoints.insideAfter_of_insideThroughout hlow hhigh (hinside r hr)
    simp only [isNameStart, hc, Bool.true_or]
  · rintro ⟨hc, hstart, hrest⟩
    rcases inRanges_append.1 (inRanges_of_isNameStart hc) with hc | hstray
    · exact (inRanges_append.1 hc).resolve_right hstart
    · exact absurd hrest (not_inRanges_of_disjoint (by decide) hstray)

/-! ## Tag names -/

/-- The name has no stray character and does not begin with an attached one. -/
def RegularName (name : String) : Prop :=
  (∀ c ∈ name.toList, ¬ InRanges strayRanges c) ∧
    ∀ c ∈ name.toList.head?, ¬ InRanges attachedRanges c

theorem isXmlNameStart_iff (h : isNameStart c = true) :
    InRanges xmlNameStart c ↔ ¬ InRanges strayRanges c ∧ ¬ InRanges attachedRanges c := by
  constructor
  · intro hc
    exact ⟨not_inRanges_of_disjoint (by decide) hc, not_inRanges_of_disjoint (by decide) hc⟩
  · rintro ⟨hstray, hattached⟩
    have hc := (inRanges_append.1 (inRanges_of_isNameStart h)).resolve_right hstray
    exact (inRanges_append.1 hc).resolve_left hattached

theorem isXmlNameChar_iff (h : isNameChar c = true) :
    InRanges (xmlNameStart ++ xmlNameRest) c ↔ ¬ InRanges strayRanges c := by
  rw [inRanges_strayRanges_iff, and_iff_right h, not_not]

/-- A tag name is a name of XML unless a stray or an attached character stands in the way. -/
theorem isXmlName_iff_regularName {name : String} (h : isTagName name = true) :
    IsXmlName name ↔ RegularName name := by
  unfold isTagName at h
  unfold IsXmlName RegularName
  generalize name.toList = chars at h ⊢
  cases chars with
  | nil => cases h
  | cons c rest =>
    rw [Bool.and_eq_true, List.all_eq_true] at h
    have hrest : (∀ d ∈ rest, InRanges (xmlNameStart ++ xmlNameRest) d) ↔
        ∀ d ∈ rest, ¬ InRanges strayRanges d :=
      forall₂_congr fun d hd => isXmlNameChar_iff (h.2 d hd)
    show InRanges xmlNameStart c ∧ _ ↔ _
    rw [isXmlNameStart_iff h.1, hrest, List.forall_mem_cons]
    simp only [List.head?_cons, Option.mem_some_iff, forall_eq']
    tauto

/-- Which tag names are names of XML.

A name that may be that of an element or an attribute is a name of XML if and only if it has no
stray character and does not begin with an attached one.  So this holds of the attribute of every
marker of a list that is taken, and of the element of the tags in all settings that pass their
check.

The stray characters are all those that tag names have and XML has nowhere, and the attached ones
all those that may begin a tag name and stand only further on in XML. -/
theorem isXmlName_iff_of_isTagName [Regex.Engine] (name : String) (markers : List Marker)
    (settings : Settings) (c : Char) :
    (isTagName name = true → (IsXmlName name ↔ RegularName name)) ∧
    (∀ compiled, compileMarkers markers = .ok compiled →
      ∀ m ∈ markers, (IsXmlName m.attr.name ↔ RegularName m.attr.name)) ∧
    (settings.check = .ok () →
      (IsXmlName settings.markElement ↔ RegularName settings.markElement)) ∧
    (InRanges strayRanges c ↔
      isNameChar c = true ∧ ¬ InRanges (xmlNameStart ++ xmlNameRest) c) ∧
    (InRanges attachedRanges c ↔
      isNameStart c = true ∧ ¬ InRanges xmlNameStart c ∧ InRanges xmlNameRest c) := by
  refine ⟨isXmlName_iff_regularName, ?_, ?_, inRanges_strayRanges_iff,
    inRanges_attachedRanges_iff⟩
  · intro compiled h m hm
    exact isXmlName_iff_regularName (exists_compileMarkers_iff.1 ⟨compiled, h⟩ m hm).name
  · intro h
    exact isXmlName_iff_regularName (Settings.check_eq_ok_iff.1 h)

/-- A marker whose attribute has a numeral in its name that is set high. -/
def squaredMarker : Marker := ⟨"contains(text,'cat')", ⟨"x²", "1"⟩⟩

/-- A numeral that is set high is a stray character also further on in a name.  A letter that is
written below another one is attached: it matters only at the beginning. -/
theorem isXmlName_iff_of_isTagName_squared :
    ((∃ compiled, compileMarkers [squaredMarker] = .ok compiled) ∧ ¬ IsXmlName "x²") ∧
    (({ markElement := "\u0345a" } : Settings).check = .ok () ∧ ¬ IsXmlName "\u0345a") ∧
    isTagName "a\u0345" = true ∧ IsXmlName "a\u0345" := by
  have husable : squaredMarker.Usable := ⟨by decide, _, rfl⟩
  obtain ⟨compiled, hcompiled⟩ :=
    exists_compileMarkers_iff.2 (List.forall_mem_singleton.2 husable)
  have hcheck : ({ markElement := "\u0345a" } : Settings).check = .ok () :=
    Settings.check_eq_ok_iff.2 (by decide)
  have hbehind : isTagName "a\u0345" = true := by decide
  obtain ⟨hname, hmarkers, hsettings, -⟩ := isXmlName_iff_of_isTagName "a\u0345" [squaredMarker]
    { markElement := "\u0345a" } '²'
  refine ⟨⟨⟨compiled, hcompiled⟩, ?_⟩, ⟨hcheck, ?_⟩, hbehind, ?_⟩
  · have hattr := hmarkers compiled hcompiled squaredMarker (List.mem_singleton_self _)
    rw [squaredMarker] at hattr
    rw [hattr]
    intro h
    exact h.1 '²' (by decide) (by decide)
  · have helement := hsettings hcheck
    rw [helement]
    intro h
    exact h.2 '\u0345' (by decide) (by decide)
  · have hchars : "a\u0345".toList = ['a', '\u0345'] := by decide
    rw [hname hbehind, RegularName, hchars]
    simp [InRanges, strayRanges, attachedRanges]

/-- An ordinal is taken as the name of an attribute and of the element, and is no name of XML. -/
theorem isTagName_ordinal :
    isTagName "ª" = true ∧ ¬ IsXmlName "ª" ∧
    (∃ compiled, compileMarkers [⟨"contains(text,'cat')", ⟨"ª", "1"⟩⟩] = .ok compiled) ∧
    ({ markElement := "ª" } : Settings).check = .ok () := by
  have hname : isTagName "ª" = true := by decide
  have husable : (⟨"contains(text,'cat')", ⟨"ª", "1"⟩⟩ : Marker).Usable := ⟨hname, _, rfl⟩
  refine ⟨hname, ?_, ?_, Settings.check_eq_ok_iff.2 hname⟩
  · rw [isXmlName_iff_regularName hname]
    intro h
    exact h.1 'ª' (by decide) (by decide)
  · exact exists_compileMarkers_iff.2 (List.forall_mem_singleton.2 husable)

end Concordance
