import Mathlib
import Concordance.Marking.Layer
import Concordance.Proofs.Marking.Attributes

/-!
# Tags read back

A start tag tells its element and its attributes.  No name has a character that ends a name, and no
value has a quote as it is written, so a plain reader finds the ends of all of them.

* `unescape` replaces what stands for a character in a written value; `unescape_escapeValue` says
  that it gives the value back.
* `readTag` reads a start tag: up to the next space, the next `=` or the next quote, whatever stands
  before it.
* `readTag_write` says that a tag with attributes is read back, whatever follows it.
* `startTag_reads_back` is the statement about the tag of a piece whose attributes are given in
  order.
-/

namespace Concordance

/-! ## Written values -/

/-- The value that some characters write: what stands for a character is replaced by it, from left
to right. -/
def unescape : List Char → List Char
  | '&' :: 'a' :: 'm' :: 'p' :: ';' :: rest => '&' :: unescape rest
  | '&' :: 'l' :: 't' :: ';' :: rest => '<' :: unescape rest
  | '&' :: 'g' :: 't' :: ';' :: rest => '>' :: unescape rest
  | '&' :: 'q' :: 'u' :: 'o' :: 't' :: ';' :: rest => '"' :: unescape rest
  | c :: rest => c :: unescape rest
  | [] => []

theorem unescape_cons {c : Char} (h : c ≠ '&') (rest : List Char) :
    unescape (c :: rest) = c :: unescape rest := by
  rw [unescape]
  all_goals
    intros
    exact absurd ‹c = '&'› h

/-- The characters that do not stand for themselves in a written value. -/
def reserved : List Char := ['&', '<', '>', '"']

/-- What is written for them. -/
def entities : List (List Char) :=
  [['&', 'a', 'm', 'p', ';'], ['&', 'l', 't', ';'], ['&', 'g', 't', ';'],
    ['&', 'q', 'u', 'o', 't', ';']]

theorem map_escapeChar_reserved : reserved.map escapeChar = entities := rfl

theorem escapeChar_of_notMem {c : Char} (h : c ∉ reserved) : escapeChar c = [c] := by
  simp only [reserved, List.mem_cons, List.not_mem_nil, or_false, not_or] at h
  obtain ⟨hamp, hlt, hgt, hquot⟩ := h
  rw [escapeChar, if_neg hamp, if_neg hlt, if_neg hgt, if_neg hquot]

/-- The written form of a character stands for it, whatever follows. -/
theorem unescape_escapeChar (c : Char) (rest : List Char) :
    unescape (escapeChar c ++ rest) = c :: unescape rest := by
  by_cases h : c ∈ reserved
  · simp only [reserved, List.mem_cons, List.not_mem_nil, or_false] at h
    rcases h with rfl | rfl | rfl | rfl <;> rfl
  · rw [escapeChar_of_notMem h]
    exact unescape_cons (fun hc => h (by simp [hc, reserved])) rest

/-- Values are read back as they were. -/
theorem unescape_escapeValue (value : String) : unescape (escapeValue value) = value.toList := by
  rw [escapeValue]
  induction value.toList with
  | nil => rfl
  | cons c rest ih => rw [List.flatMap_cons, unescape_escapeChar, ih]

/-- No character that ends a value or a tag stands in a written value. -/
theorem ne_of_mem_escapeValue {value : String} {c : Char} (h : c ∈ escapeValue value) :
    c ≠ '<' ∧ c ≠ '>' ∧ c ≠ '"' := by
  have hentities : ∀ w ∈ entities, '<' ∉ w ∧ '>' ∉ w ∧ '"' ∉ w := by decide
  obtain ⟨d, -, hc⟩ := List.mem_flatMap.1 h
  by_cases hd : d ∈ reserved
  · have hw : escapeChar d ∈ entities := map_escapeChar_reserved ▸ List.mem_map_of_mem hd
    obtain ⟨hlt, hgt, hquot⟩ := hentities _ hw
    exact ⟨ne_of_mem_of_not_mem hc hlt, ne_of_mem_of_not_mem hc hgt,
      ne_of_mem_of_not_mem hc hquot⟩
  · rw [escapeChar_of_notMem hd, List.mem_singleton] at hc
    subst hc
    simp only [reserved, List.mem_cons, List.not_mem_nil, or_false, not_or] at hd
    exact hd.2

/-! ## Names -/

theorem isNameChar_of_isNameStart {c : Char} (h : isNameStart c = true) : isNameChar c = true := by
  simp only [isNameStart, isNameChar, Text.isAlphanumeric, Bool.or_eq_true] at h ⊢
  rcases h with (h | h) | h
  · exact Or.inl (Or.inl (Or.inl (Or.inl (Or.inl h))))
  · exact Or.inl (Or.inl (Or.inl (Or.inr h)))
  · exact Or.inl (Or.inl (Or.inr h))

theorem isNameChar_of_mem {name : String} {c : Char} (h : isTagName name = true)
    (hc : c ∈ name.toList) : isNameChar c = true := by
  unfold isTagName at h
  split at h
  · cases h
  · rename_i d rest hname
    rw [Bool.and_eq_true, List.all_eq_true] at h
    rw [hname] at hc
    rcases List.mem_cons.1 hc with rfl | hc
    · exact isNameChar_of_isNameStart h.1
    · exact h.2 c hc

/-- A character that may not stand in a name stands in none. -/
theorem notMem_of_isTagName {name : String} {c : Char} (h : isTagName name = true)
    (hc : isNameChar c = false) : c ∉ name.toList := by
  intro hmem
  rw [isNameChar_of_mem h hmem] at hc
  cases hc

/-! ## Reading tags -/

/-- What stands before the first `stop` in some characters, and what is behind it. -/
def upTo? (stop : Char) : List Char → Option (List Char × List Char)
  | [] => none
  | c :: rest =>
    if c = stop then some ([], rest)
    else (upTo? stop rest).map fun (front, back) => (c :: front, back)

theorem upTo?_eq_some_iff {stop : Char} {s front back : List Char} :
    upTo? stop s = some (front, back) ↔ s = front ++ stop :: back ∧ stop ∉ front := by
  induction s generalizing front with
  | nil => simp [upTo?]
  | cons c rest ih =>
    rw [upTo?]
    constructor
    · intro h
      split at h
      · rename_i hc
        cases h
        exact ⟨by rw [hc, List.nil_append], List.not_mem_nil⟩
      · rename_i hc
        obtain ⟨⟨before, behind⟩, hrest, heq⟩ := Option.map_eq_some_iff.1 h
        cases heq
        obtain ⟨rfl, hnot⟩ := ih.1 hrest
        exact ⟨rfl, List.not_mem_cons_of_ne_of_not_mem (Ne.symm hc) hnot⟩
    · rintro ⟨heq, hnot⟩
      cases front with
      | nil =>
        obtain ⟨rfl, rfl⟩ := List.cons.inj heq
        rw [if_pos rfl]
      | cons d front =>
        obtain ⟨rfl, hrest⟩ := List.cons.inj heq
        obtain ⟨hc, hnot⟩ := List.ne_and_not_mem_of_not_mem_cons hnot
        rw [if_neg (Ne.symm hc), ih.2 ⟨hrest, hnot⟩]
        rfl

/-- Reads an attribute: its name up to the next `=`, and its value from one quote to the next. -/
def readAttribute (s : List Char) : Option (Attribute × List Char) :=
  match upTo? '=' s with
  | some (name, '"' :: s) =>
    (upTo? '"' s).map fun (value, rest) =>
      (⟨String.ofList name, String.ofList (unescape value)⟩, rest)
  | _ => none

theorem length_lt_of_readAttribute {s rest : List Char} {a : Attribute}
    (h : readAttribute s = some (a, rest)) : rest.length < s.length := by
  unfold readAttribute at h
  split at h
  · rename_i name s' hname
    obtain ⟨⟨value, behind⟩, hvalue, heq⟩ := Option.map_eq_some_iff.1 h
    cases heq
    obtain ⟨rfl, -⟩ := upTo?_eq_some_iff.1 hname
    obtain ⟨rfl, -⟩ := upTo?_eq_some_iff.1 hvalue
    simp only [List.length_append, List.length_cons]
    omega
  · cases h

/-- Reads attributes with a space between each and the next, up to the end of the tag. -/
def readAttributes (s : List Char) : Option (List Attribute × List Char) :=
  match _h : readAttribute s with
  | some (a, ' ' :: s) => (readAttributes s).map fun (more, rest) => (a :: more, rest)
  | some (a, '>' :: rest) => some ([a], rest)
  | _ => none
termination_by s.length
decreasing_by
  have := length_lt_of_readAttribute _h
  simp only [List.length_cons] at this
  omega

theorem readAttributes_of_space {s t : List Char} {a : Attribute}
    (h : readAttribute s = some (a, ' ' :: t)) :
    readAttributes s = (readAttributes t).map fun (more, rest) => (a :: more, rest) := by
  rw [readAttributes]
  split
  · rename_i hread
    rw [h] at hread
    cases hread
    rfl
  · rename_i hread
    rw [h] at hread
    cases hread
  · rename_i hread _
    exact absurd h (hread a t)

theorem readAttributes_of_end {s rest : List Char} {a : Attribute}
    (h : readAttribute s = some (a, '>' :: rest)) : readAttributes s = some ([a], rest) := by
  rw [readAttributes]
  split
  · rename_i hread
    rw [h] at hread
    cases hread
  · rename_i hread
    rw [h] at hread
    cases hread
    rfl
  · rename_i hread
    exact absurd h (hread a rest)

/-- A start tag. -/
structure Tag where
  /-- The element. -/
  element : String
  /-- Its attributes. -/
  attributes : List Attribute
  deriving DecidableEq, Repr

/-- Reads a start tag with attributes, of which the first begins behind the next space. -/
def readTag : List Char → Option (Tag × List Char)
  | '<' :: s =>
    match upTo? ' ' s with
    | some (element, s) =>
      (readAttributes s).map fun (attributes, rest) => (⟨String.ofList element, attributes⟩, rest)
    | none => none
  | _ => none

/-! ## Reading what is written -/

/-- An attribute as it stands behind a space is read back. -/
theorem readAttribute_write {a : Attribute} (h : isTagName a.name = true) (rest : List Char) :
    readAttribute (a.name.toList ++ '=' :: '"' :: (escapeValue a.value ++ '"' :: rest)) =
      some (a, rest) := by
  have hequals : '=' ∉ a.name.toList := notMem_of_isTagName h (by decide)
  have hquote : '"' ∉ escapeValue a.value := fun hmem => (ne_of_mem_escapeValue hmem).2.2 rfl
  rw [readAttribute, upTo?_eq_some_iff.2 ⟨rfl, hequals⟩]
  simp only [upTo?_eq_some_iff.2 ⟨rfl, hquote⟩, Option.map_some, unescape_escapeValue,
    String.ofList_toList]

/-- Attributes are read back, whatever follows the tag. -/
theorem readAttributes_write {a : Attribute} {more : List Attribute}
    (h : ∀ b ∈ a :: more, isTagName b.name = true) (rest : List Char) :
    readAttributes (a.name.toList ++ '=' :: '"' :: (escapeValue a.value ++ '"' ::
      (more.flatMap Attribute.write ++ '>' :: rest))) = some (a :: more, rest) := by
  induction more generalizing a with
  | nil => exact readAttributes_of_end (readAttribute_write (h a (by simp)) _)
  | cons b more ih =>
    have hb := ih (a := b) fun c hc => h c (List.mem_cons_of_mem _ hc)
    have hwrite : (b :: more).flatMap Attribute.write ++ '>' :: rest =
        ' ' :: (b.name.toList ++ '=' :: '"' :: (escapeValue b.value ++ '"' ::
          (more.flatMap Attribute.write ++ '>' :: rest))) := by
      simp [Attribute.write]
    rw [hwrite, readAttributes_of_space (readAttribute_write (h a (by simp)) _), hb]
    rfl

/-- A tag with attributes is read back, whatever follows it. -/
theorem readTag_write {element : String} {attributes : List Attribute}
    (helement : isTagName element = true) (hnames : ∀ a ∈ attributes, isTagName a.name = true)
    (hne : attributes ≠ []) (text : List Char) :
    readTag (startTag element attributes ++ text) = some (⟨element, attributes⟩, text) := by
  obtain ⟨a, more, rfl⟩ := List.exists_cons_of_ne_nil hne
  have hspace : ' ' ∉ element.toList := notMem_of_isTagName helement (by decide)
  have hwrite : startTag element (a :: more) ++ text =
      '<' :: (element.toList ++ ' ' :: (a.name.toList ++ '=' :: '"' ::
        (escapeValue a.value ++ '"' :: (more.flatMap Attribute.write ++ '>' :: text)))) := by
    simp [startTag, Attribute.write]
  rw [hwrite, readTag, upTo?_eq_some_iff.2 ⟨rfl, hspace⟩]
  simp only [readAttributes_write hnames, Option.map_some, String.ofList_toList]

/-- Attributes that are given in order come to one attribute for each name, in the order in which
the names come first, each with the value that is given last.  A piece is written between tags if
there are any.  A plain reader takes the element and these attributes from the start tag and leaves
what follows it, whatever the values are: no written value has a character that ends it. -/
theorem startTag_reads_back (element : String) (given : List Attribute)
    (helement : isTagName element = true) (hnames : ∀ a ∈ given, isTagName a.name = true) :
    given.foldl (fun attributes a => setAttribute a attributes) [] = distinctAttributes given ∧
    (distinctAttributes given).map Attribute.name = (given.map Attribute.name).eraseDups ∧
    ((distinctAttributes given).map Attribute.name).Nodup ∧
    (∀ a, a ∈ distinctAttributes given ↔
      ∃ front back, given = front ++ a :: back ∧ ∀ b ∈ back, b.name ≠ a.name) ∧
    (∀ piece, writePiece element (distinctAttributes given) piece =
      if given = [] then piece
      else startTag element (distinctAttributes given) ++ piece ++ endTag element) ∧
    (given ≠ [] → ∀ text, readTag (startTag element (distinctAttributes given) ++ text) =
      some (⟨element, distinctAttributes given⟩, text)) ∧
    ∀ a ∈ distinctAttributes given, ∀ c ∈ escapeValue a.value, c ≠ '<' ∧ c ≠ '>' ∧ c ≠ '"' := by
  have hmem : ∀ a ∈ distinctAttributes given, isTagName a.name = true := by
    intro a ha
    obtain ⟨front, back, rfl, -⟩ := mem_distinctAttributes_iff.1 ha
    exact hnames a (by simp)
  refine ⟨foldl_setAttribute given, map_name_distinctAttributes given, ?_,
    fun a => mem_distinctAttributes_iff, fun piece => ?_, fun hne text => ?_,
    fun a _ c hc => ne_of_mem_escapeValue hc⟩
  · rw [map_name_distinctAttributes]
    exact nodup_eraseDups _
  · rw [writePiece]
    exact if_congr (List.isEmpty_iff.trans distinctAttributes_eq_nil_iff) rfl rfl
  · exact readTag_write helement hmem (fun hnil => hne (distinctAttributes_eq_nil_iff.1 hnil)) text

/-- A value with quotes, and one that looks like an entity, stay what they are. -/
theorem startTag_reads_back_quotes :
    isTagName "m" = true ∧
    (∀ a ∈ [⟨"k", "1"⟩, ⟨"n", "&quot;"⟩, ⟨"k", "\"><b"⟩], isTagName (Attribute.name a) = true) ∧
    readTag "<m k=\"&quot;&gt;&lt;b\" n=\"&amp;quot;\">cat</m>".toList =
      some (⟨"m", [⟨"k", "\"><b"⟩, ⟨"n", "&quot;"⟩]⟩, "cat</m>".toList) := by
  have helement : isTagName "m" = true := by decide
  have hnames : ∀ a ∈ [⟨"k", "1"⟩, ⟨"n", "&quot;"⟩, ⟨"k", "\"><b"⟩],
      isTagName (Attribute.name a) = true := by decide
  refine ⟨helement, hnames, ?_⟩
  obtain ⟨-, -, -, -, -, hread, -⟩ := startTag_reads_back "m" _ helement hnames
  exact hread (by simp) "cat</m>".toList

end Concordance
