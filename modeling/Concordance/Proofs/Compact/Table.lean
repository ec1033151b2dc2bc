import Mathlib
import Concordance.Compact.Pair
import Concordance.Proofs.Compact.Field
import Concordance.Proofs.Compact.Number
import Concordance.Proofs.Except

/-!
# What an index file says

An index file is read line by line.  Each line that is not blank gives an entry, and the first line
that does not is what is wrong with the file.

* `Fields` and `Reads` say what a line is made of, `Fault` what can be wrong with it.
* `Lists` says that some lines give some entries, with nothing wrong.
* `Table.parse_eq_ok_iff` and `Table.parse_eq_error_iff` say what reading an index file gives.
-/

namespace Concordance.Compact

open Concordance.Text

/-! ## Fields of a line -/

/-- The last field of a line stands behind the last tab, or behind the last space if there is no
tab. -/
def Splits (line rest field : Bytes) : Prop :=
  (line = rest ++ 0x09 :: field ∧ 0x09 ∉ field) ∨
    (0x09 ∉ line ∧ line = rest ++ 0x20 :: field ∧ 0x20 ∉ field)

theorem splitField?_eq_some_iff {line rest field : Bytes} :
    splitField? line = some (rest, field) ↔ Splits line rest field := by
  rw [splitField?, Option.or_eq_some_iff, splitLast?_eq_some_iff, splitLast?_eq_none_iff,
    splitLast?_eq_some_iff, Splits]

/-- A line is made of the bytes of a name, an offset and a size. -/
def Fields (line name : Bytes) (offset size : Nat) : Prop :=
  ∃ rest written sizeWritten, Splits line rest sizeWritten ∧ Splits rest name written ∧
    Number.Writes written offset ∧ Number.Writes sizeWritten size

/-- The fields of a line, if it has them. -/
def fields? (line : Bytes) : Option (Bytes × Nat × Nat) :=
  (splitField? line).bind fun (rest, sizeWritten) =>
    (splitField? rest).bind fun (name, written) =>
      (Number.decode? written).bind fun offset =>
        (Number.decode? sizeWritten).map fun size => (name, offset, size)

theorem fields?_eq_some_iff {line name : Bytes} {offset size : Nat} :
    fields? line = some (name, offset, size) ↔ Fields line name offset size := by
  simp only [fields?, Fields, Option.bind_eq_some_iff, Option.map_eq_some_iff, Prod.exists,
    Prod.mk.injEq, splitField?_eq_some_iff, Number.decode?_eq_some_iff]
  constructor
  · rintro ⟨rest, sizeWritten, hline, front, written, hrest, o, ho, s, hs, rfl, rfl, rfl⟩
    exact ⟨rest, written, sizeWritten, hline, hrest, ho, hs⟩
  · rintro ⟨rest, written, sizeWritten, hline, hrest, ho, hs⟩
    exact ⟨rest, sizeWritten, hline, name, written, hrest, offset, ho, size, hs, rfl, rfl, rfl⟩

theorem Row.ofLine_eq (number : Nat) (line : Bytes) :
    Row.ofLine number line = match fields? line with
      | none => .error (.malformed number)
      | some (name, offset, size) =>
        match ofUtf8? name with
        | none => .error (.nameNotUtf8 number)
        | some name => .ok ⟨name, offset, size⟩ := by
  rw [Row.ofLine, fields?]
  cases splitField? line with
  | none => rfl
  | some parts =>
    dsimp only [Option.bind_some]
    cases splitField? parts.1 with
    | none => rfl
    | some more =>
      dsimp only [Option.bind_some]
      cases Number.decode? more.2 with
      | none => rfl
      | some offset =>
        cases Number.decode? parts.2 with
        | none => rfl
        | some size =>
          dsimp only [Option.bind_some, Option.map_some]
          cases ofUtf8? more.1 <;> rfl

/-- A line gives an entry: its first field is the name. -/
def Reads (line : Bytes) (r : Row) : Prop := Fields line (utf8 r.name) r.offset r.size

/-- The content of the entry lies within data of this length: offset and size do not overflow, and
together they are at most the length. -/
def Row.FitsIn (length : Nat) (r : Row) : Prop :=
  r.offset + r.size < 2 ^ 64 ∧ r.offset + r.size ≤ length

theorem Row.stop?_filter_eq_some_iff {length stop : Nat} {r : Row} :
    r.stop?.filter (· ≤ length) = some stop ↔ stop = r.offset + r.size ∧ r.FitsIn length := by
  rw [Option.filter_eq_some_iff, decide_eq_true_iff, stop?, Option.ite_none_right_eq_some,
    Option.some.injEq, FitsIn, Number.limit]
  constructor
  · rintro ⟨⟨hlimit, rfl⟩, hlength⟩
    exact ⟨rfl, hlimit, hlength⟩
  · rintro ⟨rfl, hlimit, hlength⟩
    exact ⟨⟨hlimit, rfl⟩, hlength⟩

theorem Row.check_of_fitsIn {length : Nat} {r : Row} (h : r.FitsIn length) :
    r.check length = .ok r := by
  rw [check, stop?_filter_eq_some_iff.2 ⟨rfl, h⟩]

theorem Row.check_of_not_fitsIn {length : Nat} {r : Row} (h : ¬ r.FitsIn length) :
    r.check length = .error (.outside r.name) := by
  have hnone : r.stop?.filter (· ≤ length) = none :=
    Option.eq_none_iff_forall_ne_some.2 fun _ hsome => h (stop?_filter_eq_some_iff.1 hsome).2
  rw [check, hnone]

/-! ## Lines with their numbers -/

/-- The lines that are not blank, without their breaks and with their numbers. -/
def entryLines (index : Bytes) : List (Nat × Bytes) :=
  numbered 1 (lines index)
where
  /-- The lines that are not blank among some, the first of which has the given number. -/
  numbered : Nat → List Bytes → List (Nat × Bytes)
    | _, [] => []
    | number, line :: rest =>
      if trimBreak line = [] then numbered (number + 1) rest
      else (number, trimBreak line) :: numbered (number + 1) rest

/-- What is wrong with a line behind lines that have given some names. -/
inductive Fault (length : Nat) (names : List String) : Nat × Bytes → TableError → Prop where
  /-- The line is not made of three fields, the last two of which are numbers. -/
  | malformed {number : Nat} {line : Bytes}
      (h : ∀ name offset size, ¬ Fields line name offset size) :
      Fault length names (number, line) (.malformed number)
  /-- The name is no text. -/
  | nameNotUtf8 {number : Nat} {line name : Bytes} {offset size : Nat}
      (h : Fields line name offset size) (hname : ∀ text, name ≠ utf8 text) :
      Fault length names (number, line) (.nameNotUtf8 number)
  /-- The content does not lie within the data. -/
  | outside {number : Nat} {line : Bytes} {r : Row} (h : Reads line r) (hfits : ¬ r.FitsIn length) :
      Fault length names (number, line) (.outside r.name)
  /-- An earlier line has the same name. -/
  | duplicate {number : Nat} {line : Bytes} {r : Row} (h : Reads line r) (hfits : r.FitsIn length)
      (hname : r.name ∈ names) : Fault length names (number, line) (.duplicate r.name)

/-- Reads a line behind lines that have given some names. -/
def readLine (length : Nat) (names : List String) (line : Nat × Bytes) : Except TableError Row :=
  ((Row.ofLine line.1 line.2).bind (Row.check length)).bind fun r =>
    if r.name ∈ names then .error (.duplicate r.name) else .ok r

variable {length number : Nat} {names : List String} {line : Bytes} {r : Row}

theorem Reads.ofLine_eq (h : Reads line r) (number : Nat) : Row.ofLine number line = .ok r := by
  rw [Row.ofLine_eq, fields?_eq_some_iff.2 h]
  dsimp only
  rw [ofUtf8?_utf8]

/-- A line gives an entry, or else something is wrong with it. -/
theorem reads_or_fault (length : Nat) (names : List String) (number : Nat) (line : Bytes) :
    (∃ r, Reads line r ∧ r.FitsIn length ∧ r.name ∉ names) ∨
      ∃ e, Fault length names (number, line) e := by
  by_cases hfields : ∃ name offset size, Fields line name offset size
  · obtain ⟨name, offset, size, hfields⟩ := hfields
    by_cases hname : ∃ text, name = utf8 text
    · obtain ⟨text, rfl⟩ := hname
      have hreads : Reads line ⟨text, offset, size⟩ := hfields
      by_cases hfits : Row.FitsIn length ⟨text, offset, size⟩
      · by_cases hmem : text ∈ names
        · exact Or.inr ⟨_, .duplicate hreads hfits hmem⟩
        · exact Or.inl ⟨_, hreads, hfits, hmem⟩
      · exact Or.inr ⟨_, .outside hreads hfits⟩
    · exact Or.inr ⟨_, .nameNotUtf8 hfields (not_exists.1 hname)⟩
  · exact Or.inr ⟨_, .malformed fun name offset size h => hfields ⟨name, offset, size, h⟩⟩

theorem readLine_of_reads (h : Reads line r) (hfits : r.FitsIn length) (hname : r.name ∉ names) :
    readLine length names (number, line) = .ok r := by
  rw [readLine, h.ofLine_eq, Except.bind, Row.check_of_fitsIn hfits, Except.bind, if_neg hname]

theorem readLine_of_fault {e : TableError} (h : Fault length names (number, line) e) :
    readLine length names (number, line) = .error e := by
  rw [readLine]
  cases h with
  | malformed h =>
    have hfields : fields? line = none := by
      refine Option.eq_none_iff_forall_ne_some.2 fun found hfound => ?_
      exact h _ _ _ (fields?_eq_some_iff.1 hfound)
    rw [Row.ofLine_eq, hfields]
    rfl
  | @nameNotUtf8 _ _ name offset size h hname =>
    have htext : ofUtf8? name = none := by
      refine Option.eq_none_iff_forall_ne_some.2 fun text htext => ?_
      exact hname text (ofUtf8?_eq_some_iff.1 htext)
    rw [Row.ofLine_eq, fields?_eq_some_iff.2 h]
    dsimp only
    rw [htext]
    rfl
  | @outside _ _ r h hfits =>
    rw [h.ofLine_eq, Except.bind, Row.check_of_not_fitsIn hfits]
    rfl
  | @duplicate _ _ r h hfits hname =>
    rw [h.ofLine_eq, Except.bind, Row.check_of_fitsIn hfits, Except.bind, if_pos hname]

/-- A line is read as the entry that it gives. -/
theorem readLine_eq_ok_iff {line : Nat × Bytes} : readLine length names line = .ok r ↔
    Reads line.2 r ∧ r.FitsIn length ∧ r.name ∉ names := by
  constructor
  · intro h
    rcases reads_or_fault length names line.1 line.2 with ⟨s, hs, hfits, hname⟩ | ⟨e, he⟩
    · rw [readLine_of_reads hs hfits hname] at h
      cases h
      exact ⟨hs, hfits, hname⟩
    · rw [readLine_of_fault he] at h
      cases h
  · rintro ⟨h, hfits, hname⟩
    exact readLine_of_reads h hfits hname

/-- A line is refused for what is wrong with it. -/
theorem readLine_eq_error_iff {line : Nat × Bytes} {e : TableError} :
    readLine length names line = .error e ↔ Fault length names line e := by
  constructor
  · intro h
    rcases reads_or_fault length names line.1 line.2 with ⟨s, hs, hfits, hname⟩ | ⟨d, hd⟩
    · rw [readLine_of_reads hs hfits hname] at h
      cases h
    · rw [readLine_of_fault hd] at h
      cases h
      exact hd
  · exact readLine_of_fault

/-! ## Several lines -/

/-- Reads lines behind others that have given some names. -/
def readLines (length : Nat) : List String → List (Nat × Bytes) → Except TableError (List Row)
  | _, [] => .ok []
  | names, line :: rest =>
    (readLine length names line).bind fun r =>
      (readLines length (names ++ [r.name]) rest).map (r :: ·)

/-- The lines give the entries, with nothing wrong: each entry is within the data, and no two have
the same name. -/
structure Lists (length : Nat) (ls : List (Nat × Bytes)) (rows : List Row) : Prop where
  /-- Each line gives its entry. -/
  reads : List.Forall₂ (fun line r => Reads line.2 r) ls rows
  /-- Their contents lie within the data. -/
  fits : ∀ r ∈ rows, r.FitsIn length
  /-- Their names are different. -/
  nodup : (rows.map Row.name).Nodup

variable {ls : List (Nat × Bytes)} {rows : List Row}

/-- Lines are read as the entries that they give. -/
theorem readLines_eq_ok_iff : readLines length names ls = .ok rows ↔
    Lists length ls rows ∧ ∀ r ∈ rows, r.name ∉ names := by
  induction ls generalizing names rows with
  | nil =>
    rw [readLines, Except.ok.injEq]
    constructor
    · rintro rfl
      exact ⟨⟨.nil, by simp, by simp⟩, by simp⟩
    · rintro ⟨h, -⟩
      exact (List.forall₂_nil_left_iff.1 h.reads).symm
  | cons line rest ih =>
    rw [readLines, bind_eq_ok_iff]
    simp only [map_eq_ok_iff, readLine_eq_ok_iff, ih]
    constructor
    · rintro ⟨r, ⟨hreads, hfits, hname⟩, more, ⟨hlists, hnew⟩, rfl⟩
      have hfirst : r.name ∉ more.map Row.name := by
        intro hmem
        obtain ⟨s, hs, heq⟩ := List.mem_map.1 hmem
        exact hnew s hs (by simp [heq])
      refine ⟨⟨.cons hreads hlists.reads, by simpa [hfits] using hlists.fits,
        List.nodup_cons.2 ⟨hfirst, hlists.nodup⟩⟩, fun s hs => ?_⟩
      rcases List.mem_cons.1 hs with rfl | hs
      · exact hname
      · exact fun hmem => hnew s hs (List.mem_append_left _ hmem)
    · rintro ⟨h, hnew⟩
      cases rows with
      | nil => cases h.reads
      | cons r more =>
        obtain ⟨hreads, hmore⟩ := List.forall₂_cons.1 h.reads
        have hnodup := h.nodup
        rw [List.map_cons, List.nodup_cons] at hnodup
        refine ⟨r, ⟨hreads, h.fits r (by simp), hnew r (by simp)⟩, more,
          ⟨⟨hmore, fun s hs => h.fits s (by simp [hs]), hnodup.2⟩, fun s hs hmem => ?_⟩, rfl⟩
        rcases List.mem_append.1 hmem with hmem | heq
        · exact hnew s (by simp [hs]) hmem
        · exact hnodup.1 (List.mem_singleton.1 heq ▸ List.mem_map_of_mem hs)

/-- Reading lines fails for what is wrong with the first line that gives no entry. -/
theorem readLines_eq_error_iff {e : TableError} : readLines length names ls = .error e ↔
    ∃ before line after rows, ls = before ++ line :: after ∧
      readLines length names before = .ok rows ∧
      Fault length (names ++ rows.map Row.name) line e := by
  induction ls generalizing names with
  | nil => simp [readLines]
  | cons line rest ih =>
    rw [readLines, bind_eq_error_iff]
    simp only [map_eq_error_iff, readLine_eq_error_iff, ih]
    constructor
    · rintro (hline | ⟨r, hline, before, bad, after, rows, rfl, hbefore, hbad⟩)
      · exact ⟨[], line, rest, [], rfl, rfl, by simpa using hline⟩
      · refine ⟨line :: before, bad, after, r :: rows, rfl, ?_, by simpa using hbad⟩
        rw [readLines, hline, Except.bind, hbefore]
        rfl
    · rintro ⟨before, bad, after, rows, hsplit, hbefore, hbad⟩
      cases before with
      | nil =>
        cases hbefore
        obtain ⟨rfl, rfl⟩ := List.cons.inj hsplit
        exact Or.inl (by simpa using hbad)
      | cons first before =>
        obtain ⟨rfl, rfl⟩ := List.cons.inj hsplit
        rw [readLines, bind_eq_ok_iff] at hbefore
        obtain ⟨r, hline, hmore⟩ := hbefore
        rw [map_eq_ok_iff] at hmore
        obtain ⟨more, hmore, rfl⟩ := hmore
        exact Or.inr ⟨r, hline, before, bad, after, more, rfl, hmore, by simpa using hbad⟩

/-! ## Index files -/

namespace Table

/-- The table of some entries. -/
def ofRows (rows : List Row) : Table :=
  ⟨rows.map Row.name, rows.foldl (fun spans r => spans.insert r.name r.span) ∅⟩

theorem span?_foldl (rows : List Row) (hnodup : (rows.map Row.name).Nodup)
    (spans : Std.HashMap String Span) (name : String) :
    (rows.foldl (fun spans r => spans.insert r.name r.span) spans)[name]? =
      ((rows.find? fun r => r.name = name).map Row.span).or spans[name]? := by
  induction rows generalizing spans with
  | nil => simp
  | cons r rest ih =>
    obtain ⟨hfirst, hrest⟩ := List.nodup_cons.1 hnodup
    rw [List.foldl_cons, ih hrest, Std.HashMap.getElem?_insert]
    by_cases hname : r.name = name
    · have hnone : rest.find? (fun s => s.name = name) = none := by
        rw [List.find?_eq_none]
        intro s hs heq
        exact hfirst (hname.trans (of_decide_eq_true heq).symm ▸ List.mem_map_of_mem hs)
      simp [hname, hnone]
    · simp [hname]

/-- The table has the span of each entry under its name, and no others. -/
theorem span?_ofRows_eq_some_iff (hnodup : (rows.map Row.name).Nodup) {name : String}
    {span : Span} : (ofRows rows).span? name = some span ↔
      ∃ r ∈ rows, r.name = name ∧ r.span = span := by
  rw [span?, ofRows, span?_foldl rows hnodup, Std.HashMap.getElem?_empty, Option.or_none,
    Option.map_eq_some_iff]
  constructor
  · rintro ⟨r, hr, hspan⟩
    exact ⟨r, List.mem_of_find?_eq_some hr, by simpa using List.find?_some hr, hspan⟩
  · rintro ⟨r, hr, hname, hspan⟩
    cases hfound : rows.find? (fun r => r.name = name) with
    | none =>
      rw [List.find?_eq_none] at hfound
      exact absurd (decide_eq_true hname) (hfound r hr)
    | some s =>
      have hs : s.name = name := by simpa using List.find?_some hfound
      refine ⟨s, rfl, ?_⟩
      rw [← hspan, List.inj_on_of_nodup_map hnodup (List.mem_of_find?_eq_some hfound) hr
        (hs.trans hname.symm)]

theorem parseLines_eq (length number : Nat) (before names : List String)
    (spans : Std.HashMap String Span) (hnames : ∀ name, name ∈ spans ↔ name ∈ names)
    (ls : List Bytes) :
    parseLines length number before spans ls =
      (readLines length names (entryLines.numbered number ls)).map fun rows =>
        ⟨before.reverse ++ rows.map Row.name,
          rows.foldl (fun spans r => spans.insert r.name r.span) spans⟩ := by
  induction ls generalizing number before names spans with
  | nil => simp [parseLines, entryLines.numbered, readLines, Except.map]
  | cons line rest ih =>
    rw [parseLines, entryLines.numbered]
    by_cases hblank : trimBreak line = []
    · rw [if_pos hblank, hblank, List.isEmpty_nil, if_pos rfl, ih _ _ _ _ hnames]
    · have hempty : (trimBreak line).isEmpty = false := by simpa using hblank
      rw [if_neg hblank, hempty, if_neg Bool.false_ne_true, readLines, readLine]
      dsimp only
      cases hrow : (Row.ofLine number (trimBreak line)).bind (Row.check length) with
      | error e => rfl
      | ok r =>
        dsimp only [Except.bind]
        have hcontains : spans.contains r.name = true ↔ r.name ∈ names := by
          rw [← hnames, Std.HashMap.mem_iff_contains]
        have hinsert : ∀ name, name ∈ spans.insert r.name r.span ↔ name ∈ names ++ [r.name] := by
          intro name
          rw [Std.HashMap.mem_insert, hnames, List.mem_append, List.mem_singleton, beq_iff_eq,
            or_comm, eq_comm]
        by_cases hmem : r.name ∈ names
        · rw [if_pos hmem, if_pos (hcontains.2 hmem)]
          rfl
        · rw [if_neg hmem, if_neg (mt hcontains.1 hmem), ih _ _ _ _ hinsert]
          dsimp only
          cases readLines length (names ++ [r.name]) (entryLines.numbered (number + 1) rest) with
          | error e => rfl
          | ok more => simp [Except.map]

/-- An index file is read by its lines. -/
theorem parse_eq (length : Nat) (index : Bytes) :
    parse length index = (readLines length [] (entryLines index)).map ofRows := by
  rw [parse, parseLines_eq length 1 [] [] ∅ (by simp)]
  rfl

variable {index : Bytes} {t : Table}

/-- An index file is read as the table of the entries that its lines give. -/
theorem parse_eq_ok_iff : parse length index = .ok t ↔
    ∃ rows, Lists length (entryLines index) rows ∧ ofRows rows = t := by
  rw [parse_eq, map_eq_ok_iff]
  simp [readLines_eq_ok_iff]

/-- An index file is refused for what is wrong with the first line that gives no entry. -/
theorem parse_eq_error_iff {e : TableError} : parse length index = .error e ↔
    ∃ before line after rows, entryLines index = before ++ line :: after ∧
      Lists length before rows ∧ Fault length (rows.map Row.name) line e := by
  rw [parse_eq, map_eq_error_iff, readLines_eq_error_iff]
  simp [readLines_eq_ok_iff]

/-- Lines that give entries within the data with different names are accepted. -/
theorem parse_of_reads
    (hreads : List.Forall₂ (fun line r => Reads line.2 r) (entryLines index) rows)
    (hfits : ∀ r ∈ rows, r.FitsIn length) (hnodup : (rows.map Row.name).Nodup) :
    parse length index = .ok (ofRows rows) :=
  parse_eq_ok_iff.2 ⟨rows, ⟨hreads, hfits, hnodup⟩, rfl⟩

/-- Lines that give entries within the data are refused where a name comes again. -/
theorem parse_of_reads_again {before after : List Row}
    (hreads : List.Forall₂ (fun line r => Reads line.2 r) (entryLines index)
      (before ++ r :: after))
    (hfits : ∀ s ∈ before ++ r :: after, s.FitsIn length)
    (hnodup : (before.map Row.name).Nodup) (hagain : r.name ∈ before.map Row.name) :
    parse length index = .error (.duplicate r.name) := by
  have hfront := List.forall₂_take_append _ _ _ hreads
  have hback := List.forall₂_drop_append _ _ _ hreads
  obtain ⟨line, rest, hline, -, hdrop⟩ := List.forall₂_cons_right_iff.1 hback
  have hlists : Lists length ((entryLines index).take before.length) before :=
    ⟨hfront, fun s hs => hfits s (by simp [hs]), hnodup⟩
  refine parse_eq_error_iff.2 ⟨_, line, rest, before, ?_, hlists, ?_⟩
  · rw [← hdrop, List.take_append_drop]
  · exact .duplicate hline (hfits r (by simp)) hagain

/-- The span of an entry lies within the data. -/
theorem span_within (h : parse length index = .ok t) {name : String} {span : Span}
    (hspan : t.span? name = some span) : span.start ≤ span.stop ∧ span.stop ≤ length := by
  obtain ⟨rows, hlists, rfl⟩ := parse_eq_ok_iff.1 h
  obtain ⟨r, hr, -, rfl⟩ := (span?_ofRows_eq_some_iff hlists.nodup).1 hspan
  exact ⟨Nat.le_add_right _ _, (hlists.fits r hr).2⟩

end Table

/-! ## Contents -/

/-- What an entry with this content reads as. -/
def readAs (name : String) (content : Bytes) : Except Error String :=
  match ofUtf8? content with
  | some text => .ok text
  | none => .error (.notUtf8 name)

theorem Pair.get_of_none {p : Pair} {name : String} (h : p.table.span? name = none) :
    p.get name = .error (.notFound name) := by
  rw [Pair.get, h]

/-- The content of an entry is the part of the data within its span. -/
theorem Pair.get_of_slice {p : Pair} {name : String} {front content back : Bytes}
    (hdata : p.data = front ++ content ++ back)
    (h : p.table.span? name = some ⟨front.length, front.length + content.length⟩) :
    p.get name = readAs name content := by
  have hslice : (p.data.drop front.length).take content.length = content := by
    rw [hdata, List.append_assoc, List.drop_left, List.take_left]
  rw [Pair.get, h]
  dsimp only
  rw [Nat.add_sub_cancel_left, hslice]
  rfl

/-- A span within the data cuts a slice out of it. -/
theorem exists_slice {data : Bytes} {span : Span} (hstart : span.start ≤ span.stop)
    (hstop : span.stop ≤ data.length) : ∃ front content back, data = front ++ content ++ back ∧
      span = ⟨front.length, front.length + content.length⟩ := by
  refine ⟨data.take span.start, (data.drop span.start).take (span.stop - span.start),
    (data.drop span.start).drop (span.stop - span.start), ?_, ?_⟩
  · rw [List.append_assoc, List.take_append_drop, List.take_append_drop]
  · have hfront : (data.take span.start).length = span.start := by
      rw [List.length_take]
      omega
    have hcontent : ((data.drop span.start).take (span.stop - span.start)).length =
        span.stop - span.start := by
      rw [List.length_take, List.length_drop]
      omega
    rw [hfront, hcontent, Nat.add_sub_cancel' hstart]

/-- An index file is accepted if its lines that are not blank give entries within the data, with
different names.  Its table has the names in the order of the lines, and the span of each entry
under its name and no others; so what is read for an entry is always a slice of the data.
Otherwise the file is refused for what is wrong with the first line at fault. -/
theorem Table.parse_follows_format (length : Nat) (index : Bytes) :
    CutInto index (lines index) ∧
    ((∃ t, parse length index = .ok t) ↔ ∃ rows, Lists length (entryLines index) rows) ∧
    (∀ t, parse length index = .ok t → ∃ rows, Lists length (entryLines index) rows ∧
      t.names = rows.map Row.name ∧ t.names.Nodup ∧
      (∀ name, (∃ span, t.span? name = some span) ↔ name ∈ t.names) ∧
      (∀ r ∈ rows, t.span? r.name = some ⟨r.offset, r.offset + r.size⟩) ∧
      (∀ name span, t.span? name = some span → span.start ≤ span.stop ∧ span.stop ≤ length) ∧
      ∀ (base name : String) (data : Bytes), data.length = length →
        match t.span? name with
        | none => Pair.get ⟨base, data, t⟩ name = .error (.notFound name)
        | some span => ∃ front content back, data = front ++ content ++ back ∧
            span = ⟨front.length, front.length + content.length⟩ ∧
            Pair.get ⟨base, data, t⟩ name = readAs name content) ∧
    ∀ e, parse length index = .error e ↔
      ∃ before line after rows, entryLines index = before ++ line :: after ∧
        Lists length before rows ∧ Fault length (rows.map Row.name) line e := by
  refine ⟨cutInto_lines index, ?_, fun t h => ?_, fun e => parse_eq_error_iff⟩
  · constructor
    · rintro ⟨t, h⟩
      obtain ⟨rows, hlists, -⟩ := parse_eq_ok_iff.1 h
      exact ⟨rows, hlists⟩
    · rintro ⟨rows, hlists⟩
      exact ⟨ofRows rows, parse_eq_ok_iff.2 ⟨rows, hlists, rfl⟩⟩
  · have hwithin : ∀ name span, t.span? name = some span →
        span.start ≤ span.stop ∧ span.stop ≤ length :=
      fun name span => span_within h
    obtain ⟨rows, hlists, rfl⟩ := parse_eq_ok_iff.1 h
    refine ⟨rows, hlists, rfl, hlists.nodup, fun name => ?_, fun r hr => ?_, hwithin,
      fun base name data hdata => ?_⟩
    · simp only [span?_ofRows_eq_some_iff hlists.nodup]
      constructor
      · rintro ⟨span, r, hr, rfl, -⟩
        exact List.mem_map_of_mem hr
      · intro hname
        obtain ⟨r, hr, rfl⟩ := List.mem_map.1 hname
        exact ⟨r.span, r, hr, rfl, rfl⟩
    · exact (span?_ofRows_eq_some_iff hlists.nodup).2 ⟨r, hr, rfl, rfl⟩
    · cases hspan : (ofRows rows).span? name with
      | none => exact Pair.get_of_none hspan
      | some span =>
        obtain ⟨hstart, hstop⟩ := hwithin name span hspan
        obtain ⟨front, content, back, hslice, rfl⟩ := exists_slice hstart (hdata ▸ hstop)
        exact ⟨front, content, back, hslice, rfl, Pair.get_of_slice hslice hspan⟩

end Concordance.Compact
