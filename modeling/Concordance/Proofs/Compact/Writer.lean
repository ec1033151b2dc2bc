import Mathlib
import Concordance.Compact.Writer
import Concordance.Proofs.Compact.Pair
import Concordance.Session

/-!
# Written corpora are read back

A writer puts the contents of its entries in a row and a line for each entry into the index file.
The two files that it leaves make a compact corpus with these entries.

* `BadName` says which names a compact corpus cannot hold, `kept` which entries it takes.
* `rowsFrom` are the entries of the index file; `forall₂_reads` says that its lines give them.
* `FilesOf` are the files of some entries, `FilesOf.open` opens them.
* `Writer.extend` is a writer that has taken more entries, `Session.Writing` says where it stands.
* `Session.written_corpus_reads_back` is about a writer from its beginning to its end.
-/

namespace Concordance.Compact

open Concordance.Text

/-! ## Names -/

/-- A compact corpus cannot hold an entry with this name: it is empty, or it would break the line
of the index file. -/
def BadName (name : String) : Prop :=
  name = "" ∨ '\t' ∈ name.toList ∨ '\n' ∈ name.toList ∨ '\r' ∈ name.toList

instance (name : String) : Decidable (BadName name) :=
  inferInstanceAs (Decidable (_ ∨ _ ∨ _ ∨ _))

theorem isEntryName_iff {name : String} : Writer.isEntryName name = true ↔ ¬ BadName name := by
  have hempty : name.isEmpty = true ↔ name = "" := String.isEmpty_iff
  simp only [Writer.isEntryName, BadName, Bool.and_eq_true, Bool.not_eq_true', List.all_eq_true,
    bne_iff_ne, not_or, ← hempty, Bool.not_eq_true]
  constructor
  · rintro ⟨hname, hall⟩
    exact ⟨hname, fun h => (hall _ h).1.1 rfl, fun h => (hall _ h).1.2 rfl,
      fun h => (hall _ h).2 rfl⟩
  · rintro ⟨hname, htab, hfeed, hreturn⟩
    refine ⟨hname, fun c hc => ⟨⟨?_, ?_⟩, ?_⟩⟩
    · rintro rfl
      exact htab hc
    · rintro rfl
      exact hfeed hc
    · rintro rfl
      exact hreturn hc

/-- The entries that a writer takes: those with names that a compact corpus can hold. -/
def kept (entries : List (String × String)) : List (String × String) :=
  entries.filter fun e => ¬ BadName e.1

/-- The contents of some entries in a row. -/
def contents (entries : List (String × String)) : Bytes := entries.flatMap fun e => utf8 e.2

/-! ## The index file of some entries -/

/-- The entries of the index file, when the first content begins at an offset. -/
def rowsFrom : Nat → List (String × String) → List Row
  | _, [] => []
  | offset, (name, content) :: rest =>
    ⟨name, offset, byteLength content⟩ :: rowsFrom (offset + byteLength content) rest

/-- The line of an entry in the index file. -/
def written (r : Row) : Bytes := utf8 (Writer.line r.name r.offset r.size)

variable {offset : Nat} {es : List (String × String)} {r : Row} {rows : List Row}

theorem rowsFrom_append (offset : Nat) (es fs : List (String × String)) :
    rowsFrom offset (es ++ fs) =
      rowsFrom offset es ++ rowsFrom (offset + (contents es).length) fs := by
  induction es generalizing offset with
  | nil => simp [rowsFrom, contents]
  | cons e rest ih =>
    rw [List.cons_append, rowsFrom, ih, rowsFrom, List.cons_append]
    congr 3
    rw [contents, contents, List.flatMap_cons, List.length_append, byteLength]
    omega

theorem map_name_rowsFrom (offset : Nat) (es : List (String × String)) :
    (rowsFrom offset es).map Row.name = es.map Prod.fst := by
  induction es generalizing offset with
  | nil => rfl
  | cons e rest ih => rw [rowsFrom, List.map_cons, List.map_cons, ih]

/-- The contents lie side by side. -/
theorem tiles_rowsFrom (offset : Nat) (es : List (String × String)) :
    Tiles offset (offset + (contents es).length) ((rowsFrom offset es).map Row.span) := by
  induction es generalizing offset with
  | nil => exact Nat.add_zero offset
  | cons e rest ih =>
    have hrest := ih (offset + byteLength e.2)
    have hlength : (contents (e :: rest)).length = byteLength e.2 + (contents rest).length := by
      rw [contents, List.flatMap_cons, List.length_append]
      rfl
    rw [hlength, ← Nat.add_assoc, rowsFrom, List.map_cons]
    exact ⟨rfl, Nat.le_add_right _ _, hrest⟩

/-- The contents lie within the data. -/
theorem fitsIn_rowsFrom (htotal : (contents es).length < 2 ^ 64) (h : r ∈ rowsFrom 0 es) :
    r.FitsIn (contents es).length := by
  have hspans := (tiles_rowsFrom 0 es).stop_le.2
  rw [Nat.zero_add] at hspans
  have hstop : r.offset + r.size ≤ (contents es).length := hspans r.span (List.mem_map_of_mem h)
  exact ⟨Nat.lt_of_le_of_lt hstop htotal, hstop⟩

/-! ## Its lines -/

/-- The line of an entry without its break. -/
def bareLine (r : Row) : Bytes :=
  utf8 r.name ++ 0x09 :: utf8 (Number.encode (UInt64.ofNat r.offset)) ++
    0x09 :: utf8 (Number.encode (UInt64.ofNat r.size))

theorem written_eq (r : Row) : written r = bareLine r ++ [0x0A] := by
  have htab : utf8 "\t" = [0x09] := by decide +kernel
  have hfeed : utf8 "\n" = [0x0A] := by decide +kernel
  simp [written, Writer.line, bareLine, utf8_append, htab, hfeed]

/-- A written number has neither tabs nor line breaks. -/
theorem notMem_number (n : UInt64) {b : UInt8} (hb : b ∉ Number.alphabet) :
    b ∉ utf8 (Number.encode n) :=
  fun h => hb ((Number.writes_encode n).digits b h)

/-- The line of an entry gives that entry. -/
theorem reads_bareLine (hoffset : r.offset < 2 ^ 64) (hsize : r.size < 2 ^ 64) :
    Reads (bareLine r) r := by
  have hexact : ∀ n < 2 ^ 64, (UInt64.ofNat n).toNat = n := fun n hn => UInt64.toNat_ofNat_of_lt hn
  have htab : ∀ n, (0x09 : UInt8) ∉ utf8 (Number.encode n) := fun n =>
    notMem_number n (by decide +kernel)
  have hoffset' := Number.writes_encode (UInt64.ofNat r.offset)
  have hsize' := Number.writes_encode (UInt64.ofNat r.size)
  rw [hexact _ hoffset] at hoffset'
  rw [hexact _ hsize] at hsize'
  exact ⟨_, _, _, Or.inl ⟨rfl, htab _⟩, Or.inl ⟨rfl, htab _⟩, hoffset', hsize'⟩

/-- The line of an entry is a single line. -/
theorem feed_notMem_bareLine (hname : ¬ BadName r.name) : 0x0A ∉ bareLine r := by
  have hnumber : ∀ n, (0x0A : UInt8) ∉ utf8 (Number.encode n) := fun n =>
    notMem_number n (by decide +kernel)
  have htext : (0x0A : UInt8) ∉ utf8 r.name := by
    intro h
    have hmem : '\n' ∈ r.name.toList := mem_of_mem_encode (by decide +kernel) h
    exact hname (Or.inr (Or.inr (Or.inl hmem)))
  simp [bareLine, htext, hnumber]

theorem trimBreak_written (r : Row) : trimBreak (written r) = bareLine r := by
  have hfeed : dropEnd 0x0A (written r) = bareLine r := by
    rw [written_eq, dropEnd, List.getLast?_concat, if_pos rfl, List.dropLast_concat]
  have hreturn : (bareLine r).getLast? ≠ some 0x0D := by
    have hne := (Number.writes_encode (UInt64.ofNat r.size)).ne_nil
    rw [bareLine, List.getLast?_append_of_ne_nil _ (List.cons_ne_nil _ _),
      List.getLast?_cons_of_ne_nil hne]
    intro h
    exact notMem_number _ (by decide +kernel) (List.mem_of_getLast? h)
  rw [trimBreak, hfeed, dropEnd, if_neg hreturn]

theorem bareLine_ne_nil (r : Row) : bareLine r ≠ [] := by
  simp [bareLine]

/-- The lines of an index file give the entries that were written. -/
theorem forall₂_numbered (number : Nat) (hname : ∀ r ∈ rows, ¬ BadName r.name)
    (hoffset : ∀ r ∈ rows, r.offset < 2 ^ 64) (hsize : ∀ r ∈ rows, r.size < 2 ^ 64) :
    List.Forall₂ (fun line r => Reads line.2 r)
      (entryLines.numbered number (lines (rows.flatMap written))) rows := by
  induction rows generalizing number with
  | nil => exact .nil
  | cons r rest ih =>
    simp only [List.forall_mem_cons] at hname hoffset hsize
    have hline : lines ((r :: rest).flatMap written) =
        written r :: lines (rest.flatMap written) := by
      rw [List.flatMap_cons, written_eq, List.append_assoc, List.singleton_append,
        lines_append (feed_notMem_bareLine hname.1)]
    rw [hline, entryLines.numbered, trimBreak_written, if_neg (bareLine_ne_nil r)]
    exact .cons (reads_bareLine hoffset.1 hsize.1) (ih _ hname.2 hoffset.2 hsize.2)

/-- The index file of entries with good names gives these entries, if their contents together have
less than 2⁶⁴ bytes. -/
theorem forall₂_reads (hname : ∀ e ∈ es, ¬ BadName e.1) (htotal : (contents es).length < 2 ^ 64) :
    List.Forall₂ (fun line r => Reads line.2 r)
      (entryLines ((rowsFrom 0 es).flatMap written)) (rowsFrom 0 es) := by
  have hfits : ∀ r ∈ rowsFrom 0 es, r.offset + r.size < 2 ^ 64 := fun r hr =>
    (fitsIn_rowsFrom htotal hr).1
  refine forall₂_numbered 1 (fun r hr => ?_) (fun r hr => ?_) (fun r hr => ?_)
  · have hmem : r.name ∈ es.map Prod.fst := map_name_rowsFrom 0 es ▸ List.mem_map_of_mem hr
    obtain ⟨e, he, heq⟩ := List.mem_map.1 hmem
    exact heq ▸ hname e he
  · have h := hfits r hr
    omega
  · have h := hfits r hr
    omega

/-! ## A name that comes again -/

/-- If some things are not different, there is a first one that comes again. -/
theorem exists_again {α β : Type} [DecidableEq β] (f : α → β) (l : List α)
    (h : ¬ (l.map f).Nodup) : ∃ before a after, l = before ++ a :: after ∧
      (before.map f).Nodup ∧ f a ∈ before.map f := by
  induction l using List.reverseRecOn with
  | nil => simp at h
  | append_singleton l a ih =>
    by_cases hl : (l.map f).Nodup
    · by_cases ha : f a ∈ l.map f
      · exact ⟨l, a, [], rfl, hl, ha⟩
      · refine absurd ?_ h
        rw [List.map_append, List.nodup_append']
        exact ⟨hl, by simp, by simpa using ha⟩
    · obtain ⟨before, b, after, rfl, hbefore, hb⟩ := ih hl
      exact ⟨before, b, after ++ [a], by simp, hbefore, hb⟩

/-! ## Reading the files of some entries -/

/-- The files of some entries with good names, whose contents together have less than 2⁶⁴ bytes. -/
structure FilesOf (tree : Tree) (base : String) (es : List (String × String)) : Prop where
  /-- The compressed data. -/
  data : tree.read (base ++ dataEnding) = .ok (Gzip.encode (contents es))
  /-- The index file. -/
  index : tree.read (base ++ indexEnding) = .ok ((rowsFrom 0 es).flatMap written)
  /-- The names. -/
  names : ∀ e ∈ es, ¬ BadName e.1
  /-- The size of the data. -/
  total : (contents es).length < 2 ^ 64

variable {tree : Tree} {base : String}

/-- The corpus of some entries. -/
def pairOf (base : String) (es : List (String × String)) : Pair :=
  ⟨base, contents es, .ofRows (rowsFrom 0 es)⟩

theorem names_pairOf (base : String) (es : List (String × String)) :
    (pairOf base es).table.names = es.map Prod.fst := map_name_rowsFrom 0 es

theorem span?_pairOf (hnodup : (es.map Prod.fst).Nodup) {name : String} {span : Span} :
    (pairOf base es).table.span? name = some span ↔
      ∃ r ∈ rowsFrom 0 es, r.name = name ∧ r.span = span :=
  Table.span?_ofRows_eq_some_iff (by rwa [map_name_rowsFrom])

/-- The content of each entry is read from its place. -/
theorem get_pairOf (base : String) (hnodup : (es.map Prod.fst).Nodup) {e : String × String}
    (he : e ∈ es) : (pairOf base es).get e.1 = .ok e.2 := by
  obtain ⟨before, after, rfl⟩ := List.append_of_mem he
  have hcontents : contents (before ++ e :: after) =
      contents before ++ utf8 e.2 ++ contents after := by
    simp [contents]
  have hmem : ⟨e.1, (contents before).length, byteLength e.2⟩ ∈
      rowsFrom 0 (before ++ e :: after) := by
    rw [rowsFrom_append, Nat.zero_add]
    exact List.mem_append_right _ List.mem_cons_self
  have hspan : (pairOf base (before ++ e :: after)).table.span? e.1 =
      some ⟨(contents before).length, (contents before).length + byteLength e.2⟩ :=
    (span?_pairOf hnodup).2 ⟨_, hmem, rfl, rfl⟩
  rw [Pair.get_of_slice hcontents hspan, readAs, ofUtf8?_utf8]

/-- There are no other entries. -/
theorem get_pairOf_of_notMem (base : String) (hnodup : (es.map Prod.fst).Nodup) {name : String}
    (hname : name ∉ es.map Prod.fst) : (pairOf base es).get name = .error (.notFound name) := by
  refine Pair.get_of_none (Option.eq_none_iff_forall_ne_some.2 fun span hfound => hname ?_)
  obtain ⟨r, hr, rfl, -⟩ := (span?_pairOf hnodup).1 hfound
  exact map_name_rowsFrom 0 es ▸ List.mem_map_of_mem hr

/-- The files of entries with different names are opened as the corpus of these entries. -/
theorem FilesOf.open?_index (h : FilesOf tree base es) (hnodup : (es.map Prod.fst).Nodup) :
    Pair.open? tree (base ++ indexEnding) = .ok (pairOf base es) := by
  have hrows : ((rowsFrom 0 es).map Row.name).Nodup := by rwa [map_name_rowsFrom]
  have hparse : Table.parse (contents es).length ((rowsFrom 0 es).flatMap written) =
      .ok (.ofRows (rowsFrom 0 es)) :=
    Table.parse_of_reads (forall₂_reads h.names h.total)
      (fun r hr => fitsIn_rowsFrom h.total hr) hrows
  rw [Pair.open?_index h.index h.data, hparse]
  rfl

/-- Entries with different names are read back. -/
theorem FilesOf.open (h : FilesOf tree base es) (hnodup : (es.map Prod.fst).Nodup) :
    ∃ p, Pair.open? tree (base ++ indexEnding) = .ok p ∧
      p.table.names = es.map Prod.fst ∧
      (∀ e ∈ es, p.get e.1 = .ok e.2) ∧
      (∀ name ∉ es.map Prod.fst, p.get name = .error (.notFound name)) ∧
      ∃ spans, (es.map Prod.fst).map p.table.span? = spans.map some ∧
        Tiles 0 p.data.length spans := by
  refine ⟨pairOf base es, h.open?_index hnodup, names_pairOf base es,
    fun e he => get_pairOf base hnodup he,
    fun name hname => get_pairOf_of_notMem base hnodup hname,
    (rowsFrom 0 es).map Row.span, ?_, ?_⟩
  · rw [← map_name_rowsFrom 0 es, List.map_map, List.map_map]
    exact List.map_congr_left fun r hr => (span?_pairOf hnodup).2 ⟨r, hr, rfl, rfl⟩
  · have htiles := tiles_rowsFrom 0 es
    rwa [Nat.zero_add] at htiles

/-- Entries are refused where a name comes again. -/
theorem FilesOf.open_again {before after : List (String × String)} {e : String × String}
    (h : FilesOf tree base (before ++ e :: after)) (hnodup : (before.map Prod.fst).Nodup)
    (hagain : e.1 ∈ before.map Prod.fst) :
    Pair.open? tree (base ++ indexEnding) =
      .error (.cannotOpen (base ++ indexEnding) (.badTable (.duplicate e.1))) := by
  have hreads := forall₂_reads h.names h.total
  have hfits : ∀ r ∈ rowsFrom 0 (before ++ e :: after),
      r.FitsIn (contents (before ++ e :: after)).length := fun r hr =>
    fitsIn_rowsFrom h.total hr
  have hindex := h.index
  rw [rowsFrom_append, rowsFrom] at hreads hfits hindex
  rw [Pair.open?_index hindex h.data, Table.parse_of_reads_again hreads hfits]
  · rfl
  · rwa [map_name_rowsFrom]
  · rwa [map_name_rowsFrom]

/-! ## Taking entries -/

namespace Writer

/-- The writer when it has taken some more entries. -/
def extend (w : Writer) (es : List (String × String)) : Writer :=
  { w with
    data := w.data ++ contents es
    index := w.index ++ (rowsFrom w.offset es).flatMap written
    offset := w.offset + (contents es).length
    entries := w.entries + es.length
    offset_eq := by rw [w.offset_eq, List.length_append] }

theorem extend_nil (w : Writer) : w.extend [] = w := by
  simp [extend, contents, rowsFrom]

theorem extend_extend (w : Writer) (es fs : List (String × String)) :
    (w.extend es).extend fs = w.extend (es ++ fs) := by
  simp [extend, rowsFrom_append, contents, Nat.add_assoc]

theorem writeEntry_eq (w : Writer) (name content : String) :
    w.writeEntry name content =
      if BadName name then .error (.badEntryName name) else .ok (w.extend [(name, content)]) := by
  rw [writeEntry]
  by_cases hbad : BadName name
  · have hnot : ¬ isEntryName name = true := fun h => isEntryName_iff.1 h hbad
    rw [if_neg hnot, if_pos hbad]
  · rw [if_pos (isEntryName_iff.2 hbad), if_neg hbad]
    simp [extend, contents, rowsFrom, written, byteLength]

end Writer

end Concordance.Compact

namespace Concordance.Session

open Concordance.Text Concordance.Compact

/-! ## A writer at work -/

/-- The writer under an id has taken some entries, and its files are made but still empty. -/
structure Writing (s : Session) (id base : String) (w : Writer) (es : List (String × String)) :
    Prop where
  /-- The writer is kept under the id. -/
  kept : s.writers.find? id = some w
  /-- The contents so far. -/
  data : w.data = contents es
  /-- The index file so far. -/
  index : w.index = (rowsFrom 0 es).flatMap written
  /-- The number of entries so far. -/
  entries : w.entries = es.length
  /-- Where the data file is. -/
  walkData : s.tree.walk (base ++ dataEnding) = .ok w.dataFile.place
  /-- Where the index file is. -/
  walkIndex : s.tree.walk (base ++ indexEnding) = .ok w.indexFile.place
  /-- The data file is empty. -/
  nodeData : s.tree.node? w.dataFile.place = some (.file w.dataFile.serial [])
  /-- The index file is empty. -/
  nodeIndex : s.tree.node? w.indexFile.place = some (.file w.indexFile.serial [])

variable {s made : Session} {id base : String} {w : Writer} {es : List (String × String)}

/-- The two files are at different places. -/
theorem Writing.apart (h : s.Writing id base w es) : w.indexFile.place ≠ w.dataFile.place :=
  Tree.ne_of_walk_append isEnding_indexEnding isEnding_dataEnding getLast?_dataEnding_ne.symm
    h.walkIndex h.walkData

theorem find?_put {α : Type} (shelf : Shelf α) (id : String) (a : α) :
    (shelf.put id a).find? id = some a := by
  simp [Shelf.put, Shelf.find?]

theorem createFile_eq_ok_iff {tree : Tree} {path : String} {result : Tree × OpenFile} :
    Writer.createFile tree path = .ok result ↔ tree.create path = .ok result := by
  rw [Writer.createFile]
  cases tree.create path <;> simp

/-- A writer that has been made has taken nothing so far. -/
theorem writing_createWriter (h : s.createWriter id base = (made, .ok ())) :
    ∃ w, made.Writing id base w [] := by
  rw [createWriter] at h
  generalize (s.finishWriter id).getD s = begun at h
  rw [Writer.create] at h
  cases hdata : Writer.createFile begun.tree (base ++ dataEnding) with
  | error e =>
    rw [hdata] at h
    cases h
  | ok madeData =>
    obtain ⟨between, dataFile⟩ := madeData
    rw [hdata] at h
    dsimp only at h
    cases hindex : Writer.createFile between (base ++ indexEnding) with
    | error e =>
      rw [hindex] at h
      cases h
    | ok madeIndex =>
      obtain ⟨tree, indexFile⟩ := madeIndex
      rw [hindex] at h
      cases h
      obtain ⟨hwalkData, hchangedData⟩ := Tree.create_spec (createFile_eq_ok_iff.1 hdata)
      obtain ⟨hwalkIndex, hchangedIndex⟩ := Tree.create_spec (createFile_eq_ok_iff.1 hindex)
      have hafter : tree.walk (base ++ dataEnding) = .ok dataFile.place :=
        (hchangedData.extends.trans hchangedIndex.extends).walk hwalkData
      have happart : dataFile.place ≠ indexFile.place :=
        Tree.ne_of_walk_append isEnding_dataEnding isEnding_indexEnding getLast?_dataEnding_ne
          hwalkData hwalkIndex
      refine ⟨⟨dataFile, indexFile, [], [], 0, 0, rfl⟩, find?_put _ _ _, rfl, rfl, rfl, hafter,
        hchangedIndex.extends.walk hwalkIndex, ?_, hchangedIndex.node⟩
      exact (hchangedIndex.others _ happart).trans hchangedData.node

/-- The writer under an id may be replaced by one that has taken more entries. -/
theorem Writing.extend (h : s.Writing id base w es) (more : List (String × String)) :
    ({ s with writers := s.writers.put id (w.extend more) } : Session).Writing id base
      (w.extend more) (es ++ more) := by
  refine ⟨find?_put _ _ _, ?_, ?_, ?_, h.walkData, h.walkIndex, h.nodeData, h.nodeIndex⟩
  · simp [Writer.extend, h.data, contents]
  · simp [Writer.extend, h.index, w.offset_eq, h.data, rowsFrom_append]
  · simp [Writer.extend, h.entries]

/-- An entry with a bad name is refused, and nothing changes. -/
theorem writeEntry_of_bad {name : String} (h : s.writers.find? id = some w) (hname : BadName name)
    (content : String) :
    s.writeEntry id name content = some (.error (.badEntryName name), w, s) := by
  rw [writeEntry, h, Option.map_some, Writer.writeEntry_eq, if_pos hname]

/-- Any other entry is taken. -/
theorem Writing.writeEntry {name : String} (h : s.Writing id base w es) (hname : ¬ BadName name)
    (content : String) : ∃ w' s', s.writeEntry id name content = some (.ok (), w', s') ∧
      s'.Writing id base w' (es ++ [(name, content)]) := by
  refine ⟨_, _, ?_, h.extend [(name, content)]⟩
  rw [Session.writeEntry, h.kept, Option.map_some, Writer.writeEntry_eq, if_neg hname]

/-- Offers entries to the writer under an id, one after another, and gives the answers. -/
def writeEach (s : Session) (id : String) :
    List (String × String) → Option (List (Except Error Unit) × Session)
  | [] => some ([], s)
  | (name, content) :: rest =>
    (s.writeEntry id name content).bind fun (answer, _, s) =>
      (writeEach s id rest).map fun (answers, s) => (answer :: answers, s)

/-- What a writer answers when an entry is offered to it. -/
def answer (e : String × String) : Except Error Unit :=
  if BadName e.1 then .error (.badEntryName e.1) else .ok ()

/-- After some entries have been offered, the writer has taken those with good names. -/
theorem Writing.writeEach (h : s.Writing id base w es) (entries : List (String × String)) :
    ∃ w' s', s.writeEach id entries = some (entries.map answer, s') ∧
      s'.Writing id base w' (es ++ Compact.kept entries) := by
  induction entries generalizing s w es with
  | nil => exact ⟨w, s, rfl, by simpa [Compact.kept] using h⟩
  | cons e rest ih =>
    obtain ⟨name, content⟩ := e
    by_cases hname : BadName name
    · obtain ⟨w', s', hrest, hwriting⟩ := ih h
      refine ⟨w', s', ?_, by simpa [Compact.kept, hname] using hwriting⟩
      rw [Session.writeEach, writeEntry_of_bad h.kept hname]
      simp [hrest, answer, hname]
    · obtain ⟨between, reached, hentry, hreached⟩ := h.writeEntry hname content
      obtain ⟨w', s', hrest, hwriting⟩ := ih hreached
      refine ⟨w', s', ?_, by simpa [Compact.kept, hname] using hwriting⟩
      rw [Session.writeEach, hentry]
      simp [hrest, answer, hname]

/-- Finishing leaves the data and the index file. -/
theorem Writing.finishWriter (h : s.Writing id base w es) :
    ∃ done, s.finishWriter id = some done ∧
      done.tree.read (base ++ dataEnding) = .ok (Gzip.encode (contents es)) ∧
      done.tree.read (base ++ indexEnding) = .ok ((rowsFrom 0 es).flatMap written) := by
  refine ⟨_, by rw [Session.finishWriter, h.kept, Option.map_some], ?_⟩
  rw [Writer.finish, h.data, h.index]
  have hdata := Tree.overwrite_spec h.nodeData (Gzip.encode (contents es))
  have hnode := (hdata.others _ h.apart).trans h.nodeIndex
  have hindex := Tree.overwrite_spec hnode ((rowsFrom 0 es).flatMap written)
  have hextends := hdata.extends.trans hindex.extends
  constructor
  · exact Tree.read_of_walk (hextends.walk h.walkData)
      ((hindex.others _ h.apart.symm).trans hdata.node)
  · exact Tree.read_of_walk (hextends.walk h.walkIndex) hindex.node

/-- A writer refuses an entry if its name is empty or would break the line of the index file, and
then nothing changes.  When it is finished, its files can be opened if the names of the entries it
has taken are different.  The corpus then has these names in their order, each with the content
that was written and no others, and the contents lie side by side in the data.  If a name comes
again, the corpus is refused for the first one that does. -/
theorem written_corpus_reads_back {entries : List (String × String)}
    (hcreate : s.createWriter id base = (made, .ok ()))
    (htotal : (contents (Compact.kept entries)).length < 2 ^ 64) :
    let location := base ++ indexEnding
    let taken := Compact.kept entries
    (∀ before name content after, entries = before ++ (name, content) :: after →
      ∃ w reached, made.writeEach id before = some (before.map answer, reached) ∧
        reached.writers.find? id = some w ∧
        (BadName name →
          reached.writeEntry id name content = some (.error (.badEntryName name), w, reached)) ∧
        (¬ BadName name →
          ∃ w' next, reached.writeEntry id name content = some (.ok (), w', next))) ∧
    ∃ filled done, made.writeEach id entries = some (entries.map answer, filled) ∧
      filled.finishWriter id = some done ∧
      ((taken.map Prod.fst).Nodup →
        ∃ p, Pair.open? done.tree location = .ok p ∧
          p.table.names = taken.map Prod.fst ∧
          (∀ e ∈ taken, p.get e.1 = .ok e.2) ∧
          (∀ name ∉ taken.map Prod.fst, p.get name = .error (.notFound name)) ∧
          ∃ spans, (taken.map Prod.fst).map p.table.span? = spans.map some ∧
            Tiles 0 p.data.length spans) ∧
      (¬ (taken.map Prod.fst).Nodup →
        ∃ before e after, taken = before ++ e :: after ∧ (before.map Prod.fst).Nodup ∧
          e.1 ∈ before.map Prod.fst ∧
          Pair.open? done.tree location =
            .error (.cannotOpen location (.badTable (.duplicate e.1)))) := by
  intro location taken
  obtain ⟨w, hmade⟩ := writing_createWriter hcreate
  constructor
  · intro before name content after hentries
    obtain ⟨between, reached, hbefore, hreached⟩ := hmade.writeEach before
    refine ⟨between, reached, hbefore, hreached.kept, fun hname => ?_, fun hname => ?_⟩
    · exact writeEntry_of_bad hreached.kept hname content
    · obtain ⟨w', next, hnext, -⟩ := hreached.writeEntry hname content
      exact ⟨w', next, hnext⟩
  · obtain ⟨w', filled, heach, hfilled⟩ := hmade.writeEach entries
    obtain ⟨done, hdone, hdata, hindex⟩ := hfilled.finishWriter
    have hnames : ∀ e ∈ taken, ¬ BadName e.1 := fun e he =>
      of_decide_eq_true (List.mem_filter.1 he).2
    have hfiles : FilesOf done.tree base taken := ⟨hdata, hindex, hnames, htotal⟩
    refine ⟨filled, done, heach, hdone, hfiles.open, fun hagain => ?_⟩
    obtain ⟨before, e, after, htaken, hnodup, hmem⟩ := exists_again Prod.fst taken hagain
    exact ⟨before, e, after, htaken, hnodup, hmem, (htaken ▸ hfiles).open_again hnodup hmem⟩

/-- Two entries, written in the working directory and read back; a third one is refused. -/
theorem written_corpus_two_entries :
    let made := ((Session.start ["work"]).createWriter "w" "out").1
    (Session.start ["work"]).createWriter "w" "out" = (made, .ok ()) ∧
    ∃ filled done p,
      made.writeEach "w" [("a", "The cat sat."), ("c\td", "Lost."), ("b", "Dogs run fast.")] =
        some ([.ok (), .error (.badEntryName "c\td"), .ok ()], filled) ∧
      filled.finishWriter "w" = some done ∧
      Pair.open? done.tree "out.index" = .ok p ∧
      p.table.names = ["a", "b"] ∧ p.get "b" = .ok "Dogs run fast." := by
  intro made
  have hcreate : (Session.start ["work"]).createWriter "w" "out" = (made, .ok ()) := by
    rfl
  have htotal : (contents (Compact.kept
      [("a", "The cat sat."), ("c\td", "Lost."), ("b", "Dogs run fast.")])).length < 2 ^ 64 := by
    decide +kernel
  obtain ⟨-, filled, done, heach, hdone, hread, -⟩ := written_corpus_reads_back hcreate htotal
  obtain ⟨p, hopen, hnames, hget, -⟩ := hread (by decide +kernel)
  exact ⟨hcreate, filled, done, p, heach, hdone, hopen, hnames, hget ("b", _) (by decide +kernel)⟩

end Concordance.Session
