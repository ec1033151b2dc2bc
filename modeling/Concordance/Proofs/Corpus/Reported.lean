import Mathlib
import Concordance.Proofs.Corpus.Marked
import Concordance.Proofs.Store.Naming

/-!
# What a reader reports of entries that it cannot read

A reader that cannot read an entry reports an error of its store, as it is.  So does a cursor, whose
error is always the one of the entry that was asked for last.  The name in the error is the one that
the store with the content has for the entry.

* `Law.blames` is the law that a reading fails as the entry does that it asked for last.
* `Cursor.exists_asked_of_advance` says this of cursors, `Reader.firstFault_or_read_of_error` that
  marking adds errors of markers only.
* `Run.errors_carry_inner_names` is the statement about readers in any state.
-/

namespace Concordance

variable {ε : Type}

/-! ## Readings that fail -/

/-- To fail only as the entry does that was asked for last. -/
def Law.blames (load : String → Reading ε String) (listed : List String) : Law ε where
  holds failure asked := ∀ e ∈ failure, ∃ name ∈ listed, (load name).outcome = .error e ∧
    ∃ before, asked = before ++ (load name).asked
  nothing := nofun
  append := by
    rintro failure asked more - h e he
    obtain ⟨name, hname, hload, before, rfl⟩ := h e he
    exact ⟨name, hname, hload, asked ++ before, (List.append_assoc ..).symm⟩

theorem lawful_blames (load : String → Reading ε String) (listed : List String) :
    Lawful (.blames load listed) load listed := by
  intro name hname
  refine ⟨?_, fun _ _ => trivial⟩
  intro e he
  cases hload : (load name).outcome with
  | ok content =>
    rw [hload] at he
    cases he
  | error d =>
    rw [hload] at he
    cases he
    exact ⟨name, hname, hload, [], rfl⟩

/-! ## Corpora and cursors -/

variable {origin now : Corpus} {tree : Tree} {name inner : String} {e : Error}

/-- A cursor fails as the entry does that was asked for last. -/
theorem Cursor.exists_asked_of_advance (hvalid : origin.index.names.Valid)
    (h : origin.Remains now) {c : Cursor}
    (herror : (c.advance tree (some now)).result = .error e) :
    ∃ before name, (c.advance tree (some now)).asked = before ++ [name] ∧ name ∈ origin.names ∧
      (origin.load tree name).outcome = .error e := by
  have hlaw := (obeys_step (lawful_blames (origin.load tree) origin.names) h c).law
  unfold advance at herror ⊢
  split at herror
  · cases herror
  next hstate =>
    rw [if_neg hstate]
    dsimp only at herror ⊢
    rw [herror] at hlaw
    obtain ⟨name, hname, hload, before, hasked⟩ := hlaw e rfl
    rw [Corpus.load_of_mem hvalid hname] at hasked
    exact ⟨before, name, hasked, hname, hload⟩

/-- Iterating gives an error only if advancing does. -/
theorem Cursor.advance_of_next {handle : Handle} {c : Cursor}
    (h : (c.next tree handle).result = some (.error e)) :
    (c.advance tree handle).result = .error e := by
  unfold next at h
  split at h
  · cases h
  · dsimp only at h
    split at h
    · cases h
    · cases h
    next hadvance =>
      cases h
      exact hadvance
    next hadvance =>
      cases h
      exact hadvance

/-- An error of a marker carries no name of an entry. -/
theorem FirstFault.entry?_eq_none [Regex.Engine] {markers : List Marker}
    (h : FirstFault markers e) : e.entry? = none := by
  obtain ⟨before, m, behind, -, -, hfault⟩ := h
  cases hfault <;> rfl

/-! ## Readers in any state -/

namespace Run

/-- The names in errors of entries, for a reader of any corpus that was opened, after whatever has
been done with it, and whatever the files are by then.

If an entry of the corpus cannot be read, with markers or without, and the error carries a name, it
is the name that the store with the content has for the entry.  Iterating fails as advancing does,
and advancing as reading the entry that it has asked for last.  The name in the error is the one
that the corpus has for the entry if the corpus is not joined, and never if it is. -/
theorem errors_carry_inner_names [Regex.Engine] {c : Corpus} (hopened : c.Opened)
    (history : List (Tree × Move)) {r : Reader} {now : Corpus}
    (hr : ((start (.ofCorpus c)).after history).reader = some r) (hopen : r.corpus = some now)
    (tree : Tree) :
    (∀ name ∈ c.names, ∀ e inner, e.entry? = some inner →
      (r.read tree name).outcome = .error e ∨ (r.entry tree name).outcome = .error e ∨
        (∃ markers, (r.readMarked tree name markers).outcome = .error e) →
      c.store.InnerName name inner) ∧
    (∀ (cursor : Cursor) e, (cursor.next tree r.corpus).result = some (.error e) →
      (cursor.advance tree r.corpus).result = .error e) ∧
    (∀ (cursor : Cursor) e, (cursor.advance tree r.corpus).result = .error e →
      ∃ before name, (cursor.advance tree r.corpus).asked = before ++ [name] ∧ name ∈ c.names ∧
        (r.read tree name).outcome = .error e) ∧
    ∀ name inner, c.store.InnerName name inner → (inner = name ↔ c.store.isJoined = false) := by
  have hvalid := hopened.valid
  have hremains := remains_after hvalid history hr hopen
  have hread : ∀ name, (r.read tree name).outcome = (c.load tree name).outcome := by
    intro name
    rw [Reader.read_outcome_of_open hopen, hremains.load_eq]
  refine ⟨?_, ?_, ?_, ?_⟩
  · intro name hname e inner he h
    have herror : (r.read tree name).outcome = .error e := by
      rcases h with h | h | ⟨markers, h⟩
      · exact h
      · rw [Reader.entry, Reading.bind_outcome] at h
        rcases bind_eq_error_iff.1 h with hread | ⟨content, -, hok⟩
        · exact hread
        · cases hok
      · have helement : isTagName now.settings.markElement = true := by
          rw [hremains.settings]
          exact hopened.isTagName_markElement
        rcases Reader.firstFault_or_read_of_error hopen helement h with hfault | hread
        · rw [hfault.entry?_eq_none] at he
          cases he
        · exact hread
    rw [hread, Corpus.load_of_mem hvalid hname] at herror
    exact hopened.built.innerName_of_get (hopened.names_perm.mem_iff.1 hname) herror he
  · intro cursor e h
    exact Cursor.advance_of_next h
  · intro cursor e h
    rw [hopen] at h ⊢
    obtain ⟨before, name, hasked, hname, hload⟩ :=
      Cursor.exists_asked_of_advance hvalid hremains h
    exact ⟨before, name, hasked, hname, (hread name).trans hload⟩
  · intro name inner h
    exact h.eq_iff

end Run

/-! ## An entry of a part -/

/-- A directory with one file, which is no text. -/
def spoiled : Tree := (Tree.empty ["d"]).put ["d", "bad.xml"] (.file 0 [0xFF])

/-- The directory, joined under a name. -/
def bundled : Store := .joined "<multi>" ["p"] [.directory "/d" "/d" ["bad.xml"]] ["p/bad.xml"]
  ((∅ : Std.HashMap String (Nat × String)).insert "p/bad.xml" (0, "bad.xml"))

theorem openJoined_bundled : Store.openJoined spoiled {} [("p", "/d")] = .ok bundled := by
  have hopen : Store.openAt spoiled {} "/d" = .ok (.directory "/d" "/d" ["bad.xml"]) := by cbv
  have heach : Store.openEach spoiled {} [("p", "/d")] =
      .ok [("p", .directory "/d" "/d" ["bad.xml"])] := by
    rw [Store.openEach, hopen]
    rfl
  have hnames : Store.joinedNames 0 [("p", .directory "/d" "/d" ["bad.xml"])] =
      [⟨"p/bad.xml", 0, "bad.xml"⟩] := by cbv
  have henter : Store.enter ∅ [⟨"p/bad.xml", 0, "bad.xml"⟩] =
      .ok ((∅ : Std.HashMap String (Nat × String)).insert "p/bad.xml" (0, "bad.xml")) := by
    rw [Store.enter, Std.HashMap.contains_empty]
    rfl
  rw [Store.openJoined, heach, ok_bind, Store.join, hnames, henter, ok_bind]
  rfl

theorem get_bundled : bundled.get spoiled "p/bad.xml" = .error (.notUtf8 "bad.xml") := by
  rw [bundled, Store.get, Std.HashMap.getElem?_insert_self]
  simp only [Store.getIn, Store.get]
  rfl

/-- The corpus of the joined directory. -/
def bundle : Corpus := .ofStore {} bundled

theorem opened_bundle : bundle.Opened := by
  have hbundle : Corpus.openJoined spoiled {} [("p", "/d")] = .ok bundle := by
    rw [Corpus.openJoined, openJoined_bundled]
    rfl
  exact .joined hbundle

theorem mem_names_bundle : "p/bad.xml" ∈ bundle.names := by
  rw [opened_bundle.names_perm.mem_iff]
  exact List.mem_singleton_self _

theorem read_bundle : ((Reader.ofCorpus bundle).read spoiled "p/bad.xml").outcome =
    .error (.notUtf8 "bad.xml") := by
  rw [Reader.read_outcome_of_open rfl, Corpus.load_of_mem opened_bundle.valid mem_names_bundle]
  exact get_bundled

namespace Run

/-- A query of the reader. -/
def bundleHistory : List (Tree × Move) := [(spoiled, .query "contains(text,'cat')")]

/-- The entry that is no text is reported under the name that the directory has for it. -/
theorem errors_carry_inner_names_bundle :
    let opened := Reader.ofCorpus bundle
    bundle.Opened ∧ ((start opened).after bundleHistory).reader = some opened ∧
    opened.corpus = some bundle ∧
    (opened.read spoiled "p/bad.xml").outcome = .error (.notUtf8 "bad.xml") ∧
    bundle.store.InnerName "p/bad.xml" "bad.xml" := by
  intro opened
  have hreader : ((start opened).after bundleHistory).reader = some opened := rfl
  obtain ⟨hread, -⟩ := errors_carry_inner_names opened_bundle bundleHistory hreader rfl spoiled
  exact ⟨opened_bundle, hreader, rfl, read_bundle,
    hread "p/bad.xml" mem_names_bundle _ "bad.xml" rfl (Or.inl read_bundle)⟩

/-- The name in an error of an entry can be another one than the corpus has for the entry. -/
theorem name_in_error_bundle :
    bundle.Opened ∧ "p/bad.xml" ∈ bundle.names ∧
    ∃ e, ((Reader.ofCorpus bundle).read spoiled "p/bad.xml").outcome = .error e ∧
      e.entry? = some "bad.xml" ∧ "bad.xml" ≠ "p/bad.xml" :=
  ⟨opened_bundle, mem_names_bundle, _, read_bundle, rfl, by decide⟩

end Run

end Concordance
