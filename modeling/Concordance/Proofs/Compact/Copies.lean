import Mathlib
import Concordance.Proofs.Compact.Copy
import Concordance.Proofs.Corpus.Alike
import Concordance.Proofs.Corpus.Reader
import Concordance.Proofs.Store.Locations

/-!
# Copies of a corpus

A copy of a corpus whose entries can all be read has the same names in the same order, and the same
contents.  So a reader of the copy answers like a reader of the corpus, and a copy of the copy has
the same files.

* `Corpus.entriesWith` are the entries of a corpus, `Corpus.copyAt` the corpus of its copy;
  `Corpus.Opened.index_copyAt` says that they have the same index.
* `Session.Writing.copyEntries` says what a writer takes from a reader.
* `Session.copies_answer_alike` is about a copy and about copies of that copy.
-/

namespace Concordance

open Concordance.Compact

variable {content : String → String} {tree : Tree} {base location : String} {c : Corpus}

/-! ## The corpus of a copy -/

namespace Corpus

/-- The entries of a corpus in their order, with these contents. -/
def entriesWith (content : String → String) (c : Corpus) : List (String × String) :=
  c.names.map fun name => (name, content name)

theorem map_fst_entriesWith (content : String → String) (c : Corpus) :
    (c.entriesWith content).map Prod.fst = c.names := by
  rw [entriesWith, List.map_map]
  exact List.map_id c.names

theorem entriesWith_congr {d : Corpus} (h : d.names = c.names) (content : String → String) :
    d.entriesWith content = c.entriesWith content := by
  rw [entriesWith, entriesWith, h]

theorem mem_entriesWith {name : String} (h : name ∈ c.names) :
    (name, content name) ∈ c.entriesWith content := List.mem_map_of_mem h

/-- The corpus of a copy: that of the files with the entries in their order. -/
def copyAt (base : String) (content : String → String) (c : Corpus) : Corpus :=
  ofStore c.settings (.compact (pairOf base (c.entriesWith content)))

theorem Opened.nodup_entriesWith (h : c.Opened) (content : String → String) :
    ((c.entriesWith content).map Prod.fst).Nodup := by
  rw [map_fst_entriesWith]
  exact h.nodup

/-- The names of a copy are in order already, so they are indexed in the same way. -/
theorem Opened.index_copyAt (h : c.Opened) (base : String) (content : String → String) :
    (c.copyAt base content).index = c.index := by
  have hnames : (pairOf base (c.entriesWith content)).table.names = c.names := by
    rw [names_pairOf, map_fst_entriesWith]
  have hindex : (c.copyAt base content).index = .ofNames c.settings.order c.names :=
    congrArg (CorpusIndex.ofNames c.settings.order) hnames
  obtain ⟨settings, store, -, rfl, -⟩ := h.exists_store
  have hsorted : (ofStore settings store).names = settings.order.sort store.names :=
    List.toList_toArray
  rw [hindex, hsorted]
  exact CorpusIndex.ofNames_sort settings.order store.names

theorem Opened.names_copyAt (h : c.Opened) (base : String) (content : String → String) :
    (c.copyAt base content).names = c.names := by
  rw [names, names, h.index_copyAt]

/-- The entries of a copy can be read, whatever becomes of the files. -/
theorem Opened.loads_copyAt (h : c.Opened) (base : String) (content : String → String)
    (tree : Tree) : Loads ((c.copyAt base content).load tree) content c.names := by
  intro name hname
  have hvalid : (c.copyAt base content).index.names.Valid := by
    rw [h.index_copyAt]
    exact h.valid
  rw [loadsAs_get hvalid tree name ((h.names_copyAt base content).symm ▸ hname)]
  show Store.get tree (.compact (pairOf base (c.entriesWith content))) name = _
  rw [Store.get]
  exact get_pairOf base (h.nodup_entriesWith content) (mem_entriesWith hname)

/-- The files with the entries of a corpus are opened as its copy. -/
theorem Opened.openAt_copyAt (h : c.Opened) (hfiles : FilesOf tree base (c.entriesWith content))
    (hstands : StandsFor tree base location) :
    openAt tree c.settings location = .ok (c.copyAt base content) := by
  have hcheck : c.settings.check = .ok () := by
    obtain ⟨settings, store, hcheck, rfl, -⟩ := h.exists_store
    exact hcheck
  rw [openAt, hcheck, ok_bind, hfiles.openAt (h.nodup_entriesWith content) hstands]
  rfl

end Corpus

/-! ## Files -/

namespace Compact

/-- The files with a base name are there: the index file, and the data, which are compressed. -/
structure HasFiles (tree : Tree) (base : String) (index data : Text.Bytes) : Prop where
  /-- The index file. -/
  index : tree.read (base ++ indexEnding) = .ok index
  /-- The data. -/
  data : ∃ file, tree.read (base ++ dataEnding) = .ok file ∧ Gzip.decode file = .ok data

theorem FilesOf.hasFiles {es : List (String × String)} (h : FilesOf tree base es) :
    HasFiles tree base ((rowsFrom 0 es).flatMap written) (contents es) :=
  ⟨h.index, _, h.data, Gzip.decode_encode _⟩

end Compact

/-! ## Copies in a session -/

namespace Session

variable {s made : Session} {id rid : String} {w : Writer} {es : List (String × String)}
  {r : Reader} {now : Corpus}

/-- A writer takes all entries of an open reader, if they can be read and have good names. -/
theorem Writing.copyEntries (h : s.Writing id base w es) (hreader : s.reader? rid = some r)
    (hr : r.corpus = some now) (hload : Loads (now.load s.tree) content now.names)
    (hgood : ∀ name ∈ now.names, ¬ BadName name) (failFirst : Bool) :
    ∃ w' s', s.copyEntries id rid failFirst = some (.ok (), w', s') ∧
      s'.Writing id base w' (es ++ now.entriesWith content) := by
  have hoffered : ∀ name ∈ now.names,
      offered (fun name => (r.read s.tree name).outcome) name = .ok (content name) := by
    intro name hname
    rw [offered, Reader.read_outcome_of_open hr, hload name hname]
    exact if_neg (hgood name hname)
  have hcopy : w.copy s.tree r failFirst = (w.extend (now.entriesWith content), .ok ()) := by
    rw [Writer.copy_of_allLoad hr (fun name hname => ⟨_, hoffered name hname⟩)]
    dsimp only
    rw [takenOf_eq_map hoffered]
    rfl
  refine ⟨_, _, ?_, h.extend (now.entriesWith content)⟩
  simp only [Session.copyEntries, h.kept, hreader, Option.bind_eq_bind, Option.bind_some, hcopy]

/-- A copy that a new writer makes, and its files. -/
theorem exists_filesOf_copy (hcreate : s.createWriter id base = (made, .ok ()))
    (hreader : made.reader? rid = some r) (hr : r.corpus = some now)
    (hload : Loads (now.load made.tree) content now.names)
    (hgood : ∀ name ∈ now.names, ¬ BadName name)
    (htotal : (contents (now.entriesWith content)).length < 2 ^ 64) (failFirst : Bool) :
    ∃ w copied done, made.copyEntries id rid failFirst = some (.ok (), w, copied) ∧
      copied.finishWriter id = some done ∧
      FilesOf done.tree base (now.entriesWith content) := by
  obtain ⟨w, hmade⟩ := writing_createWriter hcreate
  obtain ⟨w', copied, hcopied, hwriting⟩ := hmade.copyEntries hreader hr hload hgood failFirst
  obtain ⟨done, hdone, hdata, hindex⟩ := hwriting.finishWriter
  refine ⟨w', copied, done, hcopied, hdone, hdata, hindex, ?_, htotal⟩
  intro e he
  obtain ⟨name, hname, rfl⟩ := List.mem_map.1 he
  exact hgood name hname

/-- A reader in use, all of whose entries can be read and have good names, and whose contents
together have less than 2⁶⁴ bytes, is copied by a new writer, with `failFirst` or without.  The copy
is opened with the settings of the reader by all locations that stand for it, and its entries can be
read from then on, whatever becomes of the files.  As long as the entries of the reader keep their
contents, no question tells a reader of the corpus from a reader of the copy, however they have been
used.  A copy of the copy, wherever it is made, has the same index file and the same data. -/
theorem copies_answer_alike [Regex.Engine] (hopened : c.Opened) (huse : r.InUse content c)
    (hgood : ∀ name ∈ c.names, ¬ BadName name)
    (htotal : (contents (c.entriesWith content)).length < 2 ^ 64)
    (hcreate : s.createWriter id base = (made, .ok ()))
    (hreader : made.reader? rid = some r)
    (hload : Loads (c.load made.tree) content c.names) (failFirst : Bool) :
    ∃ w copied done copy index data,
      made.copyEntries id rid failFirst = some (.ok (), w, copied) ∧
      copied.finishWriter id = some done ∧ HasFiles done.tree base index data ∧
      (∀ location, StandsFor done.tree base location →
        Corpus.openAt done.tree c.settings location = .ok copy) ∧
      (∀ tree, Loads (copy.load tree) content c.names) ∧
      (∀ r₁ r₂ tree, r₁.InUse content c → r₂.InUse content copy →
        Loads (c.load tree) content c.names → Reader.AnswersAlike tree r₁ r₂) ∧
      ∀ (s₂ made₂ : Session) (id₂ base₂ rid₂ : String) (r₂ : Reader) (failFirst₂ : Bool),
        r₂.InUse content copy → s₂.createWriter id₂ base₂ = (made₂, .ok ()) →
        made₂.reader? rid₂ = some r₂ →
        ∃ w₂ copied₂ done₂, made₂.copyEntries id₂ rid₂ failFirst₂ = some (.ok (), w₂, copied₂) ∧
          copied₂.finishWriter id₂ = some done₂ ∧ HasFiles done₂.tree base₂ index data := by
  have hkeeps : c.index.Keeps (readable content) := hopened.keeps _
  have hindex := hopened.index_copyAt base content
  have hloads := hopened.loads_copyAt base content
  -- what a reader in use has become still has the entries of the corpus or of the copy
  obtain ⟨now, hr, hbecomes⟩ := huse.exists_becomes hkeeps
  have hnow := Corpus.entriesWith_congr hbecomes.names_eq content
  obtain ⟨w, copied, done, hcopied, hdone, hfiles⟩ :=
    exists_filesOf_copy hcreate hreader hr (hbecomes.loadsAs hload) (hbecomes.names_eq ▸ hgood)
      (hnow ▸ htotal) failFirst
  rw [hnow] at hfiles
  refine ⟨w, copied, done, c.copyAt base content, _, _, hcopied, hdone, hfiles.hasFiles,
    fun location hstands => hopened.openAt_copyAt hfiles hstands, hloads, ?_, ?_⟩
  · intro r₁ r₂ tree huse₁ huse₂ htree
    exact huse₁.answersAlike huse₂ hindex rfl hopened.valid hkeeps htree (hloads tree)
  · intro s₂ made₂ id₂ base₂ rid₂ r₂ failFirst₂ huse₂ hcreate₂ hreader₂
    obtain ⟨now₂, hr₂, hbecomes₂⟩ := huse₂.exists_becomes (hindex ▸ hkeeps)
    have hnames₂ : now₂.names = c.names := by
      rw [hbecomes₂.names_eq, hopened.names_copyAt]
    have hnow₂ := Corpus.entriesWith_congr hnames₂ content
    have hload₂ : Loads (now₂.load made₂.tree) content now₂.names := by
      rw [hbecomes₂.load_eq, hnames₂]
      exact hloads made₂.tree
    obtain ⟨w₂, copied₂, done₂, hcopied₂, hdone₂, hfiles₂⟩ :=
      exists_filesOf_copy hcreate₂ hreader₂ hr₂ hload₂ (hnames₂ ▸ hgood) (hnow₂ ▸ htotal) failFirst₂
    rw [hnow₂] at hfiles₂
    exact ⟨w₂, copied₂, done₂, hcopied₂, hdone₂, hfiles₂.hasFiles⟩

/-- Two entries in memory, copied. -/
theorem copies_pets :
    ∃ c, Corpus.ofEntries {} "pets" Reader.pets = .ok c ∧
    let made := (((Session.start ["work"]).keepReader "r" c).createWriter "w" "out").1
    ((Session.start ["work"]).keepReader "r" c).createWriter "w" "out" = (made, .ok ()) ∧
    ∃ w copied done copy, made.copyEntries "w" "r" true = some (.ok (), w, copied) ∧
      copied.finishWriter "w" = some done ∧
      Corpus.openAt done.tree c.settings "out.index" = .ok copy ∧
      ∀ tree, Reader.AnswersAlike tree (.ofCorpus c) (.ofCorpus copy) := by
  have hnodup : (Reader.pets.map Entry.name).Nodup := by decide
  have hcheck : Settings.check {} = .ok () := rfl
  obtain ⟨c, hc, -, hserves⟩ := Corpus.exists_ofEntries hcheck "pets" hnodup
  have hnames : c.names = ["a", "b"] := by
    have hsorted : SortOrder.natural.sort (Reader.pets.map Entry.name) = ["a", "b"] :=
      List.mergeSort_of_pairwise (by decide)
    rw [Corpus.names, hserves.names, ← hsorted]
    exact List.toList_toArray
  have hload : ∀ tree, Loads (c.load tree) (contentOf Reader.pets) c.names := by
    intro tree
    rw [Corpus.names, hserves.names]
    exact hserves.loads tree
  refine ⟨c, hc, ?_⟩
  intro made
  have hcreate : ((Session.start ["work"]).keepReader "r" c).createWriter "w" "out" =
      (made, .ok ()) := by
    rfl
  have hreader : made.reader? "r" = some (.ofCorpus c) := by
    rfl
  have hgood : ∀ name ∈ c.names, ¬ BadName name := by
    rw [hnames]
    decide +kernel
  have htotal : (contents (c.entriesWith (contentOf Reader.pets))).length < 2 ^ 64 := by
    rw [Corpus.entriesWith, hnames]
    decide +kernel
  have huse := Reader.inUse_ofCorpus (contentOf Reader.pets) c
  obtain ⟨w, copied, done, copy, index, data, hcopied, hdone, -, hopen, -, halike, -⟩ :=
    copies_answer_alike (.entries hc) huse hgood htotal hcreate hreader (hload made.tree) true
  refine ⟨hcreate, w, copied, done, copy, hcopied, hdone, hopen "out.index" (Or.inl .index), ?_⟩
  intro tree
  exact halike _ _ tree huse (Reader.inUse_ofCorpus _ copy) (hload tree)

end Session

end Concordance
