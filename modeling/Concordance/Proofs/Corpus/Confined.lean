import Mathlib
import Concordance.Proofs.Corpus.Alike
import Concordance.Proofs.Corpus.Within
import Concordance.Proofs.Store.Requests

/-!
# Reading is confined to the entries found when opening

A directory has no check of its own on the names that it is asked for: it joins them to its path.
So all depends on its never being asked for a name that was not found when it was opened, whatever
is done with the reader and whatever the files are by then.

* `Run.asked` are the names that a move asks the store for, `Run.askedIn` those of all moves.
* `Run.holding_after` says that a reader keeps the entries it was opened with,
  `Run.mem_names_of_asked` and `Run.mem_names_of_askedIn` that it asks for no others.
* `Reader.NotFound` says what becomes of other names.
* `Run.reads_confined` is the statement about all moves of a reader.
-/

namespace Concordance

variable {origin now : Corpus}

/-! ## Readers -/

namespace Reader

variable {r : Reader} {name : String}

/-- The reader finds no entry of this name, and nothing is read. -/
structure NotFound [Regex.Engine] (r : Reader) (name : String) : Prop where
  /-- It has no content. -/
  read : ∀ tree, r.read tree name = .fail (.notFound name)
  /-- There is no such entry. -/
  entry : ∀ tree, r.entry tree name = .fail (.notFound name)
  /-- It cannot be marked either, if the markers are as they should be. -/
  readMarked : ∀ tree markers compiled, compileMarkers markers = .ok compiled →
    r.readMarked tree name markers = .fail (.notFound name)

theorem notFound_of_load [Regex.Engine] (hr : r.corpus = some now)
    (hload : ∀ tree, now.load tree name = .fail (.notFound name)) : r.NotFound name := by
  have hread : ∀ tree, r.read tree name = .fail (.notFound name) := by
    intro tree
    rw [read_of_open hr, hload]
  refine ⟨hread, ?_, ?_⟩
  · intro tree
    rw [entry, hread]
    rfl
  · intro tree markers compiled hcompiled
    rw [readMarked_of_open hr, hcompiled, hload]
    rfl

theorem within_opened (h : Holding origin r.corpus) :
    (Reading.ofExcept r.opened).Within origin.names origin.Remains := by
  apply Reading.within_ofExcept
  intro now hnow
  cases hr : r.corpus with
  | none => simp [opened, hr] at hnow
  | some opened =>
    rw [opened_of_open hr] at hnow
    cases hnow
    exact h now hr

/-- An open reader reads within the corpus, and a closed one reads nothing. -/
theorem within_read (hvalid : origin.index.names.Valid) (h : Holding origin r.corpus)
    (tree : Tree) (name : String) : (r.read tree name).Within origin.names fun _ => True := by
  apply (within_opened h).bind
  intro now hremains
  rw [hremains.load_eq]
  exact Corpus.confines_load hvalid tree name

theorem within_entry (hvalid : origin.index.names.Valid) (h : Holding origin r.corpus)
    (tree : Tree) (name : String) : (r.entry tree name).Within origin.names fun _ => True := by
  apply (within_read hvalid h tree name).bind
  intro content _
  exact Reading.within_pure trivial

theorem within_readMarked [Regex.Engine] (hvalid : origin.index.names.Valid)
    (h : Holding origin r.corpus) (tree : Tree) (name : String) (markers : List Marker) :
    (r.readMarked tree name markers).Within origin.names fun _ => True := by
  apply (within_opened h).bind
  intro now hremains
  have hmarkers : (Reading.ofExcept (compileMarkers markers)).Within origin.names fun _ => True :=
    Reading.within_ofExcept fun _ _ => trivial
  apply hmarkers.bind
  intro compiled _
  rw [hremains.load_eq]
  apply (Corpus.confines_load hvalid tree name).bind
  intro content _
  split
  · exact Reading.within_pure trivial
  · exact Reading.within_ofExcept fun _ _ => trivial

end Reader

/-! ## Runs -/

namespace Run

variable {r : Run}

/-- The names that a step of the cursor with a number asks the store for. -/
def askedByCursor (r : Run) (i : Nat) (move : Handle → Cursor → Advance Answer) : List String :=
  match r.cursors[i]? with
  | none => []
  | some t => (move r.handle t.cursor).asked

/-- The names that the reader asks the store for. -/
def askedByReader (r : Run) (asked : Reader → List String) : List String :=
  match r.reader with
  | none => []
  | some reader => asked reader

/-- The names that a move asks the store for. -/
def asked [Regex.Engine] (r : Run) (tree : Tree) : Move → List String
  | .entries => []
  | .query _ => []
  | .advance i => r.askedByCursor i fun corpus c => c.advanced tree corpus
  | .next i => r.askedByCursor i fun corpus c => c.iterated tree corpus
  | .read name => r.askedByReader fun reader => (reader.read tree name).asked
  | .readMarked name markers =>
    r.askedByReader fun reader => (reader.readMarked tree name markers).asked
  | .entry name => r.askedByReader fun reader => (reader.entry tree name).asked
  | .close => []
  | .drop => []

/-- The names that some moves ask the store for, one after another. -/
def askedIn [Regex.Engine] (r : Run) : List (Tree × Move) → List String
  | [] => []
  | (tree, move) :: rest => r.asked tree move ++ (r.step tree move).askedIn rest

/-! ### The corpus stays -/

theorem handle_of_reader {reader : Reader} (h : r.reader = some reader) :
    r.handle = reader.corpus := by
  rw [handle, h]
  rfl

theorem holding_start (c : Corpus) : Holding c (start (.ofCorpus c)).handle :=
  Cursor.holding_some (Corpus.remains_refl c)

theorem confined_advanced (hvalid : origin.index.names.Valid) (h : Holding origin r.handle)
    (tree : Tree) (c : Cursor) : Confined origin (c.advanced tree r.handle) := by
  have hadvance := Cursor.confined_advance hvalid h tree c
  exact ⟨hadvance.asked, hadvance.holding⟩

theorem confined_iterated (hvalid : origin.index.names.Valid) (h : Holding origin r.handle)
    (tree : Tree) (c : Cursor) : Confined origin (c.iterated tree r.handle) := by
  have hnext := Cursor.confined_next hvalid h tree c
  exact ⟨hnext.asked, hnext.holding⟩

/-- A move leaves the reader with the corpus it had, or without one. -/
theorem holding_step [Regex.Engine] (hvalid : origin.index.names.Valid)
    (h : Holding origin r.handle) (tree : Tree) (move : Move) :
    Holding origin (r.step tree move).handle :=
  handle_step (Holding origin) h nofun (fun c => (confined_advanced hvalid h tree c).holding)
    (fun c => (confined_iterated hvalid h tree c).holding) move

/-- Whatever is done with a reader, it keeps the entries it was opened with. -/
theorem holding_after [Regex.Engine] (hvalid : origin.index.names.Valid)
    (h : Holding origin r.handle) (moves : List (Tree × Move)) :
    Holding origin (r.after moves).handle := by
  induction moves generalizing r with
  | nil => exact h
  | cons move rest ih => exact ih (holding_step hvalid h move.1 move.2)

theorem remains_after [Regex.Engine] (hvalid : origin.index.names.Valid)
    (history : List (Tree × Move)) {reader : Reader}
    (hr : ((start (.ofCorpus origin)).after history).reader = some reader)
    (hopen : reader.corpus = some now) : origin.Remains now := by
  have hholding := holding_after hvalid (holding_start origin) history
  rw [handle_of_reader hr] at hholding
  exact hholding now hopen

/-! ### What is asked for -/

theorem mem_names_of_askedByCursor {move : Handle → Cursor → Advance Answer} {i : Nat}
    (hmove : ∀ c : Cursor, Confined origin (move r.handle c)) {name : String}
    (hname : name ∈ r.askedByCursor i move) : name ∈ origin.names := by
  unfold askedByCursor at hname
  split at hname
  · cases hname
  next t ht => exact (hmove t.cursor).asked name hname

theorem mem_names_of_askedByReader {α : Type} {reading : Reader → Reading Error α}
    (hreading : ∀ reader, r.reader = some reader →
      (reading reader).Within origin.names fun _ => True) {name : String}
    (hname : name ∈ r.askedByReader fun reader => (reading reader).asked) :
    name ∈ origin.names := by
  unfold askedByReader at hname
  split at hname
  · cases hname
  next reader hreader => exact (hreading reader hreader).asked name hname

/-- A move asks the store for names of the corpus only. -/
theorem mem_names_of_asked [Regex.Engine] (hvalid : origin.index.names.Valid)
    (h : Holding origin r.handle) {tree : Tree} {move : Move} {name : String}
    (hname : name ∈ r.asked tree move) : name ∈ origin.names := by
  have hreader : ∀ reader, r.reader = some reader → Holding origin reader.corpus := by
    intro reader hreader
    rw [← handle_of_reader hreader]
    exact h
  cases move with
  | entries => cases hname
  | query source => cases hname
  | advance i => exact mem_names_of_askedByCursor (confined_advanced hvalid h tree) hname
  | next i => exact mem_names_of_askedByCursor (confined_iterated hvalid h tree) hname
  | read wanted =>
    apply mem_names_of_askedByReader _ hname
    intro reader hr
    exact Reader.within_read hvalid (hreader reader hr) tree wanted
  | readMarked wanted markers =>
    apply mem_names_of_askedByReader _ hname
    intro reader hr
    exact Reader.within_readMarked hvalid (hreader reader hr) tree wanted markers
  | entry wanted =>
    apply mem_names_of_askedByReader _ hname
    intro reader hr
    exact Reader.within_entry hvalid (hreader reader hr) tree wanted
  | close => cases hname
  | drop => cases hname

/-- All moves ask the store for names of the corpus only. -/
theorem mem_names_of_askedIn [Regex.Engine] (hvalid : origin.index.names.Valid)
    (h : Holding origin r.handle) {moves : List (Tree × Move)} {name : String}
    (hname : name ∈ r.askedIn moves) : name ∈ origin.names := by
  induction moves generalizing r with
  | nil => cases hname
  | cons move rest ih =>
    obtain ⟨tree, move⟩ := move
    rw [askedIn] at hname
    rcases List.mem_append.1 hname with hname | hname
    · exact mem_names_of_asked hvalid h hname
    · exact ih (holding_step hvalid h tree move) hname

/-! ### All moves of a reader -/

/-- What a reader reads, whatever is done with it and its cursors in whatever order, and whatever
the files are at each time.

The store is asked only for names that it found when it was opened, and asks its parts only for
names that they found, each of which comes to what the store comes to; so do searches and cursors
that are drained.  As long as the reader is open, it has the store and the names that it had, in the
same order and number.  Any other name, whatever it looks like, is not found, and nothing is
read. -/
theorem reads_confined [Regex.Engine] {c : Corpus} (hopened : c.Opened)
    (history : List (Tree × Move)) :
    let run := (start (.ofCorpus c)).after history
    let found := fun name => ∀ request ∈ c.store.requests name, request.2 ∈ request.1.names ∧
      ∀ tree, request.1.get tree request.2 = c.store.get tree name
    c.names.Perm c.store.names ∧
    (∀ name ∈ (start (.ofCorpus c)).askedIn history, found name) ∧
    ∀ reader now, run.reader = some reader → reader.corpus = some now →
      (∀ tree query, ∀ name ∈ (now.search tree query).asked, found name) ∧
      (∀ tree (cursor : Cursor), ∀ name ∈ (cursor.drain tree reader.corpus).asked, found name) ∧
      now.store = c.store ∧ now.names = c.names ∧ reader.size = .ok c.names.length ∧
      (∀ tree, (reader.entries.drain tree reader.corpus).result = c.names.map .ok) ∧
      ∀ name, name ∉ c.store.names → reader.NotFound name := by
  intro run found
  have hvalid := hopened.valid
  have hperm := hopened.names_perm
  have hfound : ∀ name ∈ c.names, found name := by
    intro name hname request hrequest
    exact ⟨hopened.closed.mem_names_of_mem_requests (hperm.mem_iff.1 hname) hrequest,
      fun tree => Store.get_of_mem_requests tree hrequest⟩
  have hstart := holding_start c
  have hafter := holding_after hvalid hstart history
  refine ⟨hperm, ?_, ?_⟩
  · intro name hname
    exact hfound name (mem_names_of_askedIn hvalid hstart hname)
  · intro reader now hreader hcorpus
    have hholding : Holding c reader.corpus := handle_of_reader hreader ▸ hafter
    have hremains : c.Remains now := hholding now hcorpus
    refine ⟨?_, ?_, hremains.store, hremains.names_eq, ?_, ?_, ?_⟩
    · intro tree query name hname
      have hload : Confines c.names (now.load tree) := by
        rw [hremains.load_eq]
        exact Corpus.confines_load hvalid tree
      exact hfound name ((Corpus.within_search hload query).asked name hname)
    · intro tree cursor name hname
      exact hfound name ((Cursor.confined_drainFrom hvalid hholding tree _ cursor).asked name hname)
    · rw [Reader.size, Reader.opened_of_open hcorpus]
      exact congrArg Except.ok hremains.size_eq
    · intro tree
      rw [hcorpus, ← hremains.names_eq]
      exact Cursor.drain_entries tree now
    · intro name hname
      apply Reader.notFound_of_load hcorpus
      intro tree
      rw [hremains.load_eq]
      exact Corpus.load_of_not_mem hvalid (fun h => hname (hperm.mem_iff.1 h)) tree

/-- A file next to the directory of two files, and one that has been put into it later. -/
def wardLater : Tree :=
  (wardBefore.put ["x"] (.file 2 (Text.utf8 "cat"))).put ["d", "c"] (.file 3 (Text.utf8 "cat"))

/-- Both files are asked for, and one that was found. -/
def wardHistory : List (Tree × Move) :=
  [.read "../x", .entry "c", .read "a"].map fun move => (wardLater, move)

/-- A directory reads any file that it is asked for, also one outside of it, but a reader does not
ask for it. -/
theorem reads_ward :
    ward.Opened ∧ ward.store.get wardLater "../x" = .ok "cat" ∧
      ward.store.get wardLater "c" = .ok "cat" ∧
      ∃ reader, ((start (.ofCorpus ward)).after wardHistory).reader = some reader ∧
        reader.NotFound "../x" ∧ reader.NotFound "c" ∧ reader.size = .ok ward.names.length := by
  have hoff : "../x" ∉ ward.store.names := by simp [ward, Corpus.ofStore, Store.names]
  have hlate : "c" ∉ ward.store.names := by simp [ward, Corpus.ofStore, Store.names]
  obtain ⟨-, -, hreader⟩ := reads_confined opened_ward wardHistory
  obtain ⟨-, -, -, -, hsize, -, hnotFound⟩ := hreader (.ofCorpus ward) ward rfl rfl
  refine ⟨opened_ward, rfl, rfl, .ofCorpus ward, rfl, ?_, ?_, hsize⟩
  · exact hnotFound "../x" hoff
  · exact hnotFound "c" hlate

end Run

end Concordance
