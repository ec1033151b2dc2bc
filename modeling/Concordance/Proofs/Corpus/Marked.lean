import Mathlib
import Concordance.Proofs.Corpus.Confined
import Concordance.Proofs.Marking.Faults
import Concordance.Proofs.Marking.Marker
import Concordance.Proofs.Store.Failures

/-!
# Reading with markers

A reader checks what it is given before it reads: first that it is open, then the markers in their
order, then the entry.  Marking itself cannot fail any more, since the element of the tags was
checked when the corpus was opened.

* `Settings.RefusedByOpeners` says that nothing is opened with some settings,
  `Corpus.Opened.isTagName_markElement` that a corpus that was opened has other ones.
* `Reader.readMarked_of_firstFault` and `Reader.readMarked_of_usable` are about open readers.
* `Run.readMarked_fails_in_order` is the statement about readers in any state.
-/

namespace Concordance

variable {markers : List Marker} {e : Error}

/-! ## The element of the tags -/

namespace Settings

variable {settings : Settings}

/-- Nothing is opened with the settings, wherever it is and whether it is there or not. -/
structure RefusedByOpeners (settings : Settings) : Prop where
  /-- No location is. -/
  place : ∀ tree location, Corpus.openAt tree settings location =
    .error (.badMarker settings.markElement)
  /-- No directory is searched. -/
  below : ∀ tree location, Corpus.openBelow tree settings location =
    .error (.badMarker settings.markElement)
  /-- No locations are joined. -/
  joined : ∀ tree corpora, Corpus.openJoined tree settings corpora =
    .error (.badMarker settings.markElement)
  /-- No entries are taken. -/
  entries : ∀ name entries, Corpus.ofEntries settings name entries =
    .error (.badMarker settings.markElement)

/-- All ways to open a corpus begin by checking the settings. -/
theorem refusedByOpeners (h : isTagName settings.markElement = false) :
    settings.RefusedByOpeners := by
  have hcheck : settings.check = .error (.badMarker settings.markElement) := by
    rw [check, h]
    rfl
  have hrefused : ∀ opening : Except Error Store, (do
      settings.check
      return Corpus.ofStore settings (← opening)) = .error (.badMarker settings.markElement) := by
    intro opening
    rw [hcheck]
    rfl
  exact ⟨fun _ _ => hrefused _, fun _ _ => hrefused _, fun _ _ => hrefused _, fun _ _ => hrefused _⟩

end Settings

/-- The element of the tags was checked when the corpus was opened. -/
theorem Corpus.Opened.isTagName_markElement {c : Corpus} (h : c.Opened) :
    isTagName c.settings.markElement = true := by
  obtain ⟨settings, store, hcheck, rfl, -⟩ := h.exists_store
  exact Settings.check_eq_ok_iff.1 hcheck

/-! ## Reading -/

namespace Reader

variable {r : Reader} {now : Corpus} {tree : Tree} {name : String}

/-- The store is not asked if there is a marker with a fault. -/
theorem readMarked_of_firstFault [Regex.Engine] (hr : r.corpus = some now)
    (h : FirstFault markers e) : r.readMarked tree name markers = .fail e := by
  rw [readMarked_of_open hr, compileMarkers_eq_error_iff.2 h]
  rfl

/-- With usable markers an entry is read as without markers, and marking it comes to a text. -/
theorem readMarked_of_usable [Regex.Engine] (hr : r.corpus = some now)
    (helement : isTagName now.settings.markElement = true) (h : ∀ m ∈ markers, m.Usable) :
    ∃ mark : String → String, r.readMarked tree name markers =
      r.read tree name >>= fun content => pure (mark content) := by
  obtain ⟨compiled, hcompiled⟩ := exists_compileMarkers_iff.2 h
  have hmarked : ∀ content, ∃ marked,
      (if compiled.isEmpty then (pure content : Reading Error String)
        else .ofExcept (markContent now.settings.markElement name content compiled)) =
        pure marked := by
    intro content
    split
    · exact ⟨content, rfl⟩
    · rw [markContent_eq_render helement]
      exact ⟨_, rfl⟩
  choose mark hmark using hmarked
  refine ⟨mark, ?_⟩
  rw [readMarked_of_open hr, read_of_open hr, hcompiled]
  exact congrArg (now.load tree name >>= ·) (funext hmark)

/-- An open reader gives errors of entries. -/
theorem ofEntry_of_read (hr : r.corpus = some now) (h : (r.read tree name).outcome = .error e) :
    e.OfEntry := by
  rw [read_outcome_of_open hr] at h
  exact Corpus.ofEntry_of_load h

/-- An error is one of a marker, or one that there would be without markers. -/
theorem firstFault_or_read_of_error [Regex.Engine] (hr : r.corpus = some now)
    (helement : isTagName now.settings.markElement = true)
    (h : (r.readMarked tree name markers).outcome = .error e) :
    FirstFault markers e ∨ (r.read tree name).outcome = .error e := by
  rcases usable_or_firstFault markers with husable | ⟨d, hd⟩
  · obtain ⟨mark, hmark⟩ := readMarked_of_usable hr helement husable
    rw [hmark, Reading.bind_outcome] at h
    rcases bind_eq_error_iff.1 h with hread | ⟨content, -, hok⟩
    · exact Or.inr hread
    · cases hok
  · rw [readMarked_of_firstFault hr hd] at h
    cases h
    exact Or.inl hd

/-- An error that names an attribute is one of a marker. -/
theorem firstFault_of_badMarker [Regex.Engine] (hr : r.corpus = some now)
    (helement : isTagName now.settings.markElement = true) {bad : String}
    (h : (r.readMarked tree name markers).outcome = .error (.badMarker bad)) :
    FirstFault markers (.badMarker bad) := by
  rcases firstFault_or_read_of_error hr helement h with hfault | hread
  · exact hfault
  · cases ofEntry_of_read hr hread

end Reader

/-! ## Readers in any state -/

namespace Run

/-- Reading an entry with markers, by a reader of any corpus that was opened, after whatever has
been done with it.

A closed reader says so.  An open one refuses the first marker that has a fault, and has not asked
its store then; the name of an attribute is looked at before the query.  If all markers can be used,
an entry that cannot be read without markers cannot be read with them, for the same reason, and any
other one is marked after asking the store for no more.  Without markers it is read as it is.

So marking never fails on the element of the tags: an error that names a tag name names the
attribute of a marker, and never that element, since nothing is opened with settings whose element
no tag can have. -/
theorem readMarked_fails_in_order [Regex.Engine] {c : Corpus} (hopened : c.Opened)
    (history : List (Tree × Move)) {r : Reader}
    (hr : ((start (.ofCorpus c)).after history).reader = some r) (tree : Tree) (name : String)
    (markers : List Marker) :
    (r.corpus = none → r.readMarked tree name markers = .fail .closed) ∧
    (r.corpus ≠ none →
      ((∀ m ∈ markers, m.Usable) ∨ ∃ e, FirstFault markers e) ∧
      (∀ e, FirstFault markers e → r.readMarked tree name markers = .fail e) ∧
      ((∀ m ∈ markers, m.Usable) →
        (∀ e, (r.read tree name).outcome = .error e →
          r.readMarked tree name markers = r.read tree name) ∧
        (∀ content, (r.read tree name).outcome = .ok content →
          ∃ marked, r.readMarked tree name markers = ⟨.ok marked, (r.read tree name).asked⟩))) ∧
    r.readMarked tree name [] = r.read tree name ∧
    (∀ bad, (r.readMarked tree name markers).outcome = .error (.badMarker bad) →
      isTagName bad = false ∧ (∃ m ∈ markers, m.attr.name = bad) ∧
        bad ≠ c.settings.markElement) ∧
    ∀ settings : Settings, isTagName settings.markElement = false → settings.RefusedByOpeners := by
  have helement := hopened.isTagName_markElement
  have hnow : ∀ now, r.corpus = some now → isTagName now.settings.markElement = true := by
    intro now hcorpus
    rw [(remains_after hopened.valid history hr hcorpus).settings]
    exact helement
  have hclosed : r.corpus = none → r.Refuses := Reader.refuses_of_closed
  refine ⟨fun h => (hclosed h).readMarked tree name markers, ?_, ?_, ?_, ?_⟩
  · intro hopen
    obtain ⟨now, hcorpus⟩ := Option.ne_none_iff_exists'.1 hopen
    refine ⟨usable_or_firstFault markers, ?_, ?_⟩
    · intro e he
      exact Reader.readMarked_of_firstFault hcorpus he
    · intro husable
      obtain ⟨mark, hmark⟩ :=
        @Reader.readMarked_of_usable markers r now tree name _ hcorpus (hnow now hcorpus) husable
      rw [hmark]
      obtain ⟨outcome, asked⟩ := r.read tree name
      constructor
      · rintro e rfl
        rfl
      · rintro content rfl
        exact ⟨mark content, congrArg (Reading.mk _) (List.append_nil asked)⟩
  · cases hcorpus : r.corpus with
    | none => rw [(hclosed hcorpus).readMarked, (hclosed hcorpus).read]
    | some now =>
      rw [Reader.readMarked_of_open hcorpus, Reader.read_of_open hcorpus]
      exact bind_pure (now.load tree name)
  · intro bad hbad
    cases hcorpus : r.corpus with
    | none =>
      rw [(hclosed hcorpus).readMarked] at hbad
      cases hbad
    | some now =>
      have hfault := Reader.firstFault_of_badMarker hcorpus (hnow now hcorpus) hbad
      obtain ⟨hname, hmarker⟩ := hfault.name_of_badMarker
      refine ⟨hname, hmarker, ?_⟩
      rintro rfl
      exact Bool.false_ne_true (hname.symm.trans helement)
  · intro settings h
    exact Settings.refusedByOpeners h

/-- A marker that can be used, one whose query cannot be read, and one with two faults. -/
def wardMarkers : List Marker :=
  [⟨"contains(text,'cat')", ⟨"k", "1"⟩⟩, ⟨"(", ⟨"k", "2"⟩⟩, ⟨"(", ⟨"2", "3"⟩⟩]

/-- An entry that is gone is not looked for as long as there is a marker with a fault, and the
second marker decides, not the third. -/
theorem readMarked_ward :
    let opened := Reader.ofCorpus ward
    ward.Opened ∧ ((start opened).after wardHistory).reader = some opened ∧
    opened.readMarked wardTree "b" wardMarkers = .fail (.badQuery (.malformed "(" ⟨0, [.term]⟩)) ∧
    opened.readMarked wardTree "b" (wardMarkers.take 1) = opened.read wardTree "b" ∧
    (opened.read wardTree "b").outcome = .error (.notFound "b") ∧
    (⟨[], .natural, true, "2"⟩ : Settings).RefusedByOpeners := by
  intro opened
  have hparse : Query.parse "(" = .error (.malformed "(" ⟨0, [.term]⟩) := rfl
  have husable : (⟨"contains(text,'cat')", ⟨"k", "1"⟩⟩ : Marker).Usable := ⟨by decide, _, rfl⟩
  have hfault : (⟨"(", ⟨"k", "2"⟩⟩ : Marker).Fault (.badQuery (.malformed "(" ⟨0, [.term]⟩)) :=
    .query (by decide) hparse
  have hfirst : FirstFault wardMarkers (.badQuery (.malformed "(" ⟨0, [.term]⟩)) :=
    ⟨_, _, _, rfl, List.forall_mem_singleton.2 husable, hfault⟩
  have hmem : "b" ∈ ward.names := by
    rw [opened_ward.names_perm.mem_iff]
    simp [ward, Corpus.ofStore, Store.names]
  have hread : (opened.read wardTree "b").outcome = .error (.notFound "b") := by
    rw [Reader.read_outcome_of_open rfl, Corpus.loadsAs_get opened_ward.valid wardTree "b" hmem]
    rfl
  have hreader : ((start opened).after wardHistory).reader = some opened := rfl
  have hopen : opened.corpus ≠ none := Option.some_ne_none ward
  obtain ⟨-, hmany, -, -, hrefused⟩ :=
    readMarked_fails_in_order opened_ward wardHistory hreader wardTree "b" wardMarkers
  obtain ⟨-, hone, -⟩ :=
    readMarked_fails_in_order opened_ward wardHistory hreader wardTree "b" (wardMarkers.take 1)
  obtain ⟨-, hfaults, -⟩ := hmany hopen
  obtain ⟨-, -, hreads⟩ := hone hopen
  refine ⟨opened_ward, hreader, hfaults _ hfirst, ?_, hread, hrefused _ (by decide)⟩
  exact (hreads (List.forall_mem_singleton.2 husable)).1 _ hread

end Run

end Concordance
