import Mathlib
import Concordance.Proofs.Corpus.Lifecycle

/-!
# Readers that answer alike

What a reader answers depends on the names and the settings of its corpus and on the outcomes of
reading the entries, not on the store that has them, and not on what the reader has been used for.

* `Reader.AnswersAlike` says that no question tells two readers apart.
* `Reader.InUse` is a reader that has been used; `InUse.exists_becomes` says what has become of its
  corpus.
* `Reader.answersAlike_of_outcomes` is about any outcomes of reading, `InUse.answersAlike` about
  entries that can be read.
-/

namespace Concordance

variable {outcome : String → Except Error String} {content : String → String} {tree : Tree}
  {c d : Corpus}

/-! ## Reading under any name -/

/-- The outcomes of reading entries that have these contents. -/
def readable (content : String → String) (name : String) : Except Error String :=
  .ok (content name)

namespace Corpus

/-- The store is asked for the names of the index only. -/
theorem load_outcome (hvalid : c.index.names.Valid)
    (hload : LoadsAs (c.load tree) outcome c.names) (name : String) :
    (c.load tree name).outcome =
      if name ∈ c.names then outcome name else .error (.notFound name) := by
  by_cases hname : name ∈ c.names
  · rw [if_pos hname, hload name hname]
  · have hnone : c.index.names.slot? name = none := by
      refine Option.eq_none_iff_forall_ne_some.2 fun slot hslot => hname ?_
      exact NameIndex.mem_names_of_nameAt? ((hvalid name slot).1 hslot)
    rw [if_neg hname, load, hnone]
    rfl

end Corpus

/-! ## Questions to readers -/

namespace Reader

variable {r r' : Reader} {now now' : Corpus}

/-- Two readers give the same answers. -/
structure AnswersAlike [Regex.Engine] (tree : Tree) (r r' : Reader) : Prop where
  /-- They go through the same names in the same order. -/
  entries : (r.entries.drain tree r.corpus).result = (r'.entries.drain tree r'.corpus).result
  /-- They read the same under any name, and refuse the same. -/
  read : ∀ name, (r.read tree name).outcome = (r'.read tree name).outcome
  /-- They take the same queries, and refuse the same. -/
  query : ∀ source, r.query source = r'.query source
  /-- A query comes to the same names in the same order. -/
  found : ∀ source cursor, r.query source = .ok cursor →
    (cursor.drain tree r.corpus).result = (cursor.drain tree r'.corpus).result
  /-- They mark the same in any entry with any markers, and refuse the same. -/
  readMarked : ∀ name markers,
    (r.readMarked tree name markers).outcome = (r'.readMarked tree name markers).outcome

/-! ### Open readers -/

theorem opened_of_open (hr : r.corpus = some now) : r.opened = .ok now := by
  rw [opened, hr]

/-- What an open reader makes of a query does not depend on its corpus. -/
theorem query_of_open [Regex.Engine] (hr : r.corpus = some now) (source : String) :
    r.query source = (checkQuery source).map .matching := by
  delta Reader.query
  rw [opened_of_open hr, ok_bind]
  cases checkQuery source <;> rfl

theorem read_of_open (hr : r.corpus = some now) (name : String) :
    r.read tree name = now.load tree name := by
  rw [read, opened_of_open hr]
  rfl

theorem read_outcome_of_open (hr : r.corpus = some now) (name : String) :
    (r.read tree name).outcome = (now.load tree name).outcome := by
  rw [read_of_open hr]

/-- An open reader checks the markers, reads the entry and marks it, in this order. -/
theorem readMarked_of_open [Regex.Engine] (hr : r.corpus = some now) (name : String)
    (markers : List Marker) : r.readMarked tree name markers =
      Reading.ofExcept (compileMarkers markers) >>= fun compiled =>
        now.load tree name >>= fun content =>
          if compiled.isEmpty then pure content
          else .ofExcept (markContent now.settings.markElement name content compiled) := by
  rw [readMarked, opened_of_open hr]
  rfl

theorem readMarked_outcome_of_open [Regex.Engine] (hr : r.corpus = some now) (name : String)
    (markers : List Marker) : (r.readMarked tree name markers).outcome =
      (compileMarkers markers).bind fun compiled =>
        (now.load tree name).outcome.bind fun content =>
          if compiled.isEmpty then .ok content
          else markContent now.settings.markElement name content compiled := by
  rw [readMarked_of_open hr, Reading.bind_outcome]
  cases compileMarkers markers with
  | error e => rfl
  | ok compiled =>
    show Reading.outcome (now.load tree name >>= _) = Except.bind _ _
    rw [Reading.bind_outcome]
    congr 1
    funext content
    cases compiled <;> rfl

/-! ### Readers that are asked the same -/

variable [Regex.Engine]

/-- Open readers of corpora with the same names, settings and outcomes answer alike. -/
theorem answersAlike_of_outcomes (hr : r.corpus = some now) (hr' : r'.corpus = some now')
    (hnames : now'.index.names = now.index.names) (hsettings : now'.settings = now.settings)
    (hvalid : now.index.names.Valid) (hkeeps : now.index.Keeps outcome)
    (hkeeps' : now'.index.Keeps outcome) (hload : LoadsAs (now.load tree) outcome now.names)
    (hload' : LoadsAs (now'.load tree) outcome now.names) : AnswersAlike tree r r' := by
  have hlist : now'.names = now.names := by
    rw [Corpus.names, Corpus.names, hnames]
  rw [← hlist] at hload'
  have hdrain : ∀ cursor : Cursor, cursor.Fresh →
      (cursor.drain tree r.corpus).result = (cursor.drain tree r'.corpus).result := by
    intro cursor hfresh
    rw [hr, hr', hfresh.drain_eq_pending hkeeps hload, hfresh.drain_eq_pending hkeeps' hload',
      Cursor.pending_congr hnames hsettings]
  have hread : ∀ name, (now.load tree name).outcome = (now'.load tree name).outcome := by
    intro name
    rw [Corpus.load_outcome hvalid hload, Corpus.load_outcome (hnames ▸ hvalid) hload', hlist]
  refine ⟨hdrain .entries .entries, ?_, ?_, ?_, ?_⟩
  · intro name
    rw [read_outcome_of_open hr, read_outcome_of_open hr', hread]
  · intro source
    rw [query_of_open hr, query_of_open hr']
  · intro source cursor hcursor
    have hmade : r.cursorFor (some source) = .ok cursor := hcursor
    exact hdrain cursor (fresh_of_cursorFor hmade)
  · intro name markers
    rw [readMarked_outcome_of_open hr, readMarked_outcome_of_open hr', hread, hsettings]

/-! ## Readers in use -/

/-- The reader of the corpus is open and has been used; its entries have kept their contents. -/
def InUse (content : String → String) (c : Corpus) (r : Reader) : Prop :=
  ∃ history : List (Tree × Move),
    (∀ move ∈ history, Loads (c.load move.1) content c.names) ∧
    ((Run.start (.ofCorpus c)).after history).reader = some r ∧ r.isClosed = false

/-- A reader that has just been made has not been used at all. -/
theorem inUse_ofCorpus (content : String → String) (c : Corpus) :
    (ofCorpus c).InUse content c := ⟨[], nofun, rfl, rfl⟩

/-- Using a reader may have built the trigram index, and nothing else. -/
theorem InUse.exists_becomes (h : r.InUse content c)
    (hkeeps : c.index.Keeps (readable content)) :
    ∃ now, r.corpus = some now ∧ c.Becomes (readable content) now := by
  obtain ⟨history, hload, hreader, hopen⟩ := h
  obtain ⟨hsound, -⟩ := Run.sound_after (Run.sound_start hkeeps) hload
  cases hcorpus : r.corpus with
  | none =>
    rw [isClosed, hcorpus] at hopen
    cases hopen
  | some now =>
    refine ⟨now, rfl, hsound.serving now ?_⟩
    rw [Run.handle, hreader]
    exact hcorpus

/-- Readers in use of corpora with the same names and settings answer alike, as long as entries of
the same name have the same content. -/
theorem InUse.answersAlike (h : r.InUse content c) (h' : r'.InUse content d)
    (hindex : d.index = c.index) (hsettings : d.settings = c.settings)
    (hvalid : c.index.names.Valid) (hkeeps : c.index.Keeps (readable content))
    (hload : Loads (c.load tree) content c.names) (hload' : Loads (d.load tree) content c.names) :
    AnswersAlike tree r r' := by
  obtain ⟨now, hr, hbecomes⟩ := h.exists_becomes hkeeps
  obtain ⟨now', hr', hbecomes'⟩ := h'.exists_becomes (hindex ▸ hkeeps)
  have hnames : now'.index.names = now.index.names := by
    rw [hbecomes'.names, hbecomes.names, hindex]
  refine answersAlike_of_outcomes hr hr' hnames ?_ (hbecomes.names ▸ hvalid) hbecomes.keeps
    hbecomes'.keeps (hbecomes.loadsAs hload) ?_
  · rw [hbecomes'.settings, hbecomes.settings, hsettings]
  · rw [hbecomes'.load_eq, hbecomes.names_eq]
    exact hload'

end Reader

end Concordance
