import Mathlib
import Concordance.Corpus.Cursor
import Concordance.Proofs.Corpus.Search

/-!
# Laws of reading

A law says which names may have been asked for by the time a reading ends, with an error or without.
If each entry is read by a law, then so is all that a corpus reads for a query, since it does nothing
but read entries one after another.

* `Law` are such laws, `Reading.Obeys` says that a reading obeys one; `Obeys.bind` goes from the
  parts of a reading to the whole.
* `Corpus.Remains` says that a corpus has the store, the names and the settings it had.
* `Corpus.obeys_candidates` and `Corpus.obeys_search` are about queries, `Cursor.obeys_step` is
  about cursors.
-/

namespace Concordance

variable {ε α β : Type}

/-- What may have been asked for by the time a reading ends, with an error or without.  Of readings
one after another it is enough that each one obeys. -/
structure Law (ε : Type) where
  /-- The law, given the error at the end and the names asked for. -/
  holds : Option ε → List String → Prop
  /-- It is obeyed by doing nothing. -/
  nothing : holds none []
  /-- It is obeyed by a reading behind another one. -/
  append : ∀ {failure : Option ε} {asked more : List String},
    holds none asked → holds failure more → holds failure (asked ++ more)

/-- The error, if there is one. -/
def failure? : Except ε α → Option ε
  | .ok _ => none
  | .error e => some e

/-! ## Readings -/

namespace Reading

variable {law : Law ε} {holds : α → Prop} {a : α} {r : Reading ε α}

/-- The reading obeys a law, and if it ends with a value, the value is as it should be. -/
structure Obeys (law : Law ε) (r : Reading ε α) (holds : α → Prop) : Prop where
  /-- The law. -/
  law : law.holds (failure? r.outcome) r.asked
  /-- What the value is like. -/
  value : ∀ a, r.outcome = .ok a → holds a

theorem obeys_pure (h : holds a) : (pure a : Reading ε α).Obeys law holds := by
  refine ⟨law.nothing, ?_⟩
  intro b hb
  cases hb
  exact h

/-- One reading after another. -/
theorem Obeys.bind {holds' : β → Prop} {f : α → Reading ε β} (h : r.Obeys law holds)
    (hf : ∀ a, holds a → (f a).Obeys law holds') : (r >>= f).Obeys law holds' := by
  obtain ⟨outcome, asked⟩ := r
  cases outcome with
  | error e =>
    rw [bind_error]
    exact ⟨h.law, nofun⟩
  | ok a =>
    have hnext := hf a (h.value a rfl)
    rw [bind_ok]
    exact ⟨law.append h.law hnext.law, hnext.value⟩

end Reading

open Reading (obeys_pure)

/-- Reading any of these entries obeys the law. -/
def Lawful (law : Law ε) (load : String → Reading ε String) (listed : List String) : Prop :=
  ∀ name ∈ listed, (load name).Obeys law fun _ => True

variable {law : Law ε} {load : String → Reading ε String} {names : NameIndex}

/-! ## Building the trigram index -/

theorem NameIndex.obeys_readFrom {listed : List String} (hload : Lawful law load listed)
    (slot : Nat) (trigrams : TrigramIndex) :
    (readFrom load slot listed trigrams).Obeys law fun _ => True := by
  induction listed generalizing slot trigrams with
  | nil => exact obeys_pure trivial
  | cons name rest ih =>
    obtain ⟨hname, hrest⟩ := List.forall_mem_cons.1 hload
    apply hname.bind
    intro content _
    exact ih hrest (slot + 1) _

namespace CorpusIndex

variable {index : CorpusIndex}

theorem obeys_trigramsFor (hload : Lawful law load names.names.toList) (h : index.names = names) :
    (index.trigramsFor load).Obeys law fun found => found.2.names = names := by
  subst h
  unfold trigramsFor
  split
  · exact obeys_pure rfl
  · apply (NameIndex.obeys_readFrom hload 0 .empty).bind
    intro trigrams _
    exact obeys_pure rfl

theorem obeys_slotsWith (hload : Lawful law load names.names.toList) (part : String)
    (h : index.names = names) :
    (index.slotsWith load part).Obeys law fun found => found.2.names = names := by
  apply (obeys_trigramsFor hload h).bind
  intro found hfound
  exact obeys_pure hfound

end CorpusIndex

/-! ## Looking up plans -/

namespace Plan

/-- Looking up a plan obeys the law, and the names of the index stay. -/
theorem obeys_slots (hload : Lawful law load names.names.toList) (trigrams : Bool) (p : Plan)
    {index : CorpusIndex} (h : index.names = names) :
    (p.slots trigrams load index).Obeys law fun found => found.2.names = names := by
  induction p generalizing index with
  | all => exact obeys_pure h
  | nothing => exact obeys_pure h
  | name wanted => exact obeys_pure h
  | literal part =>
    rw [slots]
    split
    · exact CorpusIndex.obeys_slotsWith hload part h
    · exact obeys_pure h
  | union parts ih =>
    have heach : ∀ {index : CorpusIndex}, index.names = names →
        (slotsOfEach trigrams load parts index).Obeys law fun found => found.2.names = names := by
      intro index h
      induction parts generalizing index with
      | nil => exact obeys_pure h
      | cons p rest ihr =>
        apply (ih p (by simp) h).bind
        intro found hfound
        apply (ihr (fun q hq => ih q (by simp [hq])) hfound).bind
        intro more hmore
        exact obeys_pure hmore
    apply (heach h).bind
    intro found hfound
    exact obeys_pure hfound

end Plan

/-! ## Checking entries -/

namespace Compiled

theorem obeys_accept (hload : Lawful law load names.names.toList) (query : Compiled) (slot : Nat) :
    (query.accept load names slot).Obeys law fun _ => True := by
  unfold accept
  split
  · exact obeys_pure trivial
  next name hname =>
    have hrun : (View.execute load query.program ⟨name, none⟩).Obeys law fun _ => True := by
      rw [query.program_eq, View.execute, Formula.execute_program,
        View.evalM_unloaded load name "", View.lazily]
      split
      · apply (hload name (NameIndex.mem_names_of_nameAt? hname)).bind
        intro content _
        exact obeys_pure trivial
      · exact obeys_pure trivial
    apply hrun.bind
    intro matched _
    exact obeys_pure trivial

theorem obeys_firstMatch (hload : Lawful law load names.names.toList) (query : Compiled)
    (slots : List Nat) : (query.firstMatch load names slots).Obeys law fun _ => True := by
  induction slots with
  | nil => exact obeys_pure trivial
  | cons slot rest ih =>
    apply (obeys_accept hload query slot).bind
    intro found _
    cases found with
    | none => exact ih
    | some name => exact obeys_pure trivial

theorem obeys_allMatches (hload : Lawful law load names.names.toList) (query : Compiled)
    (slots : List Nat) : (query.allMatches load names slots).Obeys law fun _ => True := by
  induction slots with
  | nil => exact obeys_pure trivial
  | cons slot rest ih =>
    apply (obeys_accept hload query slot).bind
    intro found _
    apply ih.bind
    intro more _
    exact obeys_pure trivial

end Compiled

/-! ## Corpora -/

namespace Corpus

variable {law : Law Error} {c now last : Corpus} {tree : Tree}

/-- The corpus is what it was, but for its trigram index. -/
structure Remains (c now : Corpus) : Prop where
  /-- It has the same store. -/
  store : now.store = c.store
  /-- It has the same settings. -/
  settings : now.settings = c.settings
  /-- It has the same names. -/
  names : now.index.names = c.index.names

theorem remains_refl (c : Corpus) : c.Remains c := ⟨rfl, rfl, rfl⟩

theorem Remains.trans (h : c.Remains now) (h' : now.Remains last) : c.Remains last :=
  ⟨h'.store.trans h.store, h'.settings.trans h.settings, h'.names.trans h.names⟩

theorem Remains.load_eq (h : c.Remains now) (tree : Tree) : now.load tree = c.load tree := by
  funext name
  rw [load, load, h.names, h.store]

theorem Remains.names_eq (h : c.Remains now) : now.names = c.names := by
  rw [Corpus.names, Corpus.names, h.names]

theorem Remains.size_eq (h : c.Remains now) : now.size = c.names.length := by
  rw [size, h.names, Corpus.names, Array.length_toList]
  rfl

theorem obeys_candidates (hload : Lawful law (c.load tree) c.names) (query : Compiled) :
    (c.candidates tree query).Obeys law fun found => found.2.names = c.index.names :=
  Plan.obeys_slots hload c.settings.trigrams query.plan rfl

theorem obeys_search (hload : Lawful law (c.load tree) c.names) (query : Compiled) :
    (c.search tree query).Obeys law fun _ => True := by
  apply (obeys_candidates hload query).bind
  intro found _
  exact Compiled.obeys_allMatches hload query found.1

end Corpus

/-! ## Cursors -/

/-- There is no corpus, or it is what it was. -/
def Holding (origin : Corpus) (handle : Handle) : Prop :=
  ∀ now, handle = some now → origin.Remains now

/-- The step obeys a law, and leaves the corpus as it was. -/
structure Advance.Obeys (law : Law Error) (origin : Corpus) (a : Advance (Except Error α)) :
    Prop where
  /-- The law. -/
  law : law.holds (failure? a.result) a.asked
  /-- The corpus is what it was. -/
  holding : Holding origin a.corpus

namespace Cursor

variable {law : Law Error} {origin now : Corpus} {tree : Tree}

theorem holding_some (h : origin.Remains now) : Holding origin (some now) := by
  intro last hlast
  cases hlast
  exact h

theorem obeys_stepSlots (hload : Lawful law (now.load tree) now.names) (h : origin.Remains now)
    (c : Cursor) (query : Compiled) {asked : List String} (hasked : law.holds none asked)
    (slots : List Nat) : (stepSlots tree now c query asked slots).Obeys law origin := by
  have hlaw := law.append hasked (Compiled.obeys_firstMatch hload query slots).law
  unfold stepSlots
  dsimp only
  split
  next hok =>
    rw [hok] at hlaw
    exact ⟨hlaw, holding_some h⟩
  next hok =>
    rw [hok] at hlaw
    exact ⟨hlaw, holding_some h⟩
  next herror =>
    rw [herror] at hlaw
    exact ⟨hlaw, holding_some h⟩

/-- A step of a cursor obeys the law. -/
theorem obeys_step (hload : Lawful law (origin.load tree) origin.names) (h : origin.Remains now)
    (c : Cursor) : (c.step tree now).Obeys law origin := by
  have hlawful : ∀ {now : Corpus}, origin.Remains now → Lawful law (now.load tree) now.names := by
    intro now h
    rw [h.load_eq, h.names_eq]
    exact hload
  unfold step
  split
  next slot _ =>
    unfold stepEntries
    split
    · exact ⟨law.nothing, holding_some h⟩
    · exact ⟨law.nothing, holding_some h⟩
  next query slots _ => exact obeys_stepSlots (hlawful h) h c query law.nothing slots
  next query _ =>
    have hobeys := Corpus.obeys_candidates (hlawful h) query
    have hlaw := hobeys.law
    dsimp only
    split
    next slots index hok =>
      rw [hok] at hlaw
      have hremains : origin.Remains { now with index } :=
        h.trans ⟨rfl, rfl, hobeys.value _ hok⟩
      exact obeys_stepSlots (hlawful hremains) hremains c query hlaw slots
    next e herror =>
      rw [herror] at hlaw
      exact ⟨hlaw, holding_some h⟩

end Cursor

end Concordance
