import Mathlib
import Concordance.Corpus.Reader

/-!
# Errors of reading

Reading an entry comes to one error at most: the entry is unknown, it is not UTF-8, the system
refuses, or the reader is closed.  It never comes to several errors that are reported together, and
only a reader says that it is closed.

* `Error.OfEntry` lists the errors of an entry, `Error.About` those of the entry with a name.
* `Store.ofEntry_of_get` says that stores give no other errors, `Corpus.ofEntry_of_load` says this
  of open corpora.
* `Reader.single_of_read` is about readers.
-/

namespace Concordance

/-- One error, not several errors of a copy. -/
def Error.Single (e : Error) : Prop := ∀ errors, e ≠ .batch errors

/-- An error of reading an entry. -/
inductive Error.OfEntry : Error → Prop where
  /-- There is no such entry. -/
  | notFound (name : String) : OfEntry (.notFound name)
  /-- The entry is no text. -/
  | notUtf8 (name : String) : OfEntry (.notUtf8 name)
  /-- The system refuses. -/
  | system (path : String) (cause : SystemError) : OfEntry (.system path cause)

/-- An error of reading the entry with a name: if it carries a name, it is this one. -/
inductive Error.About (name : String) : Error → Prop where
  /-- There is no such entry. -/
  | notFound : About name (.notFound name)
  /-- The entry is no text. -/
  | notUtf8 : About name (.notUtf8 name)
  /-- The system refuses. -/
  | system (path : String) (cause : SystemError) : About name (.system path cause)

theorem Error.About.ofEntry {name : String} {e : Error} (h : e.About name) : e.OfEntry := by
  cases h with
  | notFound => exact .notFound name
  | notUtf8 => exact .notUtf8 name
  | system path cause => exact .system path cause

theorem Error.OfEntry.single {e : Error} (h : e.OfEntry) : e.Single := by
  cases h <;> exact nofun

theorem Error.OfEntry.ne_closed {e : Error} (h : e.OfEntry) : e ≠ .closed := by
  cases h <;> exact nofun

namespace Store

variable {tree : Tree} {name : String} {e : Error}

theorem about_of_readFile {root : String} (h : readFile tree root name = .error e) :
    e.About name := by
  unfold readFile at h
  dsimp only at h
  split at h
  · split at h
    · cases h
    · cases h
      exact .notUtf8
  · cases h
    exact .notFound
  · cases h
    exact .system _ _

theorem about_of_pair {pair : Compact.Pair} (h : pair.get name = .error e) : e.About name := by
  unfold Compact.Pair.get at h
  split at h
  · cases h
    exact .notFound
  · split at h
    · cases h
    · cases h
      exact .notUtf8

mutual

/-- A store gives errors of entries. -/
theorem ofEntry_of_get : ∀ (store : Store) (name : String) (e : Error),
    store.get tree name = .error e → e.OfEntry
  | .memory _ _ contents, name, e, h => by
    rw [get] at h
    split at h
    · cases h
    · cases h
      exact .notFound name
  | .directory root _ _, name, e, h => by
    rw [get] at h
    exact (about_of_readFile h).ofEntry
  | .compact pair, name, e, h => by
    rw [get] at h
    exact (about_of_pair h).ofEntry
  | .joined _ _ parts _ places, name, e, h => by
    rw [get] at h
    split at h
    next part inner _ => exact ofEntry_of_getIn parts part inner e h
    · cases h
      exact .notFound name

/-- So do several stores. -/
theorem ofEntry_of_getIn : ∀ (parts : List Store) (part : Nat) (name : String) (e : Error),
    getIn tree parts part name = .error e → e.OfEntry
  | [], _, name, e, h => by
    cases h
    exact .notFound name
  | store :: _, 0, name, e, h => by
    rw [getIn] at h
    exact ofEntry_of_get store name e h
  | _ :: rest, part + 1, name, e, h => by
    rw [getIn] at h
    exact ofEntry_of_getIn rest part name e h

end

end Store

/-- An open corpus gives errors of entries. -/
theorem Corpus.ofEntry_of_load {c : Corpus} {tree : Tree} {name : String} {e : Error}
    (h : (c.load tree name).outcome = .error e) : e.OfEntry := by
  unfold Corpus.load at h
  split at h
  · cases h
    exact .notFound name
  · exact Store.ofEntry_of_get c.store name e h

/-- A reader gives one error, also if it is closed. -/
theorem Reader.single_of_read {r : Reader} {tree : Tree} {name : String} {e : Error}
    (h : (r.read tree name).outcome = .error e) : e.Single := by
  obtain ⟨_, corpus⟩ := r
  cases corpus with
  | none =>
    cases h
    exact nofun
  | some corpus =>
    have hload : (corpus.load tree name).outcome = .error e := h
    exact (Corpus.ofEntry_of_load hload).single

end Concordance
