import Mathlib
import Concordance.Proofs.Corpus.Laws

/-!
# What a corpus asks its store for

A corpus asks its store only for names that are in its index, whatever the files are at the time.
Every reading of entries goes through `Corpus.load`, which looks a name up before it asks.

* `Law.asksFor` is the law to ask for listed names only; `Reading.Within` says that a reading obeys
  it, and what its value is like.
* `Corpus.confines_load` says that reading an entry does, and `Corpus.within_search` that searching
  does.
* `Cursor.confined_advance`, `confined_next` and `confined_drainFrom` are about cursors.
-/

namespace Concordance

variable {ε α β : Type}

/-- To ask for listed names only. -/
def Law.asksFor (listed : List String) : Law ε where
  holds _ asked := ∀ name ∈ asked, name ∈ listed
  nothing := nofun
  append h h' := List.forall_mem_append.2 ⟨h, h'⟩

/-! ## Readings -/

namespace Reading

variable {listed : List String} {holds : α → Prop} {a : α} {r : Reading ε α}

/-- The reading asks for listed names only, and if it ends with a value, the value is as it
should be. -/
def Within (listed : List String) (r : Reading ε α) (holds : α → Prop) : Prop :=
  r.Obeys (.asksFor listed) holds

/-- The names asked for are listed. -/
theorem Within.asked (h : r.Within listed holds) : ∀ name ∈ r.asked, name ∈ listed := h.law

theorem within_pure (h : holds a) : (pure a : Reading ε α).Within listed holds := obeys_pure h

theorem within_ofExcept {result : Except ε α} (h : ∀ a, result = .ok a → holds a) :
    (ofExcept result).Within listed holds := ⟨nofun, h⟩

theorem within_fail (e : ε) : (fail e : Reading ε α).Within listed holds := ⟨nofun, nofun⟩

theorem within_ask {load : String → Except ε α} {name : String} (h : name ∈ listed) :
    (ask load name).Within listed fun _ => True := by
  refine ⟨?_, fun _ _ => trivial⟩
  intro other hother
  rw [List.mem_singleton.1 hother]
  exact h

/-- One reading after another. -/
theorem Within.bind {holds' : β → Prop} {f : α → Reading ε β} (h : r.Within listed holds)
    (hf : ∀ a, holds a → (f a).Within listed holds') : (r >>= f).Within listed holds' :=
  Obeys.bind h hf

end Reading

/-- Whatever name is loaded, the names asked for are listed. -/
def Confines (listed : List String) (load : String → Reading ε String) : Prop :=
  ∀ name, (load name).Within listed fun _ => True

/-! ## Corpora -/

namespace Corpus

variable {listed : List String} {c : Corpus} {tree : Tree}

/-- Reading an entry asks the store for a name that the corpus has, or for nothing. -/
theorem confines_load (h : c.index.names.Valid) (tree : Tree) : Confines c.names (c.load tree) := by
  intro name
  rw [load]
  split
  · exact Reading.within_fail _
  next slot hslot =>
    apply Reading.within_ask
    exact NameIndex.mem_names_of_nameAt? ((h name slot).1 hslot)

/-- The store is asked for an entry that the corpus has. -/
theorem load_of_mem (h : c.index.names.Valid) {name : String} (hname : name ∈ c.names)
    (tree : Tree) : c.load tree name = .ask (c.store.get tree) name := by
  obtain ⟨slot, hslot⟩ := h.isSome_slot? hname
  rw [load, hslot]

/-- An entry that the corpus does not have is not found, and the store is not asked. -/
theorem load_of_not_mem (h : c.index.names.Valid) {name : String} (hname : name ∉ c.names)
    (tree : Tree) : c.load tree name = .fail (.notFound name) := by
  rw [load]
  cases hslot : c.index.names.slot? name with
  | none => rfl
  | some slot =>
    exact absurd (NameIndex.mem_names_of_nameAt? ((h name slot).1 hslot)) hname

theorem within_search (hload : Confines listed (c.load tree)) (query : Compiled) :
    (c.search tree query).Within listed fun _ => True :=
  obeys_search (fun name _ => hload name) query

end Corpus

/-! ## Cursors -/

/-- The step asks for names of the corpus only, and leaves the corpus as it was. -/
structure Confined (origin : Corpus) (a : Advance α) : Prop where
  /-- The names asked for are names of the corpus. -/
  asked : ∀ name ∈ a.asked, name ∈ origin.names
  /-- The corpus is what it was. -/
  holding : Holding origin a.corpus

namespace Cursor

variable {origin now : Corpus} {handle : Handle} {tree : Tree}

theorem confined_idle (h : Holding origin handle) (result : α) (c : Cursor) :
    Confined origin ⟨result, [], c, handle⟩ := ⟨nofun, h⟩

/-- A step asks for names of the corpus only. -/
theorem confined_step (hvalid : origin.index.names.Valid) (h : origin.Remains now) (tree : Tree)
    (c : Cursor) : Confined origin (c.step tree now) := by
  have hload : Lawful (.asksFor origin.names) (origin.load tree) origin.names :=
    fun name _ => Corpus.confines_load hvalid tree name
  have hobeys := obeys_step hload h c
  exact ⟨hobeys.law, hobeys.holding⟩

theorem confined_advance (hvalid : origin.index.names.Valid) (h : Holding origin handle)
    (tree : Tree) (c : Cursor) : Confined origin (c.advance tree handle) := by
  unfold advance
  split
  · exact confined_idle h _ c
  · split
    · exact confined_idle h _ c
    next now => exact confined_step hvalid (h now rfl) tree c

theorem confined_next (hvalid : origin.index.names.Valid) (h : Holding origin handle)
    (tree : Tree) (c : Cursor) : Confined origin (c.next tree handle) := by
  have hadvance := confined_advance hvalid h tree c
  unfold next
  split
  · exact confined_idle h _ c
  · dsimp only
    split
    · exact ⟨hadvance.asked, hadvance.holding⟩
    · exact ⟨hadvance.asked, hadvance.holding⟩
    · exact ⟨hadvance.asked, hadvance.holding⟩
    · exact ⟨hadvance.asked, hadvance.holding⟩

/-- Iterating to the end asks for names of the corpus only. -/
theorem confined_drainFrom (hvalid : origin.index.names.Valid) (h : Holding origin handle)
    (tree : Tree) (fuel : Nat) (c : Cursor) :
    Confined origin (drainFrom tree fuel handle c) := by
  induction fuel generalizing handle c with
  | zero => exact confined_idle h _ c
  | succ fuel ih =>
    have hnext := confined_next hvalid h tree c
    rw [drainFrom]
    dsimp only
    split
    · exact ⟨hnext.asked, hnext.holding⟩
    · have hrest := ih hnext.holding (c.next tree handle).cursor
      exact ⟨List.forall_mem_append.2 ⟨hnext.asked, hrest.asked⟩, hrest.holding⟩

end Cursor

end Concordance
