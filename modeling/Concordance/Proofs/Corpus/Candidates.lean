import Mathlib
import Concordance.Proofs.Corpus.Alike
import Concordance.Proofs.Corpus.Reader

/-!
# Candidates

Whatever a reader has been used for, the plan of a query gives slots that increase, that are slots
of entries, and that leave out no entry for which the query holds.

* `CorpusIndex.Keeps.agrees` says that indexes that are kept are those of the contents.
* `Reader.InUse.plan_candidates` is the statement about plans.
-/

namespace Concordance

variable {content : String → String}

/-- If entries have contents, indexes that are kept are those of the contents. -/
theorem CorpusIndex.Keeps.agrees {index : CorpusIndex} (h : index.Keeps (readable content))
    (hvalid : index.names.Valid) : index.Agrees content := by
  refine ⟨hvalid, ?_⟩
  intro trigrams hthere
  have hbuilt := h trigrams hthere
  have hload : Loads (.ask (readable content)) content index.names.names.toList := fun _ _ => rfl
  rw [NameIndex.built, NameIndex.buildTrigrams_of_loads hload] at hbuilt
  cases hbuilt
  exact TrigramIndex.indexes_ofContents _

namespace Reader

/-- The candidates for a query in a corpus whose entries can be read, with or without trigrams.

Whatever the reader has been used for, and whether or not the trigram index has been built by that,
looking up the plan of the query succeeds.  The slots strictly increase, there is an entry at each
of them, and the slot of each entry for which the query holds is among them. -/
theorem InUse.plan_candidates [Regex.Engine] {c now : Corpus} {r : Reader} {tree : Tree}
    (hopened : c.Opened) (huse : r.InUse content c) (hnow : r.corpus = some now)
    (hload : Loads (c.load tree) content c.names) (e : Expr) :
    ∃ slots after,
      ((Expr.plan e).slots now.settings.trigrams (now.load tree) now.index).outcome =
        .ok (slots, after) ∧
      slots.Pairwise (· < ·) ∧
      (∀ slot ∈ slots, slot < now.size) ∧
      ∀ slot name, now.index.names.nameAt? slot = some name →
        e.holds name (content name) = true → slot ∈ slots := by
  obtain ⟨last, hlast, hbecomes⟩ := huse.exists_becomes (hopened.keeps _)
  obtain rfl : last = now := Option.some.inj (hlast.symm.trans hnow)
  have hagrees : last.index.Agrees content :=
    hbecomes.keeps.agrees (hbecomes.names ▸ hopened.valid)
  have hload' : Loads (last.load tree) content last.names := hbecomes.loadsAs hload
  obtain ⟨slots, after, houtcome, hsorted, hlocated⟩ :=
    Plan.exists_slots last.settings.trigrams (Expr.plan e) last.index hagrees hload'
  refine ⟨slots, after, houtcome, hsorted, hlocated.inRange, ?_⟩
  intro slot name hname hholds
  exact hlocated.complete slot name hname (e.finds_plan hholds)

/-- A query that holds for both pets, for one of them by its name only. -/
def petsQuery : Expr :=
  .or [
    .and [.test ⟨.text, .contains "cat"⟩, .not (.test ⟨.name, .equals "b"⟩)],
    .or [.const false, .test ⟨.name, .equals "b"⟩]]

/-- A cursor that looks up a literal has been made and advanced before. -/
theorem plan_candidates_pets :
    ∃ c, Corpus.ofEntries {} "pets" pets = .ok c ∧
      ∀ tree, ∃ r now,
        ((Run.start (.ofCorpus c)).after
          [(tree, .query catQuery.source), (tree, .advance 0)]).reader = some r ∧
        r.corpus = some now ∧
        Loads (c.load tree) (contentOf pets) c.names ∧
        ∃ after, ((Expr.plan petsQuery).slots true (now.load tree) now.index).outcome =
          .ok ([0, 1], after) := by
  have hcheck : Settings.check {} = .ok () := rfl
  have hnodup : (pets.map Entry.name).Nodup := by decide
  obtain ⟨c, hc, hsettings, hserves⟩ := Corpus.exists_ofEntries hcheck "pets" hnodup
  have hload : ∀ tree, Loads (c.load tree) (contentOf pets) c.names := by
    intro tree
    rw [Corpus.names, hserves.names]
    exact hserves.loads tree
  refine ⟨c, hc, ?_⟩
  intro tree
  obtain ⟨now, hnow, hserves'⟩ := Cursor.serves_advance tree hserves (.matching catQuery)
  have hreader : ((Run.start (.ofCorpus c)).after
      [(tree, .query catQuery.source), (tree, .advance 0)]).reader = some ⟨c.name, some now⟩ := by
    rw [← hnow]
    rfl
  have huse : InUse (contentOf pets) c ⟨c.name, some now⟩ :=
    ⟨_, fun move _ => hload move.1, hreader, rfl⟩
  refine ⟨_, now, hreader, rfl, hload tree, ?_⟩
  obtain ⟨slots, after, houtcome, hsorted, hrange, hcomplete⟩ :=
    huse.plan_candidates (.entries hc) rfl (hload tree) petsQuery
  obtain ⟨last, hlast, hbecomes⟩ := huse.exists_becomes (Corpus.Opened.keeps (.entries hc) _)
  obtain rfl : now = last := Option.some.inj hlast
  have htrigrams : now.settings.trigrams = true := by
    rw [hbecomes.settings, hsettings]
  have hsize : now.size = 2 := by
    rw [Corpus.size, NameIndex.size, ← Array.length_toList, hserves'.names,
      NameIndex.names_ofNames, sort_pets]
    rfl
  have hat : ∀ slot, now.index.names.nameAt? slot = ["a", "b"][slot]? := by
    intro slot
    rw [hserves'.names, NameIndex.nameAt?_ofNames, sort_pets]
  have hslots : slots = [0, 1] := by
    apply eq_of_pairwise_lt hsorted (by decide)
    intro slot
    constructor
    · intro hslot
      have hlt : slot < 2 := hsize ▸ hrange slot hslot
      rw [List.mem_pair]
      omega
    · intro hslot
      rcases List.mem_pair.1 hslot with rfl | rfl
      · exact hcomplete 0 "a" (hat 0) (by decide)
      · exact hcomplete 1 "b" (hat 1) (by decide)
  rw [htrigrams, hslots] at houtcome
  exact ⟨after, houtcome⟩

end Reader

end Concordance
