import Mathlib
import Concordance.Proofs.Corpus.Search
import Concordance.Proofs.Index.Outcomes

/-!
# Searching among entries that cannot all be read

* `Plan.found` is what comes of looking up a plan; `Plan.slots_outcome` says that it makes no
  difference whether the trigram index has been built before, and `Plan.found_eq_error_iff` when it
  fails.
* `Compiled.failure?` and `Compiled.accepted?` say what becomes of the entry at a slot.
* `Compiled.toCome` is what checking some slots gives, one after another.
-/

namespace Concordance

open Concordance.Text

variable {ε : Type} {load : String → Reading ε String} {outcome : String → Except ε String}
  {trigrams : Bool} {e : ε}

/-! ## Looking up plans -/

namespace Plan

/-- The plan is or contains one that looks up a literal. -/
inductive HasLiteral : Plan → Prop where
  /-- A plan that looks up a literal. -/
  | literal (part : String) : HasLiteral (.literal part)
  /-- A union with a part that does. -/
  | union {p : Plan} {parts : List Plan} (hmem : p ∈ parts) (h : p.HasLiteral) :
      HasLiteral (.union parts)

mutual

/-- The slots that a plan finds among some names, given what comes of building the trigram
index. -/
def found (trigrams : Bool) (built : Except ε TrigramIndex) (names : NameIndex) :
    Plan → Except ε (List Nat)
  | .all => .ok (List.range names.size)
  | .nothing => .ok []
  | .name wanted => .ok (names.slot? wanted).toList
  | .literal part =>
    if trigrams then built.map fun t => (t.candidates? part).getD (List.range names.size)
    else .ok (List.range names.size)
  | .union parts => (foundByEach trigrams built names parts).map ascending

/-- The slots that several plans find, those of each plan behind those of the one before. -/
def foundByEach (trigrams : Bool) (built : Except ε TrigramIndex) (names : NameIndex) :
    List Plan → Except ε (List Nat)
  | [] => .ok []
  | p :: rest =>
    (found trigrams built names p).bind fun slots =>
      (foundByEach trigrams built names rest).map (slots ++ ·)

end

variable {index : CorpusIndex} {names : NameIndex} {built : Except ε TrigramIndex}

/-- Looking up a plan gives what it finds, and the indexes stay those of the entries. -/
theorem slots_outcome (p : Plan) (h : index.Keeps outcome)
    (hload : LoadsAs load outcome index.names.names.toList) :
    ∃ after, after.names = index.names ∧ after.Keeps outcome ∧
      (p.slots trigrams load index).outcome =
        (p.found trigrams (index.names.built outcome) index.names).map fun found =>
          (found, after) := by
  induction p generalizing index with
  | all => exact ⟨index, rfl, h, rfl⟩
  | nothing => exact ⟨index, rfl, h, rfl⟩
  | name wanted => exact ⟨index, rfl, h, rfl⟩
  | literal part =>
    cases trigrams with
    | false => exact ⟨index, rfl, h, rfl⟩
    | true =>
      obtain ⟨after, hnames, hkeeps, houtcome⟩ := h.trigramsFor hload
      refine ⟨after, hnames, hkeeps, ?_⟩
      rw [slots, if_pos rfl, CorpusIndex.slotsWith, Reading.bind_outcome, houtcome, found,
        if_pos rfl]
      cases index.names.built outcome with
      | error e => rfl
      | ok t =>
        simp [Except.map, Except.bind, CorpusIndex.slots, hnames]
  | union parts ih =>
    have heach : ∃ after, after.names = index.names ∧ after.Keeps outcome ∧
        (slotsOfEach trigrams load parts index).outcome =
          (foundByEach trigrams (index.names.built outcome) index.names parts).map fun found =>
            (found, after) := by
      induction parts generalizing index with
      | nil => exact ⟨index, rfl, h, rfl⟩
      | cons p rest ihr =>
        obtain ⟨between, hnames, hkeeps, hfirst⟩ := ih p (by simp) h hload
        rw [← hnames] at hload
        obtain ⟨after, hnames', hkeeps', hrest⟩ :=
          ihr (fun q hq _ => ih q (by simp [hq])) hkeeps hload
        refine ⟨after, hnames'.trans hnames, hkeeps', ?_⟩
        rw [slotsOfEach, Reading.bind_outcome, hfirst, foundByEach]
        cases p.found trigrams (index.names.built outcome) index.names with
        | error e => rfl
        | ok slots =>
          simp only [Except.map, Except.bind, Reading.bind_outcome, hrest, hnames]
          cases foundByEach trigrams (index.names.built outcome) index.names rest <;> rfl
    obtain ⟨after, hnames, hkeeps, houtcome⟩ := heach
    refine ⟨after, hnames, hkeeps, ?_⟩
    rw [slots, Reading.bind_outcome, houtcome, found]
    cases foundByEach trigrams (index.names.built outcome) index.names parts <;> rfl

theorem hasLiteral_union_iff {parts : List Plan} :
    (Plan.union parts).HasLiteral ↔ ∃ p ∈ parts, p.HasLiteral := by
  constructor
  · intro h
    cases h with
    | union hmem h => exact ⟨_, hmem, h⟩
  · rintro ⟨p, hmem, h⟩
    exact .union hmem h

theorem found_eq_error_iff_of_not_hasLiteral {p : Plan} {slots : List Nat}
    (hnone : ¬ p.HasLiteral) (hok : p.found trigrams built names = .ok slots) :
    p.found trigrams built names = .error e ↔
      trigrams = true ∧ p.HasLiteral ∧ built = .error e := by
  simp [hok, hnone]

/-- Looking up a plan fails if it needs the trigram index and that cannot be built. -/
theorem found_eq_error_iff {p : Plan} : p.found trigrams built names = .error e ↔
    trigrams = true ∧ p.HasLiteral ∧ built = .error e := by
  induction p generalizing e with
  | all => exact found_eq_error_iff_of_not_hasLiteral nofun rfl
  | nothing => exact found_eq_error_iff_of_not_hasLiteral nofun rfl
  | name wanted => exact found_eq_error_iff_of_not_hasLiteral nofun rfl
  | literal part =>
    cases trigrams with
    | false => simp [found]
    | true => simp [found, map_eq_error_iff, HasLiteral.literal part]
  | union parts ih =>
    rw [found, map_eq_error_iff, hasLiteral_union_iff]
    induction parts generalizing e with
    | nil => simp [foundByEach]
    | cons p rest ihr =>
      have hp : ∀ {d}, p.found trigrams built names = .error d ↔
          trigrams = true ∧ p.HasLiteral ∧ built = .error d := ih p (by simp)
      have hrest : ∀ {d}, foundByEach trigrams built names rest = .error d ↔
          trigrams = true ∧ (∃ q ∈ rest, q.HasLiteral) ∧ built = .error d :=
        ihr fun q hq => ih q (by simp [hq])
      rw [foundByEach, bind_eq_error_iff, hp, List.exists_mem_cons_iff]
      simp only [map_eq_error_iff, hrest]
      constructor
      · rintro (⟨htrigrams, hp', hbuilt⟩ | ⟨slots, -, htrigrams, hrest', hbuilt⟩)
        · exact ⟨htrigrams, Or.inl hp', hbuilt⟩
        · exact ⟨htrigrams, Or.inr hrest', hbuilt⟩
      · rintro ⟨htrigrams, hp' | hrest', hbuilt⟩
        · exact Or.inl ⟨htrigrams, hp', hbuilt⟩
        · cases hfound : p.found trigrams built names with
          | error d =>
            -- the first part needs the trigram index as well
            exact Or.inl ⟨htrigrams, (hp.1 hfound).2.1, hbuilt⟩
          | ok slots => exact Or.inr ⟨slots, rfl, htrigrams, hrest', hbuilt⟩

/-- The slots that a plan finds increase. -/
theorem pairwise_found {p : Plan} {slots : List Nat}
    (h : p.found trigrams (names.built outcome) names = .ok slots) : slots.Pairwise (· < ·) := by
  cases p with
  | all =>
    cases h
    exact List.pairwise_lt_range
  | nothing =>
    cases h
    exact List.Pairwise.nil
  | name wanted =>
    cases h
    cases names.slot? wanted <;> simp
  | literal part =>
    rw [found] at h
    cases trigrams with
    | false =>
      cases h
      exact List.pairwise_lt_range
    | true =>
      rw [if_pos rfl, map_eq_ok_iff] at h
      obtain ⟨t, hbuilt, rfl⟩ := h
      obtain ⟨content, -, hindexes⟩ := NameIndex.exists_contents_of_built hbuilt
      rw [hindexes.candidates?_eq]
      split
      · exact List.pairwise_lt_range
      · exact List.pairwise_lt_range.filter _
  | union parts =>
    rw [found, map_eq_ok_iff] at h
    obtain ⟨all, -, rfl⟩ := h
    exact pairwise_ascending all

end Plan

/-! ## Checking entries -/

namespace Compiled

variable {query : Compiled} {names : NameIndex} {slot : Nat} {slots : List Nat}

/-- The error that ends a search at a slot, if there is one: the entry cannot be read, and the
query looks at its content. -/
def failure? (query : Compiled) (outcome : String → Except ε String) (names : NameIndex)
    (slot : Nat) : Option ε :=
  match names.nameAt? slot with
  | none => none
  | some name =>
    match outcome name with
    | .ok _ => none
    | .error e => if query.expr.ReadsText name "" then some e else none

/-- The name of the entry at a slot, if the query holds for it.  If the entry cannot be read, any
content does. -/
def accepted? (query : Compiled) (outcome : String → Except ε String) (names : NameIndex)
    (slot : Nat) : Option String :=
  (names.nameAt? slot).filter fun name => query.expr.holds name ((outcome name).toOption.getD "")

theorem execute_outcome (query : Compiled) {name : String}
    (hload : (load name).outcome = outcome name) :
    (View.execute load query.program ⟨name, none⟩).outcome.map Prod.fst =
      match outcome name with
      | .ok content => .ok (query.expr.holds name content)
      | .error e => if query.expr.ReadsText name "" then .error e
          else .ok (query.expr.holds name "") := by
  cases hname : outcome name with
  | ok content =>
    obtain ⟨v, hrun⟩ := View.exists_execute_of_load (hload.trans hname) query.expr
    rw [← query.program_eq] at hrun
    rw [hrun]
    rfl
  | error e =>
    rw [query.program_eq, View.execute, Formula.execute_program,
      View.evalM_unloaded load name "", View.lazily]
    split
    · rw [Reading.bind_outcome, hload, hname]
      rfl
    · rfl

/-- Checking the entry at a slot fails, or tells whether the query holds for it. -/
theorem accept_outcome_of_loadsAs (hload : LoadsAs load outcome names.names.toList) (slot : Nat) :
    (query.accept load names slot).outcome =
      (query.failure? outcome names slot).elim (.ok (query.accepted? outcome names slot))
        .error := by
  cases hname : names.nameAt? slot with
  | none => simp [accept, failure?, accepted?, hname]
  | some name =>
    have hrun := query.execute_outcome
      (hload name (NameIndex.mem_names_of_nameAt? hname))
    have haccept : (query.accept load names slot).outcome =
        ((View.execute load query.program ⟨name, none⟩).outcome.map Prod.fst).map fun matched =>
          if matched then some name else none := by
      unfold accept
      rw [hname]
      dsimp only
      rw [Reading.bind_outcome]
      cases (View.execute load query.program ⟨name, none⟩).outcome <;> rfl
    rw [haccept, hrun, failure?, accepted?, hname]
    cases houtcome : outcome name with
    | ok content => simp [houtcome, Except.map, Except.toOption, Option.filter]
    | error e =>
      by_cases hreads : query.expr.ReadsText name ""
      · simp [houtcome, hreads, Except.map]
      · simp [houtcome, hreads, Except.map, Except.toOption, Option.filter]

/-! ## Checking slots one after another -/

/-- The names that checking some slots gives, up to the first failure. -/
def yielded (query : Compiled) (outcome : String → Except ε String) (names : NameIndex)
    (slots : List Nat) : List String :=
  (slots.takeWhile fun slot => (query.failure? outcome names slot).isNone).filterMap
    (query.accepted? outcome names)

theorem filterMap_nameAt?_sublist (names : NameIndex) (h : slots.Pairwise (· < ·)) :
    (slots.filterMap names.nameAt?).Sublist names.names.toList := by
  have hinside : slots.filter (fun slot => slot < names.size) =
      (List.range names.size).filter fun slot => slot ∈ slots := by
    refine eq_of_pairwise_lt (h.filter _) (List.pairwise_lt_range.filter _) fun slot => ?_
    simp [and_comm]
  have hnames : slots.filterMap names.nameAt? =
      (slots.filter fun slot => slot < names.size).filterMap names.nameAt? := by
    rw [List.filterMap_filter]
    refine List.filterMap_congr fun slot _ => ?_
    by_cases hslot : slot < names.size
    · simp [hslot]
    · have hnone : names.nameAt? slot = none := by
        simpa [NameIndex.nameAt?, NameIndex.size] using hslot
      simp [hslot, hnone]
  rw [hnames, hinside, ← names.filterMap_nameAt?_range]
  exact List.filter_sublist.filterMap names.nameAt?

/-- The names that checking gives are names of the corpus, in their order. -/
theorem yielded_sublist (query : Compiled) (outcome : String → Except ε String)
    (names : NameIndex) (h : slots.Pairwise (· < ·)) :
    (query.yielded outcome names slots).Sublist names.names.toList := by
  have haccepted : slots.filterMap (query.accepted? outcome names) =
      (slots.filterMap names.nameAt?).filter fun name =>
        query.expr.holds name ((outcome name).toOption.getD "") := by
    rw [List.filter_filterMap]
    rfl
  have hfront : (query.yielded outcome names slots).Sublist
      (slots.filterMap (query.accepted? outcome names)) :=
    (List.takeWhile_sublist _).filterMap _
  rw [haccepted] at hfront
  exact hfront.trans (List.filter_sublist.trans (filterMap_nameAt?_sublist names h))

/-- What checking some slots gives, one after another: names, and then the first failure. -/
def toCome (query : Compiled) (outcome : String → Except ε String) (names : NameIndex)
    (slots : List Nat) : List (Except ε String) :=
  (query.yielded outcome names slots).map .ok ++
    (slots.findSome? (query.failure? outcome names)).toList.map .error

theorem toCome_cons (slot : Nat) (rest : List Nat) :
    query.toCome outcome names (slot :: rest) = match query.failure? outcome names slot with
      | some e => [.error e]
      | none => (query.accepted? outcome names slot).toList.map .ok ++
          query.toCome outcome names rest := by
  unfold toCome yielded
  cases hfailure : query.failure? outcome names slot with
  | some e => simp [hfailure]
  | none =>
    cases haccepted : query.accepted? outcome names slot with
    | none => simp [hfailure, haccepted]
    | some name => simp [hfailure, haccepted]

/-- Looking for the first match comes to the first of what checking gives. -/
theorem firstMatch_outcome_of_loadsAs (query : Compiled)
    (hload : LoadsAs load outcome names.names.toList) (slots : List Nat) :
    match (query.firstMatch load names slots).outcome with
      | .ok none => query.toCome outcome names slots = []
      | .ok (some (name, rest)) =>
        query.toCome outcome names slots = .ok name :: query.toCome outcome names rest
      | .error e => query.toCome outcome names slots = [.error e] := by
  induction slots with
  | nil => rfl
  | cons slot rest ih =>
    rw [firstMatch, Reading.bind_outcome, accept_outcome_of_loadsAs hload, toCome_cons]
    cases query.failure? outcome names slot with
    | some e => rfl
    | none =>
      cases query.accepted? outcome names slot with
      | none => exact ih
      | some name => rfl

/-- Looking for all matches gives what checking gives, or fails with its failure. -/
theorem allMatches_outcome_of_loadsAs (query : Compiled)
    (hload : LoadsAs load outcome names.names.toList) (slots : List Nat) :
    (query.allMatches load names slots).outcome =
      (slots.findSome? (query.failure? outcome names)).elim
        (.ok (query.yielded outcome names slots)) .error := by
  induction slots with
  | nil => rfl
  | cons slot rest ih =>
    rw [allMatches, Reading.bind_outcome, accept_outcome_of_loadsAs hload, yielded]
    cases hfailure : query.failure? outcome names slot with
    | some e => simp [hfailure, Except.bind]
    | none =>
      simp only [Except.bind, Reading.bind_outcome, ih, List.findSome?_cons, hfailure]
      cases rest.findSome? (query.failure? outcome names) with
      | some e => rfl
      | none =>
        cases haccepted : query.accepted? outcome names slot with
        | none => simp [hfailure, haccepted, yielded]
        | some name => simp [hfailure, haccepted, yielded]

end Compiled

/-! ## Corpora -/

namespace Corpus

variable {outcome : String → Except Error String} {c : Corpus}

/-- Reading the entries of a corpus asks its store. -/
theorem loadsAs_get (h : c.index.names.Valid) (tree : Tree) :
    LoadsAs (c.load tree) (c.store.get tree) c.names := by
  intro name hname
  obtain ⟨slot, hslot⟩ := h.isSome_slot? hname
  rw [load, hslot]
  rfl

/-- What a query gives when its entries are checked one after another. -/
def gives (outcome : String → Except Error String) (c : Corpus) (query : Compiled) :
    List (Except Error String) :=
  match query.plan.found c.settings.trigrams (c.index.names.built outcome) c.index.names with
  | .ok slots => query.toCome outcome c.index.names slots
  | .error e => [.error e]

/-- The candidates of a query are what its plan finds. -/
theorem candidates_outcome {tree : Tree} (h : c.index.Keeps outcome)
    (hload : LoadsAs (c.load tree) outcome c.names) (query : Compiled) :
    ∃ after, after.names = c.index.names ∧ after.Keeps outcome ∧
      (c.candidates tree query).outcome =
        (query.plan.found c.settings.trigrams (c.index.names.built outcome) c.index.names).map
          fun found => (found, after) :=
  Plan.slots_outcome query.plan h hload

end Corpus

end Concordance
