import Mathlib
import Concordance.Proofs.Corpus.Moves
import Concordance.Proofs.Store.Names
import Concordance.Regex.Engine

/-!
# Cursors side by side

No cursor notices what is done with its reader and with other cursors, but that the reader is
closed: what it has given so far is the beginning of what it gives when it is alone.

* `Run.Sound` is what holds of every run; `Run.sound_step` is one move and `Run.sound_after` all of
  them.
* `Tracked.Leads` says that a cursor has come further, `Tracked.Rests` that it has stayed where it
  was; `Run.rests_after` says this of all cursors of a closed reader.
* `Run.cursors_lifecycle` is the statement about all moves of a reader.
-/

namespace Concordance

/-! ## Runs of an open reader -/

/-- The cursor has come further. -/
structure Tracked.Leads (t t' : Tracked) : Prop where
  /-- It is a cursor for the same query. -/
  source : t'.source = t.source
  /-- It is the same cursor. -/
  origin : t'.origin = t.origin
  /-- What it has answered stays. -/
  answers : t.answers <+: t'.answers
  /-- It has not gone back. -/
  rank : t.cursor.state.rank ≤ t'.cursor.state.rank
  /-- If it was at its end, it has stayed as it was, and has given neither a name nor an error. -/
  ended : t.cursor.state = .exhausted → t'.cursor = t.cursor ∧ t.Since t' Answer.OfEnd

/-- The cursor has given the first of what it gives alone, and has yet to give the rest. -/
structure Tracked.Follows [Regex.Engine] (outcome : String → Except Error String) (corpus : Corpus)
    (t : Tracked) : Prop where
  /-- A reader that has just been opened makes the same cursor. -/
  made : (Reader.ofCorpus corpus).cursorFor t.source = .ok t.origin
  /-- The names given and the names pending are those of the cursor when it was made. -/
  names : t.names ++ namesOf (t.cursor.pending outcome corpus) =
    namesOf (t.origin.pending outcome corpus)
  /-- There has been no error, or the cursor is at its end. -/
  failures : t.failures.length ≤ if t.cursor.state = .exhausted then 1 else 0

namespace Tracked

variable {outcome : String → Except Error String} {corpus : Corpus} {t t' t'' : Tracked}
  {a : Advance Answer}

theorem leads_refl (t : Tracked) : t.Leads t :=
  ⟨rfl, rfl, List.prefix_rfl, le_rfl, fun _ => ⟨rfl, since_refl t _⟩⟩

theorem Leads.trans (h : t.Leads t') (h' : t'.Leads t'') : t.Leads t'' := by
  refine ⟨h'.source.trans h.source, h'.origin.trans h.origin, h.answers.trans h'.answers,
    h.rank.trans h'.rank, ?_⟩
  intro hexhausted
  obtain ⟨hcursor, hsince⟩ := h.ended hexhausted
  obtain ⟨hcursor', hsince'⟩ := h'.ended (by rw [hcursor, hexhausted])
  exact ⟨hcursor'.trans hcursor, hsince.trans hsince'⟩

theorem leads_answer (h : t.cursor.Obeys outcome corpus a) : t.Leads (t.answer a) := by
  refine ⟨rfl, rfl, List.prefix_append _ _, h.responds.rank_le, ?_⟩
  intro hexhausted
  obtain ⟨hcursor, hanswer⟩ := h.ended hexhausted
  exact ⟨hcursor, since_answer hanswer⟩

theorem follows_of_cursorFor [Regex.Engine] {r : Reader} {source : Option String} {c : Cursor}
    (h : r.cursorFor source = .ok c) : Follows outcome corpus ⟨source, c, c, []⟩ :=
  ⟨Reader.cursorFor_ofCorpus h, rfl, Nat.zero_le _⟩

theorem Follows.answer [Regex.Engine] (h : t.Follows outcome corpus)
    (hobeys : t.cursor.Obeys outcome corpus a) : (t.answer a).Follows outcome corpus := by
  refine ⟨h.made, ?_, ?_⟩
  · rw [names_answer, List.append_assoc]
    exact (congrArg (t.names ++ ·) hobeys.responds.names_eq).trans h.names
  · rw [failures_answer, List.length_append]
    exact hobeys.responds.failures_le h.failures

end Tracked

namespace Run

variable [Regex.Engine] {outcome : String → Except Error String} {corpus : Corpus} {r : Run}
  {tree : Tree}

/-- What holds of every run of a reader of a corpus. -/
structure Sound (outcome : String → Except Error String) (corpus : Corpus) (r : Run) : Prop where
  /-- The corpus is closed, or it has the entries it had. -/
  serving : Serving outcome corpus r.handle
  /-- The reader keeps its name. -/
  name : ∀ reader, r.reader = some reader → reader.name = corpus.name
  /-- The cursors do what they do alone. -/
  follows : ∀ t ∈ r.cursors, t.Follows outcome corpus

theorem sound_start (h : corpus.index.Keeps outcome) :
    (start (.ofCorpus corpus)).Sound outcome corpus := by
  refine ⟨?_, ?_, ?_⟩
  · intro now hnow
    cases hnow
    exact Corpus.becomes_refl h
  · intro reader hreader
    cases hreader
    rfl
  · intro t ht
    exact absurd ht List.not_mem_nil

/-- What holds of a run holds after one more move. -/
theorem sound_step (h : r.Sound outcome corpus)
    (hload : LoadsAs (corpus.load tree) outcome corpus.names) (move : Move) :
    (r.step tree move).Sound outcome corpus := by
  have hadvanced := Cursor.obeys_advanced h.serving hload
  have hiterated := Cursor.obeys_iterated h.serving hload
  refine ⟨?_, ?_, ?_⟩
  · exact handle_step (Serving outcome corpus) h.serving nofun (fun c => (hadvanced c).serving)
      (fun c => (hiterated c).serving) move
  · intro reader hreader
    obtain ⟨before, hbefore, hname⟩ := exists_reader_of_step hreader
    exact hname.trans (h.name before hbefore)
  · intro t ht
    obtain ⟨i, hi⟩ := List.getElem?_of_mem ht
    cases stepped_of_getElem? hi with
    | kept hold => exact h.follows t (List.mem_of_getElem? hold)
    | made hnew hmade => exact Tracked.follows_of_cursorFor hmade
    | advanced hold => exact (h.follows _ (List.mem_of_getElem? hold)).answer (hadvanced _)
    | iterated hold => exact (h.follows _ (List.mem_of_getElem? hold)).answer (hiterated _)

/-- A move leads the cursors further. -/
theorem leads_step (h : r.Sound outcome corpus)
    (hload : LoadsAs (corpus.load tree) outcome corpus.names) (move : Move) :
    r.Extends Tracked.Leads (r.step tree move) :=
  extends_step Tracked.leads_refl
    (fun t _ => Tracked.leads_answer (Cursor.obeys_advanced h.serving hload t.cursor))
    (fun t _ => Tracked.leads_answer (Cursor.obeys_iterated h.serving hload t.cursor)) move

/-- What holds of a run holds after more moves, which lead the cursors further. -/
theorem sound_after {moves : List (Tree × Move)} (h : r.Sound outcome corpus)
    (hload : ∀ move ∈ moves, LoadsAs (corpus.load move.1) outcome corpus.names) :
    (r.after moves).Sound outcome corpus ∧ r.Extends Tracked.Leads (r.after moves) :=
  extends_after (Sound outcome corpus) Tracked.leads_refl (fun _ _ _ => Tracked.Leads.trans)
    (fun _ hr move hmove =>
      ⟨sound_step hr (hload move hmove) move.2, leads_step hr (hload move hmove) move.2⟩) h

end Run

/-! ## Runs of a closed reader -/

/-- The cursor has stayed where it was, and has said that the corpus is closed or that it is at its
end. -/
structure Tracked.Rests (t t' : Tracked) : Prop where
  /-- It is a cursor for the same query. -/
  source : t'.source = t.source
  /-- It is the same cursor. -/
  origin : t'.origin = t.origin
  /-- Its state is the same. -/
  state : t'.cursor.state = t.cursor.state
  /-- What is to come is the same. -/
  traversal : t'.cursor.traversal = t.cursor.traversal
  /-- What it has answered since. -/
  answers : t.Since t' (Answer.OfClosed t.cursor.state)

namespace Tracked

variable {t t' t'' : Tracked} {a : Advance Answer}

theorem rests_refl (t : Tracked) : t.Rests t :=
  ⟨rfl, rfl, rfl, rfl, since_refl t _⟩

theorem Rests.trans (h : t.Rests t') (h' : t'.Rests t'') : t.Rests t'' := by
  have hanswers := h'.answers
  rw [h.state] at hanswers
  exact ⟨h'.source.trans h.source, h'.origin.trans h.origin, h'.state.trans h.state,
    h'.traversal.trans h.traversal, h.answers.trans hanswers⟩

theorem rests_answer (h : t.cursor.Rests a) : t.Rests (t.answer a) :=
  ⟨rfl, rfl, h.state, h.traversal, since_answer h.answer⟩

end Tracked

namespace Run

variable [Regex.Engine] {r : Run} {tree : Tree}

/-- A closed reader stays closed. -/
theorem handle_step_of_none (h : r.handle = none) (tree : Tree) (move : Move) :
    (r.step tree move).handle = none := by
  apply handle_step (fun handle => handle = none) h rfl
  · intro c
    rw [h]
    exact (Cursor.rests_advanced tree c).corpus
  · intro c
    rw [h]
    exact (Cursor.rests_iterated tree c).corpus

/-- With a closed reader the cursors rest. -/
theorem rests_step (h : r.handle = none) (tree : Tree) (move : Move) :
    r.Extends Tracked.Rests (r.step tree move) := by
  refine extends_step Tracked.rests_refl ?_ ?_ move
  · intro t _
    rw [h]
    exact Tracked.rests_answer (Cursor.rests_advanced tree t.cursor)
  · intro t _
    rw [h]
    exact Tracked.rests_answer (Cursor.rests_iterated tree t.cursor)

theorem rests_after (h : r.handle = none) (moves : List (Tree × Move)) :
    (r.after moves).handle = none ∧ r.Extends Tracked.Rests (r.after moves) :=
  extends_after (fun r => r.handle = none) Tracked.rests_refl
    (fun _ _ _ => Tracked.Rests.trans)
    (fun _ hr move _ => ⟨handle_step_of_none hr move.1 move.2, rests_step hr move.1 move.2⟩) h

/-- Once the reader has been closed or dropped, there is no corpus. -/
theorem handle_after_of_ends {moves : List (Tree × Move)}
    (h : ∃ move ∈ moves, move.2.ends = true) (r : Run) : (r.after moves).handle = none := by
  obtain ⟨move, hmove, hends⟩ := h
  obtain ⟨before, later, rfl⟩ := List.append_of_mem hmove
  rw [after_append]
  exact (rests_after (handle_step_of_ends hends (r.after before) move.1) later).1

end Run

/-! ## All moves of a reader -/

namespace Run

/-- The life of the cursors of a reader, whatever is done with it and with them in whatever order,
while the outcomes of reading its entries stay the same.

Each cursor begins as created and never goes back; at its end it gives neither names nor errors,
whatever is done with the reader.  The names that it has given are different, are
in the order of the corpus, and are the first of those that it gives when it is drained alone, made
by a reader that has just been opened.  It has given at most one error other than that the corpus is
closed, and is at its end then.

From the first closing or dropping on, all cursors rest: advancing one that is not at its end is
always the error that the corpus is closed, advancing one at its end is neither a name nor an
error; iterating gives no name; and the state stays.  A closed reader keeps its name and refuses
everything else but to be closed again and to make a cursor through all names. -/
theorem cursors_lifecycle [Regex.Engine] {c : Corpus} (hopened : c.Opened)
    {outcome : String → Except Error String} {history : List (Tree × Move)}
    (hload : ∀ move ∈ history, LoadsAs (c.load move.1) outcome c.names) :
    let opened := Reader.ofCorpus c
    let run := fun moves => (start opened).after moves
    (∀ before later, history = before ++ later →
      (run before).Extends Tracked.Leads (run history)) ∧
    (∀ t ∈ (run history).cursors,
      opened.cursorFor t.source = .ok t.origin ∧ t.origin.state = .created ∧
      t.names.Nodup ∧ t.names.Sublist c.names ∧
      (∀ tree, LoadsAs (c.load tree) outcome c.names →
        t.names <+: namesOf (t.origin.drain tree opened.corpus).result) ∧
      t.failures.length ≤ 1 ∧ (t.failures ≠ [] → t.cursor.state = .exhausted)) ∧
    (∀ before later, history = before ++ later → (∃ move ∈ before, move.2.ends = true) →
      (run before).Extends Tracked.Rests (run history)) ∧
    (∀ reader, (run history).reader = some reader → reader.name = opened.name ∧
      ((∃ move ∈ history, move.2.ends = true) → reader.Refuses)) := by
  intro opened run
  have hkeeps := hopened.keeps outcome
  have hstart : (start opened).Sound outcome c := sound_start hkeeps
  obtain ⟨hsound, -⟩ := sound_after hstart hload
  refine ⟨?_, ?_, ?_, ?_⟩
  · rintro before later rfl
    rw [List.forall_mem_append] at hload
    obtain ⟨hbefore, -⟩ := sound_after hstart hload.1
    show (run before).Extends Tracked.Leads ((start opened).after (before ++ later))
    rw [after_append]
    exact (sound_after hbefore hload.2).2
  · intro t ht
    have hfollows := hsound.follows t ht
    have hfresh := Reader.fresh_of_cursorFor hfollows.made
    have hpending : t.names <+: namesOf (t.origin.pending outcome c) :=
      ⟨_, hfollows.names⟩
    have hsublist : t.names.Sublist c.names :=
      hpending.sublist.trans hfresh.namesOf_pending_sublist
    have hfailures := hfollows.failures
    refine ⟨hfollows.made, hfresh.state_eq, hopened.nodup.sublist hsublist, hsublist, ?_, ?_, ?_⟩
    · intro tree htree
      have hdrain : (t.origin.drain tree opened.corpus).result = t.origin.pending outcome c :=
        hfresh.drain_eq_pending hkeeps htree
      rw [hdrain]
      exact hpending
    · split at hfailures
      · exact hfailures
      · exact Nat.le_succ_of_le hfailures
    · intro hne
      by_contra hstate
      rw [if_neg hstate, Nat.le_zero, List.length_eq_zero_iff] at hfailures
      exact hne hfailures
  · rintro before later rfl hends
    show (run before).Extends Tracked.Rests ((start opened).after (before ++ later))
    rw [after_append]
    exact (rests_after (handle_after_of_ends hends (start opened)) later).2
  · intro reader hreader
    refine ⟨hsound.name reader hreader, ?_⟩
    intro hends
    have hnone : (run history).handle = none := handle_after_of_ends hends (start opened)
    apply Reader.refuses_of_closed
    simpa [handle, hreader] using hnone

end Run

/-! ## A reader of two files -/

/-- A directory of two files, as it is opened. -/
def wardBefore : Tree :=
  ((Tree.empty ["d"]).put ["d", "a"] (.file 0 [])).put ["d", "b"] (.file 1 [])

/-- The second file has been removed. -/
def wardTree : Tree := (Tree.empty ["d"]).put ["d", "a"] (.file 0 [])

/-- The corpus of the two files. -/
def ward : Corpus := .ofStore { extensions := [] } (.directory "/d" "/d" ["a", "b"])

theorem opened_ward : ward.Opened := by
  have hd : IsFileName "d" := ⟨by decide, by decide⟩
  have ha : IsFileName "a" := ⟨by decide, by decide⟩
  have hb : IsFileName "b" := ⟨by decide, by decide⟩
  have hsound : wardBefore.Sound :=
    ((Tree.sound_empty (by simp [hd])).put (by simp [hd, ha]) _).put (by simp [hd, hb]) _
  have hstore : Store.openAt wardBefore { extensions := [] } "/d" =
      .ok (.directory "/d" "/d" ["a", "b"]) := by cbv
  have hward : Corpus.openAt wardBefore { extensions := [] } "/d" = .ok ward := by
    rw [Corpus.openAt, hstore]
    rfl
  exact .place hsound hward

namespace Run

/-- Two cursors are made, one is advanced, and the reader is closed. -/
def wardOpen : List (Tree × Move) :=
  [.entries, .query "contains(text,'cat')", .advance 0, .close].map fun move => (wardTree, move)

/-- Both cursors are used afterwards, and the reader is closed once more. -/
def wardClosed : List (Tree × Move) :=
  [.advance 0, .next 1, .advance 1, .close].map fun move => (wardTree, move)

/-- The query of the second cursor. -/
def wardQuery : Compiled := .ofExpr "contains(text,'cat')" (.test ⟨.text, .contains "cat"⟩)

/-- A name that was given before closing stays the first of those that the cursor gives alone; after
closing both cursors rest, the one that has not been advanced as well. -/
theorem cursors_ward :
    let opened := Reader.ofCorpus ward
    let run := (start opened).after (wardOpen ++ wardClosed)
    ward.Opened ∧
    (∀ move ∈ wardOpen ++ wardClosed,
      LoadsAs (ward.load move.1) (ward.store.get wardTree) ward.names) ∧
    run.cursors.map (fun t => (t.source, t.cursor.state, t.answers)) =
      [(none, .active, [.advanced (.ok (some "a")), .advanced (.error .closed)]),
        (some wardQuery.source, .created,
          [.iterated (some (.error .closed)), .advanced (.error .closed)])] ∧
    ((start opened).after wardOpen).Extends Tracked.Rests run ∧
    (∀ t ∈ run.cursors,
      t.names <+: namesOf (t.origin.drain wardTree opened.corpus).result) ∧
    ∀ reader, run.reader = some reader → reader.Refuses := by
  intro opened run
  have hload : ∀ move ∈ wardOpen ++ wardClosed,
      LoadsAs (ward.load move.1) (ward.store.get wardTree) ward.names := by
    intro move hmove
    have htree : move.1 = wardTree := by
      rw [wardOpen, wardClosed, ← List.map_append] at hmove
      obtain ⟨_, -, rfl⟩ := List.mem_map.1 hmove
      rfl
    rw [htree]
    exact Corpus.loadsAs_get opened_ward.valid wardTree
  have hends : ∃ move ∈ wardOpen, move.2.ends = true :=
    ⟨(wardTree, .close), by simp [wardOpen], rfl⟩
  have hends' : ∃ move ∈ wardOpen ++ wardClosed, move.2.ends = true :=
    ⟨(wardTree, .close), by simp [wardOpen], rfl⟩
  obtain ⟨-, hcursors, hrests, hreader⟩ := cursors_lifecycle opened_ward hload
  refine ⟨opened_ward, hload, ?_, hrests wardOpen wardClosed rfl hends, ?_, ?_⟩
  · have hmade : (start opened).after (wardOpen.take 2) =
        ⟨some opened, [⟨none, .entries, .entries, []⟩,
          ⟨some wardQuery.source, .matching wardQuery, .matching wardQuery, []⟩]⟩ := rfl
    have hrun : run = ((start opened).after (wardOpen.take 2)).after
        (wardOpen.drop 2 ++ wardClosed) := rfl
    rw [hrun, hmade]
    cbv
  · intro t ht
    obtain ⟨-, -, -, -, hdrain, -⟩ := hcursors t ht
    exact hdrain wardTree (Corpus.loadsAs_get opened_ward.valid wardTree)
  · intro reader hr
    exact (hreader reader hr).2 hends'

end Run

end Concordance
