import Mathlib
import Concordance.Proofs.Corpus.Ahead
import Concordance.Proofs.Corpus.Lifecycle

/-!
# Iterating comes to an end

Two things end the iteration of a cursor: the cursor comes to its end, or it reports that the corpus
is closed, which leaves the cursor where it is.  Together they have iterating give some names, then
at most one error, and then nothing any more, at whatever time the reader is closed.

* `Cursor.Iterates` is one step of iterating, `Cursor.iterates_next` says that there is no other.
* `Tracked.Fused` is what holds of a cursor at any time; `Run.fusing_step` is one move and
  `Run.fusing_after` all of them.
* `Tracked.Silenced` says what becomes of a cursor after closing.
* `Run.iterating_is_fused` is the statement about all moves of a reader.
-/

namespace Concordance

namespace Cursor

variable {origin : Corpus} {handle : Handle} {c c' : Cursor}

/-! ## Steps of iterating -/

/-- Iterating is over. -/
def Finished (c : Cursor) : Prop := c.reported = true ∨ c.state = .exhausted

/-- One step of iterating a cursor whose corpus is as it is: its result, and the cursor
afterwards. -/
inductive Iterates (handle : Handle) (c : Cursor) : Option (Except Error String) → Cursor →
    Prop where
  /-- Nothing happens any more. -/
  | idle (h : c.Finished) : Iterates handle c none c
  /-- The cursor comes to its end. -/
  | ended {c' : Cursor} (hnot : ¬ c.Finished) (hstate : c'.state = .exhausted)
      (hreported : c'.reported = false) : Iterates handle c none c'
  /-- A name is given. -/
  | name {c' : Cursor} {name : String} (hnot : ¬ c.Finished) (hreported : c'.reported = false) :
      Iterates handle c (some (.ok name)) c'
  /-- The corpus is closed, which is reported. -/
  | closed {c' : Cursor} (hnot : ¬ c.Finished) (hhandle : handle = none)
      (hreported : c'.reported = true) : Iterates handle c (some (.error .closed)) c'
  /-- An entry cannot be read, and the cursor is at its end. -/
  | failed {c' : Cursor} {e : Error} (hnot : ¬ c.Finished) (he : e ≠ .closed)
      (hstate : c'.state = .exhausted) (hreported : c'.reported = false) :
      Iterates handle c (some (.error e)) c'

/-- A step after which the cursor has reported that the corpus is closed is the one that reports it,
or does nothing. -/
theorem Iterates.of_reported {result : Option (Except Error String)}
    (h : Iterates handle c result c') (hreported : c'.reported = true) :
    c' = c ∨ ¬ c.Finished ∧ handle = none := by
  cases h with
  | idle hfinished => exact .inl rfl
  | closed hnot hhandle _ => exact .inr ⟨hnot, hhandle⟩
  | ended hnot hstate hfalse => simp [hreported] at hfalse
  | name hnot hfalse => simp [hreported] at hfalse
  | failed hnot he hstate hfalse => simp [hreported] at hfalse

theorem next_of_finished (h : c.Finished) (tree : Tree) (handle : Handle) :
    c.next tree handle = ⟨none, [], c, handle⟩ := by
  rcases h with hreported | hstate
  · exact next_of_reported hreported tree handle
  · exact next_of_exhausted hstate tree handle

theorem iterates_next (hvalid : origin.index.names.Valid) (h : Growing origin handle)
    (tree : Tree) (c : Cursor) :
    Iterates handle c (c.next tree handle).result (c.next tree handle).cursor := by
  by_cases hfinished : c.Finished
  · rw [next_of_finished hfinished]
    exact .idle hfinished
  · have hnot := not_or.1 hfinished
    have hreported : (c.advance tree handle).cursor.reported = false := by
      rw [advance_reported]
      exact Bool.eq_false_iff.2 hnot.1
    unfold next
    rw [if_neg hnot.1]
    cases handle with
    | none =>
      rw [advance_closed, if_neg hnot.2]
      exact .closed hfinished rfl rfl
    | some now =>
      have hgrows := h now rfl
      obtain ⟨-, hproceeds⟩ := proceeds_advance (hgrows.remains.names ▸ hvalid) hgrows.kept tree c
      obtain ⟨hend, herror⟩ := hproceeds.exhausted
      dsimp only
      split
      next name hname => exact .name hfinished hreported
      next hnone => exact .ended hfinished (hend hnone) hreported
      next hclosed => exact absurd rfl (herror _ hclosed).1.ne_closed
      next e _ he => exact .failed hfinished (herror e he).1.ne_closed (herror e he).2 hreported

theorem growing_next (hvalid : origin.index.names.Valid) (h : Growing origin handle)
    (tree : Tree) (c : Cursor) : Growing origin (c.next tree handle).corpus := by
  by_cases hfinished : c.Finished
  · rw [next_of_finished hfinished]
    exact h
  · have hreported : c.reported = false := Bool.eq_false_iff.2 (not_or.1 hfinished).1
    rw [(next_of_not_reported hreported tree handle).1]
    exact growing_advance hvalid h tree c

theorem sublist_ahead_next (hvalid : origin.index.names.Valid) (h : Growing origin handle)
    (tree : Tree) (c : Cursor) :
    let a := c.next tree handle
    ((Answer.iterated a.result).name?.toList ++ a.cursor.ahead origin).Sublist
      (c.ahead origin) := by
  by_cases hfinished : c.Finished
  · rw [next_of_finished hfinished]
    exact .refl _
  · have hreported : c.reported = false := Bool.eq_false_iff.2 (not_or.1 hfinished).1
    obtain ⟨-, hstate, htraversal, -⟩ := next_of_not_reported hreported tree handle
    have hahead : (c.next tree handle).cursor.ahead origin =
        (c.advance tree handle).cursor.ahead origin := by
      rw [ahead, ahead, hstate, htraversal]
    dsimp only
    rw [hahead, (answer_next hreported tree handle).1]
    exact sublist_ahead_advance hvalid h tree c

theorem Finished.advance (h : c.Finished) (tree : Tree) (handle : Handle) :
    (c.advance tree handle).cursor.Finished := by
  rcases h with hreported | hstate
  · exact .inl ((advance_reported tree handle c).trans hreported)
  · rw [advance_of_exhausted hstate]
    exact .inr hstate

/-- Iterating a cursor of a closed corpus is over after one step. -/
theorem reported_next_closed (h : c.state ≠ .exhausted) (tree : Tree) :
    (c.next tree none).cursor.reported = true := by
  unfold next
  split
  next hreported => exact hreported
  · rw [advance_closed, if_neg h]

end Cursor

/-! ## Results of iterating -/

/-- The result, if the cursor was iterated. -/
def Answer.iterated? : Answer → Option (Option (Except Error String))
  | .advanced _ => none
  | .iterated result => some result

/-- Names, then perhaps an error, then nothing any more. -/
def inTurn (names : List String) (failure : Option Error) (rest : Nat) :
    List (Option (Except Error String)) :=
  names.map (some ∘ .ok) ++ failure.toList.map (some ∘ .error) ++ .replicate rest none

theorem inTurn_name (names : List String) (name : String) :
    inTurn (names ++ [name]) none 0 = inTurn names none 0 ++ [some (.ok name)] := by
  simp [inTurn]

theorem inTurn_failure (names : List String) (e : Error) :
    inTurn names (some e) 0 = inTurn names none 0 ++ [some (.error e)] := by
  simp [inTurn]

theorem inTurn_nothing (names : List String) (failure : Option Error) (rest : Nat) :
    inTurn names failure (rest + 1) = inTurn names failure rest ++ [none] := by
  rw [inTurn, inTurn, List.replicate_succ', List.append_assoc _ _ [none]]

theorem length_inTurn (names : List String) (failure : Option Error) (rest : Nat) :
    (inTurn names failure rest).length = names.length + failure.toList.length + rest := by
  simp only [inTurn, List.length_append, List.length_map, List.length_replicate]

namespace Tracked

/-- What iterating the cursor has given, step by step. -/
def results (t : Tracked) : List (Option (Except Error String)) :=
  t.answers.filterMap Answer.iterated?

theorem results_answer (t : Tracked) (a : Advance Answer) :
    (t.answer a).results = t.results ++ a.result.iterated?.toList := by
  rw [results, answer, List.filterMap_append]
  cases h : a.result.iterated? <;> simp [results, h]

/-- What holds of a cursor at any time, as far as iterating it goes. -/
structure Fused (origin : Corpus) (t : Tracked) : Prop where
  /-- The names given and the names ahead are names of the corpus, in their order. -/
  ahead : (t.names ++ t.cursor.ahead origin).Sublist origin.names
  /-- Iterating has given names, then perhaps an error, then nothing.  The error is that the corpus
  is closed if and only if the cursor has reported that, and with anything else than a name
  iterating is over. -/
  results : ∃ names failure rest, t.results = inTurn names failure rest ∧ names.Sublist t.names ∧
    (failure = some .closed ↔ t.cursor.reported = true) ∧
    (t.cursor.Finished ∨ failure = none ∧ rest = 0)

variable {origin : Corpus} {handle : Handle} {t : Tracked}

theorem fused_of_cursorFor [Regex.Engine] {r : Reader} {source : Option String} {c : Cursor}
    (h : r.cursorFor source = .ok c) : Fused origin ⟨source, c, c, []⟩ := by
  have hfresh := Reader.fresh_of_cursorFor h
  refine ⟨?_, [], none, 0, rfl, .refl _, ?_, .inr ⟨rfl, rfl⟩⟩
  · cases hfresh <;> exact .refl _
  · exact iff_of_false nofun (by simp [hfresh.reported_eq])

/-- A name that is given was ahead. -/
theorem Fused.sublist_answer (ht : t.Fused origin) {a : Advance Answer}
    (ha : (a.result.name?.toList ++ a.cursor.ahead origin).Sublist (t.cursor.ahead origin)) :
    ((t.answer a).names ++ (t.answer a).cursor.ahead origin).Sublist origin.names := by
  rw [names_answer, List.append_assoc]
  exact (ha.append_left t.names).trans ht.ahead

theorem Fused.advanced (hvalid : origin.index.names.Valid) (h : Growing origin handle)
    (ht : t.Fused origin) (tree : Tree) :
    (t.answer (t.cursor.advanced tree handle)).Fused origin := by
  obtain ⟨names, failure, rest, hresults, hnames, hclosed, hfinished⟩ := ht.results
  refine ⟨ht.sublist_answer (Cursor.sublist_ahead_advance hvalid h tree t.cursor),
    names, failure, rest, ?_, ?_, ?_, ?_⟩
  · rw [results_answer, hresults]
    exact List.append_nil _
  · rw [names_answer]
    exact hnames.trans (List.sublist_append_left _ _)
  · rw [hclosed, ← Cursor.advance_reported tree handle t.cursor]
    rfl
  · exact hfinished.imp (fun hfinished => hfinished.advance tree handle) id

theorem Fused.iterated (hvalid : origin.index.names.Valid) (h : Growing origin handle)
    (ht : t.Fused origin) (tree : Tree) :
    (t.answer (t.cursor.iterated tree handle)).Fused origin := by
  obtain ⟨names, failure, rest, hresults, hnames, hclosed, hfinished⟩ := ht.results
  refine ⟨ht.sublist_answer (Cursor.sublist_ahead_next hvalid h tree t.cursor), ?_⟩
  have hresults' : (t.answer (t.cursor.iterated tree handle)).results =
      inTurn names failure rest ++ [(t.cursor.next tree handle).result] := by
    rw [results_answer, hresults]
    rfl
  rw [hresults', names_answer]
  have hcursor : (t.answer (t.cursor.iterated tree handle)).cursor =
      (t.cursor.next tree handle).cursor := rfl
  have hname? : (t.cursor.iterated tree handle).result.name? =
      (Answer.iterated (t.cursor.next tree handle).result).name? := rfl
  rw [hcursor, hname?]
  have hmore : ∀ given, names.Sublist (t.names ++ given) := fun given =>
    hnames.trans (List.sublist_append_left _ _)
  have hiterates := Cursor.iterates_next hvalid h tree t.cursor
  generalize (t.cursor.next tree handle).result = result at hiterates ⊢
  generalize (t.cursor.next tree handle).cursor = c' at hiterates ⊢
  cases hiterates with
  | idle hidle =>
    exact ⟨names, failure, rest + 1, (inTurn_nothing _ _ _).symm, hmore _, hclosed, .inl hidle⟩
  | ended hnot hstate hreported =>
    obtain ⟨rfl, rfl⟩ := hfinished.resolve_left hnot
    refine ⟨names, none, 1, (inTurn_nothing _ _ _).symm, hmore _, ?_, .inl (.inr hstate)⟩
    exact iff_of_false nofun (by simp [hreported])
  | @name _ name hnot hreported =>
    obtain ⟨rfl, rfl⟩ := hfinished.resolve_left hnot
    refine ⟨names ++ [name], none, 0, (inTurn_name _ _).symm, ?_, ?_, .inr ⟨rfl, rfl⟩⟩
    · exact hnames.append (.refl _)
    · exact iff_of_false nofun (by simp [hreported])
  | closed hnot hhandle hreported =>
    obtain ⟨rfl, rfl⟩ := hfinished.resolve_left hnot
    refine ⟨names, some .closed, 0, (inTurn_failure _ _).symm, hmore _, ?_, .inl (.inl hreported)⟩
    exact iff_of_true rfl hreported
  | @failed _ e hnot he hstate hreported =>
    obtain ⟨rfl, rfl⟩ := hfinished.resolve_left hnot
    refine ⟨names, some e, 0, (inTurn_failure _ _).symm, hmore _, ?_, .inl (.inr hstate)⟩
    exact iff_of_false (fun h => he (Option.some.inj h)) (by simp [hreported])

theorem length_results_advanced (t : Tracked) (tree : Tree) (handle : Handle) :
    (t.answer (t.cursor.advanced tree handle)).results.length = t.results.length := by
  rw [results_answer, List.length_append]
  rfl

theorem length_results_iterated (t : Tracked) (tree : Tree) (handle : Handle) :
    (t.answer (t.cursor.iterated tree handle)).results.length = t.results.length + 1 := by
  rw [results_answer, List.length_append]
  rfl

/-! ## Closing -/

/-- What becomes of a cursor of a closed corpus: it stays where it was, and if it was not at its end
and has been iterated, it has reported that the corpus is closed. -/
structure Silenced (t t' : Tracked) : Prop where
  /-- Its state is the same. -/
  state : t'.cursor.state = t.cursor.state
  /-- What it has reported stays reported. -/
  reported : t.cursor.reported = true → t'.cursor.reported = true
  /-- If it has been iterated since, it has reported. -/
  iterated : t.cursor.state ≠ .exhausted → t.results.length < t'.results.length →
    t'.cursor.reported = true

variable {t' t'' : Tracked}

theorem silenced_refl (t : Tracked) : t.Silenced t :=
  ⟨rfl, id, fun _ h => absurd h (lt_irrefl _)⟩

theorem Silenced.trans (h : t.Silenced t') (h' : t'.Silenced t'') : t.Silenced t'' := by
  refine ⟨h'.state.trans h.state, h'.reported ∘ h.reported, ?_⟩
  intro hstate hlength
  by_cases hearly : t.results.length < t'.results.length
  · exact h'.reported (h.iterated hstate hearly)
  · exact h'.iterated (h.state ▸ hstate) (by omega)

theorem silenced_advanced (t : Tracked) (tree : Tree) :
    t.Silenced (t.answer (t.cursor.advanced tree none)) := by
  refine ⟨(Cursor.rests_advanced tree t.cursor).state, ?_, ?_⟩
  · exact (Cursor.advance_reported tree none t.cursor).trans
  · rw [length_results_advanced]
    exact fun _ h => absurd h (lt_irrefl _)

theorem silenced_iterated (t : Tracked) (tree : Tree) :
    t.Silenced (t.answer (t.cursor.iterated tree none)) := by
  refine ⟨(Cursor.rests_iterated tree t.cursor).state, ?_, ?_⟩
  · intro hreported
    show (t.cursor.next tree none).cursor.reported = true
    rw [Cursor.next_of_reported hreported]
    exact hreported
  · intro hstate _
    exact Cursor.reported_next_closed hstate tree

end Tracked

/-! ## Runs -/

namespace Run

variable {origin : Corpus} {r : Run}

/-- What holds of every run of a reader, whatever becomes of the files. -/
structure Fusing (origin : Corpus) (r : Run) : Prop where
  /-- The corpus is closed, or it is what it was. -/
  growing : Growing origin r.handle
  /-- What the cursors have given is in turn. -/
  fused : ∀ t ∈ r.cursors, t.Fused origin

theorem fusing_start (h : origin.index.Kept) : (start (.ofCorpus origin)).Fusing origin := by
  refine ⟨?_, ?_⟩
  · intro now hnow
    cases hnow
    exact Corpus.grows_refl h
  · intro t ht
    exact absurd ht List.not_mem_nil

section

variable [Regex.Engine]

theorem fusing_step (hvalid : origin.index.names.Valid) (h : r.Fusing origin) (tree : Tree)
    (move : Move) : (r.step tree move).Fusing origin := by
  refine ⟨?_, ?_⟩
  · exact handle_step (Growing origin) h.growing nofun
      (Cursor.growing_advance hvalid h.growing tree)
      (Cursor.growing_next hvalid h.growing tree) move
  · intro t ht
    obtain ⟨i, hi⟩ := List.getElem?_of_mem ht
    cases stepped_of_getElem? hi with
    | kept hold => exact h.fused t (List.mem_of_getElem? hold)
    | made hnew hmade => exact Tracked.fused_of_cursorFor hmade
    | advanced hold => exact (h.fused _ (List.mem_of_getElem? hold)).advanced hvalid h.growing tree
    | iterated hold => exact (h.fused _ (List.mem_of_getElem? hold)).iterated hvalid h.growing tree

theorem fusing_after (hvalid : origin.index.names.Valid) (h : r.Fusing origin)
    (moves : List (Tree × Move)) : (r.after moves).Fusing origin := by
  induction moves generalizing r with
  | nil => exact h
  | cons move rest ih => exact ih (fusing_step hvalid h move.1 move.2)

/-- After closing, the cursors are silenced. -/
theorem silenced_after (h : r.handle = none) (moves : List (Tree × Move)) :
    r.Extends Tracked.Silenced (r.after moves) := by
  refine (extends_after (fun r => r.handle = none) Tracked.silenced_refl
    (fun _ _ _ => Tracked.Silenced.trans) ?_ h).2
  intro r hr move _
  refine ⟨handle_step_of_none hr move.1 move.2, extends_step Tracked.silenced_refl ?_ ?_ move.2⟩
  · intro t _
    rw [hr]
    exact t.silenced_advanced move.1
  · intro t _
    rw [hr]
    exact t.silenced_iterated move.1

/-- A cursor that has reported that the corpus is closed was iterated after the corpus was closed
and before it came to its end. -/
theorem exists_closed_of_reported (hvalid : origin.index.names.Valid) (h : r.Fusing origin)
    (history : List (Tree × Move)) (hnew : r.cursors = []) {i : Nat} {t : Tracked}
    (ht : (r.after history).cursors[i]? = some t) (hreported : t.cursor.reported = true) :
    ∃ before later u, history = before ++ later ∧ (r.after before).handle = none ∧
      (r.after before).cursors[i]? = some u ∧ u.cursor.state ≠ .exhausted ∧
      u.results.length < t.results.length := by
  induction history using List.reverseRecOn generalizing t with
  | nil =>
    rw [after, List.foldl_nil, hnew] at ht
    cases ht
  | append_singleton front move ih =>
    rw [after_append] at ht
    have hfusing := fusing_after hvalid h front
    have hearlier : ∀ {u : Tracked}, (r.after front).cursors[i]? = some u →
        u.cursor.reported = true → u.results.length ≤ t.results.length →
        ∃ before later u, front ++ [move] = before ++ later ∧ (r.after before).handle = none ∧
          (r.after before).cursors[i]? = some u ∧ u.cursor.state ≠ .exhausted ∧
          u.results.length < t.results.length := by
      intro u hu hu' hlength
      obtain ⟨before, later, v, rfl, hclosed, hv, hstate, hlt⟩ := ih hu hu'
      exact ⟨before, later ++ [move], v, List.append_assoc _ _ _, hclosed, hv, hstate,
        hlt.trans_le hlength⟩
    cases stepped_of_getElem? ht with
    | kept hold => exact hearlier hold hreported le_rfl
    | made hnew hmade =>
      rw [(Reader.fresh_of_cursorFor hmade).reported_eq] at hreported
      cases hreported
    | @advanced u hold =>
      have hold' := (Cursor.advance_reported move.1 (r.after front).handle u.cursor).symm.trans
        hreported
      exact hearlier hold hold' (u.length_results_advanced _ _).ge
    | @iterated u hold =>
      have hlength := u.length_results_iterated move.1 (r.after front).handle
      have hiterates := Cursor.iterates_next hvalid hfusing.growing move.1 u.cursor
      rcases hiterates.of_reported hreported with hsame | ⟨hnot, hclosed⟩
      · have hold' : u.cursor.reported = true := hsame ▸ hreported
        exact hearlier hold hold' (by omega)
      · exact ⟨front, [move], u, rfl, hclosed, hold, (not_or.1 hnot).2, by omega⟩

/-- What iterating a cursor gives, whatever is done with its reader and with other cursors, in
whatever order, and whatever becomes of the files.

There are some names of the corpus in their order, then at most one error, and then nothing any
more; of as many steps as there are entries and two more, the last gives nothing.  The error is
that the corpus is closed if and only if there was a time at which the corpus was closed and the
cursor was not at its end, and the cursor has been iterated since. -/
theorem iterating_is_fused {c : Corpus} (hopened : c.Opened) (history : List (Tree × Move)) :
    let run : List (Tree × Move) → Run := fun moves => (start (.ofCorpus c)).after moves
    ∀ (i : Nat) (t : Tracked), (run history).cursors[i]? = some t →
      ∃ (names : List String) (failure : Option Error) (rest : Nat),
        t.results = inTurn names failure rest ∧ names.Sublist c.names ∧
        (c.size + 2 ≤ t.results.length → 0 < rest) ∧
        (failure = some .closed ↔ ∃ (before later : List (Tree × Move)) (u : Tracked),
          history = before ++ later ∧ (run before).handle = none ∧
          (run before).cursors[i]? = some u ∧ u.cursor.state ≠ .exhausted ∧
          u.results.length < t.results.length) := by
  intro run i t ht
  have hstart : (start (.ofCorpus c)).Fusing c :=
    fusing_start ⟨c.store.get (.empty []), hopened.keeps _⟩
  have hfused := (fusing_after hopened.valid hstart history).fused t (List.mem_of_getElem? ht)
  obtain ⟨names, failure, rest, hresults, hnames, hclosed, -⟩ := hfused.results
  have hsublist : names.Sublist c.names :=
    hnames.trans ((List.sublist_append_left _ _).trans hfused.ahead)
  refine ⟨names, failure, rest, hresults, hsublist, ?_, ?_⟩
  · intro hlong
    have hone : failure.toList.length ≤ 1 := Option.length_toList_le
    have hsize : names.length ≤ c.size := hsublist.length_le
    rw [hresults, length_inTurn] at hlong
    omega
  · rw [hclosed]
    constructor
    · intro hreported
      exact exists_closed_of_reported hopened.valid hstart history rfl ht hreported
    · rintro ⟨before, later, u, rfl, hnone, hu, hstate, hlt⟩
      obtain ⟨t', ht', hsilenced⟩ := silenced_after hnone later i u hu
      have heq : (run before).after later = run (before ++ later) := (after_append _ _ _).symm
      rw [heq, ht] at ht'
      cases ht'
      exact hsilenced.iterated hstate hlt

end

/-- Two cursors are made. -/
def wardMade : List (Tree × Move) :=
  [.entries, .query "contains(text,'cat')"].map fun move => (wardTree, move)

/-- One is iterated, the reader is closed, and both are iterated. -/
def wardIterated : List (Tree × Move) :=
  [.next 0, .close, .next 0, .next 1, .next 1].map fun move => (wardTree, move)

/-- Both cursors report once that the corpus is closed, the one that has given a name and the one
that has not been iterated before. -/
theorem iterating_ward :
    let run := (start (.ofCorpus ward)).after (wardMade ++ wardIterated)
    ward.Opened ∧
      run.cursors.map Tracked.results =
        [inTurn ["a"] (some .closed) 0, inTurn [] (some .closed) 1] ∧
      ∃ t, run.cursors[1]? = some t ∧ ∃ names failure rest,
        t.results = inTurn names failure rest ∧ names.Sublist ward.names := by
  intro run
  have hresults : run.cursors.map Tracked.results =
      [inTurn ["a"] (some .closed) 0, inTurn [] (some .closed) 1] := by
    have hmade : (start (.ofCorpus ward)).after wardMade =
        ⟨some (.ofCorpus ward), [⟨none, .entries, .entries, []⟩,
          ⟨some wardQuery.source, .matching wardQuery, .matching wardQuery, []⟩]⟩ := rfl
    have hrun : run = ((start (.ofCorpus ward)).after wardMade).after wardIterated :=
      after_append _ _ _
    rw [hrun, hmade]
    cbv
  have hsecond : (run.cursors.map Tracked.results)[1]? = some (inTurn [] (some .closed) 1) := by
    rw [hresults]
    rfl
  rw [List.getElem?_map] at hsecond
  obtain ⟨t, ht, -⟩ := Option.map_eq_some_iff.1 hsecond
  obtain ⟨names, failure, rest, hturn, hnames, -⟩ :=
    iterating_is_fused opened_ward (wardMade ++ wardIterated) 1 t ht
  exact ⟨opened_ward, hresults, t, ht, names, failure, rest, hturn, hnames⟩

end Run

end Concordance
