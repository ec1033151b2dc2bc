import Mathlib
import Concordance.Proofs.Corpus.Answers

/-!
# Moves of a reader and its cursors

A reader makes any number of cursors, which are advanced and iterated in any order, while entries
are read and until the reader is closed or dropped.

* `Reader.Refuses` is what a closed reader does.
* `Move` is what can be done with a reader and its cursors, `Run.after` what becomes of them.
* `Run.handle_step` is about what becomes of the corpus by a move, `Run.Stepped` lists what may
  become of a cursor.
* `Run.Extends` relates each cursor to what becomes of it; `Run.extends_after` goes from one move
  to all of them.
-/

namespace Concordance

/-! ## Readers -/

namespace Reader

variable [Regex.Engine] {r : Reader} {corpus : Corpus} {source : Option String} {c : Cursor}

/-- Makes a cursor: for a query, or through all names. -/
def cursorFor (r : Reader) : Option String → Except Error Cursor
  | none => .ok r.entries
  | some source => r.query source

theorem query_eq_ok_iff {source : String} : r.query source = .ok c ↔
    (∃ corpus, r.opened = .ok corpus) ∧
      ∃ query, checkQuery source = .ok query ∧ .matching query = c := by
  constructor
  · intro h
    obtain ⟨corpus, hopened, hquery⟩ := bind_eq_ok_iff.1 h
    obtain ⟨query, hcheck, hc⟩ := bind_eq_ok_iff.1 hquery
    exact ⟨⟨corpus, hopened⟩, query, hcheck, Except.ok.inj hc⟩
  · rintro ⟨⟨corpus, hopened⟩, query, hcheck, rfl⟩
    exact bind_eq_ok_iff.2 ⟨corpus, hopened, bind_eq_ok_iff.2 ⟨query, hcheck, rfl⟩⟩

/-- A cursor starts out the same, whatever its reader has done before. -/
theorem cursorFor_ofCorpus (h : r.cursorFor source = .ok c) :
    (ofCorpus corpus).cursorFor source = .ok c := by
  cases source with
  | none => exact h
  | some source =>
    obtain ⟨-, query, hcheck, rfl⟩ := query_eq_ok_iff.1 h
    exact query_eq_ok_iff.2 ⟨⟨corpus, rfl⟩, query, hcheck, rfl⟩

theorem fresh_of_cursorFor (h : r.cursorFor source = .ok c) : c.Fresh := by
  cases source with
  | none =>
    cases h
    exact .entries
  | some source =>
    obtain ⟨-, query, -, rfl⟩ := query_eq_ok_iff.1 h
    exact .matching query

/-- Nothing can be done with the reader, because it is closed. -/
structure Refuses (r : Reader) : Prop where
  /-- It says that it is closed. -/
  isClosed : r.isClosed = true
  /-- No entry can be read. -/
  read : ∀ tree name, r.read tree name = .fail .closed
  /-- No entry can be marked, whatever the markers are. -/
  readMarked : ∀ tree name markers, r.readMarked tree name markers = .fail .closed
  /-- There is no entry. -/
  entry : ∀ tree name, r.entry tree name = .fail .closed
  /-- There is no cursor for a query, whatever its text is. -/
  query : ∀ source, r.query source = .error .closed
  /-- There is no number of entries. -/
  size : r.size = .error .closed
  /-- Nor can it be said whether there are entries. -/
  isEmpty : r.isEmpty = .error .closed

theorem refuses_of_closed (h : r.corpus = none) : r.Refuses := by
  obtain ⟨name, corpus⟩ := r
  cases h
  exact ⟨rfl, fun _ _ => rfl, fun _ _ _ => rfl, fun _ _ => rfl, fun _ => rfl, rfl, rfl⟩

end Reader

/-! ## Moves -/

/-- A cursor with what is known of its life. -/
structure Tracked where
  /-- The query it was made for, if it does not go through all names. -/
  source : Option String
  /-- The cursor as it was made. -/
  origin : Cursor
  /-- The cursor as it is now. -/
  cursor : Cursor
  /-- What it has answered so far. -/
  answers : List Answer

namespace Tracked

/-- The cursor after one more answer. -/
def answer (t : Tracked) (a : Advance Answer) : Tracked :=
  { t with cursor := a.cursor, answers := t.answers ++ [a.result] }

/-- The names that the cursor has given. -/
def names (t : Tracked) : List String := t.answers.filterMap Answer.name?

/-- The errors that the cursor has given, other than that the corpus is closed. -/
def failures (t : Tracked) : List Error := t.answers.filterMap Answer.failure?

/-- What holds of each answer given since. -/
def Since (t t' : Tracked) (holds : Answer → Prop) : Prop :=
  ∃ more, t'.answers = t.answers ++ more ∧ ∀ answer ∈ more, holds answer

variable {t t' t'' : Tracked} {holds : Answer → Prop}

theorem since_refl (t : Tracked) (holds : Answer → Prop) : t.Since t holds :=
  ⟨[], (List.append_nil _).symm, nofun⟩

theorem Since.trans (h : t.Since t' holds) (h' : t'.Since t'' holds) : t.Since t'' holds := by
  obtain ⟨more, hmore, hholds⟩ := h
  obtain ⟨more', hmore', hholds'⟩ := h'
  refine ⟨more ++ more', ?_, List.forall_mem_append.2 ⟨hholds, hholds'⟩⟩
  rw [hmore', hmore, List.append_assoc]

theorem since_answer {a : Advance Answer} (h : holds a.result) : t.Since (t.answer a) holds := by
  refine ⟨[a.result], rfl, ?_⟩
  intro answer hanswer
  obtain rfl := List.mem_singleton.1 hanswer
  exact h

@[simp] theorem names_answer (t : Tracked) (a : Advance Answer) :
    (t.answer a).names = t.names ++ a.result.name?.toList := by
  rw [names, answer, List.filterMap_append]
  cases h : a.result.name? <;> simp [names, h]

@[simp] theorem failures_answer (t : Tracked) (a : Advance Answer) :
    (t.answer a).failures = t.failures ++ a.result.failure?.toList := by
  rw [failures, answer, List.filterMap_append]
  cases h : a.result.failure? <;> simp [failures, h]

end Tracked

/-- A reader with its cursors. -/
structure Run where
  /-- The reader, unless it has been dropped. -/
  reader : Option Reader
  /-- The cursors in the order in which they were made. -/
  cursors : List Tracked

/-- Something that is done with a reader or one of its cursors. -/
inductive Move where
  /-- A cursor through all names is made. -/
  | entries
  /-- A cursor for a query is made. -/
  | query (source : String)
  /-- The cursor with a number is advanced. -/
  | advance (i : Nat)
  /-- The cursor with a number iterates one step. -/
  | next (i : Nat)
  /-- An entry is read. -/
  | read (name : String)
  /-- An entry is read and marked. -/
  | readMarked (name : String) (markers : List Marker)
  /-- An entry is read with its name. -/
  | entry (name : String)
  /-- The reader is closed. -/
  | close
  /-- The reader is dropped. -/
  | drop

/-- Does the move end the access to the corpus? -/
def Move.ends : Move → Bool
  | .close => true
  | .drop => true
  | _ => false

namespace Run

/-- A reader without cursors. -/
def start (reader : Reader) : Run := ⟨some reader, []⟩

/-- The corpus, as cursors find it. -/
def handle (r : Run) : Handle := r.reader.bind Reader.corpus

/-- Keeps the corpus as it has become. -/
def keep (r : Run) (corpus : Handle) : Run :=
  { r with reader := r.reader.map fun reader => { reader with corpus } }

/-- Takes a step with the cursor with a number. -/
def touch (r : Run) (i : Nat) (move : Handle → Cursor → Advance Answer) : Run :=
  match r.cursors[i]? with
  | none => r
  | some t =>
    let a := move r.handle t.cursor
    { r.keep a.corpus with cursors := r.cursors.set i (t.answer a) }

variable {r later : Run} {tree : Tree}

/-- What is kept is there, unless the reader has been dropped. -/
theorem handle_keep (r : Run) (corpus : Handle) :
    (r.keep corpus).handle = corpus ∨ (r.keep corpus).handle = none := by
  cases hreader : r.reader with
  | none =>
    right
    simp [handle, keep, hreader]
  | some reader =>
    left
    simp [handle, keep, hreader]

theorem handle_touch (holds : Handle → Prop) (h : holds r.handle) (hnone : holds none)
    {move : Handle → Cursor → Advance Answer}
    (hmove : ∀ c : Cursor, holds (move r.handle c).corpus) (i : Nat) :
    holds (r.touch i move).handle := by
  unfold touch
  split
  · exact h
  next t ht =>
    show holds (r.keep (move r.handle t.cursor).corpus).handle
    rcases r.handle_keep (move r.handle t.cursor).corpus with hkeep | hkeep
    · rw [hkeep]
      exact hmove t.cursor
    · rw [hkeep]
      exact hnone

theorem exists_reader_of_touch {move : Handle → Cursor → Advance Answer} {i : Nat} {reader : Reader}
    (h : (r.touch i move).reader = some reader) :
    ∃ before, r.reader = some before ∧ reader.name = before.name := by
  unfold touch at h
  split at h
  · exact ⟨reader, h, rfl⟩
  · obtain ⟨before, hbefore, rfl⟩ := Option.map_eq_some_iff.1 h
    exact ⟨before, hbefore, rfl⟩

theorem eq_or_eq_answer_of_touch {move : Handle → Cursor → Advance Answer} {i j : Nat} {t : Tracked}
    (h : (r.touch j move).cursors[i]? = some t) :
    r.cursors[i]? = some t ∨
      ∃ u, r.cursors[i]? = some u ∧ t = u.answer (move r.handle u.cursor) := by
  unfold touch at h
  split at h
  · exact .inl h
  next u hu =>
    dsimp only at h
    by_cases hij : j = i
    · subst hij
      rw [List.getElem?_set_self (List.getElem?_eq_some_iff.1 hu).1] at h
      cases h
      exact .inr ⟨u, hu, rfl⟩
    · rw [List.getElem?_set_ne hij] at h
      exact .inl h

/-- Each cursor is still there, under its number, and related to what it was. -/
def Extends (related : Tracked → Tracked → Prop) (r later : Run) : Prop :=
  ∀ (i : Nat) (t : Tracked), r.cursors[i]? = some t →
    ∃ t', later.cursors[i]? = some t' ∧ related t t'

variable {related : Tracked → Tracked → Prop}

theorem extends_of_cursors_eq (hrefl : ∀ t, related t t) (h : later.cursors = r.cursors) :
    r.Extends related later := by
  intro i t ht
  rw [h]
  exact ⟨t, ht, hrefl t⟩

theorem Extends.trans {last : Run} (htrans : ∀ t u v, related t u → related u v → related t v)
    (h : r.Extends related later) (h' : later.Extends related last) : r.Extends related last := by
  intro i t ht
  obtain ⟨u, hu, htu⟩ := h i t ht
  obtain ⟨v, hv, huv⟩ := h' i u hu
  exact ⟨v, hv, htrans t u v htu huv⟩

theorem extends_touch {move : Handle → Cursor → Advance Answer} (hrefl : ∀ t, related t t)
    (h : ∀ t ∈ r.cursors, related t (t.answer (move r.handle t.cursor))) (i : Nat) :
    r.Extends related (r.touch i move) := by
  unfold touch
  split
  · exact extends_of_cursors_eq hrefl rfl
  next t ht =>
    intro j u hu
    have hj := (List.getElem?_eq_some_iff.1 hu).1
    dsimp only
    by_cases hij : i = j
    · subst hij
      obtain rfl : t = u := Option.some.inj (ht.symm.trans hu)
      exact ⟨_, List.getElem?_set_self hj, h t (List.mem_of_getElem? hu)⟩
    · refine ⟨u, ?_, hrefl u⟩
      rw [List.getElem?_set_ne hij, hu]

/-! ## What moves do -/

variable [Regex.Engine]

/-- Makes a cursor, if the reader can. -/
def make (r : Run) (source : Option String) : Run :=
  match r.reader with
  | none => r
  | some reader =>
    match reader.cursorFor source with
    | .ok c => { r with cursors := r.cursors ++ [⟨source, c, c, []⟩] }
    | .error _ => r

/-- What becomes of a reader and its cursors by a move.  Reading leaves them as they are. -/
def step (r : Run) (tree : Tree) : Move → Run
  | .entries => r.make none
  | .query source => r.make (some source)
  | .advance i => r.touch i fun corpus c => c.advanced tree corpus
  | .next i => r.touch i fun corpus c => c.iterated tree corpus
  | .read _ => r
  | .readMarked _ _ => r
  | .entry _ => r
  | .close => { r with reader := r.reader.map Reader.close }
  | .drop => { r with reader := none }

/-- What becomes of them by some moves, each with the files at that time. -/
def after (r : Run) (moves : List (Tree × Move)) : Run :=
  moves.foldl (fun r move => r.step move.1 move.2) r

theorem after_append (r : Run) (moves more : List (Tree × Move)) :
    r.after (moves ++ more) = (r.after moves).after more := List.foldl_append

/-! ## What becomes of the corpus -/

theorem reader_make (r : Run) (source : Option String) : (r.make source).reader = r.reader := by
  unfold make
  split
  · rfl
  · split <;> rfl

theorem handle_make (r : Run) (source : Option String) : (r.make source).handle = r.handle := by
  rw [handle, reader_make]
  rfl

theorem handle_step_of_ends {move : Move} (h : move.ends = true) (r : Run) (tree : Tree) :
    (r.step tree move).handle = none := by
  cases move with
  | close => cases hreader : r.reader <;> simp [step, handle, hreader, Reader.close]
  | drop => rfl
  | _ => cases h

/-- What steps of cursors keep of the corpus, a move keeps, unless it closes the reader. -/
theorem handle_step (holds : Handle → Prop) (h : holds r.handle) (hnone : holds none)
    (hadvanced : ∀ c : Cursor, holds (c.advanced tree r.handle).corpus)
    (hiterated : ∀ c : Cursor, holds (c.iterated tree r.handle).corpus) (move : Move) :
    holds (r.step tree move).handle := by
  cases move with
  | entries =>
    show holds (r.make none).handle
    rw [handle_make]
    exact h
  | query source =>
    show holds (r.make (some source)).handle
    rw [handle_make]
    exact h
  | advance i => exact handle_touch holds h hnone hadvanced i
  | next i => exact handle_touch holds h hnone hiterated i
  | read name => exact h
  | readMarked name markers => exact h
  | entry name => exact h
  | close =>
    rw [handle_step_of_ends rfl]
    exact hnone
  | drop =>
    rw [handle_step_of_ends rfl]
    exact hnone

/-- A reader keeps its name. -/
theorem exists_reader_of_step {move : Move} {reader : Reader}
    (h : (r.step tree move).reader = some reader) :
    ∃ before, r.reader = some before ∧ reader.name = before.name := by
  cases move with
  | entries => exact ⟨reader, (reader_make r none).symm.trans h, rfl⟩
  | query source => exact ⟨reader, (reader_make r (some source)).symm.trans h, rfl⟩
  | advance i => exact exists_reader_of_touch h
  | next i => exact exists_reader_of_touch h
  | read name => exact ⟨reader, h, rfl⟩
  | readMarked name markers => exact ⟨reader, h, rfl⟩
  | entry name => exact ⟨reader, h, rfl⟩
  | close =>
    obtain ⟨before, hbefore, rfl⟩ := Option.map_eq_some_iff.1 h
    exact ⟨before, hbefore, rfl⟩
  | drop => cases h

/-! ## What becomes of each cursor -/

/-- What a move makes of the cursor with a number. -/
inductive Stepped (r : Run) (tree : Tree) (i : Nat) : Tracked → Prop where
  /-- It leaves the cursor as it was. -/
  | kept {t : Tracked} (h : r.cursors[i]? = some t) : Stepped r tree i t
  /-- It makes the cursor. -/
  | made {reader : Reader} {source : Option String} {c : Cursor} (hnew : r.cursors[i]? = none)
      (h : reader.cursorFor source = .ok c) : Stepped r tree i ⟨source, c, c, []⟩
  /-- It advances the cursor. -/
  | advanced {t : Tracked} (h : r.cursors[i]? = some t) :
      Stepped r tree i (t.answer (t.cursor.advanced tree r.handle))
  /-- It iterates the cursor one step. -/
  | iterated {t : Tracked} (h : r.cursors[i]? = some t) :
      Stepped r tree i (t.answer (t.cursor.iterated tree r.handle))

theorem stepped_make {source : Option String} {i : Nat} {t : Tracked}
    (h : (r.make source).cursors[i]? = some t) : r.Stepped tree i t := by
  unfold make at h
  split at h
  · exact .kept h
  next reader hreader =>
    split at h
    next c hmade =>
      rw [List.getElem?_append] at h
      split at h
      · exact .kept h
      next hi =>
        have hnew : r.cursors[i]? = none := List.getElem?_eq_none (Nat.le_of_not_lt hi)
        rw [List.getElem?_singleton] at h
        split at h
        · cases h
          exact .made hnew hmade
        · cases h
    · exact .kept h

/-- A move does one of these to each cursor. -/
theorem stepped_of_getElem? {move : Move} {i : Nat} {t : Tracked}
    (h : (r.step tree move).cursors[i]? = some t) : r.Stepped tree i t := by
  cases move with
  | entries => exact stepped_make h
  | query source => exact stepped_make h
  | advance j =>
    rcases eq_or_eq_answer_of_touch h with h | ⟨u, hu, rfl⟩
    · exact .kept h
    · exact .advanced hu
  | next j =>
    rcases eq_or_eq_answer_of_touch h with h | ⟨u, hu, rfl⟩
    · exact .kept h
    · exact .iterated hu
  | read name => exact .kept h
  | readMarked name markers => exact .kept h
  | entry name => exact .kept h
  | close => exact .kept h
  | drop => exact .kept h

theorem extends_make (hrefl : ∀ t, related t t) (source : Option String) :
    r.Extends related (r.make source) := by
  unfold make
  split
  · exact extends_of_cursors_eq hrefl rfl
  · split
    · intro i t ht
      have hi := (List.getElem?_eq_some_iff.1 ht).1
      refine ⟨t, ?_, hrefl t⟩
      dsimp only
      rw [List.getElem?_append_left hi, ht]
    · exact extends_of_cursors_eq hrefl rfl

/-- A move adds an answer to one cursor at most. -/
theorem extends_step (hrefl : ∀ t, related t t)
    (hadvanced : ∀ t ∈ r.cursors, related t (t.answer (t.cursor.advanced tree r.handle)))
    (hiterated : ∀ t ∈ r.cursors, related t (t.answer (t.cursor.iterated tree r.handle)))
    (move : Move) : r.Extends related (r.step tree move) := by
  cases move with
  | entries => exact extends_make hrefl none
  | query source => exact extends_make hrefl (some source)
  | advance i => exact extends_touch hrefl hadvanced i
  | next i => exact extends_touch hrefl hiterated i
  | read name => exact extends_of_cursors_eq hrefl rfl
  | readMarked name markers => exact extends_of_cursors_eq hrefl rfl
  | entry name => exact extends_of_cursors_eq hrefl rfl
  | close => exact extends_of_cursors_eq hrefl rfl
  | drop => exact extends_of_cursors_eq hrefl rfl

/-- What each move keeps and does to the cursors, all of them keep and do. -/
theorem extends_after (holds : Run → Prop) {moves : List (Tree × Move)}
    (hrefl : ∀ t, related t t) (htrans : ∀ t u v, related t u → related u v → related t v)
    (hstep : ∀ r, holds r → ∀ move ∈ moves, holds (r.step move.1 move.2) ∧
      r.Extends related (r.step move.1 move.2)) (hr : holds r) :
    holds (r.after moves) ∧ r.Extends related (r.after moves) := by
  induction moves generalizing r with
  | nil => exact ⟨hr, extends_of_cursors_eq hrefl rfl⟩
  | cons move rest ih =>
    obtain ⟨hnext, hextends⟩ := hstep r hr move (by simp)
    obtain ⟨hlast, hrest⟩ := ih (fun r hr move hmove => hstep r hr move (by simp [hmove])) hnext
    exact ⟨hlast, hextends.trans htrans hrest⟩

end Run

end Concordance
