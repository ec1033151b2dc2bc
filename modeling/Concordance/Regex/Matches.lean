import Concordance.Regex.Search
import Concordance.Text.Bytes

/-!
# Where matches lie

A search only ever stands between two characters of its text, so whatever the automaton, a match
begins and ends there.

* `Place.In`, `Threads.BeginIn` and `Match.In` are the parts of the invariant of a search.
* `follow_beginIn`, `move_in`, `round_in` and `run_in` say that each part of a search keeps it.
* `Automaton.isBoundary_of_mem_findAll` is the statement about the matches in a text.
-/

namespace Concordance.Regex

open Concordance.Text (encode IsBoundary isBoundary_zero)

variable {text : List Char} {p : Place}

/-! ## Places -/

/-- Is the place one of the text? -/
def Place.In (text : List Char) (p : Place) : Prop :=
  ∃ front, text = front ++ p.rest ∧ p.offset = (encode front).length

theorem Place.in_front (text : List Char) : (Place.front text).In text := ⟨[], rfl, rfl⟩

theorem Place.In.isBoundary (h : p.In text) : IsBoundary text p.offset := by
  obtain ⟨front, htext, hoffset⟩ := h
  exact ⟨front, p.rest, htext, hoffset⟩

theorem Place.In.next (h : p.In text) : p.next.In text := by
  obtain ⟨front, htext, hoffset⟩ := h
  unfold Place.next
  split
  · exact ⟨front, htext, hoffset⟩
  · rename_i c rest hrest
    refine ⟨front ++ [c], ?_, ?_⟩
    · simp [htext, hrest]
    · simp [hoffset]

/-! ## Threads -/

/-- Do all threads begin at boundaries of the text? -/
def Threads.BeginIn (text : List Char) (threads : Threads) : Prop :=
  ∀ t ∈ threads.list, IsBoundary text t.start

/-- Is the match one between boundaries of the text? -/
def Match.In (text : List Char) (m : Match) : Prop := IsBoundary text m.start ∧ m.stop.In text

namespace Automaton

variable {a : Automaton} {threads : Threads} {best : Option Match} {n start : Nat}

theorem follow_beginIn (hstart : IsBoundary text start) (fuel : Nat) (pending : List Nat)
    (h : threads.BeginIn text) : (a.follow p n start fuel pending threads).BeginIn text := by
  induction fuel generalizing pending threads with
  | zero => exact h
  | succ fuel ih =>
    cases pending with
    | nil => exact h
    | cons q pending =>
      -- a mark does not change the threads
      have hmarked : Threads.BeginIn text
          { threads with marks := threads.marks.setIfInBounds q n } := h
      unfold follow
      split
      · exact ih pending h
      · split
        · exact ih _ hmarked
        · split
          · exact ih _ hmarked
          · exact ih _ hmarked
        · refine ih _ fun t ht => ?_
          rcases Array.mem_push.1 ht with ht | rfl
          · exact h t ht
          · exact hstart

theorem move_in (hp : p.In text) (ts : List Thread)
    (hts : ∀ t ∈ ts, IsBoundary text t.start) (h : threads.BeginIn text)
    (hbest : ∀ m, best = some m → m.In text) :
    (a.move p n ts threads best).1.BeginIn text ∧
      ∀ m, (a.move p n ts threads best).2 = some m → m.In text := by
  induction ts generalizing threads with
  | nil => exact ⟨h, hbest⟩
  | cons t ts ih =>
    have ht : IsBoundary text t.start := hts t (by simp)
    have hrest : ∀ u ∈ ts, IsBoundary text u.start := fun u hu => hts u (by simp [hu])
    unfold move
    split
    · refine ⟨h, fun m hm => ?_⟩
      cases hm
      exact ⟨ht, hp⟩
    · split
      · split
        · exact ih hrest (follow_beginIn ht _ _ h)
        · exact ih hrest h
      · exact ih hrest h
    · exact ih hrest h

/-- The threads of a search at a place: while there is no match, a new one begins there. -/
def begun (a : Automaton) (p : Place) (round : Nat) (threads : Threads) : Option Match → Threads
  | none => a.follow p round p.offset a.steps [a.start] threads
  | some _ => threads

/-- One place of a search: the threads and the best match behind it. -/
def round (a : Automaton) (p : Place) (n : Nat) (threads : Threads) (best : Option Match) :
    Threads × Option Match :=
  let threads := a.begun p n threads best
  a.move p (n + 1) threads.list.toList ⟨threads.marks, #[]⟩ best

theorem run_zero (a : Automaton) (p : Place) (n : Nat) (threads : Threads)
    (best : Option Match) : a.run 0 p n threads best = (a.round p n threads best).2 := by
  unfold run round
  cases best <;> rfl

theorem run_succ (a : Automaton) (left : Nat) (p : Place) (n : Nat) (threads : Threads)
    (best : Option Match) :
    a.run (left + 1) p n threads best =
      if (a.round p n threads best).2.isSome && (a.round p n threads best).1.list.isEmpty then
        (a.round p n threads best).2
      else a.run left p.next (n + 1) (a.round p n threads best).1 (a.round p n threads best).2 := by
  conv => lhs; unfold run
  unfold round
  cases best <;> rfl

theorem round_in (a : Automaton) (n : Nat) (hp : p.In text) (h : threads.BeginIn text)
    (hbest : ∀ m, best = some m → m.In text) :
    (a.round p n threads best).1.BeginIn text ∧
      ∀ m, (a.round p n threads best).2 = some m → m.In text := by
  have hbegun : (a.begun p n threads best).BeginIn text := by
    cases best with
    | none => exact follow_beginIn hp.isBoundary _ _ h
    | some m => exact h
  refine move_in hp _ (fun t ht => hbegun t (Array.mem_toList_iff.1 ht)) ?_ hbest
  simp [Threads.BeginIn]

theorem run_in (left n : Nat) (hp : p.In text) (h : threads.BeginIn text)
    (hbest : ∀ m, best = some m → m.In text) :
    ∀ m, a.run left p n threads best = some m → m.In text := by
  induction left generalizing p n threads best with
  | zero =>
    rw [run_zero]
    exact (round_in a n hp h hbest).2
  | succ left ih =>
    obtain ⟨hmoved, hfound⟩ := round_in a n hp h hbest
    rw [run_succ]
    split
    · exact hfound
    · exact ih (n + 1) hp.next hmoved hfound

theorem find?_in (hp : p.In text) : ∀ m, a.find? p = some m → m.In text :=
  run_in _ _ hp (by simp [Threads.BeginIn]) (by simp)

theorem findFrom_boundaries (fuel : Nat) (last : Option Nat) (hp : p.In text) :
    ∀ m ∈ a.findFrom fuel p last, IsBoundary text m.1 ∧ IsBoundary text m.2 := by
  induction fuel generalizing p last with
  | zero => simp [findFrom]
  | succ fuel ih =>
    intro m hm
    unfold findFrom at hm
    split at hm
    · simp at hm
    · rename_i found hfind
      obtain ⟨hstart, hstop⟩ := find?_in hp _ hfind
      split at hm
      · split at hm
        · simp at hm
        · exact ih last hp.next m hm
      · rcases List.mem_cons.1 hm with rfl | hm
        · exact ⟨hstart, hstop.isBoundary⟩
        · exact ih _ hstop m hm

/-- A match begins and ends between two characters of the text. -/
theorem isBoundary_of_mem_findAll (a : Automaton) (text : List Char) {m : Nat × Nat}
    (h : m ∈ a.findAll text) : IsBoundary text m.1 ∧ IsBoundary text m.2 :=
  findFrom_boundaries _ _ (Place.in_front text) m h

end Automaton

end Concordance.Regex
