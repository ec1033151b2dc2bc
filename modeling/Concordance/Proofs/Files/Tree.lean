import Mathlib
import Concordance.Files.Tree
import Concordance.Proofs.Except

/-!
# What changes in a tree, and what stays

Putting a file at a place changes what is at that place and nothing else.  As long as no directory
is lost, every path that led somewhere still leads there.

* `node?_put` says what is at each place afterwards.
* `Extends` says that all directories are still there; `Extends.walk` follows paths then.
* `create_spec` and `overwrite_spec` are about files that are written.
-/

namespace Concordance

open Concordance.Text (Bytes)

/-- A directory entry that has been removed is not found, and the others are. -/
theorem lookup_filter_ne {α : Type} (p q : Place) (l : List (Place × α)) :
    (l.filter fun n => n.1 ≠ p).lookup q = if q = p then none else l.lookup q := by
  induction l with
  | nil => simp
  | cons n rest ih =>
    obtain ⟨place, a⟩ := n
    by_cases hplace : place = p
    · subst hplace
      by_cases hq : q = place
      · simp [hq] at ih ⊢
        exact ih
      · have hbeq : (q == place) = false := by simpa using hq
        simp [List.lookup_cons, hbeq, hq] at ih ⊢
        exact ih
    · by_cases hq : q = place
      · subst hq
        simp [hplace]
      · have hbeq : (q == place) = false := by simpa using hq
        simp [hplace, List.lookup_cons, hbeq] at ih ⊢
        exact ih

namespace Tree

variable {t after : Tree} {place : Place} {path : String}

/-! ## What is at a place -/

theorem node?_nil (t : Tree) : t.node? [] = some .directory := rfl

theorem node?_of_ne_nil (t : Tree) (h : place ≠ []) : t.node? place = t.nodes.lookup place := by
  have hempty : place.isEmpty = false := by simpa using h
  rw [node?, hempty]
  rfl

theorem node?_put (t : Tree) (h : place ≠ []) (node : Node) (other : Place) :
    (t.put place node).node? other = if other = place then some node else t.node? other := by
  by_cases hother : other = []
  · subst hother
    rw [if_neg (Ne.symm h)]
    rfl
  · rw [node?_of_ne_nil _ hother, node?_of_ne_nil _ hother, put, List.lookup_cons]
    by_cases heq : other = place
    · subst heq
      simp
    · have hbeq : (other == place) = false := by simpa using heq
      rw [hbeq]
      dsimp only
      rw [lookup_filter_ne, if_neg heq, if_neg heq]

/-! ## Paths -/

/-- All directories are still there. -/
structure Extends (t after : Tree) : Prop where
  /-- Relative paths begin where they did. -/
  working : after.working = t.working
  /-- A directory stays one. -/
  directory : ∀ place, t.node? place = some .directory → after.node? place = some .directory

theorem Extends.trans {last : Tree} (h : t.Extends after) (h' : after.Extends last) :
    t.Extends last :=
  ⟨h'.working.trans h.working, fun place hplace => h'.directory place (h.directory place hplace)⟩

theorem stepFrom_eq_ok_iff {name : String} {next : Place} : t.stepFrom place name = .ok next ↔
    t.node? place = some .directory ∧
      (if name = "." then .ok place
      else if name = ".." then .ok place.dropLast
      else if nameLimit < Text.byteLength name then .error .nameTooLong
      else .ok (place ++ [name]) : Except SystemError Place) = .ok next := by
  rw [stepFrom]
  cases hnode : t.node? place with
  | none => simp
  | some node => cases node <;> simp

theorem Extends.walkFrom (h : t.Extends after) {names : List String} {next : Place}
    (hwalk : names.foldlM t.stepFrom place = .ok next) :
    names.foldlM after.stepFrom place = .ok next := by
  induction names generalizing place with
  | nil => exact hwalk
  | cons name rest ih =>
    rw [List.foldlM_cons] at hwalk ⊢
    obtain ⟨between, hstep, hrest⟩ := bind_eq_ok_iff.1 hwalk
    have hstep' := stepFrom_eq_ok_iff.1 hstep
    have hafter : after.stepFrom place name = .ok between :=
      stepFrom_eq_ok_iff.2 ⟨h.directory place hstep'.1, hstep'.2⟩
    rw [hafter, ok_bind]
    exact ih hrest

/-- A path that led to a place still leads there. -/
theorem Extends.walk (h : t.Extends after) (hwalk : t.walk path = .ok place) :
    after.walk path = .ok place := by
  have hstart : after.start path = t.start path := by
    rw [start, start, h.working]
  rw [Tree.walk] at hwalk ⊢
  obtain ⟨u, hcheck, hsteps⟩ := bind_eq_ok_iff.1 hwalk
  rw [hcheck, ok_bind, hstart]
  exact h.walkFrom hsteps

/-- The file that a path leads to is read. -/
theorem read_of_walk (hwalk : t.walk path = .ok place) {serial : Nat} {content : Bytes}
    (hnode : t.node? place = some (.file serial content)) : t.read path = .ok content := by
  have hfind : t.find path = .ok (.file serial content) := by
    rw [find, hwalk, ok_bind, hnode]
  rw [read, hfind]
  rfl

/-- A path that can be read leads to a file. -/
theorem exists_find_of_read {content : Bytes} (h : t.read path = .ok content) :
    ∃ serial, t.find path = .ok (.file serial content) := by
  rw [read] at h
  obtain ⟨node, hfind, hnode⟩ := bind_eq_ok_iff.1 h
  cases node with
  | directory => cases hnode
  | file serial found =>
    cases hnode
    exact ⟨serial, hfind⟩

theorem isFile_of_read {content : Bytes} (h : t.read path = .ok content) :
    t.isFile path = true := by
  obtain ⟨serial, hfind⟩ := exists_find_of_read h
  rw [isFile, hfind]

theorem isDirectory_of_read {content : Bytes} (h : t.read path = .ok content) :
    t.isDirectory path = false := by
  obtain ⟨serial, hfind⟩ := exists_find_of_read h
  rw [isDirectory, hfind]

theorem contains_of_read {content : Bytes} (h : t.read path = .ok content) :
    t.contains path = true := by
  obtain ⟨serial, hfind⟩ := exists_find_of_read h
  rw [contains, hfind]
  rfl

/-! ## Writing files -/

/-- The tree has changed at one place only, where no directory was. -/
structure ChangedAt (t after : Tree) (place : Place) (node : Node) : Prop where
  /-- Relative paths begin where they did. -/
  working : after.working = t.working
  /-- No directory was there. -/
  free : t.node? place ≠ some .directory
  /-- What is there now. -/
  node : after.node? place = some node
  /-- What is at the other places. -/
  others : ∀ other, other ≠ place → after.node? other = t.node? other

theorem ChangedAt.extends {node : Node} (h : t.ChangedAt after place node) : t.Extends after := by
  refine ⟨h.working, fun other hother => ?_⟩
  have hne : other ≠ place := by
    rintro rfl
    exact h.free hother
  rw [h.others other hne, hother]

theorem changedAt_put (t : Tree) (node : Node) (h : t.node? place ≠ some .directory) :
    t.ChangedAt (t.put place node) place node := by
  have hne : place ≠ [] := by
    rintro rfl
    exact h (node?_nil t)
  refine ⟨rfl, h, by rw [node?_put t hne, if_pos rfl], fun other hother => ?_⟩
  rw [node?_put t hne, if_neg hother]

/-- A file that has been opened for writing is empty and at the place of its path. -/
theorem create_spec {f : OpenFile} (h : t.create path = .ok (after, f)) :
    t.walk path = .ok f.place ∧ t.ChangedAt after f.place (.file f.serial []) := by
  rw [create] at h
  obtain ⟨place, hwalk, hset⟩ := bind_eq_ok_iff.1 h
  have hnode : t.node? place ≠ some .directory := by
    intro hdirectory
    rw [setContent, hdirectory] at hset
    cases hset
  have hplace : f.place = place ∧ t.ChangedAt after place (.file f.serial []) := by
    rw [setContent] at hset
    cases hfound : t.node? place with
    | none =>
      rw [hfound] at hset
      cases hset
      -- the number of files made is no part of what is at a place
      obtain ⟨-, hfree, hat, hothers⟩ := changedAt_put t (.file t.made []) hnode
      exact ⟨rfl, rfl, hfree, hat, hothers⟩
    | some node =>
      cases node with
      | directory => exact absurd hfound hnode
      | file serial old =>
        rw [hfound] at hset
        cases hset
        exact ⟨rfl, changedAt_put t _ hnode⟩
  obtain ⟨rfl, hchanged⟩ := hplace
  exact ⟨hwalk, hchanged⟩

/-- Writing into an empty open file gives it the content. -/
theorem overwrite_spec {f : OpenFile} (h : t.node? f.place = some (.file f.serial []))
    (content : Bytes) : t.ChangedAt (t.overwrite f content) f.place (.file f.serial content) := by
  have hfree : t.node? f.place ≠ some .directory := by
    rw [h]
    simp
  have hput : t.overwrite f content = t.put f.place (.file f.serial content) := by
    rw [overwrite, h]
    simp
  rw [hput]
  exact changedAt_put t _ hfree

/-! ## The last name of a path -/

theorem splitSlash_ne_nil (s : List Char) : Path.splitSlash s ≠ [] := by
  cases s with
  | nil => simp [Path.splitSlash]
  | cons c rest =>
    rw [Path.splitSlash]
    split
    · simp
    · split <;> simp

theorem splitSlash_of_notMem {s : List Char} (h : '/' ∉ s) : Path.splitSlash s = [s] := by
  induction s with
  | nil => rfl
  | cons c rest ih =>
    simp only [List.mem_cons, not_or] at h
    rw [Path.splitSlash, ih h.2]
    dsimp only
    rw [if_neg (Ne.symm h.1)]

/-- What is written behind a text lengthens its last part. -/
theorem exists_splitSlash_append {ending : List Char} (h : '/' ∉ ending) (s : List Char) :
    ∃ front last, Path.splitSlash (s ++ ending) = front ++ [last ++ ending] := by
  induction s with
  | nil => exact ⟨[], [], by simpa using splitSlash_of_notMem h⟩
  | cons c rest ih =>
    obtain ⟨front, last, hrest⟩ := ih
    rw [List.cons_append, Path.splitSlash, hrest]
    cases front with
    | nil =>
      by_cases hc : c = '/'
      · exact ⟨[[]], last, by simp [hc]⟩
      · exact ⟨[], c :: last, by simp [hc]⟩
    | cons part front =>
      by_cases hc : c = '/'
      · exact ⟨[] :: part :: front, last, by simp [hc]⟩
      · exact ⟨(c :: part) :: front, last, by simp [hc]⟩

/-- An ending of a file name: it has no slash, and it does not end with a dot. -/
structure IsEnding (ending : String) : Prop where
  /-- It is not empty. -/
  ne_nil : ending.toList ≠ []
  /-- It has no slash. -/
  slash : '/' ∉ ending.toList
  /-- It does not end with a dot. -/
  dot : ending.toList.getLast? ≠ some '.'

variable {base ending : String}

/-- The last step of a path with an ending is a name with this ending. -/
theorem exists_steps_append (h : IsEnding ending) (base : String) :
    ∃ front last, steps (base ++ ending) = front ++ [String.ofList (last ++ ending.toList)] := by
  obtain ⟨front, last, hsplit⟩ := exists_splitSlash_append h.slash base.toList
  have hlast : ending.toList.getLast? ≠ some '/' :=
    fun hslash => h.slash (List.mem_of_getLast? hslash)
  refine ⟨(front.filter (· ≠ [])).map String.ofList, last, ?_⟩
  rw [steps, Path.components, String.toList_append, hsplit]
  simp [List.getLast?_append_of_ne_nil _ h.ne_nil, hlast, h.ne_nil]

/-- A path with an ending leads to a place whose last name has this ending. -/
theorem exists_walk_append (h : IsEnding ending) (hwalk : t.walk (base ++ ending) = .ok place) :
    ∃ above last, place = above ++ [String.ofList (last ++ ending.toList)] := by
  obtain ⟨front, last, hsteps⟩ := exists_steps_append h base
  rw [Tree.walk] at hwalk
  obtain ⟨u, -, hwalk⟩ := bind_eq_ok_iff.1 hwalk
  rw [hsteps, List.foldlM_append] at hwalk
  obtain ⟨above, -, hlast⟩ := bind_eq_ok_iff.1 hwalk
  rw [List.foldlM_cons] at hlast
  obtain ⟨next, hstep, hnil⟩ := bind_eq_ok_iff.1 hlast
  obtain rfl : next = place := Except.ok.inj hnil
  obtain ⟨-, hstep⟩ := stepFrom_eq_ok_iff.1 hstep
  have hends : ∀ s : String, s.toList.getLast? = some '.' →
      String.ofList (last ++ ending.toList) ≠ s := by
    rintro s hs rfl
    rw [String.toList_ofList, List.getLast?_append_of_ne_nil _ h.ne_nil] at hs
    exact h.dot hs
  rw [if_neg (hends "." rfl), if_neg (hends ".." rfl)] at hstep
  split at hstep
  · cases hstep
  · exact ⟨above, last, (Except.ok.inj hstep).symm⟩

/-- Paths with endings that end with different characters lead to different places. -/
theorem ne_of_walk_append {other : Tree} {base' ending' : String} {place' : Place}
    (h : IsEnding ending) (h' : IsEnding ending')
    (hne : ending.toList.getLast? ≠ ending'.toList.getLast?)
    (hwalk : t.walk (base ++ ending) = .ok place)
    (hwalk' : other.walk (base' ++ ending') = .ok place') : place ≠ place' := by
  rintro rfl
  obtain ⟨above, last, rfl⟩ := exists_walk_append h hwalk
  obtain ⟨above', last', heq⟩ := exists_walk_append h' hwalk'
  obtain ⟨-, hname⟩ := List.append_inj' heq rfl
  have hchars : last ++ ending.toList = last' ++ ending'.toList := by
    have h := congrArg String.toList (List.singleton_inj.1 hname)
    simpa using h
  apply hne
  rw [← List.getLast?_append_of_ne_nil last h.ne_nil, hchars,
    List.getLast?_append_of_ne_nil _ h'.ne_nil]

end Tree

end Concordance
