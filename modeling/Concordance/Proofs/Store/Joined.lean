import Mathlib
import Concordance.Proofs.Store.Names

/-!
# Joined stores

A joined store has the entries of its parts, each under its full name.  One full name can be written
for several parts, as `a/b/c` can for `b/c` in the part `a` and for `c` in the part `a/b`, so an
entry is found by its full name as a whole and never by cutting it.

* `fullNames` are the full names of all entries, in the order of the parts.
* `enter_eq_error` says which name is refused, `getElem?_enter` where the names are found.
* `join_routes` is the statement about joining any parts.
-/

namespace Concordance.Store

/-! ## Full names -/

/-- The full names of the entries of some parts, in the order of the parts and in each of them in
its own order: the name of the part, a slash, and the name in there. -/
def fullNames (parts : List (String × Store)) : List String :=
  parts.flatMap fun part => part.2.names.map fun inner => part.1 ++ "/" ++ inner

variable {parts : List (String × Store)} {names : List JoinedName}
  {places after : Std.HashMap String (Nat × String)}

theorem map_full_joinedNames (number : Nat) (parts : List (String × Store)) :
    (joinedNames number parts).map JoinedName.full = fullNames parts := by
  induction parts generalizing number with
  | nil => rfl
  | cons part rest ih =>
    obtain ⟨front, store⟩ := part
    have hcons : fullNames ((front, store) :: rest) =
        (store.names.map fun inner => front ++ "/" ++ inner) ++ fullNames rest :=
      List.flatMap_cons
    rw [joinedNames, List.map_append, ih, List.map_map, hcons]
    rfl

/-- An entry of a part is found under the number of the part. -/
theorem mem_joinedNames {number i : Nat} {front inner : String} {store : Store}
    (h : parts[i]? = some (front, store)) (hinner : inner ∈ store.names) :
    ⟨fullName front inner, number + i, inner⟩ ∈ joinedNames number parts := by
  induction parts generalizing number i with
  | nil => cases h
  | cons part rest ih =>
    obtain ⟨first, begun⟩ := part
    rw [joinedNames, List.mem_append]
    cases i with
    | zero =>
      cases h
      exact Or.inl (List.mem_map_of_mem hinner)
    | succ i =>
      have hrest := @ih (number + 1) i h
      rw [Nat.add_assoc, Nat.add_comm 1 i] at hrest
      exact Or.inr hrest

/-! ## Entering names -/

/-- The first name that comes again is refused. -/
theorem enter_eq_error {e : Error} (h : enter places names = .error e) :
    ∃ before n behind, names = before ++ n :: behind ∧ e = .duplicateName n.full ∧
      (before.map JoinedName.full).Nodup ∧ (∀ m ∈ before, m.full ∉ places) ∧
      (n.full ∈ places ∨ n.full ∈ before.map JoinedName.full) := by
  induction names generalizing places with
  | nil => cases h
  | cons m rest ih =>
    rw [enter] at h
    split at h
    next hagain =>
      cases h
      exact ⟨[], m, rest, rfl, rfl, List.nodup_nil, by simp, Or.inl (by simpa using hagain)⟩
    next hnew =>
      obtain ⟨before, n, behind, rfl, rfl, hnodup, hothers, hmem⟩ := ih h
      have hfirst : ∀ k ∈ before, k.full ≠ m.full ∧ k.full ∉ places := by
        intro k hk
        have hnot := hothers k hk
        rw [Std.HashMap.mem_insert, beq_iff_eq, not_or] at hnot
        exact ⟨Ne.symm hnot.1, hnot.2⟩
      refine ⟨m :: before, n, behind, rfl, rfl, ?_, ?_, ?_⟩
      · rw [List.map_cons, List.nodup_cons]
        refine ⟨?_, hnodup⟩
        intro hm
        obtain ⟨k, hk, heq⟩ := List.mem_map.1 hm
        exact (hfirst k hk).1 heq
      · intro k hk
        rcases List.mem_cons.1 hk with rfl | hk
        · simpa using hnew
        · exact (hfirst k hk).2
      · rcases hmem with hplaces | hbefore
        · rcases Std.HashMap.mem_insert.1 hplaces with heq | hplaces
          · exact Or.inr (List.mem_cons.2 (Or.inl (beq_iff_eq.1 heq).symm))
          · exact Or.inl hplaces
        · exact Or.inr (List.mem_cons_of_mem _ hbefore)

/-- A name is found where it was entered. -/
theorem getElem?_enter (h : enter places names = .ok after) :
    (∀ n ∈ names, after[n.full]? = some (n.part, n.inner)) ∧
      ∀ full ∉ names.map JoinedName.full, after[full]? = places[full]? := by
  induction names generalizing places with
  | nil =>
    cases h
    exact ⟨by simp, fun _ _ => rfl⟩
  | cons m rest ih =>
    obtain ⟨hnodup, -⟩ := nodup_of_enter h
    rw [enter] at h
    split at h
    · cases h
    · obtain ⟨hnames, hothers⟩ := ih h
      rw [List.map_cons, List.nodup_cons] at hnodup
      constructor
      · intro n hn
        rcases List.mem_cons.1 hn with rfl | hn
        · rw [hothers n.full hnodup.1, Std.HashMap.getElem?_insert_self]
        · exact hnames n hn
      · intro full hfull
        rw [List.map_cons, List.mem_cons, not_or] at hfull
        have hne : ¬ (m.full == full) = true := by
          rw [beq_iff_eq]
          exact Ne.symm hfull.1
        rw [hothers full hfull.2, Std.HashMap.getElem?_insert, if_neg hne]

/-! ## Reading -/

/-- An entry is read from the part with its number. -/
theorem getIn_of_getElem? {tree : Tree} {stores : List Store} {i : Nat} {store : Store}
    (h : stores[i]? = some store) (inner : String) :
    getIn tree stores i inner = store.get tree inner := by
  induction stores generalizing i with
  | nil => cases h
  | cons first rest ih =>
    cases i with
    | zero =>
      cases h
      rw [getIn]
    | succ i =>
      rw [getIn]
      exact ih h

/-- Parts can be joined if and only if all full names are different.  Otherwise the first full name
that comes again is refused, in the order of the parts and of their entries.

The names of a joined store are the full names in this order.  Reading an entry by its full name
comes to what its part comes to for its name in there, and any other name is not found. -/
theorem join_routes (name : String) (parts : List (String × Store)) :
    ((∃ store, join name parts = .ok store) ↔ (fullNames parts).Nodup) ∧
    (∀ e, join name parts = .error e →
      ∃ before full behind, fullNames parts = before ++ full :: behind ∧ before.Nodup ∧
        full ∈ before ∧ e = .duplicateName full) ∧
    ∀ store, join name parts = .ok store →
      store.name = name ∧ store.names = fullNames parts ∧
      (∀ tree front part inner, (front, part) ∈ parts → inner ∈ part.names →
        store.get tree (front ++ "/" ++ inner) = part.get tree inner) ∧
      ∀ tree full, full ∉ fullNames parts → store.get tree full = .error (.notFound full) := by
  have hnames : (joinedNames 0 parts).map JoinedName.full = fullNames parts :=
    map_full_joinedNames 0 parts
  have hrefused : ∀ e, join name parts = .error e →
      ∃ before full behind, fullNames parts = before ++ full :: behind ∧ before.Nodup ∧
        full ∈ before ∧ e = .duplicateName full := by
    intro e h
    rw [join] at h
    rcases bind_eq_error_iff.1 h with henter | ⟨places, -, hok⟩
    · obtain ⟨before, n, behind, hsplit, he, hnodup, -, hmem⟩ := enter_eq_error henter
      have hagain := hmem.resolve_left Std.HashMap.not_mem_empty
      refine ⟨_, n.full, behind.map JoinedName.full, ?_, hnodup, hagain, he⟩
      rw [← hnames, hsplit, List.map_append, List.map_cons]
    · cases hok
  refine ⟨⟨?_, ?_⟩, hrefused, ?_⟩
  · rintro ⟨store, hstore⟩
    have hnodup := nodup_join hstore
    rw [join] at hstore
    obtain ⟨places, -, hstore⟩ := bind_eq_ok_iff.1 hstore
    cases hstore
    exact hnames ▸ hnodup
  · intro hnodup
    cases hjoin : join name parts with
    | ok store => exact ⟨store, rfl⟩
    | error e =>
      obtain ⟨before, full, behind, hsplit, -, hagain, -⟩ := hrefused e hjoin
      rw [hsplit] at hnodup
      exact absurd List.mem_cons_self ((List.nodup_append.1 hnodup).2.2 full hagain full · rfl)
  · intro store hstore
    rw [join] at hstore
    obtain ⟨places, henter, hstore⟩ := bind_eq_ok_iff.1 hstore
    cases hstore
    obtain ⟨hfound, hothers⟩ := getElem?_enter henter
    refine ⟨rfl, hnames, ?_, ?_⟩
    · intro tree front part inner hpart hinner
      obtain ⟨i, hi⟩ := List.getElem?_of_mem hpart
      have hplace := hfound _ (@mem_joinedNames parts 0 i front inner part hi hinner)
      have hstores : (parts.map Prod.snd)[i]? = some part := by
        rw [List.getElem?_map, hi]
        rfl
      rw [Nat.zero_add] at hplace
      rw [get, ← fullName, hplace]
      exact getIn_of_getElem? hstores inner
    · intro tree full hfull
      have hplace : places[full]? = none := by
        rw [hothers full (hnames ▸ hfull), Std.HashMap.getElem?_empty]
      rw [get, hplace]

end Concordance.Store
