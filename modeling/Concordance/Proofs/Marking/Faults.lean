import Mathlib
import Concordance.Marking.Marker
import Concordance.Proofs.Except
import Concordance.Settings.Basic

/-!
# Faults of markers

A marker is checked for the name of its attribute and then for its query, and markers are checked in
their order.  So of several faults one decides which error there is.  The element of the tags is
checked with the settings.

* `Marker.Fault` says what is wrong with a marker, `Marker.Usable` that nothing is.
* `compileMarkers_eq_error_iff` says that the first marker with a fault decides,
  `exists_compileMarkers_iff` that otherwise all markers can be used.
* `Settings.check_eq_ok_iff` is about the element of the tags.
-/

namespace Concordance

/-! ## One marker -/

namespace Marker

variable [Regex.Engine] {m : Marker} {e : Error}

/-- What is wrong with a marker.  The name of its attribute is looked at before its query. -/
inductive Fault (m : Marker) : Error → Prop where
  /-- No attribute can have the name. -/
  | name (hname : isTagName m.attr.name = false) : m.Fault (.badMarker m.attr.name)
  /-- An attribute can have the name, but the query cannot be read. -/
  | query {cause : Query.ParseError} (hname : isTagName m.attr.name = true)
      (hquery : Query.parse m.query = .error cause) : m.Fault (.badQuery cause)

/-- An attribute can have the name, and the query can be read. -/
structure Usable (m : Marker) : Prop where
  /-- The name of the attribute. -/
  name : isTagName m.attr.name = true
  /-- The query. -/
  query : ∃ expr, Query.parse m.query = .ok expr

/-- Checking a marker finds its fault. -/
theorem compile_eq_error_iff : m.compile = .error e ↔ m.Fault e := by
  constructor
  · intro h
    rw [compile] at h
    split at h
    next hname =>
      cases hquery : Query.parse m.query with
      | ok expr =>
        rw [Compiled.ofText, hquery] at h
        cases h
      | error cause =>
        rw [Compiled.ofText, hquery] at h
        cases h
        exact .query hname hquery
    next hname =>
      cases h
      exact .name (Bool.not_eq_true _ ▸ hname)
  · rintro (hname | ⟨hname, hquery⟩)
    · rw [compile, hname]
      rfl
    · rw [compile, if_pos hname, Compiled.ofText, hquery]
      rfl

theorem exists_compile_iff : (∃ compiled, m.compile = .ok compiled) ↔ m.Usable := by
  constructor
  · rintro ⟨compiled, h⟩
    rw [compile] at h
    split at h
    next hname =>
      refine ⟨hname, ?_⟩
      cases hquery : Query.parse m.query with
      | ok expr => exact ⟨expr, rfl⟩
      | error cause =>
        rw [Compiled.ofText, hquery] at h
        cases h
    · cases h
  · rintro ⟨hname, expr, hquery⟩
    refine ⟨⟨.ofExpr m.query expr, m.attr⟩, ?_⟩
    rw [compile, if_pos hname, Compiled.ofText, hquery]
    rfl

end Marker

/-! ## Several markers -/

section

variable [Regex.Engine]

/-- Some marker has a fault that leads to this error, and all markers before it can be used. -/
def FirstFault (markers : List Marker) (e : Error) : Prop :=
  ∃ before m behind, markers = before ++ m :: behind ∧ (∀ earlier ∈ before, earlier.Usable) ∧
    m.Fault e

variable {markers : List Marker} {e : Error}

theorem firstFault_cons {m : Marker} {rest : List Marker} :
    FirstFault (m :: rest) e ↔ m.Fault e ∨ m.Usable ∧ FirstFault rest e := by
  constructor
  · rintro ⟨before, bad, behind, hsplit, hbefore, hbad⟩
    cases before with
    | nil =>
      cases hsplit
      exact Or.inl hbad
    | cons first before =>
      cases hsplit
      obtain ⟨hfirst, hbefore⟩ := List.forall_mem_cons.1 hbefore
      exact Or.inr ⟨hfirst, before, bad, behind, rfl, hbefore, hbad⟩
  · rintro (hbad | ⟨husable, before, bad, behind, rfl, hbefore, hbad⟩)
    · exact ⟨[], m, rest, rfl, nofun, hbad⟩
    · exact ⟨m :: before, bad, behind, rfl, List.forall_mem_cons.2 ⟨husable, hbefore⟩, hbad⟩

/-- The first marker with a fault decides. -/
theorem compileMarkers_eq_error_iff :
    compileMarkers markers = .error e ↔ FirstFault markers e := by
  induction markers with
  | nil =>
    constructor
    · nofun
    · rintro ⟨before, m, behind, hsplit, -⟩
      exact absurd hsplit.symm (by simp)
  | cons m rest ih =>
    have hrest : ∀ compiled, (compileMarkers rest >>= fun markers =>
        .ok (compiled :: markers)) = .error e ↔ FirstFault rest e := by
      intro compiled
      rw [← ih]
      exact map_eq_error_iff
    rw [firstFault_cons, ← m.compile_eq_error_iff, ← m.exists_compile_iff]
    constructor
    · intro h
      rcases bind_eq_error_iff.1 h with hm | ⟨compiled, hm, h⟩
      · exact Or.inl hm
      · exact Or.inr ⟨⟨compiled, hm⟩, (hrest compiled).1 h⟩
    · rintro (hm | ⟨⟨compiled, hm⟩, h⟩)
      · rw [compileMarkers, hm]
        rfl
      · rw [compileMarkers, hm]
        exact (hrest compiled).2 h

theorem exists_compileMarkers_iff :
    (∃ compiled, compileMarkers markers = .ok compiled) ↔ ∀ m ∈ markers, m.Usable := by
  induction markers with
  | nil => exact ⟨fun _ => nofun, fun _ => ⟨[], rfl⟩⟩
  | cons m rest ih =>
    rw [List.forall_mem_cons, ← m.exists_compile_iff, ← ih]
    constructor
    · rintro ⟨all, h⟩
      obtain ⟨first, hm, h⟩ := bind_eq_ok_iff.1 h
      obtain ⟨more, hrest, -⟩ := bind_eq_ok_iff.1 h
      exact ⟨⟨first, hm⟩, more, hrest⟩
    · rintro ⟨⟨first, hm⟩, more, hrest⟩
      refine ⟨first :: more, ?_⟩
      rw [compileMarkers, hm, hrest]
      rfl

/-- Either all markers can be used, or one of them is the first with a fault. -/
theorem usable_or_firstFault (markers : List Marker) :
    (∀ m ∈ markers, m.Usable) ∨ ∃ e, FirstFault markers e := by
  cases h : compileMarkers markers with
  | ok compiled => exact Or.inl (exists_compileMarkers_iff.1 ⟨compiled, h⟩)
  | error e => exact Or.inr ⟨e, compileMarkers_eq_error_iff.1 h⟩

/-- An error that names an attribute names one of the markers, and one that cannot be. -/
theorem FirstFault.name_of_badMarker {bad : String} (h : FirstFault markers (.badMarker bad)) :
    isTagName bad = false ∧ ∃ m ∈ markers, m.attr.name = bad := by
  obtain ⟨before, m, behind, rfl, -, hfault⟩ := h
  cases hfault with
  | name hname => exact ⟨hname, m, by simp, rfl⟩

end

/-! ## The element of the tags -/

theorem Settings.check_eq_ok_iff {settings : Settings} :
    settings.check = .ok () ↔ isTagName settings.markElement = true := by
  rw [check]
  split
  next h => exact iff_of_true rfl h
  next h => exact iff_of_false nofun h

end Concordance
