import Mathlib
import Concordance.Marking.Tag

/-!
# Attributes given in order

Attributes that are given one after the other come to one attribute for each name, in the order in
which the names come first, and with the value that comes last.

* `distinctAttributes` are these attributes; `map_name_distinctAttributes` says which names there
  are, and `mem_distinctAttributes_iff` with which values.
* `foldl_setAttribute` says that setting the attributes in order gives them.
-/

namespace Concordance

variable {α : Type} [DecidableEq α]

theorem eraseDups_concat (as : List α) (a : α) :
    (as ++ [a]).eraseDups = as.eraseDups ++ if a ∈ as then [] else [a] := by
  rw [List.eraseDups_append]
  by_cases h : a ∈ as <;> simp [List.removeAll, List.eraseDups_cons, h]

theorem nodup_eraseDups (as : List α) : as.eraseDups.Nodup := by
  induction as using List.reverseRecOn with
  | nil => exact List.nodup_nil
  | append_singleton as a ih =>
    rw [eraseDups_concat]
    by_cases h : a ∈ as
    · rwa [if_pos h, List.append_nil]
    · rw [if_neg h]
      refine ih.append (List.nodup_singleton a) ?_
      intro b hb hba
      rw [List.mem_singleton] at hba
      exact h (hba ▸ List.mem_eraseDups.1 hb)

/-- One attribute for each name that is given, in the order in which the names come first.  Each
has the value that is given last. -/
def distinctAttributes (given : List Attribute) : List Attribute :=
  (given.map Attribute.name).eraseDups.filterMap fun name =>
    given.reverse.find? fun a => a.name = name

/-- For each name that is given there is an attribute given last. -/
theorem exists_find?_reverse {given : List Attribute} {name : String}
    (h : name ∈ (given.map Attribute.name).eraseDups) :
    ∃ a, (given.reverse.find? fun a => a.name = name) = some a ∧ a.name = name := by
  obtain ⟨b, hb, hbname⟩ := List.mem_map.1 (List.mem_eraseDups.1 h)
  have hsome : (given.reverse.find? fun a => a.name = name).isSome := by
    rw [List.find?_isSome]
    exact ⟨b, by simpa using hb, by simpa using hbname⟩
  obtain ⟨a, ha⟩ := Option.isSome_iff_exists.1 hsome
  exact ⟨a, ha, by simpa using List.find?_some ha⟩

/-- The names are those that are given, in the order in which they come first. -/
theorem map_name_distinctAttributes (given : List Attribute) :
    (distinctAttributes given).map Attribute.name = (given.map Attribute.name).eraseDups := by
  have hname : ∀ name ∈ (given.map Attribute.name).eraseDups,
      ((given.reverse.find? fun a => a.name = name).map Attribute.name) = some name := by
    intro name hname
    obtain ⟨a, ha, haname⟩ := exists_find?_reverse hname
    rw [ha, Option.map_some, haname]
  rw [distinctAttributes, List.map_filterMap, List.filterMap_congr hname, List.filterMap_some]

/-- The attributes are those behind which none of the same name is given. -/
theorem mem_distinctAttributes_iff {given : List Attribute} {a : Attribute} :
    a ∈ distinctAttributes given ↔
      ∃ front back, given = front ++ a :: back ∧ ∀ b ∈ back, b.name ≠ a.name := by
  have hlast : (given.reverse.find? fun b => b.name = a.name) = some a ↔
      ∃ front back, given = front ++ a :: back ∧ ∀ b ∈ back, b.name ≠ a.name := by
    rw [List.find?_eq_some_iff_append]
    constructor
    · rintro ⟨-, back, front, hgiven, hback⟩
      refine ⟨front.reverse, back.reverse, ?_, fun b hb => ?_⟩
      · rw [← List.reverse_reverse given, hgiven]
        simp
      · simpa using hback b (List.mem_reverse.1 hb)
    · rintro ⟨front, back, rfl, hback⟩
      refine ⟨by simp, back.reverse, front.reverse, by simp, fun b hb => ?_⟩
      simpa using hback b (List.mem_reverse.1 hb)
  rw [← hlast, distinctAttributes, List.mem_filterMap]
  constructor
  · rintro ⟨name, -, hfind⟩
    have hname : a.name = name := by simpa using List.find?_some hfind
    rwa [hname]
  · intro hfind
    have hmem : a ∈ given := List.mem_reverse.1 (List.mem_of_find?_eq_some hfind)
    exact ⟨a.name, List.mem_eraseDups.2 (List.mem_map_of_mem hmem), hfind⟩

theorem distinctAttributes_eq_nil_iff {given : List Attribute} :
    distinctAttributes given = [] ↔ given = [] := by
  refine ⟨fun hnil => ?_, fun h => by rw [h]; rfl⟩
  -- the name of an attribute that is given has an attribute
  refine List.eq_nil_iff_forall_not_mem.2 fun a ha => ?_
  have hname : a.name ∈ (distinctAttributes given).map Attribute.name := by
    rw [map_name_distinctAttributes]
    exact List.mem_eraseDups.2 (List.mem_map_of_mem ha)
  rw [hnil] at hname
  cases hname

/-- Setting an attribute, in a list with one attribute for each of some names. -/
theorem setAttribute_filterMap (a : Attribute) {names : List String}
    {of : String → Option Attribute}
    (hnames : names.Nodup) (hof : ∀ name ∈ names, ∃ b, of name = some b ∧ b.name = name) :
    setAttribute a (names.filterMap of) =
      (names ++ if a.name ∈ names then [] else [a.name]).filterMap fun name =>
        if a.name = name then some a else of name := by
  induction names with
  | nil => simp [setAttribute]
  | cons name names ih =>
    obtain ⟨hnotin, hrest⟩ := List.nodup_cons.1 hnames
    obtain ⟨b, hb, hname⟩ := hof name (by simp)
    have ih := ih hrest fun n hn => hof n (by simp [hn])
    rw [List.filterMap_cons_some hb, setAttribute]
    by_cases heq : a.name = name
    · -- no later attribute has the name
      subst heq
      have hsame : ∀ n ∈ names, (if a.name = n then some a else of n) = of n := by
        intro n hn
        rw [if_neg]
        rintro rfl
        exact hnotin hn
      rw [if_pos hname, if_pos (by simp), List.append_nil, List.filterMap_cons, if_pos rfl,
        List.filterMap_congr hsame]
    · have hother : ¬ b.name = a.name := fun h => heq (h ▸ hname)
      have hmem : (a.name ∈ name :: names) ↔ a.name ∈ names := by
        rw [List.mem_cons, or_iff_right heq]
      rw [if_neg hother, ih]
      simp only [hmem, List.cons_append, List.filterMap_cons, if_neg heq, hb]

/-- Setting attributes one after the other. -/
theorem foldl_setAttribute (given : List Attribute) :
    given.foldl (fun attributes a => setAttribute a attributes) [] = distinctAttributes given := by
  induction given using List.reverseRecOn with
  | nil => rfl
  | append_singleton given a ih =>
    rw [List.foldl_concat, ih, distinctAttributes, setAttribute_filterMap a (nodup_eraseDups _)
      fun name hname => exists_find?_reverse hname,
      distinctAttributes, List.map_append, List.map_singleton, eraseDups_concat]
    simp only [List.mem_eraseDups, List.reverse_append, List.reverse_singleton,
      List.singleton_append, List.find?_cons]
    congr 1
    funext name
    by_cases hname : a.name = name <;> simp [hname]

end Concordance
