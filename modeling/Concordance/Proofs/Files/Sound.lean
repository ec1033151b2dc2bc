import Mathlib
import Concordance.Proofs.Files.Tree

/-!
# Sound trees

In a tree no two things are at the same place, and the names on the way to a place are not empty
and have no slash.

* `Tree.Sound` says this; the empty tree is sound, and whatever changes a tree keeps it sound.
* `Tree.Sound.nodup_filesBelow` says that the ways to the files below a place are different, and
  `joined_injective` that their texts are as well.
-/

namespace Concordance

open Concordance.Text (Bytes)

/-- A name that a file or a directory can have. -/
structure IsFileName (name : String) : Prop where
  /-- It is not empty. -/
  ne_nil : name.toList ≠ []
  /-- It has no slash. -/
  slash : '/' ∉ name.toList

theorem splitOn_intercalate_slash {way : Place} (h : ∀ name ∈ way, IsFileName name)
    (hne : way ≠ []) :
    List.splitOn '/' (String.intercalate "/" way).toList = way.map String.toList := by
  rw [String.toList_intercalate]
  apply List.splitOn_intercalate
  · intro part hpart
    obtain ⟨name, hname, rfl⟩ := List.mem_map.1 hpart
    exact (h name hname).slash
  · simpa using hne

theorem intercalate_slash_ne_empty {name : String} {rest : Place}
    (h : ∀ n ∈ name :: rest, IsFileName n) : String.intercalate "/" (name :: rest) ≠ "" := by
  intro hempty
  have hsplit := splitOn_intercalate_slash h (List.cons_ne_nil name rest)
  rw [hempty] at hsplit
  obtain ⟨hname, -⟩ := List.cons.inj hsplit
  exact (h name (by simp)).ne_nil hname.symm

/-- Different ways through file names have different texts. -/
theorem joined_injective {way way' : Place} (h : ∀ name ∈ way, IsFileName name)
    (h' : ∀ name ∈ way', IsFileName name)
    (heq : String.intercalate "/" way = String.intercalate "/" way') : way = way' := by
  cases way with
  | nil =>
    cases way' with
    | nil => rfl
    | cons name rest => exact absurd heq.symm (intercalate_slash_ne_empty h')
  | cons name rest =>
    cases way' with
    | nil => exact absurd heq (intercalate_slash_ne_empty h)
    | cons name' rest' =>
      have hsplit := splitOn_intercalate_slash h (List.cons_ne_nil name rest)
      rw [heq, splitOn_intercalate_slash h' (List.cons_ne_nil name' rest')] at hsplit
      have hinj : Function.Injective String.toList := fun a b h => String.toList_injective h
      exact (List.map_injective_iff.2 hinj hsplit).symm

namespace Tree

/-- No two things are at the same place, and the names on the way to them are file names. -/
structure Sound (t : Tree) : Prop where
  /-- The places are different. -/
  nodup : (t.nodes.map Prod.fst).Nodup
  /-- The names are file names. -/
  names : ∀ n ∈ t.nodes, ∀ name ∈ n.1, IsFileName name
  /-- So are those of the working directory. -/
  working : ∀ name ∈ t.working, IsFileName name

variable {t after : Tree} {place : Place} {path : String}

/-! ## Places of paths -/

theorem slash_notMem_of_mem_splitSlash {s part : List Char} (h : part ∈ Path.splitSlash s) :
    '/' ∉ part := by
  induction s generalizing part with
  | nil =>
    obtain rfl : part = [] := by simpa [Path.splitSlash] using h
    simp
  | cons c rest ih =>
    cases hrest : Path.splitSlash rest with
    | nil => exact absurd hrest (splitSlash_ne_nil rest)
    | cons first more =>
      have hmore : ∀ p ∈ first :: more, '/' ∉ p := fun p hp => ih (hrest ▸ hp)
      simp only [Path.splitSlash, hrest] at h
      by_cases hc : c = '/'
      · rw [if_pos hc] at h
        rcases List.mem_cons.1 h with rfl | h
        · simp
        · exact hmore part h
      · rw [if_neg hc] at h
        rcases List.mem_cons.1 h with rfl | h
        · simp [hmore first (by simp), Ne.symm hc]
        · exact hmore part (by simp [h])

/-- The components of a path are file names. -/
theorem isFileName_of_mem_components {name : String} (h : name ∈ Path.components path) :
    IsFileName name := by
  obtain ⟨part, hpart, rfl⟩ := List.mem_map.1 h
  obtain ⟨hmem, hne⟩ := List.mem_filter.1 hpart
  refine ⟨?_, ?_⟩
  · simpa using hne
  · rw [String.toList_ofList]
    exact slash_notMem_of_mem_splitSlash hmem

/-- The steps of a path are file names or stay where they are. -/
theorem isFileName_of_mem_steps {name : String} (h : name ∈ steps path) :
    IsFileName name ∨ name = "." := by
  rcases List.mem_append.1 h with h | h
  · exact Or.inl (isFileName_of_mem_components h)
  · split at h
    · exact Or.inr (List.mem_singleton.1 h)
    · cases h

theorem isFileName_of_stepFrom {name : String} {next : Place}
    (hplace : ∀ n ∈ place, IsFileName n) (hname : IsFileName name ∨ name = ".")
    (h : t.stepFrom place name = .ok next) : ∀ n ∈ next, IsFileName n := by
  obtain ⟨-, hstep⟩ := stepFrom_eq_ok_iff.1 h
  intro n hn
  split at hstep
  · cases hstep
    exact hplace n hn
  next hdot =>
    split at hstep
    · cases hstep
      exact hplace n (List.mem_of_mem_dropLast hn)
    · split at hstep
      · cases hstep
      · cases hstep
        rcases List.mem_append.1 hn with hn | hn
        · exact hplace n hn
        · obtain rfl := List.mem_singleton.1 hn
          exact hname.resolve_right hdot

theorem Sound.start (h : t.Sound) (path : String) : ∀ n ∈ t.start path, IsFileName n := by
  intro n hn
  rw [Tree.start] at hn
  split at hn
  · cases hn
  · exact h.working n hn

theorem isFileName_of_foldlM {names : List String} {next : Place}
    (hplace : ∀ n ∈ place, IsFileName n) (hnames : ∀ n ∈ names, IsFileName n ∨ n = ".")
    (h : names.foldlM t.stepFrom place = .ok next) : ∀ n ∈ next, IsFileName n := by
  induction names generalizing place with
  | nil =>
    cases h
    exact hplace
  | cons name rest ih =>
    rw [List.foldlM_cons] at h
    obtain ⟨between, hstep, hrest⟩ := bind_eq_ok_iff.1 h
    exact ih (isFileName_of_stepFrom hplace (hnames name (by simp)) hstep)
      (fun n hn => hnames n (by simp [hn])) hrest

/-- A path leads to a place through file names. -/
theorem Sound.walk (h : t.Sound) (hwalk : t.walk path = .ok place) :
    ∀ n ∈ place, IsFileName n := by
  rw [Tree.walk] at hwalk
  obtain ⟨u, -, hsteps⟩ := bind_eq_ok_iff.1 hwalk
  exact isFileName_of_foldlM (h.start path) (fun n hn => isFileName_of_mem_steps hn) hsteps

/-! ## Changes -/

/-- A tree with nothing but a working directory is sound. -/
theorem sound_empty (h : ∀ name ∈ place, IsFileName name) : (Tree.empty place).Sound := by
  have hplaces : (Tree.empty place).nodes.map Prod.fst = wayTo place := by
    rw [Tree.empty, List.map_map]
    exact List.map_id _
  refine ⟨?_, ?_, h⟩
  · rw [hplaces, wayTo]
    refine List.Nodup.map_on ?_ List.nodup_range
    intro n hn m hm heq
    have hlength := congrArg List.length heq
    rw [List.length_take, List.length_take] at hlength
    rw [List.mem_range] at hn hm
    omega
  · intro n hn name hname
    have hmem : n.1 ∈ wayTo place := hplaces ▸ List.mem_map_of_mem hn
    obtain ⟨k, -, hk⟩ := List.mem_map.1 hmem
    exact h name (List.mem_of_mem_take (hk ▸ hname))

/-- Leaving out nodes keeps a tree sound. -/
theorem Sound.filter (h : t.Sound) (keep : Place × Node → Bool) :
    ({ t with nodes := t.nodes.filter keep } : Tree).Sound := by
  refine ⟨?_, ?_, h.working⟩
  · exact h.nodup.sublist (List.filter_sublist.map Prod.fst)
  · intro n hn
    exact h.names n (List.mem_filter.1 hn).1

/-- Putting something at a place through file names keeps a tree sound. -/
theorem Sound.put (h : t.Sound) (hplace : ∀ n ∈ place, IsFileName n) (node : Node) :
    (t.put place node).Sound := by
  have hothers := h.filter fun n => n.1 ≠ place
  refine ⟨?_, ?_, h.working⟩
  · rw [Tree.put, List.map_cons, List.nodup_cons]
    refine ⟨?_, hothers.nodup⟩
    intro hmem
    obtain ⟨n, hn, heq⟩ := List.mem_map.1 hmem
    have hne := (List.mem_filter.1 hn).2
    simp [heq] at hne
  · intro n hn
    rcases List.mem_cons.1 hn with rfl | hn
    · exact hplace
    · exact hothers.names n hn

theorem Sound.setContent (h : t.Sound) (hplace : ∀ n ∈ place, IsFileName n) {content : Bytes}
    {f : OpenFile} (hset : t.setContent place content = .ok (after, f)) : after.Sound := by
  rw [Tree.setContent] at hset
  split at hset
  · cases hset
  · cases hset
    exact h.put hplace _
  · cases hset
    -- the number of files made is no part of what makes a tree sound
    obtain ⟨hnodup, hnames, hworking⟩ := h.put hplace (.file t.made content)
    exact ⟨hnodup, hnames, hworking⟩

/-- Opening a file for writing keeps a tree sound. -/
theorem Sound.create (h : t.Sound) {f : OpenFile} (hcreate : t.create path = .ok (after, f)) :
    after.Sound := by
  rw [Tree.create] at hcreate
  obtain ⟨place, hwalk, hset⟩ := bind_eq_ok_iff.1 hcreate
  exact h.setContent (h.walk hwalk) hset

theorem mem_nodes_of_node? {serial : Nat} {content : Bytes}
    (h : t.node? place = some (.file serial content)) : (place, .file serial content) ∈ t.nodes := by
  have hne : place ≠ [] := by
    rintro rfl
    cases h
  rw [node?_of_ne_nil _ hne, List.lookup_eq_some_iff] at h
  obtain ⟨before, rest, hnodes, -⟩ := h
  rw [hnodes]
  simp

/-- Writing over an open file keeps a tree sound. -/
theorem Sound.overwrite (h : t.Sound) (f : OpenFile) (content : Bytes) :
    (t.overwrite f content).Sound := by
  rw [Tree.overwrite]
  split
  next serial old hnode =>
    split
    · exact h.put (h.names _ (mem_nodes_of_node? hnode)) _
    · exact h
  · exact h

/-- Removing things keeps a tree sound. -/
theorem Sound.remove (h : t.Sound) (hremove : t.remove path = .ok after) : after.Sound := by
  rw [Tree.remove] at hremove
  obtain ⟨place, -, hgone⟩ := bind_eq_ok_iff.1 hremove
  split at hgone
  · cases hgone
  · cases hgone
    exact h.filter _

theorem Sound.makeStep {name : String} {s : Tree × Place} (h : s.1.Sound)
    (hplace : ∀ n ∈ s.2, IsFileName n) (hname : IsFileName name ∨ name = ".")
    {made : Tree × Place} (hmake : Tree.makeStep s name = .ok made) :
    made.1.Sound ∧ ∀ n ∈ made.2, IsFileName n := by
  rw [Tree.makeStep] at hmake
  obtain ⟨next, hstep, hmade⟩ := bind_eq_ok_iff.1 hmake
  have hnext := isFileName_of_stepFrom hplace hname hstep
  split at hmade
  · cases hmade
    exact ⟨h.put hnext _, hnext⟩
  · cases hmade
    exact ⟨h, hnext⟩
  · cases hmade

theorem Sound.makeSteps {names : List String} {made : Tree × Place} (h : t.Sound)
    (hnames : ∀ n ∈ names, IsFileName n ∨ n = ".")
    (hmake : t.makeSteps path names = .ok made) : made.1.Sound := by
  have hall : ∀ s : Tree × Place, s.1.Sound → (∀ n ∈ s.2, IsFileName n) →
      names.foldlM Tree.makeStep s = .ok made → made.1.Sound := by
    clear hmake
    induction names with
    | nil =>
      intro s hs _ hfold
      cases hfold
      exact hs
    | cons name rest ih =>
      intro s hs hplace hfold
      rw [List.foldlM_cons] at hfold
      obtain ⟨between, hstep, hrest⟩ := bind_eq_ok_iff.1 hfold
      obtain ⟨hbetween, hplace'⟩ := hs.makeStep hplace (hnames name (by simp)) hstep
      exact ih (fun n hn => hnames n (by simp [hn])) between hbetween hplace' hrest
  rw [Tree.makeSteps] at hmake
  obtain ⟨u, -, hfold⟩ := bind_eq_ok_iff.1 hmake
  exact hall (t, t.start path) h (h.start path) hfold

/-- Making directories keeps a tree sound. -/
theorem Sound.makeDirectory (h : t.Sound) (hmake : t.makeDirectory path = .ok after) :
    after.Sound := by
  rw [Tree.makeDirectory, map_eq_ok_iff] at hmake
  obtain ⟨made, hmake, rfl⟩ := hmake
  exact h.makeSteps (fun n hn => isFileName_of_mem_steps hn) hmake

/-- Writing a file keeps a tree sound. -/
theorem Sound.write (h : t.Sound) {content : Bytes} (hwrite : t.write path content = .ok after) :
    after.Sound := by
  rw [Tree.write] at hwrite
  obtain ⟨⟨between, way⟩, hmake, hrest⟩ := bind_eq_ok_iff.1 hwrite
  obtain ⟨place, hwalk, hmap⟩ := bind_eq_ok_iff.1 hrest
  obtain ⟨⟨last, f⟩, hset, rfl⟩ := map_eq_ok_iff.1 hmap
  have hbetween : between.Sound := h.makeSteps
    (fun n hn => isFileName_of_mem_steps (List.mem_of_mem_dropLast hn)) hmake
  exact hbetween.setContent (hbetween.walk hwalk) hset

/-! ## Files below a place -/

theorem below?_eq_some_iff {above way : Place} :
    Place.below? above place = some way ↔ place = above ++ way := by
  induction above generalizing place with
  | nil => simp [Place.below?, eq_comm]
  | cons a as ih =>
    cases place with
    | nil => simp [Place.below?]
    | cons b bs =>
      rw [Place.below?]
      by_cases hab : a = b
      · simp [hab, ih]
      · simp [hab, Ne.symm hab]

/-- The ways to the files below a place come from nodes whose places lie below it. -/
theorem exists_filesBelow_perm (t : Tree) (root : Place) :
    ∃ wayOf : Place × Node → Option Place, (∀ n way, wayOf n = some way → n.1 = root ++ way) ∧
      (t.filesBelow root).Perm (t.nodes.filterMap wayOf) := by
  refine ⟨_, ?_, List.mergeSort_perm _ _⟩
  intro n way hn
  obtain ⟨place, node⟩ := n
  cases node with
  | directory => cases hn
  | file serial content => exact below?_eq_some_iff.1 hn

/-- The ways to the files below a place are different ways through file names. -/
theorem Sound.nodup_filesBelow (h : t.Sound) (root : Place) :
    (t.filesBelow root).Nodup ∧ ∀ way ∈ t.filesBelow root, ∀ n ∈ way, IsFileName n := by
  obtain ⟨wayOf, hway, hperm⟩ := t.exists_filesBelow_perm root
  constructor
  · rw [hperm.nodup_iff]
    have hplaces : t.nodes.Pairwise fun n m => n.1 ≠ m.1 := List.pairwise_map.1 h.nodup
    apply List.Pairwise.filterMap wayOf ?_ hplaces
    intro n m hne way hn way' hm heq
    subst heq
    exact hne ((hway n way hn).trans (hway m way hm).symm)
  · intro way hmem n hn
    obtain ⟨node, hnode, hsome⟩ := List.mem_filterMap.1 (hperm.mem_iff.1 hmem)
    apply h.names node hnode n
    rw [hway node way hsome]
    exact List.mem_append_right _ hn

end Tree

end Concordance
