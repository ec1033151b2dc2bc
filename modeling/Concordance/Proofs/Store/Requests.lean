import Mathlib
import Concordance.Proofs.Store.Joined

/-!
# Which stores are asked for an entry

A joined store asks the part that has an entry for it, under the name that the part has for it.  So
a request goes down through joined stores to the one that has the content.

* `requests` are the stores that are asked for an entry, and for which names; `get_of_mem_requests`
  says that all of them come to the same.
* `Closed` says that joined stores ask their parts only for entries that these have;
  `Closed.mem_names_of_mem_requests` goes from this to all requests.
* `Built` are the stores that are made in the ways there are; `Built.closed` says that they are
  closed, `Corpus.Opened.built` that opening a corpus builds one.
-/

namespace Concordance

namespace Store

/-- Induction on stores: for a joined store one may assume the claim for each of its parts. -/
@[elab_as_elim, induction_eliminator]
theorem induct {motive : Store → Prop}
    (memory : ∀ name names contents, motive (.memory name names contents))
    (directory : ∀ root name names, motive (.directory root name names))
    (compact : ∀ pair, motive (.compact pair))
    (joined : ∀ name prefixes parts names places, (∀ part ∈ parts, motive part) →
      motive (.joined name prefixes parts names places)) : ∀ store, motive store
  | .memory name names contents => memory name names contents
  | .directory root name names => directory root name names
  | .compact pair => compact pair
  | .joined name prefixes parts names places =>
    joined name prefixes parts names places fun part _ =>
      induct memory directory compact joined part

/-! ## Requests -/

mutual

/-- The stores that are asked for an entry, each with the name that it is asked for, the store
itself first. -/
def requests : Store → String → List (Store × String)
  | .joined name prefixes parts names places, full =>
    (.joined name prefixes parts names places, full) ::
      match places[full]? with
      | some (part, inner) => requestsIn parts part inner
      | none => []
  | store, name => [(store, name)]

/-- The stores that are asked for an entry of one of several stores. -/
def requestsIn : List Store → Nat → String → List (Store × String)
  | [], _, _ => []
  | store :: _, 0, name => requests store name
  | _ :: rest, part + 1, name => requestsIn rest part name

end

variable {store : Store} {name inner : String} {parts : List Store} {part : Nat}

theorem requestsIn_of_getElem? (h : parts[part]? = some store) (inner : String) :
    requestsIn parts part inner = store.requests inner := by
  induction parts generalizing part with
  | nil => cases h
  | cons first rest ih =>
    cases part with
    | zero =>
      cases h
      rw [requestsIn]
    | succ part =>
      rw [requestsIn]
      exact ih h

theorem requestsIn_of_none (h : parts[part]? = none) (inner : String) :
    requestsIn parts part inner = [] := by
  induction parts generalizing part with
  | nil => rw [requestsIn]
  | cons first rest ih =>
    cases part with
    | zero => cases h
    | succ part =>
      rw [requestsIn]
      exact ih h

/-- The stores asked by a joined store are those asked by the part that has the entry. -/
theorem mem_requests_joined {corpus : String} {prefixes names : List String}
    {places : Std.HashMap String (Nat × String)} {request : Store × String}
    (h : request ∈ (joined corpus prefixes parts names places).requests name) :
    request = (joined corpus prefixes parts names places, name) ∨
      ∃ part inner store, places[name]? = some (part, inner) ∧ parts[part]? = some store ∧
        request ∈ store.requests inner := by
  rw [requests, List.mem_cons] at h
  rcases h with rfl | h
  · exact Or.inl rfl
  · right
    cases hplace : places[name]? with
    | none => simp [hplace] at h
    | some place =>
      obtain ⟨part, inner⟩ := place
      rw [hplace] at h
      cases hpart : parts[part]? with
      | none =>
        dsimp only at h
        rw [requestsIn_of_none hpart] at h
        cases h
      | some store =>
        dsimp only at h
        rw [requestsIn_of_getElem? hpart] at h
        exact ⟨part, inner, store, rfl, hpart, h⟩

/-- All stores that are asked for an entry come to the same. -/
theorem get_of_mem_requests (tree : Tree) {request : Store × String}
    (h : request ∈ store.requests name) : request.1.get tree request.2 = store.get tree name := by
  induction store generalizing name with
  | memory corpus names contents =>
    rw [List.mem_singleton.1 h]
  | directory root corpus names =>
    rw [List.mem_singleton.1 h]
  | compact pair =>
    rw [List.mem_singleton.1 h]
  | joined corpus prefixes parts names places ih =>
    rcases mem_requests_joined h with rfl | ⟨part, inner, store, hplace, hpart, hrequest⟩
    · rfl
    · rw [ih store (List.mem_of_getElem? hpart) hrequest, get, hplace]
      exact (getIn_of_getElem? hpart inner).symm

/-! ## Requests for entries that are there -/

/-- Wherever a name of a joined store leads, there is a part that has the entry. -/
inductive Closed : Store → Prop where
  /-- A store in memory has no parts. -/
  | memory (name : String) (names : List String) (contents : Std.HashMap String String) :
      Closed (.memory name names contents)
  /-- Nor has a directory. -/
  | directory (root name : String) (names : List String) : Closed (.directory root name names)
  /-- Nor has a compact corpus. -/
  | compact (pair : Compact.Pair) : Closed (.compact pair)
  /-- In a joined store each place is that of an entry of a part, and the parts are such stores. -/
  | joined {name : String} {prefixes : List String} {parts : List Store} {names : List String}
      {places : Std.HashMap String (Nat × String)}
      (hplaces : ∀ (full : String) (part : Nat) (inner : String),
        places[full]? = some (part, inner) →
          ∃ store, parts[part]? = some store ∧ inner ∈ store.names)
      (hparts : ∀ store ∈ parts, Closed store) : Closed (.joined name prefixes parts names places)

/-- An entry that a store has is asked for under names that the stores asked have. -/
theorem Closed.mem_names_of_mem_requests (h : store.Closed) (hname : name ∈ store.names)
    {request : Store × String} (hrequest : request ∈ store.requests name) :
    request.2 ∈ request.1.names := by
  induction h generalizing name with
  | memory corpus names contents =>
    rw [List.mem_singleton.1 hrequest]
    exact hname
  | directory root corpus names =>
    rw [List.mem_singleton.1 hrequest]
    exact hname
  | compact pair =>
    rw [List.mem_singleton.1 hrequest]
    exact hname
  | joined hplaces hparts ih =>
    rcases mem_requests_joined hrequest with rfl | ⟨part, inner, store, hplace, hpart, hbelow⟩
    · exact hname
    · obtain ⟨found, hfound, hinner⟩ := hplaces name part inner hplace
      obtain rfl : found = store := Option.some.inj (hfound.symm.trans hpart)
      exact ih found (List.mem_of_getElem? hpart) hinner hbelow

/-! ## Building -/

/-- Is the store made of several stores? -/
def isJoined : Store → Bool
  | .joined _ _ _ _ _ => true
  | _ => false

/-- The store is not made of several ones, or it joins stores that have been built. -/
inductive Built : Store → Prop where
  /-- A store that has its entries itself. -/
  | whole {store : Store} (h : store.isJoined = false) : Built store
  /-- Stores that are joined. -/
  | join {name : String} {parts : List (String × Store)} {store : Store}
      (hparts : ∀ part ∈ parts, Built part.2) (h : join name parts = .ok store) : Built store

/-- An entry of a joined store is an entry of the part with its number, under its full name. -/
theorem exists_part_of_mem_joinedNames {parts : List (String × Store)} {number : Nat}
    {n : JoinedName} (h : n ∈ joinedNames number parts) :
    ∃ i front store, n.part = number + i ∧ parts[i]? = some (front, store) ∧
      n.full = fullName front n.inner ∧ n.inner ∈ store.names := by
  induction parts generalizing number with
  | nil => cases h
  | cons first rest ih =>
    obtain ⟨front, begun⟩ := first
    rw [joinedNames] at h
    rcases List.mem_append.1 h with h | h
    · obtain ⟨inner, hinner, rfl⟩ := List.mem_map.1 h
      exact ⟨0, front, begun, rfl, rfl, rfl, hinner⟩
    · obtain ⟨i, later, store, hpart, hstore, hfull, hinner⟩ := ih h
      exact ⟨i + 1, later, store, by omega, hstore, hfull, hinner⟩

theorem closed_join {parts : List (String × Store)} (hparts : ∀ part ∈ parts, part.2.Closed)
    (h : join name parts = .ok store) : store.Closed := by
  rw [join] at h
  obtain ⟨places, henter, hstore⟩ := bind_eq_ok_iff.1 h
  cases hstore
  obtain ⟨hfound, hothers⟩ := getElem?_enter henter
  refine .joined ?_ ?_
  · intro full part inner hplace
    by_cases hfull : full ∈ (joinedNames 0 parts).map JoinedName.full
    · obtain ⟨n, hn, rfl⟩ := List.mem_map.1 hfull
      rw [hfound n hn] at hplace
      cases hplace
      obtain ⟨i, front, store, hpart, hstore, -, hinner⟩ := exists_part_of_mem_joinedNames hn
      rw [hpart, Nat.zero_add, List.getElem?_map, hstore]
      exact ⟨store, rfl, hinner⟩
    · rw [hothers full hfull, Std.HashMap.getElem?_empty] at hplace
      cases hplace
  · intro part hpart
    obtain ⟨pair, hpair, rfl⟩ := List.mem_map.1 hpart
    exact hparts pair hpair

theorem closed_of_isJoined (h : store.isJoined = false) : store.Closed := by
  cases store with
  | memory name names contents => exact .memory name names contents
  | directory root name names => exact .directory root name names
  | compact pair => exact .compact pair
  | joined name prefixes parts names places => cases h

/-- A store that has been built asks its parts only for entries that they have. -/
theorem Built.closed (h : store.Built) : store.Closed := by
  induction h with
  | whole h => exact closed_of_isJoined h
  | join hparts h ih => exact closed_join ih h

/-! ## Opening -/

variable {tree : Tree} {settings : Settings} {location : String}

theorem built_ofEntriesFrom {names : List String} {contents : Std.HashMap String String}
    {entries : List Entry} (h : ofEntriesFrom name names contents entries = .ok store) :
    store.Built := by
  induction entries generalizing names contents with
  | nil =>
    cases h
    exact .whole rfl
  | cons e rest ih =>
    rw [ofEntriesFrom] at h
    split at h
    · cases h
    · exact ih h

theorem built_openCompact (h : openCompact tree location = .ok store) : store.Built := by
  rw [openCompact, map_eq_ok_iff] at h
  obtain ⟨pair, -, rfl⟩ := h
  exact .whole rfl

theorem built_openAt (h : openAt tree settings location = .ok store) : store.Built := by
  rw [openAt] at h
  split at h
  · rw [openDirectory] at h
    split at h
    · cases h
      exact .whole rfl
    · cases h
  · split at h
    · exact built_openCompact h
    · cases h

theorem built_of_openEach {corpora : List (String × String)} {parts : List (String × Store)}
    (h : openEach tree settings corpora = .ok parts) : ∀ part ∈ parts, part.2.Built := by
  induction corpora generalizing parts with
  | nil =>
    cases h
    exact nofun
  | cons first rest ih =>
    obtain ⟨front, location⟩ := first
    rw [openEach] at h
    obtain ⟨store, hstore, h⟩ := bind_eq_ok_iff.1 h
    obtain ⟨more, hmore, h⟩ := bind_eq_ok_iff.1 h
    cases h
    exact List.forall_mem_cons.2 ⟨built_openAt hstore, ih hmore⟩

theorem built_of_openIndexes {root : Place} {ways : List Place} {parts : List (String × Store)}
    (h : openIndexes tree root ways = .ok parts) : ∀ part ∈ parts, part.2.Built := by
  induction ways generalizing parts with
  | nil =>
    cases h
    exact nofun
  | cons way rest ih =>
    rw [openIndexes] at h
    split at h
    · exact ih h
    · obtain ⟨store, hstore, h⟩ := bind_eq_ok_iff.1 h
      obtain ⟨more, hmore, h⟩ := bind_eq_ok_iff.1 h
      cases h
      exact List.forall_mem_cons.2 ⟨built_openCompact hstore, ih hmore⟩

theorem built_openJoined {corpora : List (String × String)}
    (h : openJoined tree settings corpora = .ok store) : store.Built := by
  obtain ⟨parts, heach, hjoin⟩ := bind_eq_ok_iff.1 h
  exact .join (built_of_openEach heach) hjoin

theorem built_openBelow (h : openBelow tree location = .ok store) : store.Built := by
  rw [openBelow] at h
  split at h
  · cases h
  · obtain ⟨parts, heach, hjoin⟩ := bind_eq_ok_iff.1 h
    exact .join (built_of_openIndexes heach) hjoin

end Store

namespace Corpus

variable {c : Corpus}

theorem Opened.built (h : c.Opened) : c.store.Built := by
  cases h with
  | place htree h =>
    obtain ⟨store, -, hstore, rfl⟩ := exists_store_of_opening h
    exact Store.built_openAt hstore
  | below h =>
    obtain ⟨store, -, hstore, rfl⟩ := exists_store_of_opening h
    exact Store.built_openBelow hstore
  | joined h =>
    obtain ⟨store, -, hstore, rfl⟩ := exists_store_of_opening h
    exact Store.built_openJoined hstore
  | entries h =>
    obtain ⟨store, -, hstore, rfl⟩ := exists_store_of_opening h
    exact Store.built_ofEntriesFrom hstore

/-- However a corpus is opened, its store asks its parts only for entries that they have. -/
theorem Opened.closed (h : c.Opened) : c.store.Closed := h.built.closed

/-- The names of a corpus that has just been opened are those that its store found. -/
theorem Opened.names_perm (h : c.Opened) : c.names.Perm c.store.names := by
  obtain ⟨settings, store, -, rfl, -⟩ := h.exists_store
  exact settings.order.sort_perm store.names

end Corpus

end Concordance
