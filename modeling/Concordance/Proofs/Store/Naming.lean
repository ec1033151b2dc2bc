import Mathlib
import Concordance.Proofs.Store.Failures
import Concordance.Proofs.Store.Requests

/-!
# Under which name an entry is reported

An error of reading an entry carries a name.  A store that has its entries itself reports an entry
under the name it was asked for.  A joined store passes on what the part reports, so an entry is
reported under the name that the part has for it, which is another one.

* `Error.entry?` is the name that an error carries.
* `Store.InnerName` says what becomes of a name on the way to the store that has the content;
  `InnerName.eq_iff` that it stays the same only if nothing is joined.
* `Store.Built.innerName_of_get` says that errors carry this name.
-/

namespace Concordance

/-- The name of the entry that an error is about. -/
def Error.entry? : Error → Option String
  | .notFound name => some name
  | .notUtf8 name => some name
  | _ => none

theorem Error.About.entry?_eq {name inner : String} {e : Error} (h : e.About name)
    (he : e.entry? = some inner) : inner = name := by
  cases h with
  | notFound => exact (Option.some.inj he).symm
  | notUtf8 => exact (Option.some.inj he).symm
  | system path cause => cases he

namespace Store

variable {tree : Tree} {store : Store} {name inner : String} {e : Error}

/-! ## Names inside of joined stores -/

/-- What becomes of the name of an entry on the way to the store that has the content: a joined
store leaves off the name that the part has in it. -/
inductive InnerName : Store → String → String → Prop where
  /-- A store that has its entries itself is asked for the name as it is. -/
  | whole {store : Store} {name : String} (h : store.isJoined = false) : InnerName store name name
  /-- A part is asked for the name that it has for the entry. -/
  | part {corpus : String} {prefixes : List String} {parts : List Store} {names : List String}
      {places : Std.HashMap String (Nat × String)} {i : Nat} {front name inner : String}
      {part : Store} (hfront : prefixes[i]? = some front) (hpart : parts[i]? = some part)
      (hname : name ∈ part.names) (h : InnerName part name inner) :
      InnerName (.joined corpus prefixes parts names places) (fullName front name) inner

/-- In a joined store a name stands in front. -/
theorem InnerName.exists_front (h : store.InnerName name inner) (hjoined : store.isJoined = true) :
    ∃ front, name = fullName front inner := by
  induction h with
  | whole h => exact absurd (hjoined.symm.trans h) (by decide)
  | @part _ _ _ _ _ _ front name inner part _ _ _ h ih =>
    cases hpart : part.isJoined with
    | true =>
      obtain ⟨more, rfl⟩ := ih hpart
      refine ⟨fullName front more, ?_⟩
      simp only [fullName, String.append_assoc]
    | false =>
      cases h with
      | whole _ => exact ⟨front, rfl⟩
      | part => cases hpart

theorem fullName_ne (front inner : String) : fullName front inner ≠ inner := by
  intro h
  have hlength := congrArg String.length h
  simp [fullName] at hlength

/-- The name stays the same only if nothing is joined. -/
theorem InnerName.eq_iff (h : store.InnerName name inner) :
    inner = name ↔ store.isJoined = false := by
  cases hjoined : store.isJoined with
  | true =>
    obtain ⟨front, rfl⟩ := h.exists_front hjoined
    exact iff_of_false (fullName_ne front inner).symm nofun
  | false =>
    cases h with
    | whole _ => exact iff_of_true rfl rfl
    | part => cases hjoined

/-! ## Errors -/

/-- A store that has its entries itself reports them under the names that it is asked for. -/
theorem about_of_get (hstore : store.isJoined = false) (h : store.get tree name = .error e) :
    e.About name := by
  cases store with
  | memory corpus names contents =>
    rw [get] at h
    split at h
    · cases h
    · cases h
      exact .notFound
  | directory root corpus names =>
    rw [get] at h
    exact about_of_readFile h
  | compact pair =>
    rw [get] at h
    exact about_of_pair h
  | joined corpus prefixes parts names places => cases hstore

/-- An entry of a store is reported under the name that the store with its content has for it. -/
theorem Built.innerName_of_get (hstore : store.Built) (hname : name ∈ store.names)
    (h : store.get tree name = .error e) (he : e.entry? = some inner) :
    store.InnerName name inner := by
  induction hstore generalizing name with
  | whole hwhole =>
    rw [(about_of_get hwhole h).entry?_eq he]
    exact .whole hwhole
  | join hparts hjoin ih =>
    rw [Store.join] at hjoin
    obtain ⟨places, henter, hstore⟩ := bind_eq_ok_iff.1 hjoin
    cases hstore
    obtain ⟨n, hn, rfl⟩ := List.mem_map.1 hname
    obtain ⟨i, front, part, hnumber, hpart, hfull, hinner⟩ := exists_part_of_mem_joinedNames hn
    rw [Nat.zero_add] at hnumber
    have hplace := (getElem?_enter henter).1 n hn
    rw [hnumber] at hplace
    have hstores := congrArg (Option.map Prod.snd) hpart
    have hfronts := congrArg (Option.map Prod.fst) hpart
    rw [← List.getElem?_map] at hstores hfronts
    rw [get, hplace] at h
    rw [hfull]
    exact .part hfronts hstores hinner
      (ih _ (List.mem_of_getElem? hpart) hinner ((getIn_of_getElem? hstores n.inner) ▸ h))

end Store

end Concordance
