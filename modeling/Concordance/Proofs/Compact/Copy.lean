import Mathlib
import Concordance.Proofs.Compact.Writer
import Concordance.Proofs.Corpus.Cursor
import Concordance.Proofs.Index.Outcomes
import Concordance.Proofs.Store.Failures

/-!
# Copies lose nothing and repeat nothing

A copy offers the entries of a reader to a writer in their order.  An entry is left out if it cannot
be read or if a compact corpus cannot hold its name, and each entry that is left out is an error of
its own.

* `offered` is what comes of offering an entry, `takenOf` and `errorsOf` sort the entries by it.
* `writeItem_eq`, `writeAll_eq` and `writeUntil_append` say what a writer takes from one entry, from
  all entries, and up to the first error.
* `Writer.copy_accounts` is the statement about copies of any reader into any writer.
-/

namespace Concordance.Compact

open Concordance.Text

/-! ## Entries that are offered -/

/-- What comes of offering an entry to a writer: its content, or why it is left out.  It is read
first; its name is looked at only if it can be read. -/
def offered (read : String → Except Error String) (name : String) : Except Error String :=
  (read name).bind fun content => if BadName name then .error (.badEntryName name) else .ok content

/-- The error of an outcome. -/
def failureOf {α : Type} : Except Error α → Option Error
  | .ok _ => none
  | .error e => some e

variable {outcome read : String → Except Error String} {names before after : List String}
  {name content : String} {e : Error}

/-- The entries with an outcome that is a content. -/
def takenOf (outcome : String → Except Error String) (names : List String) :
    List (String × String) :=
  names.filterMap fun name => (outcome name).toOption.map fun content => (name, content)

/-- The errors of the other entries. -/
def errorsOf (outcome : String → Except Error String) (names : List String) : List Error :=
  names.filterMap fun name => failureOf (outcome name)

theorem takenOf_cons_ok (h : outcome name = .ok content) (names : List String) :
    takenOf outcome (name :: names) = (name, content) :: takenOf outcome names := by
  simp [takenOf, h, Except.toOption]

theorem takenOf_cons_error (h : outcome name = .error e) (names : List String) :
    takenOf outcome (name :: names) = takenOf outcome names := by
  simp [takenOf, h, Except.toOption]

theorem errorsOf_cons_ok (h : outcome name = .ok content) (names : List String) :
    errorsOf outcome (name :: names) = errorsOf outcome names := by
  simp [errorsOf, h, failureOf]

theorem errorsOf_cons_error (h : outcome name = .error e) (names : List String) :
    errorsOf outcome (name :: names) = e :: errorsOf outcome names := by
  simp [errorsOf, h, failureOf]

/-- An entry is taken with its content, if it can be read and has a good name. -/
theorem mem_takenOf_offered : (name, content) ∈ takenOf (offered read) names ↔
    name ∈ names ∧ read name = .ok content ∧ ¬ BadName name := by
  have hmem : (name, content) ∈ takenOf (offered read) names ↔
      name ∈ names ∧ offered read name = .ok content := by
    rw [takenOf, List.mem_filterMap]
    constructor
    · rintro ⟨other, hother, h⟩
      obtain ⟨found, hfound, heq⟩ := Option.map_eq_some_iff.1 h
      cases heq
      refine ⟨hother, ?_⟩
      cases houtcome : offered read name with
      | ok c => simpa [houtcome, Except.toOption] using hfound
      | error e => simp [houtcome, Except.toOption] at hfound
    · rintro ⟨hname, h⟩
      exact ⟨name, hname, by simp [h, Except.toOption]⟩
  rw [hmem, offered]
  apply and_congr_right
  intro _
  rw [bind_eq_ok_iff]
  by_cases hbad : BadName name <;> simp [hbad]

/-- The names of the entries that are taken are some of the names, in their order. -/
theorem map_fst_takenOf_sublist (outcome : String → Except Error String) (names : List String) :
    ((takenOf outcome names).map Prod.fst).Sublist names := by
  induction names with
  | nil => exact List.Sublist.slnil
  | cons name rest ih =>
    cases h : outcome name with
    | ok content =>
      rw [takenOf_cons_ok h]
      exact ih.cons_cons name
    | error e =>
      rw [takenOf_cons_error h]
      exact ih.cons name

/-- Each entry is taken or is an error. -/
theorem length_takenOf_add (outcome : String → Except Error String) (names : List String) :
    (takenOf outcome names).length + (errorsOf outcome names).length = names.length := by
  induction names with
  | nil => rfl
  | cons name rest ih =>
    cases h : outcome name with
    | ok content =>
      rw [takenOf_cons_ok h, errorsOf_cons_ok h, List.length_cons, List.length_cons, ← ih]
      omega
    | error e =>
      rw [takenOf_cons_error h, errorsOf_cons_error h, List.length_cons, List.length_cons, ← ih]
      omega

/-- Entries whose contents are known are taken with them. -/
theorem takenOf_eq_map {content : String → String}
    (h : ∀ name ∈ names, outcome name = .ok (content name)) :
    takenOf outcome names = names.map fun name => (name, content name) := by
  induction names with
  | nil => rfl
  | cons name rest ih =>
    rw [List.forall_mem_cons] at h
    rw [takenOf_cons_ok h.1, ih h.2, List.map_cons]

/-- There is no error if and only if all entries are taken. -/
theorem errorsOf_eq_nil_iff :
    errorsOf outcome names = [] ↔ (takenOf outcome names).map Prod.fst = names := by
  have hlength := length_takenOf_add outcome names
  constructor
  · intro h
    apply (map_fst_takenOf_sublist outcome names).eq_of_length
    simpa [h] using hlength
  · intro h
    have htaken := congrArg List.length h
    rw [List.length_map] at htaken
    apply List.eq_nil_of_length_eq_zero
    omega

/-- An entry that is left out is one error. -/
theorem single_of_offered {r : Reader} {tree : Tree}
    (h : offered (fun name => (r.read tree name).outcome) name = .error e) : e.Single := by
  rcases bind_eq_error_iff.1 h with hread | ⟨content, -, hname⟩
  · exact Reader.single_of_read hread
  · split at hname
    · cases hname
      exact nofun
    · cases hname

/-- Entries that can all be taken are no errors. -/
theorem errorsOf_of_allLoad (h : AllLoad outcome names) : errorsOf outcome names = [] := by
  rw [errorsOf, List.filterMap_eq_nil_iff]
  intro name hname
  obtain ⟨content, hcontent⟩ := h name hname
  rw [hcontent]
  rfl

/-! ## A writer that takes entries -/

namespace Writer

/-- An entry is taken with the content that comes of offering it. -/
theorem writeItem_eq (read : String → Except Error String) (w : Writer) (name : String) :
    w.writeItem read (.ok name) =
      (offered read name).map fun content => w.extend [(name, content)] := by
  rw [writeItem, ok_bind, offered]
  cases read name with
  | error e => rfl
  | ok content =>
    rw [ok_bind, writeEntry_eq]
    by_cases hbad : BadName name
    · simp [hbad, Except.bind, Except.map]
    · simp [hbad, Except.bind, Except.map]

theorem writeAll_eq (read : String → Except Error String) (w : Writer) (names : List String) :
    w.writeAll read (names.map .ok) =
      (w.extend (takenOf (offered read) names), errorsOf (offered read) names) := by
  induction names generalizing w with
  | nil => exact congrArg (·, []) (extend_nil w).symm
  | cons name rest ih =>
    rw [List.map_cons, writeAll, writeItem_eq]
    cases h : offered read name with
    | ok content =>
      simp only [Except.map]
      rw [ih, extend_extend, takenOf_cons_ok h, errorsOf_cons_ok h, List.singleton_append]
    | error e =>
      simp only [Except.map]
      rw [ih, takenOf_cons_error h, errorsOf_cons_error h]

/-- The entries in front of the first error are taken. -/
theorem writeUntil_append (h : AllLoad (offered read) before) (w : Writer)
    (items : List (Except Error String)) :
    w.writeUntil read (before.map .ok ++ items) =
      (w.extend (takenOf (offered read) before)).writeUntil read items := by
  induction before generalizing w with
  | nil => exact congrArg (writeUntil read · items) (extend_nil w).symm
  | cons name rest ih =>
    obtain ⟨content, hcontent⟩ := h name List.mem_cons_self
    have hrest : AllLoad (offered read) rest := fun n hn => h n (List.mem_cons_of_mem name hn)
    rw [List.map_cons, List.cons_append, writeUntil, writeItem_eq, hcontent]
    simp only [Except.map]
    rw [ih hrest, extend_extend, takenOf_cons_ok hcontent, List.singleton_append]

/-- An error that iterating or offering gives ends it. -/
theorem writeUntil_of_error {w : Writer} {item : Except Error String}
    (h : w.writeItem read item = .error e) (items : List (Except Error String)) :
    w.writeUntil read (item :: items) = (w, .error e) := by
  rw [writeUntil, h]

/-! ## Copies -/

variable {tree : Tree} {w : Writer} {r : Reader} {corpus : Corpus}

/-- Iterating the names of an open reader gives all of them. -/
theorem drain_of_open (h : r.corpus = some corpus) :
    (r.entries.drain tree r.corpus).result = corpus.names.map .ok := by
  rw [h]
  exact Cursor.drain_entries tree corpus

/-- Iterating those of a closed one gives one error. -/
theorem drain_of_closed (h : r.corpus = none) :
    (r.entries.drain tree r.corpus).result = [.error .closed] := by
  rw [h]
  rfl

theorem copy_false (h : r.corpus = some corpus) :
    w.copy tree r false =
      let outcome := offered fun name => (r.read tree name).outcome
      (w.extend (takenOf outcome corpus.names), report (errorsOf outcome corpus.names)) := by
  rw [copy, drain_of_open h]
  dsimp only
  rw [if_neg Bool.false_ne_true, writeAll_eq]

theorem copy_true (h : r.corpus = some corpus) :
    w.copy tree r true =
      w.writeUntil (fun name => (r.read tree name).outcome) (corpus.names.map .ok) := by
  rw [copy, drain_of_open h]
  rfl

/-- If all entries can be taken, all of them are, with `failFirst` or without. -/
theorem copy_of_allLoad (h : r.corpus = some corpus)
    (hall : AllLoad (offered fun name => (r.read tree name).outcome) corpus.names)
    (failFirst : Bool) :
    w.copy tree r failFirst =
      let outcome := offered fun name => (r.read tree name).outcome
      (w.extend (takenOf outcome corpus.names), .ok ()) := by
  cases failFirst with
  | false =>
    rw [copy_false h]
    dsimp only
    rw [errorsOf_of_allLoad hall]
    rfl
  | true =>
    have huntil := writeUntil_append hall w []
    rw [List.append_nil] at huntil
    rw [copy_true h, huntil]
    rfl

/-- A copy of a reader, in which the entry with a name is offered with an outcome.

If the reader is open, all entries with a content are taken, each once and in the order of the
names.  The others are left out, and their errors are given together in this order, if there are
any.  With `failFirst` either all entries are taken, or those in front of the first one with an
error, which is given as it is.

If the reader is closed, nothing is taken, and the only error says that it is closed. -/
theorem copy_accounts (tree : Tree) (w : Writer) (r : Reader) :
    let read := fun name => (r.read tree name).outcome
    let outcome := offered read
    (∀ corpus, r.corpus = some corpus →
      let taken := takenOf outcome corpus.names
      let errors := errorsOf outcome corpus.names
      w.copy tree r false =
        (w.extend taken, if errors = [] then .ok () else .error (.batch errors)) ∧
      (∀ name content, (name, content) ∈ taken ↔
        name ∈ corpus.names ∧ read name = .ok content ∧ ¬ BadName name) ∧
      (taken.map Prod.fst).Sublist corpus.names ∧
      (corpus.names.Nodup → (taken.map Prod.fst).Nodup) ∧
      (errors = [] ↔ taken.map Prod.fst = corpus.names) ∧
      r.size = .ok (taken.length + errors.length) ∧
      (w.copy tree r true = (w.extend taken, .ok ()) ∧ taken.map Prod.fst = corpus.names ∨
        ∃ before name after e, corpus.names = before ++ name :: after ∧
          AllLoad outcome before ∧ outcome name = .error e ∧ e.Single ∧
          (takenOf outcome before).map Prod.fst = before ∧
          w.copy tree r true = (w.extend (takenOf outcome before), .error e))) ∧
    (r.corpus = none →
      w.copy tree r true = (w, .error .closed) ∧
      w.copy tree r false = (w, .error (.batch [.closed]))) := by
  intro read outcome
  constructor
  · intro corpus hcorpus taken errors
    have hlength : taken.length + errors.length = corpus.names.length :=
      length_takenOf_add outcome corpus.names
    have hsublist : (taken.map Prod.fst).Sublist corpus.names :=
      map_fst_takenOf_sublist outcome corpus.names
    refine ⟨?_, fun name content => mem_takenOf_offered, hsublist,
      fun hnodup => hnodup.sublist hsublist, errorsOf_eq_nil_iff, ?_, ?_⟩
    · rw [copy_false hcorpus]
      show (w.extend taken, report errors) = _
      rw [report]
      simp only [List.isEmpty_iff]
    · rw [hlength, Reader.size, Reader.opened, hcorpus]
      simp [Except.map, Corpus.size, Corpus.names, NameIndex.size]
    · rcases allLoad_or_firstFails outcome corpus.names with hall | ⟨e, hfirst⟩
      · left
        exact ⟨copy_of_allLoad hcorpus hall true,
          errorsOf_eq_nil_iff.1 (errorsOf_of_allLoad hall)⟩
      · right
        obtain ⟨before, name, after, hsplit, hbefore, he⟩ := hfirst
        refine ⟨before, name, after, e, hsplit, hbefore, he, single_of_offered he,
          errorsOf_eq_nil_iff.1 (errorsOf_of_allLoad hbefore), ?_⟩
        rw [copy_true hcorpus, hsplit, List.map_append, List.map_cons, writeUntil_append hbefore]
        apply writeUntil_of_error
        rw [writeItem_eq, show offered read name = .error e from he]
        rfl
  · intro hclosed
    have hitem : ∀ w : Writer, w.writeItem read (.error .closed) = .error .closed := fun _ => rfl
    constructor
    · rw [copy, drain_of_closed hclosed]
      exact writeUntil_of_error (hitem w) []
    · rw [copy, drain_of_closed hclosed]
      rfl

end Writer

end Concordance.Compact
