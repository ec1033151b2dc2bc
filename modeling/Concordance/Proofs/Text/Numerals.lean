import Mathlib
import Concordance.Proofs.Text.Natural

/-!
# Numbers within names

Names that are the same up to a number are ordered by the number, whatever its length is and
however many zeros are in front of it.  Digits are compared without reading them as a number: leading
zeros are dropped, then the longer sequence is greater, and of two equally long ones the one with the
first greater byte.

* `runs_append` says that runs end where digits begin or end.
* `compareDigits_eq` says that comparing sequences of digits is comparing numbers.
* `isDigit_of_mem_utf8EncodeChar` says that the bytes of other characters are no digits.
* `naturalOrder_numbers` is the statement about names.
-/

namespace Concordance.Text

variable {s t : Bytes} {b : UInt8}

/-! ## Cutting into runs -/

/-- Is it a run of digits? -/
def Run.isDigits : Run → Bool
  | .digits _ => true
  | .other _ => false

/-- The run of a single byte. -/
def Run.single (b : UInt8) : Run := if isDigit b then .digits [b] else .other [b]

theorem Run.push_ne_nil (b : UInt8) (rest : List Run) : push b rest ≠ [] := by
  unfold push
  split <;> split <;> simp

/-- The first run is of the kind of its first byte. -/
theorem Run.isDigits_of_mem_push {run : Run} {rest : List Run} (h : run ∈ (push b rest).head?) :
    run.isDigits = isDigit b := by
  unfold push at h
  split at h
  next hb =>
    rw [hb]
    split at h <;> cases h <;> rfl
  next hb =>
    rw [Bool.not_eq_true] at hb
    rw [hb]
    split at h <;> cases h <;> rfl

/-- A byte of the other kind than the first run is a run of its own. -/
theorem Run.push_of_ne {rest : List Run} (h : ∀ run ∈ rest.head?, run.isDigits ≠ isDigit b) :
    push b rest = single b :: rest := by
  cases rest with
  | nil =>
    unfold push single
    split <;> rfl
  | cons run more =>
    have hrun : run.isDigits ≠ isDigit b := h run rfl
    unfold push single
    cases run with
    | digits run =>
      have hb : ¬ isDigit b = true := fun hb => hrun hb.symm
      simp [hb]
    | other run =>
      have hb : isDigit b = true := by
        rw [← Bool.not_eq_false]
        exact fun hb => hrun hb.symm
      simp [hb]

theorem Run.push_append {rest : List Run} (h : rest ≠ []) (b : UInt8) (more : List Run) :
    push b (rest ++ more) = push b rest ++ more := by
  obtain ⟨run, rest, rfl⟩ := List.exists_cons_of_ne_nil h
  unfold push
  cases run <;> split <;> rfl

theorem isDigits_of_mem_runs {run : Run} (h : run ∈ (runs s).head?) :
    ∃ b ∈ s.head?, run.isDigits = isDigit b := by
  cases s with
  | nil => cases h
  | cons b rest => exact ⟨b, rfl, Run.isDigits_of_mem_push h⟩

/-- Between bytes of different kinds the runs of both sides are put one after the other. -/
theorem runs_append (h : ∀ b ∈ s.getLast?, ∀ c ∈ t.head?, isDigit b ≠ isDigit c) :
    runs (s ++ t) = runs s ++ runs t := by
  induction s with
  | nil => rfl
  | cons b rest ih =>
    show Run.push b (runs (rest ++ t)) = Run.push b (runs rest) ++ runs t
    cases rest with
    | nil =>
      have hrun : ∀ run ∈ (runs t).head?, run.isDigits ≠ isDigit b := by
        intro run hrun
        obtain ⟨c, hc, hkind⟩ := isDigits_of_mem_runs hrun
        rw [hkind]
        exact Ne.symm (h b rfl c hc)
      rw [List.nil_append, Run.push_of_ne hrun, runs, Run.push_of_ne (by simp)]
      rfl
    | cons c rest =>
      rw [List.getLast?_cons_cons] at h
      rw [ih h]
      exact Run.push_append (Run.push_ne_nil c (runs rest)) b (runs t)

theorem runs_of_digits (hne : s ≠ []) (h : ∀ b ∈ s, isDigit b = true) : runs s = [.digits s] := by
  induction s with
  | nil => exact absurd rfl hne
  | cons b rest ih =>
    have hb : isDigit b = true := h b List.mem_cons_self
    show Run.push b (runs rest) = _
    cases rest with
    | nil =>
      rw [runs, Run.push_of_ne (by simp), Run.single, if_pos hb]
    | cons c rest =>
      rw [ih (List.cons_ne_nil c rest) fun d hd => h d (List.mem_cons_of_mem b hd)]
      simp [Run.push, hb]

/-- Runs that are the same in front decide nothing. -/
theorem compareRuns_append (front more others : List Run) :
    compareRuns (front ++ more) (front ++ others) = compareRuns more others := by
  induction front with
  | nil => rfl
  | cons run rest ih =>
    have hrun : run.order run = .eq := Std.ReflCmp.compare_self
    show (run.order run).then (compareRuns (rest ++ more) (rest ++ others)) = _
    rw [hrun, ih]
    rfl

theorem compareRuns_self (all : List Run) : compareRuns all all = .eq := by
  have h := compareRuns_append all [] []
  rw [List.append_nil] at h
  exact h

/-! ## Comparing digits -/

/-- The number that digits denote. -/
def number (s : Bytes) : Nat := Nat.ofDigits 10 (s.reverse.map fun b => b.toNat - 0x30)

theorem isDigit_iff : isDigit b = true ↔ 0x30 ≤ b.toNat ∧ b.toNat ≤ 0x39 := by
  simp [isDigit, UInt8.le_iff_toNat_le]

theorem number_cons (b : UInt8) (s : Bytes) :
    number (b :: s) = number s + Nat.pow 10 s.length * (b.toNat - 0x30) := by
  simp [number, Nat.ofDigits_append]

theorem number_lt (h : ∀ b ∈ s, isDigit b = true) : number s < Nat.pow 10 s.length := by
  have hlt : ∀ d ∈ s.reverse.map (fun b => b.toNat - 0x30), d < 10 := by
    intro d hd
    obtain ⟨b, hb, rfl⟩ := List.mem_map.1 hd
    have hdigit := isDigit_iff.1 (h b (List.mem_reverse.1 hb))
    omega
  have hbound := Nat.ofDigits_lt_base_pow_length (by decide) hlt
  rw [List.length_map, List.length_reverse] at hbound
  exact hbound

/-- Leading zeros count for nothing. -/
theorem number_dropWhile (s : Bytes) : number (s.dropWhile (· == 0x30)) = number s := by
  induction s with
  | nil => rfl
  | cons b rest ih =>
    rw [List.dropWhile_cons]
    split
    next hb =>
      rw [beq_iff_eq] at hb
      rw [ih, number_cons, hb]
      simp
    · rfl

/-- Without leading zeros a longer sequence denotes a greater number. -/
theorem number_lt_of_length_lt (hs : ∀ b ∈ s, isDigit b = true) (ht : ∀ b ∈ t, isDigit b = true)
    (hzero : ∀ b ∈ t.head?, b ≠ 0x30) (h : s.length < t.length) : number s < number t := by
  cases t with
  | nil => exact absurd h (Nat.not_lt_zero _)
  | cons b rest =>
    have hfirst : 1 ≤ b.toNat - 0x30 := by
      have hdigit := isDigit_iff.1 (ht b List.mem_cons_self)
      have hne : b.toNat ≠ 0x30 := fun heq => hzero b rfl (UInt8.toNat_inj.1 heq)
      omega
    have hle : s.length ≤ rest.length := Nat.le_of_lt_succ h
    calc number s < Nat.pow 10 s.length := number_lt hs
      _ ≤ Nat.pow 10 rest.length := Nat.pow_le_pow_right (by decide) hle
      _ ≤ Nat.pow 10 rest.length * (b.toNat - 0x30) := Nat.le_mul_of_pos_right _ hfirst
      _ ≤ number (b :: rest) := by
        rw [number_cons]
        exact Nat.le_add_left _ _

theorem compare_add_right (m n k : Nat) : compare (m + k) (n + k) = compare m n := by
  rcases Nat.lt_trichotomy m n with hlt | rfl | hgt
  · rw [Nat.compare_eq_lt.2 hlt]
    exact Nat.compare_eq_lt.2 (by omega)
  · rw [Nat.compare_eq_eq.2 rfl, Nat.compare_eq_eq.2 rfl]
  · rw [Nat.compare_eq_gt.2 hgt]
    exact Nat.compare_eq_gt.2 (by omega)

/-- Of equally long sequences the one with the first greater digit denotes the greater number. -/
theorem compare_eq_of_length_eq (hs : ∀ b ∈ s, isDigit b = true) (ht : ∀ b ∈ t, isDigit b = true)
    (h : s.length = t.length) : compare s t = compare (number s) (number t) := by
  induction s generalizing t with
  | nil =>
    obtain rfl : t = [] := List.length_eq_zero_iff.1 h.symm
    rfl
  | cons b rest ih =>
    cases t with
    | nil => cases h
    | cons c rest' =>
      have hlength : rest.length = rest'.length := Nat.succ.inj h
      rw [List.forall_mem_cons] at hs ht
      have hb := isDigit_iff.1 hs.1
      have hc := isDigit_iff.1 ht.1
      have hrest := number_lt hs.2
      have hrest' := number_lt ht.2
      rw [List.compare_cons_cons, ih hs.2 ht.2 hlength, number_cons, number_cons, hlength]
      rw [hlength] at hrest
      generalize Nat.pow 10 rest'.length = unit at hrest hrest'
      -- a greater first digit outweighs all digits behind it
      rcases Nat.lt_trichotomy b.toNat c.toNat with hlt | heq | hgt
      · have hfirst : compare b c = .lt := Std.compare_eq_lt.2 (UInt8.lt_iff_toNat_lt.2 hlt)
        have hstep : unit * (b.toNat - 0x30) + unit ≤ unit * (c.toNat - 0x30) := by
          rw [← Nat.mul_succ]
          exact Nat.mul_le_mul_left unit (by omega)
        rw [hfirst, eq_comm]
        exact Nat.compare_eq_lt.2 (by omega)
      · have hfirst : compare b c = .eq := by
          rw [UInt8.toNat_inj.1 heq]
          exact Std.ReflCmp.compare_self
        rw [hfirst, heq, compare_add_right]
        rfl
      · have hfirst : compare b c = .gt := Std.compare_eq_gt.2 (UInt8.lt_iff_toNat_lt.2 hgt)
        have hstep : unit * (c.toNat - 0x30) + unit ≤ unit * (b.toNat - 0x30) := by
          rw [← Nat.mul_succ]
          exact Nat.mul_le_mul_left unit (by omega)
        rw [hfirst, eq_comm]
        exact Nat.compare_eq_gt.2 (by omega)

/-- Comparing sequences of digits is comparing the numbers that they denote. -/
theorem compareDigits_eq (hs : ∀ b ∈ s, isDigit b = true) (ht : ∀ b ∈ t, isDigit b = true) :
    compareDigits s t = compare (number s) (number t) := by
  have hdrop : ∀ {s : Bytes}, (∀ b ∈ s, isDigit b = true) →
      ∀ b ∈ s.dropWhile (· == 0x30), isDigit b = true :=
    fun h b hb => h b ((List.dropWhile_sublist _).subset hb)
  have hzero : ∀ s : Bytes, ∀ b ∈ (s.dropWhile (· == 0x30)).head?, b ≠ 0x30 := by
    intro s b hb
    have hnot := List.head?_dropWhile_not (· == 0x30) s
    rw [Option.mem_def.1 hb] at hnot
    simpa using hnot
  rw [← number_dropWhile s, ← number_dropWhile t]
  unfold compareDigits
  dsimp only
  rcases Nat.lt_trichotomy (s.dropWhile (· == 0x30)).length (t.dropWhile (· == 0x30)).length
    with hlt | heq | hgt
  · have hnumber := number_lt_of_length_lt (hdrop hs) (hdrop ht) (hzero t) hlt
    rw [Nat.compare_eq_lt.2 hlt, Nat.compare_eq_lt.2 hnumber]
    rfl
  · rw [Nat.compare_eq_eq.2 heq]
    exact compare_eq_of_length_eq (hdrop hs) (hdrop ht) heq
  · have hnumber := number_lt_of_length_lt (hdrop ht) (hdrop hs) (hzero s) hgt
    rw [Nat.compare_eq_gt.2 hgt, Nat.compare_eq_gt.2 hnumber]
    rfl

/-! ## Digits of texts -/

/-- The digits are characters of one byte, the ten bytes that count as digits. -/
theorem encode_digit : ∀ n < 0x3A, 0x30 ≤ n →
    String.utf8EncodeChar (Char.ofNat n) = [UInt8.ofNat n] ∧
      (Char.ofNat n).isDigit = true ∧ isDigit (UInt8.ofNat n) = true := by
  decide

theorem toNat_of_isDigit {c : Char} (h : c.isDigit = true) : 0x30 ≤ c.toNat ∧ c.toNat ≤ 0x39 := by
  simp only [Char.isDigit, Bool.and_eq_true, decide_eq_true_eq] at h
  exact ⟨UInt32.le_iff_toNat_le.1 h.1, UInt32.le_iff_toNat_le.1 h.2⟩

theorem utf8EncodeChar_of_isDigit {c : Char} (h : c.isDigit = true) :
    String.utf8EncodeChar c = [UInt8.ofNat c.toNat] ∧ isDigit (UInt8.ofNat c.toNat) = true := by
  have hbounds := toNat_of_isDigit h
  obtain ⟨hbytes, -, hdigit⟩ := encode_digit c.toNat (Nat.lt_succ_of_le hbounds.2) hbounds.1
  rw [Char.ofNat_toNat] at hbytes
  exact ⟨hbytes, hdigit⟩

/-- No byte of another character is a digit. -/
theorem isDigit_of_mem_utf8EncodeChar {c : Char} (hc : c.isDigit = false)
    (h : b ∈ String.utf8EncodeChar c) : isDigit b = false := by
  rw [← Bool.not_eq_true]
  intro hb
  have hbounds := isDigit_iff.1 hb
  obtain ⟨hbytes, hdigit, -⟩ := encode_digit b.toNat (Nat.lt_succ_of_le hbounds.2) hbounds.1
  rw [UInt8.ofNat_toNat] at hbytes
  have hmem : Char.ofNat b.toNat ∈ [c] := mem_of_mem_encode hbytes (by simpa using h)
  rw [List.mem_singleton.1 hmem, hc] at hdigit
  cases hdigit

theorem isDigit_of_mem_getLast {p : List Char} (h : ∀ c ∈ p.getLast?, c.isDigit = false) :
    ∀ b ∈ (encode p).getLast?, isDigit b = false := by
  intro b hb
  cases p using List.reverseRecOn with
  | nil => cases hb
  | append_singleton front c =>
    have hbytes := String.utf8EncodeChar_ne_nil (c := c)
    rw [encode_append, encode_cons, encode_nil, List.append_nil,
      List.getLast?_append_of_ne_nil _ hbytes] at hb
    exact isDigit_of_mem_utf8EncodeChar (h c (by simp)) (List.mem_of_getLast? hb)

theorem isDigit_of_mem_head {q : List Char} (h : ∀ c ∈ q.head?, c.isDigit = false) :
    ∀ b ∈ (encode q).head?, isDigit b = false := by
  intro b hb
  cases q with
  | nil => cases hb
  | cons c rest =>
    have hbytes := String.utf8EncodeChar_ne_nil (c := c)
    rw [encode_cons, List.head?_append_of_ne_nil _ hbytes] at hb
    exact isDigit_of_mem_utf8EncodeChar (h c rfl) (List.mem_of_head? hb)

/-! ## Numerals within names -/

/-- ASCII digits, one of them at least. -/
structure IsNumeral (x : String) : Prop where
  /-- There is a digit. -/
  ne_empty : x ≠ ""
  /-- There is nothing but digits. -/
  isDigit : ∀ c ∈ x.toList, c.isDigit = true

/-- The number that a numeral denotes. -/
def denoted (x : String) : Nat :=
  Nat.ofDigits 10 (x.toList.reverse.map fun c => c.toNat - '0'.toNat)

theorem encode_of_isDigit {s : List Char} (h : ∀ c ∈ s, c.isDigit = true) :
    encode s = s.map fun c => UInt8.ofNat c.toNat := by
  induction s with
  | nil => rfl
  | cons c rest ih =>
    rw [List.forall_mem_cons] at h
    rw [encode_cons, ih h.2, (utf8EncodeChar_of_isDigit h.1).1]
    rfl

theorem IsNumeral.utf8_ne_nil {x : String} (h : IsNumeral x) : utf8 x ≠ [] := by
  intro hnil
  exact h.ne_empty (String.toList_eq_nil_iff.1 (encode_eq_nil_iff.1 hnil))

theorem IsNumeral.isDigit_of_mem {x : String} (h : IsNumeral x) :
    ∀ b ∈ utf8 x, Text.isDigit b = true := by
  intro b hb
  obtain ⟨c, hc, hmem⟩ := List.mem_flatMap.1 hb
  obtain ⟨hbytes, hdigit⟩ := utf8EncodeChar_of_isDigit (h.isDigit c hc)
  rw [hbytes, List.mem_singleton] at hmem
  rw [hmem]
  exact hdigit

theorem IsNumeral.number_utf8 {x : String} (h : IsNumeral x) : number (utf8 x) = denoted x := by
  unfold number denoted utf8
  rw [encode_of_isDigit h.isDigit, ← List.map_reverse, List.map_map]
  congr 1
  apply List.map_congr_left
  intro c hc
  have hbounds := toNat_of_isDigit (h.isDigit c (List.mem_reverse.1 hc))
  show (UInt8.ofNat c.toNat).toNat - 0x30 = c.toNat - 0x30
  rw [UInt8.toNat_ofNat', Nat.mod_eq_of_lt (by omega)]

/-- A numeral between texts that do not go on with its digits is a run. -/
theorem runs_numeral {p x q : String} (hp : ∀ c ∈ p.toList.getLast?, c.isDigit = false)
    (hx : IsNumeral x) (hq : ∀ c ∈ q.toList.head?, c.isDigit = false) :
    runs (utf8 (p ++ x ++ q)) = runs (utf8 p) ++ .digits (utf8 x) :: runs (utf8 q) := by
  have hbytes : utf8 (p ++ x ++ q) = utf8 p ++ (utf8 x ++ utf8 q) := by
    simp [utf8]
  have hleft : ∀ b ∈ (utf8 p).getLast?, ∀ c ∈ (utf8 x ++ utf8 q).head?,
      isDigit b ≠ isDigit c := by
    intro b hb c hc
    rw [List.head?_append_of_ne_nil _ hx.utf8_ne_nil] at hc
    rw [isDigit_of_mem_getLast hp b hb, hx.isDigit_of_mem c (List.mem_of_head? hc)]
    decide
  have hright : ∀ b ∈ (utf8 x).getLast?, ∀ c ∈ (utf8 q).head?, isDigit b ≠ isDigit c := by
    intro b hb c hc
    rw [isDigit_of_mem_head hq c hc, hx.isDigit_of_mem b (List.mem_of_getLast? hb)]
    decide
  rw [hbytes, runs_append hleft, runs_append hright,
    runs_of_digits hx.utf8_ne_nil hx.isDigit_of_mem]
  rfl

/-- Names that are the same up to a number come in the order of the numbers, and in the order of
their bytes where the numbers are equal and the names go on in the same way. -/
theorem naturalOrder_numbers {p x y q r : String}
    (hp : ∀ c ∈ p.toList.getLast?, c.isDigit = false) (hx : IsNumeral x) (hy : IsNumeral y)
    (hq : ∀ c ∈ q.toList.head?, c.isDigit = false)
    (hr : ∀ c ∈ r.toList.head?, c.isDigit = false) :
    (denoted x < denoted y → naturalOrder (p ++ x ++ q) (p ++ y ++ r) = .lt) ∧
      (denoted x = denoted y →
        naturalOrder (p ++ x ++ q) (p ++ y ++ q) = byteOrder (p ++ x ++ q) (p ++ y ++ q)) := by
  have hnumbers : compareDigits (utf8 x) (utf8 y) = compare (denoted x) (denoted y) := by
    rw [compareDigits_eq hx.isDigit_of_mem hy.isDigit_of_mem, hx.number_utf8, hy.number_utf8]
  constructor
  · intro hlt
    unfold naturalOrder
    rw [runs_numeral hp hx hq, runs_numeral hp hy hr, compareRuns_append]
    show (((compareDigits (utf8 x) (utf8 y)).then _).then _) = _
    rw [hnumbers, Nat.compare_eq_lt.2 hlt]
    rfl
  · intro heq
    have hrest : compareRuns (runs (utf8 q)) (runs (utf8 q)) = .eq := compareRuns_self _
    unfold naturalOrder
    rw [runs_numeral hp hx hq, runs_numeral hp hy hq, compareRuns_append]
    show (((compareDigits (utf8 x) (utf8 y)).then _).then _) = _
    rw [hnumbers, Nat.compare_eq_eq.2 heq, hrest]
    rfl

/-- Chapters are numbered with leading zeros and without. -/
theorem naturalOrder_chapters :
    naturalOrder ("é/" ++ "007" ++ ".xml") ("é/" ++ "10" ++ "") = .lt ∧
      naturalOrder ("é/" ++ "007" ++ ".xml") ("é/" ++ "7" ++ ".xml") =
        byteOrder ("é/" ++ "007" ++ ".xml") ("é/" ++ "7" ++ ".xml") := by
  have hfront : ∀ c ∈ "é/".toList.getLast?, c.isDigit = false := by simp
  have hback : ∀ c ∈ ".xml".toList.head?, c.isDigit = false := by simp
  have hseven : IsNumeral "007" := ⟨by simp, by simp⟩
  have hlt : denoted "007" < denoted "10" := by simp [denoted, Nat.ofDigits]
  have heq : denoted "007" = denoted "7" := by simp [denoted, Nat.ofDigits]
  constructor
  · exact (naturalOrder_numbers hfront hseven ⟨by simp, by simp⟩ hback (by simp)).1 hlt
  · exact (naturalOrder_numbers hfront hseven ⟨by simp, by simp⟩ hback hback).2 heq

end Concordance.Text
