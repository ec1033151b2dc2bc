import Mathlib
import Concordance.Compact.Number
import Concordance.Proofs.Text.Bytes

/-!
# What the numbers of the index file stand for

A written number is a sequence of digits in base 64, the most significant one first.

* `Number.Writes` says which number a text stands for; `decode?_eq_some_iff` says that reading
  gives that number.
* `decode?_encode` says that a written number is read back.
* `utf8_encode_of_decode?` says that writing what has been read gives the text without the zeros
  in front of it; `written_iff_read` puts the laws of writing and reading together.
-/

namespace Concordance.Compact.Number

open Concordance.Text

/-! ## Digits -/

/-- The digits in the order of their values. -/
def alphabet : Bytes :=
  utf8 "ABCDEFGHIJKLMNOPQRSTUVWXYZabcdefghijklmnopqrstuvwxyz0123456789+/"

theorem value?_ofNat : ∀ n < 256, value? (UInt8.ofNat n) =
    if UInt8.ofNat n ∈ alphabet then some (alphabet.idxOf (UInt8.ofNat n)) else none := by
  decide +kernel

theorem value?_eq (b : UInt8) :
    value? b = if b ∈ alphabet then some (alphabet.idxOf b) else none := by
  have h := value?_ofNat b.toNat b.toNat_lt
  rwa [UInt8.ofNat_toNat] at h

theorem length_alphabet : alphabet.length = 64 := by decide +kernel

theorem idxOf_alphabet_lt {b : UInt8} (h : b ∈ alphabet) : alphabet.idxOf b < 64 := by
  have hlt := List.idxOf_lt_length_of_mem h
  rwa [length_alphabet] at hlt

/-- A digit is one byte, which has the value of the digit. -/
theorem digit_written : ∀ v < 64, String.utf8EncodeChar (digit v) = [UInt8.ofNat (digit v).toNat] ∧
    value? (UInt8.ofNat (digit v).toNat) = some v := by
  decide +kernel

/-! ## Reading -/

/-- The number that digits stand for behind a number already read. -/
def fold (v : Nat) (s : Bytes) : Nat := s.foldl (fun v b => v * 64 + alphabet.idxOf b) v

/-- The text stands for the number: it has digits, all of them are in the alphabet, and in base 64
they make the number, which has at most 64 bits. -/
structure Writes (s : Bytes) (v : Nat) : Prop where
  /-- There is a digit. -/
  ne_nil : s ≠ []
  /-- There are only digits. -/
  digits : ∀ b ∈ s, b ∈ alphabet
  /-- The number, whose least significant digit is the last one. -/
  value : v = Nat.ofDigits 64 (s.reverse.map alphabet.idxOf)
  /-- The number has at most 64 bits. -/
  lt : v < Nat.pow 2 64

theorem fold_zero_eq (s : Bytes) :
    fold 0 s = Nat.ofDigits 64 (s.reverse.map alphabet.idxOf) := by
  induction s using List.reverseRecOn with
  | nil => rfl
  | append_singleton s b ih =>
    rw [fold, List.foldl_concat, ← fold, ih, List.reverse_append, List.reverse_singleton,
      List.singleton_append, List.map_cons, Nat.ofDigits_cons, Nat.mul_comm, Nat.add_comm]

theorem le_fold (v : Nat) (s : Bytes) : v ≤ fold v s := by
  induction s generalizing v with
  | nil => exact le_rfl
  | cons b rest ih =>
    have h := ih (v * 64 + alphabet.idxOf b)
    rw [fold, List.foldl_cons, ← fold]
    omega

theorem limit_eq : limit = 64 * 2 ^ 58 := by decide

/-- Digits are read as the number they stand for, unless it has more than 64 bits. -/
theorem decodeFrom_eq_some_iff {v w : Nat} {s : Bytes} (hv : v < limit) :
    decodeFrom v s = some w ↔ (∀ b ∈ s, b ∈ alphabet) ∧ w = fold v s ∧ w < limit := by
  induction s generalizing v with
  | nil =>
    rw [decodeFrom, Option.some.injEq]
    constructor
    · rintro rfl
      exact ⟨by simp, rfl, hv⟩
    · rintro ⟨-, rfl, -⟩
      rfl
  | cons b rest ih =>
    rw [decodeFrom, value?_eq]
    by_cases hb : b ∈ alphabet
    · have hdigit := idxOf_alphabet_lt hb
      have hfold : fold v (b :: rest) = fold (v * 64 + alphabet.idxOf b) rest := rfl
      rw [if_pos hb, hfold]
      dsimp only
      by_cases hroom : v * 64 < limit
      · -- the limit is a multiple of 64, so one more digit fits
        have hnext : v * 64 + alphabet.idxOf b < limit := by
          have h := limit_eq
          omega
        rw [if_pos hroom, ih hnext]
        simp [hb]
      · rw [if_neg hroom]
        have hle := le_fold (v * 64 + alphabet.idxOf b) rest
        constructor
        · intro h
          cases h
        · rintro ⟨-, rfl, hlt⟩
          omega
    · rw [if_neg hb]
      simp [hb]

/-- Reading gives the number that a text stands for, and nothing if there is none. -/
theorem decode?_eq_some_iff {s : Bytes} {v : Nat} : decode? s = some v ↔ Writes s v := by
  cases s with
  | nil =>
    constructor
    · intro h
      cases h
    · intro h
      exact absurd rfl h.ne_nil
  | cons b rest =>
    have hzero : 0 < limit := by decide
    rw [decode?, decodeFrom_eq_some_iff hzero, fold_zero_eq]
    · constructor
      · rintro ⟨hdigits, hvalue, hlt⟩
        exact ⟨by simp, hdigits, hvalue, hlt⟩
      · intro h
        exact ⟨h.digits, h.value, h.lt⟩
    · simp

/-! ## Reading back -/

theorem decodeFrom_encode_digit {d : Nat} (hd : d < 64) {v : Nat} (hv : v * 64 < limit)
    (rest : List Char) :
    decodeFrom v (Text.encode (digit d :: rest)) = decodeFrom (v * 64 + d) (Text.encode rest) := by
  obtain ⟨hbyte, hvalue⟩ := digit_written d hd
  rw [encode_cons, hbyte, List.singleton_append, decodeFrom, hvalue]
  dsimp only
  rw [if_pos hv]

/-- The digits of a number are read as that number, with what is behind them. -/
theorem decodeFrom_encode_digits {n : Nat} (hn : n < limit) (rest : List Char) :
    decodeFrom 0 (Text.encode (digits n rest)) = decodeFrom n (Text.encode rest) := by
  induction n, rest using digits.induct with
  | case1 n rest hlt =>
    rw [digits, if_pos hlt, decodeFrom_encode_digit hlt (by decide), Nat.zero_mul, Nat.zero_add]
  | case2 n rest hge ih =>
    have hdiv : n / 64 * 64 + n % 64 = n := by omega
    rw [digits, if_neg hge, ih (by omega), decodeFrom_encode_digit (by omega) (by omega), hdiv]

theorem digits_ne_nil (n : Nat) (rest : List Char) : digits n rest ≠ [] := by
  induction n, rest using digits.induct with
  | case1 n rest hlt =>
    rw [digits, if_pos hlt]
    exact List.cons_ne_nil _ _
  | case2 n rest hge ih =>
    rw [digits, if_neg hge]
    exact ih

theorem utf8_encode (n : UInt64) : utf8 (Number.encode n) = Text.encode (digits n.toNat []) := by
  rw [Number.encode, utf8, String.toList_ofList]

/-- A written number is read back. -/
theorem decode?_encode (n : UInt64) : decode? (utf8 (Number.encode n)) = some n.toNat := by
  have hlt : n.toNat < limit := n.toNat_lt
  have hne : utf8 (Number.encode n) ≠ [] := by
    rw [utf8_encode]
    intro h
    exact digits_ne_nil _ _ (encode_eq_nil_iff.1 h)
  have hread := decodeFrom_encode_digits hlt []
  rw [utf8_encode] at hne ⊢
  rw [decode?.eq_def]
  split
  · contradiction
  · exact hread

theorem writes_encode (n : UInt64) : Writes (utf8 (Number.encode n)) n.toNat :=
  decode?_eq_some_iff.1 (decode?_encode n)

/-! ## Zeros in front -/

/-- The digit for zero. -/
def zeroDigit : UInt8 := 65

/-- Digits without the zeros in front of them.  Of zeros alone one is left. -/
def dropZeros (s : Bytes) : Bytes :=
  match s.dropWhile (· = zeroDigit) with
  | [] => [zeroDigit]
  | b :: rest => b :: rest

/-- The digit of the value of a digit is this digit. -/
theorem digit_idxOf {b : UInt8} (hb : b ∈ alphabet) :
    String.utf8EncodeChar (digit (alphabet.idxOf b)) = [b] := by
  obtain ⟨hbyte, hvalue⟩ := digit_written _ (idxOf_alphabet_lt hb)
  rw [value?_eq] at hvalue
  split at hvalue
  next hmem =>
    rw [hbyte, (List.idxOf_inj hmem).1 (Option.some.inj hvalue)]
  · cases hvalue

theorem idxOf_eq_zero_iff {b : UInt8} (hb : b ∈ alphabet) :
    alphabet.idxOf b = 0 ↔ b = zeroDigit := by
  have hzero : alphabet.idxOf zeroDigit = 0 := by decide +kernel
  rw [← hzero]
  exact List.idxOf_inj hb

theorem encode_map_digit {s : Bytes} (hs : ∀ b ∈ s, b ∈ alphabet) :
    Text.encode (s.map fun b => digit (alphabet.idxOf b)) = s := by
  induction s with
  | nil => rfl
  | cons b rest ih =>
    rw [List.forall_mem_cons] at hs
    rw [List.map_cons, encode_cons, digit_idxOf hs.1, ih hs.2]
    rfl

/-- One more digit behind a number that is not zero. -/
theorem digits_mul_add {v d : Nat} (hv : 0 < v) (hd : d < 64) (rest : List Char) :
    digits (v * 64 + d) rest = digits v (digit d :: rest) := by
  have hge : ¬ v * 64 + d < 64 := by omega
  have hdiv : (v * 64 + d) / 64 = v := by omega
  have hmod : (v * 64 + d) % 64 = d := by omega
  rw [digits, if_neg hge, hdiv, hmod]

/-- Digits behind a number that is not zero are written as they were read. -/
theorem digits_fold {v : Nat} (hv : 0 < v) {s : Bytes} (hs : ∀ b ∈ s, b ∈ alphabet)
    (rest : List Char) :
    digits (fold v s) rest = digits v (s.map (fun b => digit (alphabet.idxOf b)) ++ rest) := by
  induction s generalizing v with
  | nil => rfl
  | cons b more ih =>
    rw [List.forall_mem_cons] at hs
    have hlt := idxOf_alphabet_lt hs.1
    have hfold : fold v (b :: more) = fold (v * 64 + alphabet.idxOf b) more := rfl
    rw [hfold, ih (by omega) hs.2, digits_mul_add hv hlt]
    rfl

/-- Writing the number that digits stand for gives them without the zeros in front. -/
theorem encode_digits_fold {s : Bytes} (hs : ∀ b ∈ s, b ∈ alphabet) :
    Text.encode (digits (fold 0 s) []) = dropZeros s := by
  induction s with
  | nil => decide +kernel
  | cons b rest ih =>
    rw [List.forall_mem_cons] at hs
    have hzero := idxOf_eq_zero_iff hs.1
    by_cases hb : b = zeroDigit
    · have hfold : fold 0 (b :: rest) = fold 0 rest := by
        rw [fold, List.foldl_cons, hzero.2 hb, ← fold]
      have hdrop : dropZeros (b :: rest) = dropZeros rest := by
        simp only [dropZeros, List.dropWhile_cons, hb, decide_true, if_true]
      rw [hfold, ih hs.2, hdrop]
    · -- from here on the number is not zero, so no digit is lost
      have hpos : 0 < alphabet.idxOf b := Nat.pos_of_ne_zero fun h => hb (hzero.1 h)
      have hlt := idxOf_alphabet_lt hs.1
      have hfold : fold 0 (b :: rest) = fold (alphabet.idxOf b) rest := by
        rw [fold, List.foldl_cons, Nat.zero_mul, Nat.zero_add, ← fold]
      have hdrop : dropZeros (b :: rest) = b :: rest := by
        simp only [dropZeros, List.dropWhile_cons, hb, decide_false, Bool.false_eq_true, if_false]
      rw [hfold, digits_fold hpos hs.2, digits, if_pos hlt, List.append_nil, encode_cons,
        digit_idxOf hs.1, encode_map_digit hs.2, hdrop]
      rfl

/-- Writing a number that has been read gives the text without the zeros in front of it. -/
theorem utf8_encode_of_decode? {s : Bytes} {n : UInt64} (h : decode? s = some n.toNat) :
    utf8 (Number.encode n) = dropZeros s := by
  have hwrites := decode?_eq_some_iff.1 h
  rw [utf8_encode, hwrites.value, ← fold_zero_eq, encode_digits_fold hwrites.digits]

/-- A zero is left only of zeros alone. -/
theorem dropZeros_eq_of_head? {s : Bytes} (h : (dropZeros s).head? = some zeroDigit) :
    dropZeros s = [zeroDigit] := by
  have hnot := List.head?_dropWhile_not (· = zeroDigit) s
  unfold dropZeros at h ⊢
  split
  · rfl
  next b rest hdrop =>
    rw [hdrop] at h hnot
    simp_all

/-- What is written has no zero in front, but for zero itself. -/
theorem head?_encode_eq_zeroDigit_iff (n : UInt64) :
    (utf8 (Number.encode n)).head? = some zeroDigit ↔ n = 0 := by
  constructor
  · intro hhead
    have hread := decode?_encode n
    rw [utf8_encode_of_decode? hread] at hhead hread
    rw [dropZeros_eq_of_head? hhead] at hread
    have hzero : decode? [zeroDigit] = some 0 := by decide
    rw [hzero] at hread
    exact UInt64.toNat_inj.1 (Option.some.inj hread).symm
  · rintro rfl
    decide +kernel

/-- A number below a power of 64 has at most as many digits as the exponent says. -/
theorem length_encode_digits_le {k n : Nat} (hn : n < 64 ^ (k + 1)) (rest : List Char) :
    (Text.encode (digits n rest)).length ≤ (Text.encode rest).length + (k + 1) := by
  have hone : ∀ d < 64, ∀ rest,
      (Text.encode (digit d :: rest)).length = (Text.encode rest).length + 1 := by
    intro d hd rest
    rw [encode_cons, (digit_written d hd).1, List.singleton_append, List.length_cons]
  induction k generalizing n rest with
  | zero =>
    have hlt : n < 64 := by simpa using hn
    rw [digits, if_pos hlt, hone n hlt]
  | succ k ih =>
    rw [digits]
    split
    next hlt =>
      rw [hone n hlt]
      omega
    next hge =>
      have hdiv : n / 64 < 64 ^ (k + 1) := by
        rw [Nat.div_lt_iff_lt_mul (by decide), ← pow_succ]
        exact hn
      have hle := ih hdiv (digit (n % 64) :: rest)
      rw [hone _ (Nat.mod_lt _ (by decide))] at hle
      omega

theorem decodeFrom_zeros (k : Nat) (s : Bytes) :
    decodeFrom 0 (List.replicate k zeroDigit ++ s) = decodeFrom 0 s := by
  induction k with
  | zero => rfl
  | succ k ih => exact ih

/-- Zeros in front of other digits make no difference. -/
theorem decode?_zeros (k : Nat) (b : UInt8) (s : Bytes) :
    decode? (List.replicate k zeroDigit ++ b :: s) = decode? (b :: s) := by
  cases k with
  | zero => rfl
  | succ k => exact decodeFrom_zeros (k + 1) (b :: s)

/-- What is written and what is read.

A number of 64 bits is written with one to eleven digits of the alphabet, the first of which is the
digit for zero only if the number is zero, and it is read back.  A text is read as the number that
it stands for, and it is refused if there is none.  Writing the number that has been read gives the
text without the zeros in front of it.  Zeros in front of other digits make no difference, however
many there are. -/
theorem written_iff_read :
    (∀ n : UInt64,
      1 ≤ (utf8 (Number.encode n)).length ∧ (utf8 (Number.encode n)).length ≤ 11 ∧
      (∀ b ∈ utf8 (Number.encode n), b ∈ alphabet) ∧
      ((utf8 (Number.encode n)).head? = some zeroDigit ↔ n = 0) ∧
      decode? (utf8 (Number.encode n)) = some n.toNat) ∧
    (∀ (s : Bytes) (v : Nat), decode? s = some v ↔ Writes s v) ∧
    (∀ s : Bytes, decode? s = none ↔ ∀ v, ¬ Writes s v) ∧
    (∀ (s : Bytes) (v : Nat), decode? s = some v →
      v < 2 ^ 64 ∧ utf8 (Number.encode (.ofNat v)) = dropZeros s) ∧
    ∀ (k : Nat) (b : UInt8) (s : Bytes),
      decode? (List.replicate k zeroDigit ++ b :: s) = decode? (b :: s) := by
  refine ⟨fun n => ?_, fun s v => decode?_eq_some_iff, fun s => ?_, fun s v h => ?_, decode?_zeros⟩
  · have hwrites := writes_encode n
    have hlt : n.toNat < 64 ^ 11 := Nat.lt_trans n.toNat_lt (by decide)
    refine ⟨List.length_pos_iff.2 hwrites.ne_nil, ?_, hwrites.digits,
      head?_encode_eq_zeroDigit_iff n, decode?_encode n⟩
    rw [utf8_encode]
    exact length_encode_digits_le hlt []
  · rw [Option.eq_none_iff_forall_ne_some]
    exact forall_congr' fun v => not_congr decode?_eq_some_iff
  · have hlt : v < 2 ^ 64 := (decode?_eq_some_iff.1 h).lt
    have hv : (UInt64.ofNat v).toNat = v := UInt64.toNat_ofNat_of_lt' hlt
    rw [← hv] at h
    exact ⟨hlt, utf8_encode_of_decode? h⟩

/-- The greatest number, read behind many zeros; the next one is refused. -/
theorem written_iff_read_greatest :
    decode? (utf8 "AAAAAAAAAAAAAAAAP//////////") = some 18446744073709551615 ∧
      utf8 (Number.encode 18446744073709551615) = utf8 "P//////////" ∧
      decode? (utf8 "QAAAAAAAAAA") = none := by
  have hread : decode? (utf8 "AAAAAAAAAAAAAAAAP//////////") = some 18446744073709551615 := by
    decide +kernel
  obtain ⟨-, -, -, hwrite, -⟩ := written_iff_read
  refine ⟨hread, (hwrite _ _ hread).2.trans ?_, ?_⟩
  · decide +kernel
  · decide +kernel

end Concordance.Compact.Number
