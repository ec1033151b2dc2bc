import Mathlib
import Concordance.Gzip.Member
import Concordance.Proofs.Except

/-!
# Compressed files that have been written are read back

A written file has one member, whose blocks hold the bytes as they are.

* `bytesOf_bitsOf` and `takeNumber_bitsOf` go from bits back to bytes and numbers.
* `takeBlocksFrom_storedBlocks` reads the blocks of some bytes.
* `decode_encode` reads a whole file.
-/

namespace Concordance.Gzip

open Concordance.Text (Bytes)

/-! ## Numbers in bytes -/

theorem length_toLittleEndian (n v : Nat) : (toLittleEndian n v).length = n := by
  induction n generalizing v with
  | zero => rfl
  | succ n ih => rw [toLittleEndian, List.length_cons, ih]

theorem littleEndian_toLittleEndian (n v : Nat) :
    littleEndian (toLittleEndian n v) = v % 256 ^ n := by
  induction n generalizing v with
  | zero => simp [toLittleEndian, littleEndian, Nat.mod_one]
  | succ n ih =>
    have hbyte : (UInt8.ofNat v).toNat = v % 256 := UInt8.toNat_ofNat'
    rw [toLittleEndian, littleEndian, ih, hbyte, Nat.pow_succ', Nat.mod_mul]

/-! ## Bits -/

theorem length_bitsOfByte (b : UInt8) : (bitsOfByte b).length = 8 := by
  simp [bitsOfByte]

@[simp] theorem bitsOf_nil : bitsOf [] = [] := rfl

@[simp] theorem bitsOf_cons (b : UInt8) (rest : Bytes) :
    bitsOf (b :: rest) = bitsOfByte b ++ bitsOf rest := by
  simp [bitsOf]

theorem bitsOf_append (s rest : Bytes) : bitsOf (s ++ rest) = bitsOf s ++ bitsOf rest := by
  simp [bitsOf]

theorem length_bitsOf (s : Bytes) : (bitsOf s).length = 8 * s.length := by
  induction s with
  | nil => rfl
  | cons b rest ih =>
    rw [bitsOf_cons, List.length_append, length_bitsOfByte, ih, List.length_cons]
    omega

theorem numberOf_append (x y : Bits) :
    numberOf (x ++ y) = numberOf x + 2 ^ x.length * numberOf y := by
  induction x with
  | nil => simp [numberOf]
  | cons bit x ih =>
    rw [List.cons_append, numberOf, ih, numberOf, List.length_cons, Nat.pow_succ]
    ring

theorem numberOf_bitsOfByte_ofNat :
    ∀ n < 256, numberOf (bitsOfByte (UInt8.ofNat n)) = (UInt8.ofNat n).toNat := by
  decide +kernel

theorem numberOf_bitsOfByte (b : UInt8) : numberOf (bitsOfByte b) = b.toNat := by
  have h := numberOf_bitsOfByte_ofNat b.toNat b.toNat_lt
  rwa [UInt8.ofNat_toNat] at h

theorem numberOf_bitsOf (s : Bytes) : numberOf (bitsOf s) = littleEndian s := by
  induction s with
  | nil => rfl
  | cons b rest ih =>
    rw [bitsOf_cons, numberOf_append, numberOf_bitsOfByte, length_bitsOfByte, ih, littleEndian]
    norm_num

/-- The whole bytes of the bits of some bytes are these bytes. -/
theorem bytesOf_bitsOf (s : Bytes) : bytesOf (bitsOf s) = s := by
  induction s with
  | nil => rfl
  | cons b rest ih =>
    have hnumber := numberOf_bitsOfByte b
    have hcons : bytesOf (bitsOfByte b ++ bitsOf rest) =
        UInt8.ofNat (numberOf (bitsOfByte b)) :: bytesOf (bitsOf rest) := rfl
    rw [bitsOf_cons, hcons, hnumber, UInt8.ofNat_toNat, ih]

/-- Some bytes are read as the number that they stand for. -/
theorem takeNumber_bitsOf {n : Nat} {s : Bytes} (h : 8 * s.length = n) (rest : Bytes) :
    takeNumber n (bitsOf (s ++ rest)) = .ok (littleEndian s, bitsOf rest) := by
  have hlength : (bitsOf s).length = n := by rw [length_bitsOf, h]
  rw [takeNumber, bitsOf_append, List.take_left' hlength, List.drop_left' hlength, if_pos hlength,
    numberOf_bitsOf]

/-- What follows a step of reading goes on with what the step has left. -/
theorem bind_of_ok {α β : Type} {x : Scan α} {bits rest : Bits} {a : α}
    (h : x bits = .ok (a, rest)) (f : α → Scan β) : (x >>= f) bits = f a rest := by
  show (x bits).bind (fun p => f p.1 p.2) = _
  rw [h]
  rfl

theorem takeByte_bitsOf (b : UInt8) (rest : Bytes) :
    takeByte (bitsOf (b :: rest)) = .ok (b, bitsOf rest) := by
  have hnumber : takeNumber 8 (bitsOf (b :: rest)) = .ok (b.toNat, bitsOf rest) := by
    have h := takeNumber_bitsOf (n := 8) (s := [b]) rfl rest
    simpa [littleEndian] using h
  have hmap : takeByte = takeNumber 8 >>= fun n => pure (UInt8.ofNat n) := rfl
  rw [hmap, bind_of_ok hnumber, UInt8.ofNat_toNat]
  rfl

/-! ## Blocks -/

theorem takeBytes_bitsOf (s rest : Bytes) (out : Array UInt8) :
    takeBytes s.length out (bitsOf (s ++ rest)) = .ok (out ++ s.toArray, bitsOf rest) := by
  induction s generalizing out with
  | nil => simp [takeBytes, pure, StateT.pure, Except.pure]
  | cons b s ih =>
    rw [List.length_cons, List.cons_append, takeBytes, bind_of_ok (takeByte_bitsOf b _), ih]
    simp

/-- What a block has behind its first byte: the number of its bytes, the complement, and the
bytes. -/
def storedBody (s : Bytes) : Bytes :=
  toLittleEndian 2 s.length ++ (toLittleEndian 2 (0xFFFF - s.length) ++ s)

/-- The bytes of a block, behind the bits that are left of the byte in front of it. -/
theorem takeStored_bitsOf (begun : Bits) (hbegun : begun.length < 8) {s : Bytes}
    (hs : s.length ≤ blockLimit) (rest : Bytes) (out : Array UInt8) :
    takeStored out (begun ++ bitsOf (storedBody s ++ rest)) =
      .ok (out ++ s.toArray, bitsOf rest) := by
  have hlimit : blockLimit = 65535 := rfl
  have hskip : ∀ b : Bytes, skipToByte (begun ++ bitsOf b) = .ok ((), bitsOf b) := by
    intro b
    have hlength : (begun ++ bitsOf b).length % 8 = begun.length := by
      rw [List.length_append, length_bitsOf]
      omega
    rw [skipToByte, hlength, List.drop_left]
  have htwo : ∀ (v : Nat) (b : Bytes), v < 65536 →
      takeNumber 16 (bitsOf (toLittleEndian 2 v ++ b)) = .ok (v, bitsOf b) := by
    intro v b hv
    have hpow : (256 : Nat) ^ 2 = 65536 := rfl
    rw [takeNumber_bitsOf (by rw [length_toLittleEndian]), littleEndian_toLittleEndian, hpow,
      Nat.mod_eq_of_lt hv]
  rw [storedBody, List.append_assoc, List.append_assoc, takeStored, bind_of_ok (hskip _),
    bind_of_ok (htwo s.length _ (by omega)), bind_of_ok (htwo (0xFFFF - s.length) _ (by omega)),
    if_pos (by omega), takeBytes_bitsOf]

theorem storedBlock_eq (last : Bool) (s : Bytes) :
    storedBlock last s = (if last then 1 else 0) :: storedBody s := by
  simp [storedBlock, storedBody]

/-- A block is read, and then the blocks behind it, if it is not the last one. -/
theorem takeBlocksFrom_storedBlock (fuel : Nat) (last : Bool) {s : Bytes}
    (hs : s.length ≤ blockLimit) (rest : Bytes) (out : Array UInt8) :
    takeBlocksFrom (fuel + 1) out (bitsOf (storedBlock last s ++ rest)) =
      if last then .ok (out ++ s.toArray, bitsOf rest)
      else takeBlocksFrom fuel (out ++ s.toArray) (bitsOf rest) := by
  -- the first byte: one bit for the last block, two for the kind, and five that do not matter
  have hbits : bitsOf (storedBlock last s ++ rest) =
      last :: false :: false :: (List.replicate 5 false ++ bitsOf (storedBody s ++ rest)) := by
    rw [storedBlock_eq, List.cons_append, bitsOf_cons]
    cases last <;> rfl
  have hkind : ∀ more : Bits, takeNumber 2 (false :: false :: more) = .ok (0, more) :=
    fun _ => rfl
  have hstored := takeStored_bitsOf (List.replicate 5 false) (by simp) hs rest out
  rw [hbits, takeBlocksFrom, bind_of_ok (x := takeBit) rfl, bind_of_ok (hkind _)]
  refine (bind_of_ok hstored _).trans ?_
  cases last <;> rfl

/-- The blocks of some bytes are read as these bytes. -/
theorem takeBlocksFrom_storedBlocks {fuel : Nat} (s rest : Bytes) (out : Array UInt8)
    (hfuel : s.length < fuel) :
    takeBlocksFrom fuel out (bitsOf (storedBlocks s ++ rest)) =
      .ok (out ++ s.toArray, bitsOf rest) := by
  induction s using storedBlocks.induct generalizing fuel out with
  | case1 s hs =>
    obtain ⟨fuel, rfl⟩ := Nat.exists_eq_add_one.2 (Nat.zero_lt_of_lt hfuel)
    rw [storedBlocks, if_pos hs, takeBlocksFrom_storedBlock fuel true hs, if_pos rfl]
  | case2 s hs ih =>
    obtain ⟨fuel, rfl⟩ := Nat.exists_eq_add_one.2 (Nat.zero_lt_of_lt hfuel)
    have hlimit : blockLimit = 65535 := rfl
    have htake : (s.take blockLimit).length ≤ blockLimit := List.length_take_le _ _
    have hdrop : (s.drop blockLimit).length < fuel := by
      rw [List.length_drop]
      omega
    have hjoin : out ++ (s.take blockLimit).toArray ++ (s.drop blockLimit).toArray =
        out ++ s.toArray := by
      have h : (s.take blockLimit).toArray ++ (s.drop blockLimit).toArray = s.toArray := by
        rw [List.append_toArray, List.take_append_drop]
      rw [Array.append_assoc, h]
    rw [storedBlocks, if_neg hs, List.append_assoc, takeBlocksFrom_storedBlock fuel false htake,
      if_neg Bool.false_ne_true, ih _ hdrop, hjoin]

theorem length_le_length_storedBlocks (s : Bytes) : s.length ≤ (storedBlocks s).length := by
  induction s using storedBlocks.induct with
  | case1 s hs =>
    rw [storedBlocks, if_pos hs, storedBlock_eq, storedBody]
    simp only [List.length_cons, List.length_append]
    omega
  | case2 s hs ih =>
    have htake : (s.take blockLimit).length = blockLimit := by
      rw [List.length_take]
      omega
    rw [storedBlocks, if_neg hs, List.length_append, storedBlock_eq, storedBody]
    simp only [List.length_cons, List.length_append, htake]
    rw [List.length_drop] at ih
    omega

theorem takeBlocks_storedBlocks (s rest : Bytes) :
    takeBlocks (bitsOf (storedBlocks s ++ rest)) = .ok (s, bitsOf rest) := by
  have hfuel : s.length < (bitsOf (storedBlocks s ++ rest)).length + 1 := by
    have h := length_le_length_storedBlocks s
    rw [length_bitsOf, List.length_append]
    omega
  have hskip : skipToByte (bitsOf rest) = .ok ((), bitsOf rest) := by
    rw [skipToByte, length_bitsOf, Nat.mul_mod_right, List.drop_zero]
  rw [takeBlocks, bind_of_ok (x := get) rfl,
    bind_of_ok (takeBlocksFrom_storedBlocks s rest #[] hfuel), bind_of_ok hskip]
  simp [pure, StateT.pure, Except.pure]

/-! ## Files -/

theorem splitBytes_append {n : Nat} {s : Bytes} (h : s.length = n) (rest : Bytes) :
    splitBytes n (s ++ rest) = .ok (s, rest) := by
  rw [splitBytes, List.take_left' h, List.drop_left' h, if_pos h]

theorem dropHeader_header (rest : Bytes) : dropHeader (header ++ rest) = .ok rest := by
  have hlength : header.length = 10 := rfl
  rw [dropHeader, splitBytes_append hlength, ok_bind]
  rfl

theorem dropTrailer_written (content : Bytes) :
    dropTrailer content (toLittleEndian 4 (crc content).toNat ++ toLittleEndian 4 content.length) =
      .ok [] := by
  have hcheck : littleEndian (toLittleEndian 4 (crc content).toNat) = (crc content).toNat := by
    rw [littleEndian_toLittleEndian]
    exact Nat.mod_eq_of_lt (crc content).toNat_lt
  have hlength : littleEndian (toLittleEndian 4 content.length) =
      content.length % Nat.pow 2 32 := littleEndian_toLittleEndian 4 _
  have hsplit := splitBytes_append (length_toLittleEndian 4 content.length) []
  rw [List.append_nil] at hsplit
  rw [dropTrailer, splitBytes_append (length_toLittleEndian 4 _), ok_bind]
  dsimp only
  rw [hsplit, ok_bind]
  dsimp only
  rw [if_pos ⟨hcheck, hlength⟩]
  rfl

/-- A written file is read back. -/
theorem decode_encode (content : Bytes) : decode (encode content) = .ok content := by
  have hmember : takeMember (encode content) = .ok (content, []) := by
    rw [encode, List.append_assoc, List.append_assoc, takeMember, dropHeader_header, ok_bind,
      StateT.run, takeBlocks_storedBlocks, ok_bind]
    dsimp only
    rw [bytesOf_bitsOf, dropTrailer_written]
    rfl
  rw [decode, decodeFrom, hmember]
  rfl

end Concordance.Gzip
