import Mathlib
import Concordance.Text.Bytes

/-!
# Texts and their bytes

The bytes of a text tell its characters apart: no character begins with the bytes of another one,
and the first byte of a character is never one of its later bytes.  So a text that occurs in the
bytes of another one occurs between two boundaries of it.

* `isPrefix_of_encode` and `isSuffix_of_encode` go from bytes back to characters.
* `isBoundary_of_occurs` gives the boundaries of an occurrence.
* `takeBytes_append` and `dropBytes_append` cut a text at a boundary.
-/

namespace Concordance.Text

variable {s p q : List Char} {n m : Nat}

theorem length_encode_cons (c : Char) (s : List Char) :
    (encode (c :: s)).length = c.utf8Size + (encode s).length := by
  simp

theorem encode_eq_nil_iff : encode s = [] ↔ s = [] := by
  cases s <;> simp [String.utf8EncodeChar_ne_nil]

/-! ## From bytes to characters -/

theorem encodeChar_append_inj {c d : Char} {x y : Bytes}
    (h : String.utf8EncodeChar c ++ x = String.utf8EncodeChar d ++ y) : c = d ∧ x = y := by
  have hcd : c = d := by
    -- both sides begin with the same character when they are decoded
    have hbytes := congrArg List.toByteArray h
    rw [List.toByteArray_append, List.toByteArray_append] at hbytes
    have hdecode := congrArg (fun b => b.utf8DecodeChar? 0) hbytes
    simp only [ByteArray.utf8DecodeChar?_utf8EncodeChar_append] at hdecode
    exact Option.some.inj hdecode
  subst hcd
  exact ⟨rfl, List.append_cancel_left h⟩

/-- A text whose bytes are in front of the bytes of another one is in front of it. -/
theorem isPrefix_of_encode (h : encode p <+: encode s) : p <+: s := by
  induction p generalizing s with
  | nil => exact List.nil_prefix
  | cons c p ih =>
    obtain ⟨rest, hrest⟩ := h
    cases s with
    | nil => simp [String.utf8EncodeChar_ne_nil] at hrest
    | cons d s =>
      rw [encode_cons, encode_cons, List.append_assoc] at hrest
      obtain ⟨rfl, htail⟩ := encodeChar_append_inj hrest
      exact List.prefix_cons_inj _ |>.2 (ih ⟨rest, htail⟩)

theorem encode_injective : Function.Injective encode := by
  intro p q h
  have hpq : p <+: q := isPrefix_of_encode (h ▸ List.prefix_rfl)
  have hqp : q <+: p := isPrefix_of_encode (h ▸ List.prefix_rfl)
  exact hpq.eq_of_length_le hqp.length_le

/-! ## Boundaries -/

theorem isBoundary_length (s : List Char) : IsBoundary s (encode s).length :=
  ⟨s, [], (List.append_nil s).symm, rfl⟩

theorem isBoundary_append (p q : List Char) : IsBoundary (p ++ q) (encode p).length :=
  ⟨p, q, rfl, rfl⟩

theorem IsBoundary.le_length (h : IsBoundary s n) : n ≤ (encode s).length := by
  obtain ⟨p, q, rfl, rfl⟩ := h
  simp

/-- A boundary behind a beginning of the text is a boundary of the rest. -/
theorem IsBoundary.rest (h : IsBoundary (p ++ q) n) (hn : (encode p).length ≤ n) :
    IsBoundary q (n - (encode p).length) := by
  obtain ⟨a, b, hab, rfl⟩ := h
  have hp : encode p <+: encode (p ++ q) := by simp
  have ha : encode a <+: encode (p ++ q) := by simp [hab]
  obtain ⟨r, rfl⟩ := isPrefix_of_encode (List.prefix_of_prefix_length_le hp ha hn)
  rw [List.append_assoc] at hab
  refine ⟨r, b, List.append_cancel_left hab, ?_⟩
  simp

/-- The first byte of a character stands at a boundary. -/
theorem isBoundary_of_isUTF8FirstByte (hn : n < (encode s).length)
    (h : (encode s)[n].IsUTF8FirstByte) : IsBoundary s n := by
  induction s generalizing n with
  | nil => simp at hn
  | cons c s ih =>
    by_cases hc : n < (String.utf8EncodeChar c).length
    · have hbyte : (encode (c :: s))[n] = (String.utf8EncodeChar c)[n] :=
        List.getElem_append_left hc
      have hfirst : (String.utf8EncodeChar c)[n].IsUTF8FirstByte := hbyte ▸ h
      rw [UInt8.isUTF8FirstByte_getElem_utf8EncodeChar] at hfirst
      exact hfirst ▸ isBoundary_zero _
    · have hlength : n - (String.utf8EncodeChar c).length < (encode s).length := by
        simp only [encode_cons, List.length_append] at hn
        omega
      have hrest : (encode s)[n - (String.utf8EncodeChar c).length].IsUTF8FirstByte := by
        simpa only [encode_cons, List.getElem_append_right (Nat.le_of_not_lt hc)] using h
      obtain ⟨p, q, rfl, hp⟩ := ih hlength hrest
      refine ⟨c :: p, q, rfl, ?_⟩
      rw [encode_cons, List.length_append]
      omega

/-- An occurrence of a text in the bytes of another one begins and ends at boundaries. -/
theorem isBoundary_of_occurs (hp : p ≠ []) (h : encode p <+: (encode s).drop n) :
    IsBoundary s n ∧ IsBoundary s (n + (encode p).length) := by
  have hne : encode p ≠ [] := fun hnil => hp (encode_eq_nil_iff.1 hnil)
  have hpos : 0 < (encode p).length := List.length_pos_of_ne_nil hne
  have hn : n < (encode s).length := by
    have hlength := h.length_le
    rw [List.length_drop] at hlength
    omega
  have hstart : IsBoundary s n := by
    refine isBoundary_of_isUTF8FirstByte hn ?_
    obtain ⟨c, p, rfl⟩ := List.exists_cons_of_ne_nil hp
    have hsize : 0 < (String.utf8EncodeChar c).length := by simp [c.utf8Size_pos]
    have hbyte : (encode s)[n] = (String.utf8EncodeChar c)[0] := by
      have hzero : (encode (c :: p))[0] = (String.utf8EncodeChar c)[0] :=
        List.getElem_append_left hsize
      rw [← hzero, h.getElem hpos, List.getElem_drop]
      simp
    rw [hbyte]
    exact UInt8.isUTF8FirstByte_getElem_zero_utf8EncodeChar
  refine ⟨hstart, ?_⟩
  obtain ⟨a, b, rfl, rfl⟩ := hstart
  rw [encode_append, List.drop_left] at h
  obtain ⟨r, rfl⟩ := isPrefix_of_encode h
  exact ⟨a ++ p, r, by simp, by simp⟩

/-- A text whose bytes are at the end of the bytes of another one is at the end of it. -/
theorem isSuffix_of_encode (h : encode p <:+ encode s) : p <:+ s := by
  by_cases hp : p = []
  · exact hp ▸ List.nil_suffix
  · obtain ⟨front, hfront⟩ := h
    have hoccurs : encode p <+: (encode s).drop front.length := by
      rw [← hfront, List.drop_left]
    obtain ⟨a, b, rfl, ha⟩ := (isBoundary_of_occurs hp hoccurs).1
    rw [encode_append] at hfront
    obtain ⟨-, hb⟩ := List.append_inj hfront ha
    exact encode_injective hb ▸ List.suffix_append a b

/-- A byte that is a whole character occurs only as that character. -/
theorem mem_of_mem_encode {c : Char} {b : UInt8} (hc : String.utf8EncodeChar c = [b])
    (h : b ∈ encode s) : c ∈ s := by
  obtain ⟨x, y, hxy⟩ := List.append_of_mem h
  have hoccurs : encode [c] <+: (encode s).drop x.length := by
    rw [hxy, List.drop_left, encode_cons, hc]
    simp
  obtain ⟨p, q, rfl, hp⟩ := (isBoundary_of_occurs (List.cons_ne_nil c []) hoccurs).1
  rw [hp, encode_append, List.drop_left] at hoccurs
  obtain ⟨r, rfl⟩ := isPrefix_of_encode hoccurs
  simp

/-! ## Cutting at boundaries -/

theorem length_encode_cons_pos (c : Char) (s : List Char) : 0 < (encode (c :: s)).length := by
  have := c.utf8Size_pos
  rw [length_encode_cons]
  omega

theorem takeBytes_cons {n : Nat} (hn : 0 < n) (c : Char) (s : List Char) :
    takeBytes n (c :: s) = c :: takeBytes (n - c.utf8Size) s := by
  obtain ⟨k, rfl⟩ := Nat.exists_eq_add_one.2 hn
  rw [takeBytes]

theorem dropBytes_cons {n : Nat} (hn : 0 < n) (c : Char) (s : List Char) :
    dropBytes n (c :: s) = dropBytes (n - c.utf8Size) s := by
  obtain ⟨k, rfl⟩ := Nat.exists_eq_add_one.2 hn
  rw [dropBytes]

theorem takeBytes_append (p q : List Char) : takeBytes (encode p).length (p ++ q) = p := by
  induction p with
  | nil => simp [takeBytes]
  | cons c p ih =>
    rw [List.cons_append, takeBytes_cons (length_encode_cons_pos c p), length_encode_cons,
      Nat.add_sub_cancel_left, ih]

theorem dropBytes_append (p q : List Char) : dropBytes (encode p).length (p ++ q) = q := by
  induction p with
  | nil => simp [dropBytes]
  | cons c p ih =>
    rw [List.cons_append, dropBytes_cons (length_encode_cons_pos c p), length_encode_cons,
      Nat.add_sub_cancel_left, ih]

/-! ## Texts from their bytes -/

theorem toByteArray_utf8 (s : String) : (utf8 s).toByteArray = s.toByteArray := by
  rw [utf8, encode, ← List.utf8Encode, ← String.toByteArray_ofList, String.ofList_toList]

/-- Bytes are read as the text that they are the bytes of. -/
theorem ofUtf8?_eq_some_iff {b : Bytes} {s : String} : ofUtf8? b = some s ↔ b = utf8 s := by
  have hbytes : (⟨b.toArray⟩ : ByteArray) = b.toByteArray :=
    ByteArray.ext (List.data_toByteArray).symm
  have hread : ofUtf8? b = some s ↔ b.toByteArray = s.toByteArray := by
    rw [ofUtf8?, hbytes, String.fromUTF8?]
    constructor
    · intro h
      split at h
      · cases h
        rfl
      · cases h
    · intro h
      have hvalid : b.toByteArray.IsValidUTF8 := h ▸ s.isValidUTF8
      rw [dif_pos hvalid, Option.some.injEq]
      exact String.toByteArray_inj.1 h
  rw [hread, ← toByteArray_utf8, List.toByteArray_inj]

theorem ofUtf8?_utf8 (s : String) : ofUtf8? (utf8 s) = some s :=
  ofUtf8?_eq_some_iff.2 rfl

theorem utf8_append (s t : String) : utf8 (s ++ t) = utf8 s ++ utf8 t := by
  rw [utf8, String.toList_append, encode_append]
  rfl

end Concordance.Text
