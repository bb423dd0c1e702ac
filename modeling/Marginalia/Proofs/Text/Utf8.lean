import Marginalia.Text.Chunk

/-!
# Reading bytes as characters loses nothing

A text is read as characters in two ways: piece by piece, and by first bytes.
Either way the bytes of what was read, put together, are the text.  For pieces
this is `encode_decode`; for chunks, with what is left over at the end of the
text, it is `encode_read`.

Both rest on one fact about a single character: the bytes that `decodeChar?`
takes for a character are the bytes that the character is written as.
-/

namespace Marginalia

set_option autoImplicit false

/-- The bytes of a literal are the bytes it is stored as, which are quicker to compute. -/
theorem utf8_eq_data (s : String) : utf8 s = s.toByteArray.data.toList := by
  rw [← String.utf8Encode_toList, List.utf8Encode]
  simp [utf8]

namespace Utf8

/-! ## One character -/

theorem toNat_of_continuation? {b : UInt8} {x : Nat} (h : continuation? b = some x) :
    x < 64 ∧ b.toNat = x + 0x80 := by
  unfold continuation? at h
  split at h
  · rename_i bounds
    simp only [Bool.and_eq_true, decide_eq_true_eq, UInt8.le_iff_toNat_le] at bounds
    have low : 0x80 ≤ b.toNat := bounds.1
    have high : b.toNat ≤ 0xBF := bounds.2
    have value : b.toNat - 0x80 = x := Option.some.inj h
    omega
  · cases h

theorem toNat_of_scalar? {least n : Nat} {c : Char} (h : scalar? least n = some c) :
    least ≤ n ∧ c.val.toNat = n := by
  by_cases valid : least ≤ n ∧ n.isValidChar
  · rw [scalar?, dif_pos valid] at h
    cases h
    exact ⟨valid.1, rfl⟩
  · rw [scalar?, dif_neg valid] at h
    cases h

theorem eq_ofNat_of_toNat {b : UInt8} {n : Nat} (h : b.toNat = n) : UInt8.ofNat n = b := by
  rw [← h, UInt8.ofNat_toNat]

/-! A character is written in one to four bytes, by its value. -/

section Widths

variable {c : Char} {v : Nat} {b b1 b2 b3 : UInt8}

theorem encodeChar_one (value : c.val.toNat = v) (short : v ≤ 0x7f) (first : b.toNat = v) :
    encodeChar c = [b] := by
  simp only [encodeChar, String.utf8EncodeChar, value, if_pos short, eq_ofNat_of_toNat first]

theorem encodeChar_two (value : c.val.toNat = v) (long : 0x80 ≤ v) (short : v ≤ 0x7ff)
    (first : b.toNat = v / 64 % 0x20 + 0xc0) (second : b1.toNat = v % 0x40 + 0x80) :
    encodeChar c = [b, b1] := by
  have notOne : ¬ v ≤ 0x7f := by omega
  simp only [encodeChar, String.utf8EncodeChar, value, if_neg notOne, if_pos short,
    eq_ofNat_of_toNat first, eq_ofNat_of_toNat second]

theorem encodeChar_three (value : c.val.toNat = v) (long : 0x800 ≤ v) (short : v ≤ 0xffff)
    (first : b.toNat = v / 4096 % 0x10 + 0xe0) (second : b1.toNat = v / 64 % 0x40 + 0x80)
    (third : b2.toNat = v % 0x40 + 0x80) : encodeChar c = [b, b1, b2] := by
  have notOne : ¬ v ≤ 0x7f := by omega
  have notTwo : ¬ v ≤ 0x7ff := by omega
  simp only [encodeChar, String.utf8EncodeChar, value, if_neg notOne, if_neg notTwo, if_pos short,
    eq_ofNat_of_toNat first, eq_ofNat_of_toNat second, eq_ofNat_of_toNat third]

theorem encodeChar_four (value : c.val.toNat = v) (long : 0x10000 ≤ v)
    (first : b.toNat = v / 262144 % 0x08 + 0xf0) (second : b1.toNat = v / 4096 % 0x40 + 0x80)
    (third : b2.toNat = v / 64 % 0x40 + 0x80) (fourth : b3.toNat = v % 0x40 + 0x80) :
    encodeChar c = [b, b1, b2, b3] := by
  have notOne : ¬ v ≤ 0x7f := by omega
  have notTwo : ¬ v ≤ 0x7ff := by omega
  have notThree : ¬ v ≤ 0xffff := by omega
  simp only [encodeChar, String.utf8EncodeChar, value, if_neg notOne, if_neg notTwo,
    if_neg notThree, eq_ofNat_of_toNat first, eq_ofNat_of_toNat second, eq_ofNat_of_toNat third,
    eq_ofNat_of_toNat fourth]

/-! The first byte and the continuations of a character hold the bits of its value. -/

theorem encodeChar_of_two {x1 : Nat} (range : 0xC2 ≤ b.toNat ∧ b.toNat ≤ 0xDF)
    (h1 : continuation? b1 = some x1)
    (found : scalar? 0x80 ((b.toNat - 0xC0) * 64 + x1) = some c) : encodeChar c = [b, b1] := by
  obtain ⟨least, value⟩ := toNat_of_scalar? found
  obtain ⟨small1, byte1⟩ := toNat_of_continuation? h1
  generalize hv : (b.toNat - 0xC0) * 64 + x1 = v at least value
  have first : b.toNat = v / 64 % 0x20 + 0xc0 := by omega
  have second : b1.toNat = v % 0x40 + 0x80 := by omega
  exact encodeChar_two value least (by omega) first second

theorem encodeChar_of_three {x1 x2 : Nat} (range : 0xE0 ≤ b.toNat ∧ b.toNat ≤ 0xEF)
    (h1 : continuation? b1 = some x1) (h2 : continuation? b2 = some x2)
    (found : scalar? 0x800 (((b.toNat - 0xE0) * 64 + x1) * 64 + x2) = some c) :
    encodeChar c = [b, b1, b2] := by
  obtain ⟨least, value⟩ := toNat_of_scalar? found
  obtain ⟨small1, byte1⟩ := toNat_of_continuation? h1
  obtain ⟨small2, byte2⟩ := toNat_of_continuation? h2
  generalize hv : ((b.toNat - 0xE0) * 64 + x1) * 64 + x2 = v at least value
  have first : b.toNat = v / 4096 % 0x10 + 0xe0 := by omega
  have second : b1.toNat = v / 64 % 0x40 + 0x80 := by omega
  have third : b2.toNat = v % 0x40 + 0x80 := by omega
  exact encodeChar_three value least (by omega) first second third

theorem encodeChar_of_four {x1 x2 x3 : Nat} (range : 0xF0 ≤ b.toNat ∧ b.toNat ≤ 0xF4)
    (h1 : continuation? b1 = some x1) (h2 : continuation? b2 = some x2)
    (h3 : continuation? b3 = some x3)
    (found : scalar? 0x10000 ((((b.toNat - 0xF0) * 64 + x1) * 64 + x2) * 64 + x3) = some c) :
    encodeChar c = [b, b1, b2, b3] := by
  obtain ⟨least, value⟩ := toNat_of_scalar? found
  obtain ⟨small1, byte1⟩ := toNat_of_continuation? h1
  obtain ⟨small2, byte2⟩ := toNat_of_continuation? h2
  obtain ⟨small3, byte3⟩ := toNat_of_continuation? h3
  generalize hv : (((b.toNat - 0xF0) * 64 + x1) * 64 + x2) * 64 + x3 = v at least value
  have first : b.toNat = v / 262144 % 0x08 + 0xf0 := by omega
  have second : b1.toNat = v / 4096 % 0x40 + 0x80 := by omega
  have third : b2.toNat = v / 64 % 0x40 + 0x80 := by omega
  have fourth : b3.toNat = v % 0x40 + 0x80 := by omega
  exact encodeChar_four value least first second third fourth

end Widths

/-- **The bytes taken for a character are the bytes it is written as.**  The cases are the four widths
that the first byte can announce. -/
theorem encodeChar_of_decodeChar? {b : UInt8} {rest rest' : Bytes} {c : Char}
    (h : decodeChar? b rest = some (c, rest')) : encodeChar c ++ rest' = b :: rest := by
  unfold decodeChar? at h
  simp only [Bool.and_eq_true, decide_eq_true_eq, UInt8.le_iff_toNat_le, UInt8.lt_iff_toNat_lt,
    UInt8.reduceToNat] at h
  split at h
  · rename_i one
    simp only [Option.map_eq_some_iff, Prod.mk.injEq] at h
    obtain ⟨d, found, rfl, rfl⟩ := h
    obtain ⟨-, value⟩ := toNat_of_scalar? found
    rw [encodeChar_one value (by omega) rfl]
    rfl
  · split at h
    · rename_i two
      split at h
      · simp only [bind, Option.bind_eq_some_iff, pure, Option.some.injEq, Prod.mk.injEq] at h
        obtain ⟨x1, h1, d, found, rfl, rfl⟩ := h
        rw [encodeChar_of_two two h1 found]
        rfl
      · cases h
    · split at h
      · rename_i three
        split at h
        · simp only [bind, Option.bind_eq_some_iff, pure, Option.some.injEq, Prod.mk.injEq] at h
          obtain ⟨x1, h1, x2, h2, d, found, rfl, rfl⟩ := h
          rw [encodeChar_of_three three h1 h2 found]
          rfl
        · cases h
      · split at h
        · rename_i four
          split at h
          · simp only [bind, Option.bind_eq_some_iff, pure, Option.some.injEq,
              Prod.mk.injEq] at h
            obtain ⟨x1, h1, x2, h2, x3, h3, d, found, rfl, rfl⟩ := h
            rw [encodeChar_of_four four h1 h2 h3 found]
            rfl
          · cases h
        · cases h

/-! ## Whole texts -/

theorem bytes_step (b : UInt8) (rest : Bytes) :
    (step b rest).1.bytes ++ (step b rest).2 = b :: rest := by
  unfold step
  split
  · rename_i c rest' found
    exact encodeChar_of_decodeChar? found
  · rfl

/-- **Pieces lose nothing**: the bytes of the pieces of a text are the text. -/
theorem encode_decode (s : Bytes) : encode (decode s) = s := by
  fun_induction decode s with
  | case1 => rfl
  | case2 b rest ih =>
    rw [encode, List.flatMap_cons]
    rw [encode] at ih
    rw [ih, bytes_step]

end Utf8

namespace Chunk

theorem encode_pieces (c : Chunk) : Utf8.encode c.pieces = c.bytes := by
  cases c with
  | char c => simp [Utf8.encode, pieces, bytes, Piece.bytes, Utf8.encodeChar]
  | broken bs =>
    induction bs with
    | nil => rfl
    | cons b bs ih => simpa [Utf8.encode, pieces, bytes, Piece.bytes] using ih

theorem bytes_of_next? {b : UInt8} {rest rest' : Bytes} {c : Chunk}
    (h : next? b rest = some (c, rest')) : c.bytes ++ rest' = b :: rest := by
  unfold next? at h
  simp only at h
  split at h
  · cases h
  · split at h
    · rename_i d after stepped
      obtain ⟨rfl, rfl⟩ := Prod.mk.inj (Option.some.inj h)
      have whole := Utf8.bytes_step b rest
      rw [stepped] at whole
      exact whole
    · obtain ⟨rfl, rfl⟩ := Prod.mk.inj (Option.some.inj h)
      simp only [bytes, List.cons_append, List.take_append_drop]

/-- **Chunks lose nothing**: the pieces of the chunks and what is left over are the text. -/
theorem encode_read (s : Bytes) :
    Utf8.encode ((read s).1.flatMap pieces) ++ (read s).2 = s := by
  fun_induction read s with
  | case1 => rfl
  | case2 b rest none => rfl
  | case3 b rest c rest' found cs left hread ih =>
    rw [hread] at ih
    simp only at ih ⊢
    rw [List.flatMap_cons, Utf8.encode, List.flatMap_append, List.append_assoc]
    change Utf8.encode c.pieces ++ (Utf8.encode (cs.flatMap pieces) ++ left) = _
    rw [ih, encode_pieces, bytes_of_next? found]

end Chunk

end Marginalia
