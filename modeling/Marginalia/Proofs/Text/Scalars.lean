import Marginalia.Proofs.Text.Utf8

/-!
# Characters are read back from their bytes

The other direction of reading: what a list of characters is written as is read as
these characters (`decode_ofChars`).  Together with `encode_decode` this makes a text
that is properly encoded the same as its characters (`ofChars_chars`).
-/

namespace Marginalia

set_option autoImplicit false

namespace Utf8

/-! ## One character -/

theorem toNat_ofNat {n : Nat} (small : n < 256) : (UInt8.ofNat n).toNat = n := by
  rw [UInt8.toNat_ofNat']
  exact Nat.mod_eq_of_lt small

theorem continuation?_ofNat {x : Nat} (small : x < 64) :
    continuation? (UInt8.ofNat (x + 0x80)) = some x := by
  have value : (UInt8.ofNat (x + 0x80)).toNat = x + 0x80 := toNat_ofNat (by omega)
  have bounds : (0x80 ≤ UInt8.ofNat (x + 0x80) && UInt8.ofNat (x + 0x80) ≤ 0xBF) = true := by
    simp only [Bool.and_eq_true, decide_eq_true_eq, UInt8.le_iff_toNat_le, UInt8.reduceToNat, value]
    omega
  rw [continuation?, if_pos bounds, value, Nat.add_sub_cancel]

theorem scalar?_of_toNat {c : Char} {least n : Nat} (value : c.val.toNat = n) (long : least ≤ n) :
    scalar? least n = some c := by
  subst value
  rw [scalar?, dif_pos ⟨long, c.valid⟩]
  rfl

/-! A first byte announces the width. -/

section Widths

variable {b b1 b2 b3 : UInt8} {rest : Bytes}

theorem decodeChar?_one (first : b.toNat < 0x80) :
    decodeChar? b rest = (scalar? 0 b.toNat).map (·, rest) := by
  have one : b < 0x80 := by
    simpa [UInt8.lt_iff_toNat_lt] using first
  simp only [decodeChar?, if_pos one]

theorem decodeChar?_two {x1 : Nat} (first : 0xC2 ≤ b.toNat ∧ b.toNat ≤ 0xDF)
    (second : continuation? b1 = some x1) :
    decodeChar? b (b1 :: rest)
      = (scalar? 0x80 ((b.toNat - 0xC0) * 64 + x1)).map (·, rest) := by
  have one : ¬ b < 0x80 := by
    simp only [UInt8.lt_iff_toNat_lt, UInt8.reduceToNat]
    omega
  have two : (0xC2 ≤ b && b ≤ 0xDF) = true := by
    simpa [UInt8.le_iff_toNat_le] using first
  simp only [decodeChar?, if_neg one, if_pos two, second, Option.bind_eq_bind, Option.bind_some]
  cases scalar? 0x80 ((b.toNat - 0xC0) * 64 + x1) <;> rfl

theorem decodeChar?_three {x1 x2 : Nat} (first : 0xE0 ≤ b.toNat ∧ b.toNat ≤ 0xEF)
    (second : continuation? b1 = some x1) (third : continuation? b2 = some x2) :
    decodeChar? b (b1 :: b2 :: rest)
      = (scalar? 0x800 (((b.toNat - 0xE0) * 64 + x1) * 64 + x2)).map (·, rest) := by
  have one : ¬ b < 0x80 := by
    simp only [UInt8.lt_iff_toNat_lt, UInt8.reduceToNat]
    omega
  have two : ¬ (0xC2 ≤ b && b ≤ 0xDF) = true := by
    simp only [Bool.and_eq_true, decide_eq_true_eq, UInt8.le_iff_toNat_le, UInt8.reduceToNat]
    omega
  have three : (0xE0 ≤ b && b ≤ 0xEF) = true := by
    simpa [UInt8.le_iff_toNat_le] using first
  simp only [decodeChar?, if_neg one, if_neg two, if_pos three, second, third,
    Option.bind_eq_bind, Option.bind_some]
  cases scalar? 0x800 (((b.toNat - 0xE0) * 64 + x1) * 64 + x2) <;> rfl

theorem decodeChar?_four {x1 x2 x3 : Nat} (first : 0xF0 ≤ b.toNat ∧ b.toNat ≤ 0xF4)
    (second : continuation? b1 = some x1) (third : continuation? b2 = some x2)
    (fourth : continuation? b3 = some x3) :
    decodeChar? b (b1 :: b2 :: b3 :: rest)
      = (scalar? 0x10000 ((((b.toNat - 0xF0) * 64 + x1) * 64 + x2) * 64 + x3)).map (·, rest) := by
  have one : ¬ b < 0x80 := by
    simp only [UInt8.lt_iff_toNat_lt, UInt8.reduceToNat]
    omega
  have two : ¬ (0xC2 ≤ b && b ≤ 0xDF) = true := by
    simp only [Bool.and_eq_true, decide_eq_true_eq, UInt8.le_iff_toNat_le, UInt8.reduceToNat]
    omega
  have three : ¬ (0xE0 ≤ b && b ≤ 0xEF) = true := by
    simp only [Bool.and_eq_true, decide_eq_true_eq, UInt8.le_iff_toNat_le, UInt8.reduceToNat]
    omega
  have four : (0xF0 ≤ b && b ≤ 0xF4) = true := by
    simpa [UInt8.le_iff_toNat_le] using first
  simp only [decodeChar?, if_neg one, if_neg two, if_neg three, if_pos four, second, third, fourth,
    Option.bind_eq_bind, Option.bind_some]
  cases scalar? 0x10000 ((((b.toNat - 0xF0) * 64 + x1) * 64 + x2) * 64 + x3) <;> rfl

end Widths

/-- **The bytes of a character are read as the character**, whatever follows them.  The cases are the
four widths. -/
theorem exists_decodeChar? (c : Char) (rest : Bytes) :
    ∃ b tail, encodeChar c = b :: tail ∧ decodeChar? b (tail ++ rest) = some (c, rest) := by
  obtain ⟨v, value⟩ : ∃ v, c.val.toNat = v := ⟨_, rfl⟩
  have bound : v < 0x110000 := by
    rw [← value]
    rcases c.valid with low | high
    · exact Nat.lt_trans low (by decide)
    · exact high.2
  by_cases one : v ≤ 0x7F
  · have first : (UInt8.ofNat v).toNat = v := toNat_ofNat (by omega)
    refine ⟨_, [], encodeChar_one value one first, ?_⟩
    rw [decodeChar?_one (by omega), first, scalar?_of_toNat value (by omega)]
    rfl
  by_cases two : v ≤ 0x7FF
  · have first := toNat_ofNat (n := v / 64 % 0x20 + 0xC0) (by omega)
    have second := toNat_ofNat (n := v % 0x40 + 0x80) (by omega)
    refine ⟨_, [_], encodeChar_two value (by omega) two first second, ?_⟩
    rw [List.cons_append, decodeChar?_two (by omega) (continuation?_ofNat (by omega)), first,
      scalar?_of_toNat (value.trans (by omega)) (by omega)]
    rfl
  by_cases three : v ≤ 0xFFFF
  · have first := toNat_ofNat (n := v / 4096 % 0x10 + 0xE0) (by omega)
    have second := toNat_ofNat (n := v / 64 % 0x40 + 0x80) (by omega)
    have third := toNat_ofNat (n := v % 0x40 + 0x80) (by omega)
    refine ⟨_, [_, _], encodeChar_three value (by omega) three first second third, ?_⟩
    rw [List.cons_append, List.cons_append, decodeChar?_three (by omega)
      (continuation?_ofNat (by omega)) (continuation?_ofNat (by omega)), first,
      scalar?_of_toNat (value.trans (by omega)) (by omega)]
    rfl
  · have first := toNat_ofNat (n := v / 262144 % 0x08 + 0xF0) (by omega)
    have second := toNat_ofNat (n := v / 4096 % 0x40 + 0x80) (by omega)
    have third := toNat_ofNat (n := v / 64 % 0x40 + 0x80) (by omega)
    have fourth := toNat_ofNat (n := v % 0x40 + 0x80) (by omega)
    refine ⟨_, [_, _, _], encodeChar_four value (by omega) first second third fourth, ?_⟩
    rw [List.cons_append, List.cons_append, List.cons_append, decodeChar?_four (by omega)
      (continuation?_ofNat (by omega)) (continuation?_ofNat (by omega))
      (continuation?_ofNat (by omega)), first, scalar?_of_toNat (value.trans (by omega)) (by omega)]
    rfl

/-! ## Whole texts -/

theorem decode_encodeChar_append (c : Char) (s : Bytes) :
    decode (encodeChar c ++ s) = .char c :: decode s := by
  obtain ⟨b, tail, bytes, found⟩ := exists_decodeChar? c s
  rw [bytes, List.cons_append, decode, step, found]

theorem decode_ofChars_append (cs : List Char) (s : Bytes) :
    decode (ofChars cs ++ s) = cs.map .char ++ decode s := by
  induction cs with
  | nil => rfl
  | cons c cs ih =>
    rw [ofChars, List.flatMap_cons, List.append_assoc, List.map_cons, List.cons_append, ← ih]
    exact decode_encodeChar_append c _

/-- **A text is read as the characters that it was made from.** -/
theorem decode_ofChars (cs : List Char) : decode (ofChars cs) = cs.map .char := by
  have nothing : decode [] = [] := by rw [decode]
  simpa [nothing] using decode_ofChars_append cs []

theorem chars_ofChars (cs : List Char) : chars (ofChars cs) = cs := by
  rw [chars, decode_ofChars, List.map_map]
  exact List.map_id cs

/-- What is made from characters is properly encoded. -/
theorem valid_ofChars (cs : List Char) : valid (ofChars cs) = true := by
  rw [valid, decode_ofChars, List.all_eq_true]
  intro p member
  obtain ⟨c, -, rfl⟩ := List.mem_map.1 member
  rfl

/-- The pieces of a properly encoded text are characters. -/
theorem eq_char_of_valid {s : Bytes} (proper : valid s = true) :
    ∀ p ∈ decode s, p = .char p.toChar := by
  intro p member
  have fine := List.all_eq_true.1 proper p member
  cases p with
  | char c => rfl
  | stray b => cases fine

/-- A properly encoded text is made from its characters. -/
theorem ofChars_chars {s : Bytes} (proper : valid s = true) : ofChars (chars s) = s := by
  have pieces : ∀ ps : List Piece, (∀ p ∈ ps, p = .char p.toChar) →
      ofChars (ps.map Piece.toChar) = encode ps := by
    intro ps characters
    induction ps with
    | nil => rfl
    | cons p ps ih =>
      rw [List.forall_mem_cons] at characters
      rw [List.map_cons, ofChars, List.flatMap_cons, encode, List.flatMap_cons]
      have here : p.bytes = String.utf8EncodeChar p.toChar := by
        rw [characters.1]
        rfl
      rw [here]
      exact congrArg _ (ih characters.2)
  rw [chars, pieces _ (eq_char_of_valid proper), encode_decode]

end Utf8

end Marginalia
