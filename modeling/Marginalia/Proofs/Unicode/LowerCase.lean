import Marginalia.Proofs.Text.Space
import Marginalia.Unicode.LowerCase

/-!
# Lower case is final

A text in lower case stays as it is when it is put into lower case again
(`lower_lower`), and trimming takes the same away before and after
(`trim_lower_of_trim`).  Both are facts about the table: the forms in it are
characters of their own that have no form again, and neither the characters with a
form nor the forms are white space.

These are statements about pairs of rows, of which there are too many to look at one
by one.  So a set of code points is held as the bits of one number, and whether two
sets have a code point in common is one operation on numbers (`not_within_of_apart`).
-/

namespace Marginalia.Unicode

set_option autoImplicit false

/-! ## Sets of code points as numbers -/

/-- The code points from `lo` to `hi`, as the bits of a number. -/
def rangeBits (lo hi : Nat) : Nat := (1 <<< (hi + 1 - lo) - 1) <<< lo

/-- The code points of several ranges. -/
def bits (ranges : List (Nat × Nat)) : Nat :=
  ranges.foldr (fun r rest => rangeBits r.1 r.2 ||| rest) 0

/-- A code point lies in one of several ranges. -/
def Within (ranges : List (Nat × Nat)) (n : Nat) : Prop := ∃ r ∈ ranges, r.1 ≤ n ∧ n ≤ r.2

variable {ranges others : List (Nat × Nat)} {n : Nat}

theorem testBit_rangeBits {lo hi : Nat} : (rangeBits lo hi).testBit n = true ↔ lo ≤ n ∧ n ≤ hi := by
  rw [rangeBits, Nat.testBit_shiftLeft, Nat.one_shiftLeft, Nat.testBit_two_pow_sub_one,
    Bool.and_eq_true, decide_eq_true_eq, decide_eq_true_eq]
  omega

theorem testBit_bits : (bits ranges).testBit n = true ↔ Within ranges n := by
  induction ranges with
  | nil => simp [bits, Within]
  | cons r ranges ih =>
    have cons : bits (r :: ranges) = rangeBits r.1 r.2 ||| bits ranges := rfl
    rw [cons, Nat.testBit_or, Bool.or_eq_true, testBit_rangeBits, ih]
    simp [Within]

/-- Sets without a bit in common have no code point in common. -/
theorem not_within_of_apart (apart : bits ranges &&& bits others = 0) (within : Within ranges n) :
    ¬ Within others n := by
  intro within'
  have both : (bits ranges &&& bits others).testBit n = true := by
    rw [Nat.testBit_and, testBit_bits.2 within, testBit_bits.2 within']
    rfl
  rw [apart, Nat.zero_testBit] at both
  cases both

/-! ## The table -/

/-- The characters that have a lower-case form. -/
def withForm : List (Nat × Nat) :=
  (lowerRuns.flatMap rowsOfRun).map fun row => (row.lo, row.hi)

/-- The lower-case forms. -/
def forms : List (Nat × Nat) :=
  (lowerRuns.flatMap rowsOfRun).map fun row =>
    (row.values.headD row.lo, row.values.headD row.lo + (row.hi - row.lo))

/-- White space. -/
def spaces : List (Nat × Nat) :=
  [(9, 13), (0x20, 0x20), (0x85, 0x85), (0xA0, 0xA0), (0x1680, 0x1680), (0x2000, 0x200A),
   (0x2028, 0x2029), (0x202F, 0x202F), (0x205F, 0x205F), (0x3000, 0x3000)]

/-- The numbers between the two ranges of code points that are characters. -/
def surrogates : Nat × Nat := (0xD800, 0xDFFF)

theorem isSpace_iff {c : Char} : isSpace c = true ↔ Within spaces c.toNat := by
  simp only [isSpace, Within, spaces, Bool.or_eq_true, Bool.and_eq_true, decide_eq_true_eq, beq_iff_eq,
    List.mem_cons, List.not_mem_nil, or_false, exists_eq_or_imp, exists_eq_left]
  omega

/-- **No form has a form again**, and none is white space. -/
theorem forms_apart : bits forms &&& bits (surrogates :: (withForm ++ spaces)) = 0 := by
  decide +kernel

theorem withForm_apart : bits withForm &&& bits spaces = 0 := by
  decide +kernel

theorem forms_small : ∀ r ∈ forms, r.2 < 0x110000 := by
  decide +kernel

/-! ## Characters -/

theorem Table.mem_of_search {rows : Array Row} {first last : Nat} {row : Row}
    (found : search rows n first last = some row) : row ∈ rows := by
  fun_induction search rows n first last with
  | case1 => cases found
  | case2 _ _ _ _ _ _ _ ih => exact ih found
  | case3 _ _ _ _ _ _ _ _ ih => exact ih found
  | case4 _ _ _ _ row' here _ _ =>
    cases found
    exact Array.mem_of_getElem? here
  | case5 => cases found

/-- A row of the table that holds a code point. -/
theorem exists_row {row : Row} (found : lowerTable.find? n = some row) :
    Within withForm n ∧ Within forms (row.values.headD row.lo + (n - row.lo)) := by
  have member : row ∈ lowerRuns.flatMap rowsOfRun := List.mem_toArray.1 (Table.mem_of_search found)
  obtain ⟨low, high⟩ := Table.find?_bounds found
  exact ⟨⟨_, List.mem_map_of_mem member, low, high⟩,
    ⟨_, List.mem_map_of_mem member, by dsimp only; omega, by dsimp only; omega⟩⟩

theorem toLower_of_not_within {c : Char} (none : ¬ Within withForm c.toNat) : toLower c = c := by
  rw [toLower]
  cases found : lowerTable.find? c.toNat with
  | none => rfl
  | some row => exact absurd (exists_row found).1 none

/-- The forms are characters. -/
theorem toNat_ofNat_of_form (form : Within forms n) : (Char.ofNat n).toNat = n := by
  have notSurrogate : ¬ (0xD800 ≤ n ∧ n ≤ 0xDFFF) := fun bounds =>
    not_within_of_apart forms_apart form ⟨surrogates, List.mem_cons_self, bounds⟩
  obtain ⟨r, member, -, high⟩ := form
  have small := forms_small r member
  have valid : n.isValidChar := by
    rw [Nat.isValidChar]
    omega
  rw [Char.ofNat, dif_pos valid]
  rfl

/-- **A character keeps its case or has a form in the table.** -/
theorem toLower_cases (c : Char) :
    toLower c = c ∨ Within withForm c.toNat ∧ Within forms (toLower c).toNat := by
  unfold toLower
  cases found : lowerTable.find? c.toNat with
  | none => exact .inl rfl
  | some row =>
    obtain ⟨key, form⟩ := exists_row found
    dsimp only
    rw [toNat_ofNat_of_form form]
    exact .inr ⟨key, form⟩

theorem not_within_of_form (form : Within forms n) : ¬ Within withForm n ∧ ¬ Within spaces n := by
  have apart := not_within_of_apart forms_apart form
  constructor
  · rintro ⟨r, member, bounds⟩
    exact apart ⟨r, List.mem_cons_of_mem _ (List.mem_append_left _ member), bounds⟩
  · rintro ⟨r, member, bounds⟩
    exact apart ⟨r, List.mem_cons_of_mem _ (List.mem_append_right _ member), bounds⟩

theorem toLower_toLower (c : Char) : toLower (toLower c) = toLower c := by
  rcases toLower_cases c with same | ⟨-, form⟩
  · rw [same, same]
  · exact toLower_of_not_within (not_within_of_form form).1

theorem isSpace_toLower (c : Char) : isSpace (toLower c) = isSpace c := by
  rcases toLower_cases c with same | ⟨key, form⟩
  · rw [same]
  · have solid : ¬ isSpace (toLower c) = true := fun space =>
      (not_within_of_form form).2 (isSpace_iff.1 space)
    have solid' : ¬ isSpace c = true := fun space =>
      not_within_of_apart withForm_apart key (isSpace_iff.1 space)
    rw [Bool.eq_false_iff.2 solid, Bool.eq_false_iff.2 solid']

/-! ## Texts -/

variable {s t : Bytes}

theorem lower_nil : lower [] = [] := by
  rw [lower, Utf8.chars, Utf8.decode]
  rfl

theorem chars_lower (s : Bytes) : Utf8.chars (lower s) = (Utf8.chars s).map toLower :=
  Utf8.chars_ofChars _

/-- **Lower case a second time changes nothing.** -/
theorem lower_lower (s : Bytes) : lower (lower s) = lower s := by
  have twice : toLower ∘ toLower = toLower := funext toLower_toLower
  rw [lower, chars_lower, List.map_map, twice, lower]

/-- A text is in lower case if it is properly encoded and each of its characters is. -/
theorem lower_eq_self_iff :
    lower s = s ↔ Utf8.valid s = true ∧ ∀ c ∈ Utf8.chars s, toLower c = c := by
  constructor
  · intro same
    refine ⟨by rw [← same]; exact Utf8.valid_ofChars _, ?_⟩
    have chars := chars_lower s
    rw [same] at chars
    exact fun c member => List.map_inj_left.1 ((List.map_id _).trans chars) c member |>.symm
  · rintro ⟨proper, same⟩
    have unchanged : (Utf8.chars s).map toLower = Utf8.chars s :=
      (List.map_congr_left same).trans (List.map_id _)
    rw [lower, unchanged, Utf8.ofChars_chars proper]

/-- What follows a character of a text in lower case is in lower case. -/
theorem lower_of_lower_append {before : Bytes} {c : Char}
    (same : lower (before ++ (Utf8.encodeChar c ++ t)) = before ++ (Utf8.encodeChar c ++ t)) :
    lower (Utf8.encodeChar c ++ t) = Utf8.encodeChar c ++ t := by
  have pieces := Utf8.decode_append_char before c t
  have pieces' := Utf8.decode_encodeChar_append c t
  rw [lower_eq_self_iff, Utf8.valid, Utf8.chars, pieces, ← pieces', List.all_append, List.map_append,
    Bool.and_eq_true, List.forall_mem_append] at same
  exact lower_eq_self_iff.2 ⟨same.1.2, same.2.2⟩

theorem lower_char_append (c : Char) (t : Bytes) :
    lower (Utf8.encodeChar c ++ t) = Utf8.encodeChar (toLower c) ++ lower t := by
  rw [lower, Utf8.chars, Utf8.decode_encodeChar_append]
  rfl

/-- A trimmed text in lower case is trimmed. -/
theorem trim_lower_of_trim (same : s.trim = s) : (lower s).trim = lower s := by
  let small : Piece → Piece := fun p => .char (toLower p.toChar)
  have pieces : Utf8.decode (lower s) = (Utf8.decode s).map small := by
    rw [lower, Utf8.decode_ofChars, Utf8.chars, List.map_map, List.map_map]
    rfl
  have spaces : ∀ p, (small p).isSpace = p.isSpace := by
    rintro (c | b)
    · exact isSpace_toLower c
    · exact isSpace_toLower Piece.replacement
  rw [Bytes.trim, pieces, trimPieces_map spaces, Bytes.trimPieces_of_trim same, ← pieces,
    Utf8.encode_decode]

end Marginalia.Unicode
