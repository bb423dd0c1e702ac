import Marginalia.Json.Read
import Marginalia.Proofs.Text.Scalars

/-!
# Texts in quotes are read back

What `quote` writes is read by `textRest?` as the characters that were written, and
reading stops behind the closing quote (`textRest?_pieces`).  There are three ways to
write a character: as itself, behind a backslash, and by its number.  A number is
read back because its four digits are (`hexFour?_hexChar`) and because no character
has the number of half of a surrogate pair, so that two escapes next to each other
are never joined (`textRest?_unicodeEscape`).
-/

namespace Marginalia.Json

set_option autoImplicit false

/-! ## Numbers of characters -/

theorem hexDigit?_hexChar : ∀ n < 16, hexDigit? (hexChar n) = some n := by
  decide

theorem hexFour?_hexChar {n : Nat} (small : n < 0x10000) :
    hexFour? (hexChar (n / 4096 % 16)) (hexChar (n / 256 % 16)) (hexChar (n / 16 % 16))
      (hexChar (n % 16)) = some n := by
  have sum : n / 4096 % 16 * 4096 + n / 256 % 16 * 256 + n / 16 % 16 * 16 + n % 16 = n := by omega
  simp [hexFour?, hexDigit?_hexChar, Nat.mod_lt, sum]

/-- Is the number one that a character has? -/
def Whole (n : Nat) : Prop := n < 0xD800 ∨ 0xE000 ≤ n

theorem bind_joinHalves? {n : Nat} (whole : Whole n) (low : Option Nat) :
    low.bind (joinHalves? n) = none := by
  rw [Whole] at whole
  rw [Option.bind_eq_none_iff]
  intro m _
  rw [joinHalves?, if_neg]
  simp only [Bool.and_eq_true, decide_eq_true_eq]
  omega

theorem charOf_of_whole {n : Nat} (whole : Whole n) : charOf n = Char.ofNat n := by
  rw [Whole] at whole
  rw [charOf, if_neg]
  simp only [Bool.and_eq_true, decide_eq_true_eq]
  omega

theorem whole_toNat (c : Char) : Whole c.toNat := by
  rcases c.valid with low | ⟨high, -⟩
  · exact .inl low
  · exact .inr high

/-! ## Characters -/

/-- A text that was read, with a character in front of it. -/
def withChar (c : Char) (r : List Char × List Char) : List Char × List Char := (c :: r.1, r.2)

/-- Four digits of a number that a character has.  The cases are those of reading: another escape may
stand behind them, which is not joined to them. -/
theorem textRest?_four {a b c d : Char} {n : Nat} (digits : hexFour? a b c d = some n)
    (whole : Whole n) (rest : List Char) :
    textRest? ('\\' :: 'u' :: a :: b :: c :: d :: rest)
      = (textRest? rest).map (withChar (Char.ofNat n)) := by
  have character := charOf_of_whole whole
  rw [textRest?.eq_def]
  split
  case h_1 shape =>
    obtain ⟨-, -, rfl, rfl, rfl, rfl, rfl⟩ := shape
    simp only [digits, bind_joinHalves? whole, character]
    rfl
  case h_2 shape =>
    obtain ⟨-, -, rfl, rfl, rfl, rfl, rfl⟩ := shape
    simp only [digits, character]
    rfl
  case h_3 other shape =>
    obtain ⟨-, rfl, rfl⟩ := shape
    exact (other _ _ _ _ _ rfl rfl).elim
  case h_4 other shape =>
    obtain ⟨rfl, rfl⟩ := shape
    exact (other _ _ rfl rfl).elim
  case h_5 shape => cases shape

/-- **The escape of a number is read as its character.** -/
theorem textRest?_unicodeEscape {n : Nat} (small : n < 0x10000) (whole : Whole n)
    (rest : List Char) :
    textRest? (unicodeEscape n ++ rest) = (textRest? rest).map (withChar (Char.ofNat n)) :=
  textRest?_four (hexFour?_hexChar small) whole rest

/-- A short escape is read as what it stands for. -/
theorem textRest?_shortEscape {c x : Char} (short : shortEscape? c = some x) (rest : List Char) :
    textRest? ('\\' :: c :: rest) = (textRest? rest).map (withChar x) := by
  have other : c ≠ 'u' := by
    rintro rfl
    cases short
  rw [textRest?.eq_def]
  split
  case h_1 shape =>
    cases shape
    exact absurd rfl other
  case h_2 shape =>
    cases shape
    exact absurd rfl other
  case h_3 shape =>
    cases shape
    simp only [short]
    rfl
  case h_4 others shape =>
    cases shape
    exact (others _ _ rfl rfl).elim
  case h_5 shape => cases shape

/-- A character that needs no escape is read as itself. -/
theorem textRest?_plain {c : Char} (quoted : c ≠ '\x22') (escaped : c ≠ '\\')
    (control : ¬ c.toNat < 32) (rest : List Char) :
    textRest? (c :: rest) = (textRest? rest).map (withChar c) := by
  rw [textRest?.eq_def]
  split
  case h_1 shape | h_2 shape | h_3 shape => exact absurd (List.cons.inj shape).1 escaped
  case h_4 shape =>
    cases shape
    rw [if_neg quoted, if_neg (not_or.2 ⟨escaped, control⟩)]
    rfl
  case h_5 shape => cases shape

/-- **What a character is written as is read as the character**, whatever follows it.  The cases are
those of writing. -/
theorem textRest?_escapeChar (c : Char) (rest : List Char) :
    textRest? (escapeChar c ++ rest) = (textRest? rest).map (withChar c) := by
  have whole := whole_toNat c
  rw [escapeChar]
  split
  case isTrue quote => exact textRest?_shortEscape (by subst quote; rfl) rest
  split
  case isTrue backslash => exact textRest?_shortEscape (by subst backslash; rfl) rest
  split
  case isTrue newLine => exact textRest?_shortEscape (by subst newLine; rfl) rest
  split
  case isTrue back => exact textRest?_shortEscape (by subst back; rfl) rest
  split
  case isTrue tab => exact textRest?_shortEscape (by subst tab; rfl) rest
  have numbered : Char.ofNat c.toNat = c := Char.ofNat_toNat c
  split
  case isTrue back =>
    rw [back] at numbered
    exact textRest?_shortEscape (by rw [← numbered]; rfl) rest
  split
  case isTrue feed =>
    rw [feed] at numbered
    exact textRest?_shortEscape (by rw [← numbered]; rfl) rest
  split
  case isTrue special =>
    have small : c.toNat < 0x10000 := by
      rcases special with control | rfl | rfl | rfl | line | paragraph
      · omega
      · decide
      · decide
      · decide
      · omega
      · omega
    rw [textRest?_unicodeEscape small whole, numbered]
  case isFalse quoted escaped _ _ _ _ _ plain =>
    rw [not_or] at plain
    exact textRest?_plain quoted escaped plain.1 rest

theorem textRest?_escapePiece (p : Piece) (rest : List Char) :
    textRest? (escapePiece p ++ rest) = (textRest? rest).map (withChar p.toChar) := by
  cases p with
  | char c => exact textRest?_escapeChar c rest
  | stray b => exact textRest?_unicodeEscape (by decide) (.inr (by decide)) rest

/-! ## Whole texts -/

/-- **The rest of a text in quotes is read as its characters**, up to the closing quote. -/
theorem textRest?_pieces (ps : List Piece) (rest : List Char) :
    textRest? (ps.flatMap escapePiece ++ '\x22' :: rest) = some (ps.map Piece.toChar, rest) := by
  induction ps with
  | nil => rw [List.flatMap_nil, List.nil_append, textRest?.eq_def]; rfl
  | cons p ps ih =>
    rw [List.flatMap_cons, List.append_assoc, textRest?_escapePiece, ih]
    rfl

/-- A properly encoded text is read back from what stands behind its opening quote. -/
theorem textRest?_quote (s : Bytes) (rest : List Char) :
    textRest? ((quote s).tail ++ rest) = some (Utf8.chars s, rest) := by
  rw [quote, List.cons_append, List.tail_cons, List.append_assoc]
  exact textRest?_pieces _ rest

end Marginalia.Json
