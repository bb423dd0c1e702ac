import Marginalia.Proofs.Text.Lines
import Marginalia.Proofs.Text.Scalars
import Marginalia.Text.Space
import Mathlib.Data.List.TakeWhile

/-!
# White space at the ends of a text

Trimming is defined on the pieces of a text.  Here it is described on its bytes: a
text is white space, then the trimmed text, then white space (`trim_split`), and white
space that is put at either end makes no difference (`trim_append_blank`,
`trim_blank_append`).  What starts with characters that are no white space loses
nothing there (`trim_solid_append`).

For the end of a text this needs that a character which is put behind a text is read
there as it would be alone: the first byte of a character is never taken for the
continuation of what stands before it (`decode_append_char`).

The lines of a text that are not blank are the same before and after trimming the
text (`filledLines_trim`), since a line is trimmed anyway.
-/

namespace Marginalia

set_option autoImplicit false

/-! ## Characters behind a text -/

namespace Utf8

/-- What follows a character makes no difference to it. -/
theorem decodeChar?_append {b : UInt8} {rest rest' : Bytes} {c : Char}
    (found : decodeChar? b rest = some (c, rest')) (t : Bytes) :
    decodeChar? b (rest ++ t) = some (c, rest' ++ t) := by
  have whole := encodeChar_of_decodeChar? found
  obtain ⟨first, tail, bytes, read⟩ := exists_decodeChar? c (rest' ++ t)
  rw [bytes, List.cons_append] at whole
  obtain ⟨rfl, rfl⟩ := List.cons.inj whole
  rw [List.append_assoc]
  exact read

/-- The bytes of a character, of which only the first may be taken for a first byte. -/
theorem isFirstByte_iff {c : Char} {before after : Bytes} {b : UInt8}
    (bytes : encodeChar c = before ++ b :: after) : b.IsUTF8FirstByte ↔ before = [] := by
  have inside : before.length < (String.utf8EncodeChar c).length := by
    have length := congrArg List.length bytes
    rw [List.length_append, List.length_cons] at length
    exact Nat.lt_of_lt_of_eq (by omega) length.symm
  have here : (String.utf8EncodeChar c)[before.length] = b := by
    have known : (encodeChar c)[before.length]? = some b := by
      rw [bytes, List.getElem?_append_right (Nat.le_refl _), Nat.sub_self, List.getElem?_cons_zero]
    exact Option.some.inj ((List.getElem?_eq_getElem inside).symm.trans known)
  rw [← here, UInt8.isUTF8FirstByte_getElem_utf8EncodeChar, List.length_eq_zero_iff]

/-- A character behind a text is not taken for a part of its first character. -/
theorem step_append_char (b : UInt8) (rest : Bytes) (c : Char) (t : Bytes) :
    step b (rest ++ (encodeChar c ++ t)) = ((step b rest).1, (step b rest).2 ++ (encodeChar c ++ t)) := by
  cases found : decodeChar? b rest with
  | some r =>
    simp only [step, found, decodeChar?_append found]
  | none =>
    have unread : decodeChar? b (rest ++ (encodeChar c ++ t)) = none := by
      rw [Option.eq_none_iff_forall_ne_some]
      rintro ⟨d, after⟩ read
      have whole := encodeChar_of_decodeChar? read
      rw [← List.cons_append] at whole
      rcases List.append_eq_append_iff.1 whole with ⟨more, early, -⟩ | ⟨more, late, cut⟩
      · -- all of the character would be in the text
        obtain ⟨first, tail, bytes, alone⟩ := exists_decodeChar? d more
        rw [bytes, List.cons_append] at early
        obtain ⟨rfl, rfl⟩ := List.cons.inj early
        rw [alone] at found
        cases found
      · obtain ⟨first, tail, bytes, -⟩ := exists_decodeChar? c t
        have isFirst : first.IsUTF8FirstByte :=
          (isFirstByte_iff (show encodeChar c = [] ++ first :: tail from bytes)).2 rfl
        cases more with
        | nil =>
          -- the character would end where the text ends
          obtain ⟨first', tail', bytes', alone⟩ := exists_decodeChar? d []
          rw [List.append_nil, bytes'] at late
          obtain ⟨rfl, rfl⟩ := List.cons.inj late
          rw [List.append_nil, found] at alone
          cases alone
        | cons next more =>
          -- the first byte of `c` would be a later byte of the character
          rw [bytes, List.cons_append, List.cons_append] at cut
          obtain ⟨rfl, -⟩ := List.cons.inj cut
          exact absurd ((isFirstByte_iff late).1 isFirst) (List.cons_ne_nil _ _)
    simp only [step, found, unread]

/-- **A character behind a text is read as it is alone.** -/
theorem decode_append_char (s : Bytes) (c : Char) (t : Bytes) :
    decode (s ++ (encodeChar c ++ t)) = decode s ++ .char c :: decode t := by
  fun_induction decode s with
  | case1 => exact decode_encodeChar_append c t
  | case2 b rest ih => rw [List.cons_append, decode, step_append_char, ih, List.cons_append]

theorem decode_append_ofChars (s : Bytes) (cs : List Char) :
    decode (s ++ ofChars cs) = decode s ++ cs.map .char := by
  induction cs generalizing s with
  | nil => simp [ofChars]
  | cons c cs ih =>
    have regroup : s ++ ofChars (c :: cs) = s ++ (encodeChar c ++ ofChars cs) := rfl
    rw [regroup, decode_append_char, decode_ofChars, List.map_cons]

/-- A small byte of a character is all of it. -/
theorem toNat_of_mem_encodeChar {c : Char} {b : UInt8} (isFirst : b.IsUTF8FirstByte)
    (small : b.toNat < 0x80) (member : b ∈ encodeChar c) : c.toNat = b.toNat := by
  obtain ⟨before, after, bytes⟩ := List.append_of_mem member
  obtain rfl := (isFirstByte_iff bytes).1 isFirst
  obtain ⟨first, tail, bytes', read⟩ := exists_decodeChar? c []
  rw [bytes', List.nil_append] at bytes
  obtain ⟨rfl, rfl⟩ := List.cons.inj bytes
  rw [decodeChar?_one small, Option.map_eq_some_iff] at read
  obtain ⟨d, value, same⟩ := read
  rw [← (Prod.mk.inj same).1]
  exact (toNat_of_scalar? value).2

theorem encode_isInfix {ps qs : List Piece} (part : ps <:+: qs) : encode ps <:+: encode qs := by
  obtain ⟨before, after, rfl⟩ := part
  refine ⟨encode before, encode after, ?_⟩
  simp only [encode, List.flatMap_append]

theorem encode_eq_nil_iff {ps : List Piece} : encode ps = [] ↔ ps = [] := by
  constructor
  · intro nothing
    cases ps with
    | nil => rfl
    | cons p ps =>
      have bytes := List.flatMap_eq_nil_iff.1 nothing p List.mem_cons_self
      cases p with
      | char c =>
        obtain ⟨first, tail, bytes', -⟩ := exists_decodeChar? c []
        exact absurd (bytes'.symm.trans bytes) (List.cons_ne_nil _ _)
      | stray b => exact absurd bytes (List.cons_ne_nil _ _)
  · rintro rfl
    rfl

/-- A part of some pieces that has all of their bytes is all of them. -/
theorem eq_of_isInfix {ps qs : List Piece} (part : ps <:+: qs) (same : encode ps = encode qs) :
    ps = qs := by
  obtain ⟨before, after, rfl⟩ := part
  have length := congrArg List.length same
  simp only [encode, List.flatMap_append, List.length_append] at length
  have first : before = [] := encode_eq_nil_iff.1 (List.eq_nil_of_length_eq_zero (by rw [encode]; omega))
  have last : after = [] := encode_eq_nil_iff.1 (List.eq_nil_of_length_eq_zero (by rw [encode]; omega))
  rw [first, last, List.nil_append, List.append_nil]

end Utf8

/-! ## Pieces of white space -/

variable {p : Piece}

theorem trimPieces_cons (space : p.isSpace = true) (ps : List Piece) :
    trimPieces (p :: ps) = trimPieces ps := by
  rw [trimPieces, List.dropWhile_cons_of_pos space, trimPieces]

theorem trimPieces_concat (space : p.isSpace = true) (ps : List Piece) :
    trimPieces (ps ++ [p]) = trimPieces ps := by
  rw [trimPieces, List.dropWhile_append]
  split
  · rename_i nothing
    rw [trimPieces, List.isEmpty_iff.1 nothing, List.dropWhile_cons_of_pos space]
    rfl
  · rw [List.reverse_append, List.reverse_singleton, List.singleton_append,
      List.dropWhile_cons_of_pos space, trimPieces]

/-- What trimming leaves at the end, and what it takes away there. -/
theorem trimEnd_append (ps : List Piece) :
    (ps.reverse.dropWhile Piece.isSpace).reverse ++ (ps.reverse.takeWhile Piece.isSpace).reverse
      = ps := by
  rw [← List.reverse_append, List.takeWhile_append_dropWhile, List.reverse_reverse]

theorem trimPieces_isInfix (ps : List Piece) : trimPieces ps <:+: ps := by
  have front : (trimPieces ps).reverse <:+ (ps.dropWhile Piece.isSpace).reverse := by
    rw [trimPieces, List.reverse_reverse]
    exact List.dropWhile_suffix _
  exact (List.reverse_suffix.1 front).isInfix.trans (List.dropWhile_suffix _).isInfix

/-- A text whose pieces are changed so that white space stays white space is trimmed like it. -/
theorem trimPieces_map {f : Piece → Piece} (same : ∀ p, (f p).isSpace = p.isSpace) (ps : List Piece) :
    trimPieces (ps.map f) = (trimPieces ps).map f := by
  have same' : Piece.isSpace ∘ f = Piece.isSpace := funext same
  rw [trimPieces, List.dropWhile_map, ← List.map_reverse, List.dropWhile_map, ← List.map_reverse, same',
    trimPieces]

theorem dropWhile_solid {qs : List Piece} (solid : ∀ q ∈ qs, q.isSpace = false) (some : qs ≠ [])
    (ps : List Piece) : (qs ++ ps).dropWhile Piece.isSpace = qs ++ ps := by
  cases qs with
  | nil => exact absurd rfl some
  | cons q qs =>
    have first := solid q List.mem_cons_self
    rw [List.cons_append, List.dropWhile_cons_of_neg (by simp [first])]

/-- Only the end is trimmed of what starts with pieces that are no white space. -/
theorem trimPieces_solid {qs : List Piece} (solid : ∀ q ∈ qs, q.isSpace = false) (some : qs ≠ [])
    (ps : List Piece) :
    trimPieces (qs ++ ps) = qs ++ (ps.reverse.dropWhile Piece.isSpace).reverse := by
  have back : qs.reverse.dropWhile Piece.isSpace = qs.reverse := by
    have solid' : ∀ q ∈ qs.reverse, q.isSpace = false :=
      fun q member => solid q (List.mem_reverse.1 member)
    have unchanged := dropWhile_solid solid' (by simpa using some) []
    rwa [List.append_nil] at unchanged
  rw [trimPieces, dropWhile_solid solid some, List.reverse_append, List.dropWhile_append, back]
  split
  · rename_i nothing
    rw [List.isEmpty_iff.1 nothing, List.reverse_reverse, List.reverse_nil, List.append_nil]
  · rw [List.reverse_append, List.reverse_reverse]

namespace Bytes

/-- A text of nothing but white space. -/
def Blank (s : Bytes) : Prop := ∀ p ∈ Utf8.decode s, p.isSpace = true

instance (s : Bytes) : Decidable (Blank s) := inferInstanceAs (Decidable (∀ p ∈ _, _))

theorem blank_iff {s : Bytes} :
    Blank s ↔ ∃ cs : List Char, (∀ c ∈ cs, isSpace c = true) ∧ s = Utf8.ofChars cs := by
  constructor
  · intro blank
    have proper : Utf8.valid s = true := by
      rw [Utf8.valid, List.all_eq_true]
      intro p member
      have space := blank p member
      cases p with
      | char c => rfl
      | stray b => cases space
    refine ⟨Utf8.chars s, ?_, (Utf8.ofChars_chars proper).symm⟩
    intro c member
    obtain ⟨p, among, rfl⟩ := List.mem_map.1 member
    have space := blank p among
    rw [Utf8.eq_char_of_valid proper p among] at space
    exact space
  · rintro ⟨cs, spaces, rfl⟩ p member
    rw [Utf8.decode_ofChars] at member
    obtain ⟨c, among, rfl⟩ := List.mem_map.1 member
    exact spaces c among

theorem blank_nil : Blank [] := blank_iff.2 ⟨[], by simp, rfl⟩

theorem blank_append {s t : Bytes} (first : Blank s) (second : Blank t) : Blank (s ++ t) := by
  obtain ⟨cs, spaces, rfl⟩ := blank_iff.1 first
  obtain ⟨ds, spaces', rfl⟩ := blank_iff.1 second
  refine blank_iff.2 ⟨cs ++ ds, ?_, List.flatMap_append.symm⟩
  intro c member
  rcases List.mem_append.1 member with early | late
  · exact spaces c early
  · exact spaces' c late

/-- Pieces of white space are written as white space. -/
theorem blank_encode {ps : List Piece} (spaces : ∀ p ∈ ps, p.isSpace = true) :
    Blank (Utf8.encode ps) := by
  induction ps with
  | nil => exact blank_nil
  | cons p ps ih =>
    rw [List.forall_mem_cons] at spaces
    have first : Blank p.bytes := by
      cases p with
      | char c =>
        refine blank_iff.2 ⟨[c], ?_, (List.flatMap_singleton _ _).symm⟩
        simpa [Piece.isSpace] using spaces.1
      | stray b => cases spaces.1
    exact blank_append first (ih spaces.2)

theorem blank_takeWhile (ps : List Piece) : Blank (Utf8.encode (ps.takeWhile Piece.isSpace)) :=
  blank_encode fun _ member => List.mem_takeWhile_imp member

theorem blank_takeWhile_reverse (ps : List Piece) :
    Blank (Utf8.encode (ps.takeWhile Piece.isSpace).reverse) :=
  blank_encode fun _ member => List.mem_takeWhile_imp (List.mem_reverse.1 member)

/-- No slash is white space. -/
theorem slash_notMem_of_blank {s : Bytes} (blank : Blank s) : slash ∉ s := by
  obtain ⟨cs, spaces, rfl⟩ := blank_iff.1 blank
  intro member
  obtain ⟨c, among, here⟩ := List.mem_flatMap.1 member
  have value := Utf8.toNat_of_mem_encodeChar (by decide) (by decide) here
  have space := spaces c among
  simp only [isSpace, value] at space
  revert space
  decide

/-! ## Trimming -/

theorem trim_append_char (s : Bytes) {c : Char} (space : isSpace c = true) :
    trim (s ++ Utf8.encodeChar c) = trim s := by
  have pieces := Utf8.decode_append_ofChars s [c]
  have single : Utf8.ofChars [c] = Utf8.encodeChar c := List.flatMap_singleton _ _
  rw [single, List.map_singleton] at pieces
  rw [trim, pieces, trimPieces_concat (p := .char c) space, trim]

theorem trim_char_append {c : Char} (space : isSpace c = true) (s : Bytes) :
    trim (Utf8.encodeChar c ++ s) = trim s := by
  rw [trim, Utf8.decode_encodeChar_append, trimPieces_cons (p := .char c) space, trim]

section Invariant

variable {α : Type} (f : Bytes → α) {t : Bytes} (blank : Blank t)

include blank

/-- What one character of white space at the end does not change, white space there does not change. -/
theorem eq_append_blank (one : ∀ s c, isSpace c = true → f (s ++ Utf8.encodeChar c) = f s) (s : Bytes) :
    f (s ++ t) = f s := by
  obtain ⟨cs, spaces, rfl⟩ := blank_iff.1 blank
  clear blank
  induction cs generalizing s with
  | nil => rw [Utf8.ofChars, List.flatMap_nil, List.append_nil]
  | cons c cs ih =>
    rw [List.forall_mem_cons] at spaces
    have rest := ih (s ++ Utf8.encodeChar c) spaces.2
    rw [List.append_assoc, one s c spaces.1] at rest
    exact rest

/-- What one character of white space at the beginning does not change, white space there does not
change. -/
theorem eq_blank_append (one : ∀ c s, isSpace c = true → f (Utf8.encodeChar c ++ s) = f s) (s : Bytes) :
    f (t ++ s) = f s := by
  obtain ⟨cs, spaces, rfl⟩ := blank_iff.1 blank
  clear blank
  induction cs with
  | nil => rfl
  | cons c cs ih =>
    rw [List.forall_mem_cons] at spaces
    have first := one c (Utf8.ofChars cs ++ s) spaces.1
    rw [← List.append_assoc] at first
    exact first.trans (ih spaces.2)

end Invariant

/-- **White space at the end makes no difference.** -/
theorem trim_append_blank (s : Bytes) {t : Bytes} (blank : Blank t) : trim (s ++ t) = trim s :=
  eq_append_blank trim blank (fun s _ space => trim_append_char s space) s

/-- **White space at the beginning makes no difference.** -/
theorem trim_blank_append {s : Bytes} (blank : Blank s) (t : Bytes) : trim (s ++ t) = trim t :=
  eq_blank_append trim blank (fun _ s space => trim_char_append space s) t

/-- **A text is what trimming leaves of it, with white space on both sides.** -/
theorem trim_split (s : Bytes) : ∃ a z, Blank a ∧ Blank z ∧ s = a ++ (s.trim ++ z) := by
  have pieces : (Utf8.decode s).takeWhile Piece.isSpace ++ (trimPieces (Utf8.decode s)
      ++ (((Utf8.decode s).dropWhile Piece.isSpace).reverse.takeWhile Piece.isSpace).reverse)
      = Utf8.decode s := by
    rw [trimPieces, trimEnd_append, List.takeWhile_append_dropWhile]
  refine ⟨_, _, blank_takeWhile (Utf8.decode s),
    blank_takeWhile_reverse ((Utf8.decode s).dropWhile Piece.isSpace).reverse, ?_⟩
  have bytes := congrArg Utf8.encode pieces
  rw [Utf8.encode_decode, Utf8.encode, List.flatMap_append, List.flatMap_append] at bytes
  exact bytes.symm

theorem trim_isInfix (s : Bytes) : s.trim <:+: s := by
  have part := Utf8.encode_isInfix (trimPieces_isInfix (Utf8.decode s))
  rwa [Utf8.encode_decode] at part

theorem trim_trim (s : Bytes) : s.trim.trim = s.trim := by
  obtain ⟨a, z, before, after, split⟩ := trim_split s
  calc s.trim.trim
      = (s.trim ++ z).trim := (trim_append_blank s.trim after).symm
    _ = (a ++ (s.trim ++ z)).trim := (trim_blank_append before _).symm
    _ = s.trim := congrArg trim split.symm

/-- A text has no white space at its ends. -/
structure Trimmed (s : Bytes) : Prop where
  start : ∀ a t, Blank a → s = a ++ t → a = []
  stop : ∀ t z, Blank z → s = t ++ z → z = []

theorem trim_eq_self_iff {s : Bytes} : s.trim = s ↔ Trimmed s := by
  constructor
  · intro same
    -- what can be taken away without a difference has no bytes
    have length_le {t : Bytes} (part : t.trim = s) : s.length ≤ t.length :=
      part ▸ (trim_isInfix t).length_le
    constructor
    · rintro a t blank rfl
      have shorter := length_le ((trim_blank_append blank t).symm.trans same)
      rw [List.length_append] at shorter
      exact List.eq_nil_of_length_eq_zero (by omega)
    · rintro t z blank rfl
      have shorter := length_le ((trim_append_blank t blank).symm.trans same)
      rw [List.length_append] at shorter
      exact List.eq_nil_of_length_eq_zero (by omega)
  · intro trimmed
    obtain ⟨a, z, before, after, split⟩ := trim_split s
    obtain rfl := trimmed.start a _ before split
    rw [List.nil_append] at split
    obtain rfl := trimmed.stop _ z after split
    rw [List.append_nil] at split
    exact split.symm

/-- The second text is what the first one is without the white space at its ends. -/
structure Trims (s t : Bytes) : Prop where
  trimmed : Trimmed t
  split : ∃ a z, Blank a ∧ Blank z ∧ s = a ++ (t ++ z)

/-- **Trimming takes away all white space at the ends, and nothing else.** -/
theorem trim_eq_iff {s t : Bytes} : s.trim = t ↔ Trims s t := by
  constructor
  · rintro rfl
    exact ⟨trim_eq_self_iff.1 (trim_trim s), trim_split s⟩
  · rintro ⟨trimmed, a, z, before, after, rfl⟩
    rw [trim_blank_append before, trim_append_blank t after]
    exact trim_eq_self_iff.2 trimmed

theorem trim_eq_nil_iff {s : Bytes} : s.trim = [] ↔ Blank s := by
  constructor
  · intro nothing
    obtain ⟨a, z, before, after, split⟩ := trim_split s
    rw [split, nothing, List.nil_append]
    exact blank_append before after
  · intro blank
    have same := trim_append_blank [] blank
    rw [List.nil_append] at same
    rw [same, trim, Utf8.decode]
    rfl

/-- A trimmed text has no pieces to trim. -/
theorem trimPieces_of_trim {s : Bytes} (same : s.trim = s) :
    trimPieces (Utf8.decode s) = Utf8.decode s :=
  Utf8.eq_of_isInfix (trimPieces_isInfix _) (same.trans (Utf8.encode_decode s).symm)

section Solid

variable {cs : List Char} (solid : ∀ c ∈ cs, isSpace c = false) (some : cs ≠ [])

include solid

theorem solid_pieces : ∀ q ∈ cs.map Piece.char, q.isSpace = false := by
  intro q member
  obtain ⟨c, among, rfl⟩ := List.mem_map.1 member
  exact solid c among

include some

/-- **What starts with characters that are no white space is trimmed only at its end.** -/
theorem trim_solid_append (s : Bytes) :
    ∃ m z, Blank z ∧ s = m ++ z ∧ trim (Utf8.ofChars cs ++ s) = Utf8.ofChars cs ++ m := by
  refine ⟨Utf8.encode ((Utf8.decode s).reverse.dropWhile Piece.isSpace).reverse, _,
    blank_takeWhile_reverse (Utf8.decode s).reverse, ?_, ?_⟩
  · have bytes := congrArg Utf8.encode (trimEnd_append (Utf8.decode s))
    rw [Utf8.encode_decode] at bytes
    simpa only [Utf8.encode, List.flatMap_append] using bytes.symm
  · have written : Utf8.encode (cs.map Piece.char) = Utf8.ofChars cs := by
      rw [← Utf8.decode_ofChars, Utf8.encode_decode]
    rw [trim, Utf8.decode_ofChars_append, trimPieces_solid (solid_pieces solid) (by simpa using some),
      Utf8.encode, List.flatMap_append]
    exact congrArg (· ++ _) written

/-- A trimmed text is trimmed behind such characters, too. -/
theorem trim_solid_append_of_trim {s : Bytes} (same : s.trim = s) :
    trim (Utf8.ofChars cs ++ s) = Utf8.ofChars cs ++ s := by
  obtain ⟨m, z, blank, rfl, trimmed⟩ := trim_solid_append solid some s
  rw [trim_append_blank m blank] at same
  have length := (trim_isInfix m).length_le
  rw [same, List.length_append] at length
  obtain rfl : z = [] := List.eq_nil_of_length_eq_zero (by omega)
  rwa [List.append_nil] at trimmed ⊢

/-- What is enclosed by characters that are no white space is not trimmed at all. -/
theorem trim_enclosed {ds : List Char} (solid' : ∀ d ∈ ds, isSpace d = false) (some' : ds ≠ [])
    (s : Bytes) :
    trim (Utf8.ofChars cs ++ (s ++ Utf8.ofChars ds)) = Utf8.ofChars cs ++ (s ++ Utf8.ofChars ds) := by
  have pieces : Utf8.decode (Utf8.ofChars cs ++ (s ++ Utf8.ofChars ds))
      = cs.map .char ++ (Utf8.decode s ++ ds.map .char) := by
    rw [Utf8.decode_ofChars_append, Utf8.decode_append_ofChars]
  have back : ((Utf8.decode s ++ ds.map Piece.char).reverse.dropWhile Piece.isSpace).reverse
      = Utf8.decode s ++ ds.map .char := by
    rw [List.reverse_append, dropWhile_solid, ← List.reverse_append, List.reverse_reverse]
    · intro q member
      exact solid_pieces solid' q (List.mem_reverse.1 member)
    · simpa using some'
  rw [trim, pieces, trimPieces_solid (solid_pieces solid) (by simpa using some), back, ← pieces,
    Utf8.encode_decode]

end Solid

/-! ## Lines that are not blank -/

/-- The lines of a text that are not blank, trimmed. -/
def filledLines (s : Bytes) : List Bytes := (s.lines.map trim).filter fun line => !line.isEmpty

theorem trim_nil : trim [] = [] := by
  rw [trim, Utf8.decode]
  rfl

theorem filledLines_of_oneLine {s : Bytes} (oneLine : newline ∉ s) :
    filledLines s = [s.trim].filter fun line => !line.isEmpty := by
  rw [filledLines, lines, splitAtByte_of_notMem oneLine, List.map_singleton]

theorem filledLines_cut {piece : Bytes} (absent : newline ∉ piece) (rest : Bytes) :
    filledLines (piece ++ newline :: rest)
      = ([piece.trim].filter fun line => !line.isEmpty) ++ filledLines rest := by
  rw [filledLines, lines, splitAtByte_cut absent, List.map_cons, ← List.singleton_append,
    List.filter_append, filledLines, lines]

theorem newline_notMem_encodeChar {c : Char} (other : c ≠ '\n') : newline ∉ Utf8.encodeChar c := by
  intro member
  have value := Utf8.toNat_of_mem_encodeChar (by decide) (by decide) member
  exact other (Char.toNat_inj.1 value)

variable {c : Char}

/-- White space at the end is on the last line. -/
theorem filledLines_append_char (space : isSpace c = true) (s : Bytes) :
    filledLines (s ++ Utf8.encodeChar c) = filledLines s := by
  induction s using lines_induction with
  | oneLine s oneLine =>
    by_cases same : c = '\n'
    · have bytes : s ++ Utf8.encodeChar c = s ++ newline :: [] := by rw [same]; rfl
      rw [bytes, filledLines_cut oneLine, filledLines_of_oneLine oneLine,
        filledLines_of_oneLine List.not_mem_nil, trim_nil]
      simp
    · have oneLine' : newline ∉ s ++ Utf8.encodeChar c := by
        rw [List.mem_append]
        rintro (early | late)
        · exact oneLine early
        · exact newline_notMem_encodeChar same late
      rw [filledLines_of_oneLine oneLine', filledLines_of_oneLine oneLine, trim_append_char s space]
  | line piece rest absent ih =>
    rw [List.append_assoc, List.cons_append, filledLines_cut absent, filledLines_cut absent, ih]

/-- White space at the beginning is on the first line. -/
theorem filledLines_char_append (space : isSpace c = true) (s : Bytes) :
    filledLines (Utf8.encodeChar c ++ s) = filledLines s := by
  by_cases same : c = '\n'
  · have bytes : Utf8.encodeChar c ++ s = [] ++ newline :: s := by rw [same]; rfl
    rw [bytes, filledLines_cut List.not_mem_nil, trim_nil]
    rfl
  · have solid := newline_notMem_encodeChar same
    induction s using lines_induction with
    | oneLine s oneLine =>
      have oneLine' : newline ∉ Utf8.encodeChar c ++ s := by
        rw [List.mem_append]
        rintro (early | late)
        · exact solid early
        · exact oneLine late
      rw [filledLines_of_oneLine oneLine', filledLines_of_oneLine oneLine, trim_char_append space]
    | line piece rest absent _ =>
      have absent' : newline ∉ Utf8.encodeChar c ++ piece := by
        rw [List.mem_append]
        rintro (early | late)
        · exact solid early
        · exact absent late
      rw [← List.append_assoc, filledLines_cut absent', filledLines_cut absent,
        trim_char_append space]

/-- **Trimming a text keeps its lines that are not blank.** -/
theorem filledLines_trim (s : Bytes) : filledLines s.trim = filledLines s := by
  obtain ⟨a, z, before, after, split⟩ := trim_split s
  calc filledLines s.trim
      = filledLines (s.trim ++ z) :=
        (eq_append_blank filledLines after (fun s _ space => filledLines_append_char space s) _).symm
    _ = filledLines (a ++ (s.trim ++ z)) :=
        (eq_blank_append filledLines before (fun _ s space => filledLines_char_append space s) _).symm
    _ = filledLines s := congrArg filledLines split.symm

end Bytes

end Marginalia
