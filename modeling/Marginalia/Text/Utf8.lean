import Marginalia.Text.Bytes

/-!
# Reading UTF-8 without rejecting anything

A text is read as a sequence of pieces: scalar values that are properly encoded,
and stray bytes that start no proper encoding.  A stray byte is one piece of its
own, whatever follows it, so reading resynchronises at the next byte.  Putting
the bytes of the pieces together gives back the text.
-/

namespace Marginalia

set_option autoImplicit false

/-- One step of reading UTF-8. -/
inductive Piece where
  /-- a properly encoded scalar value -/
  | char (c : Char)
  /-- a byte that starts no proper encoding -/
  | stray (b : UInt8)
  deriving DecidableEq, Repr, Inhabited

namespace Piece

/-- The replacement character, which stands for a stray byte where a character is asked for. -/
def replacement : Char := '\uFFFD'

/-- The bytes a piece was read from. -/
def bytes : Piece → Bytes
  | .char c => String.utf8EncodeChar c
  | .stray b => [b]

/-- The scalar value, a stray byte counting as the replacement character. -/
def toChar : Piece → Char
  | .char c => c
  | .stray _ => replacement

end Piece

namespace Utf8

/-- The bytes of one scalar value. -/
def encodeChar (c : Char) : Bytes := String.utf8EncodeChar c

/-- The bytes of a list of pieces. -/
def encode (ps : List Piece) : Bytes := ps.flatMap Piece.bytes

/-- The bytes of a list of scalar values. -/
def ofChars (cs : List Char) : Bytes := cs.flatMap String.utf8EncodeChar

/-- The six payload bits of a continuation byte. -/
def continuation? (b : UInt8) : Option Nat :=
  if 0x80 ≤ b && b ≤ 0xBF then some (b.toNat - 0x80) else none

/-- The scalar value of a number, if it is one that needs at least `least` to be the shortest form. -/
def scalar? (least n : Nat) : Option Char :=
  if h : least ≤ n ∧ n.isValidChar then some (Char.ofNatAux n h.2) else none

/-- The scalar value encoded by `b` and the bytes after it, with what remains. -/
def decodeChar? (b : UInt8) (rest : Bytes) : Option (Char × Bytes) :=
  if b < 0x80 then (scalar? 0 b.toNat).map (·, rest)
  else if 0xC2 ≤ b && b ≤ 0xDF then
    match rest with
    | b1 :: rest => do
      let x1 ← continuation? b1
      let c ← scalar? 0x80 ((b.toNat - 0xC0) * 64 + x1)
      pure (c, rest)
    | _ => none
  else if 0xE0 ≤ b && b ≤ 0xEF then
    match rest with
    | b1 :: b2 :: rest => do
      let x1 ← continuation? b1
      let x2 ← continuation? b2
      let c ← scalar? 0x800 (((b.toNat - 0xE0) * 64 + x1) * 64 + x2)
      pure (c, rest)
    | _ => none
  else if 0xF0 ≤ b && b ≤ 0xF4 then
    match rest with
    | b1 :: b2 :: b3 :: rest => do
      let x1 ← continuation? b1
      let x2 ← continuation? b2
      let x3 ← continuation? b3
      let c ← scalar? 0x10000 ((((b.toNat - 0xF0) * 64 + x1) * 64 + x2) * 64 + x3)
      pure (c, rest)
    | _ => none
  else none

/-- The first piece of a non-empty text, with what remains. -/
def step (b : UInt8) (rest : Bytes) : Piece × Bytes :=
  match decodeChar? b rest with
  | some (c, rest') => (.char c, rest')
  | none => (.stray b, rest)

theorem decodeChar?_length_le {b : UInt8} {rest rest' : Bytes} {c : Char}
    (h : decodeChar? b rest = some (c, rest')) : rest'.length ≤ rest.length := by
  unfold decodeChar? at h
  split at h
  · simp only [Option.map_eq_some_iff, Prod.mk.injEq] at h
    obtain ⟨_, _, _, rfl⟩ := h
    exact Nat.le_refl _
  · split at h
    · split at h
      · simp only [bind, Option.bind_eq_some_iff, pure, Option.some.injEq, Prod.mk.injEq] at h
        obtain ⟨_, _, _, _, _, rfl⟩ := h
        simp
      · simp at h
    · split at h
      · split at h
        · simp only [bind, Option.bind_eq_some_iff, pure, Option.some.injEq, Prod.mk.injEq] at h
          obtain ⟨_, _, _, _, _, _, _, rfl⟩ := h
          simp only [List.length_cons]
          omega
        · simp at h
      · split at h
        · split at h
          · simp only [bind, Option.bind_eq_some_iff, pure, Option.some.injEq,
              Prod.mk.injEq] at h
            obtain ⟨_, _, _, _, _, _, _, _, _, rfl⟩ := h
            simp only [List.length_cons]
            omega
          · simp at h
        · simp at h

theorem step_length_le (b : UInt8) (rest : Bytes) : (step b rest).2.length ≤ rest.length := by
  unfold step
  split
  · rename_i h
    exact decodeChar?_length_le h
  · exact Nat.le_refl _

/-- The pieces of a text. -/
def decode : (s : Bytes) → List Piece
  | [] => []
  | b :: rest => (step b rest).1 :: decode (step b rest).2
termination_by s => s.length
decreasing_by
  have := step_length_le b rest
  simp only [List.length_cons]
  omega

/-- The scalar values of a text, a stray byte counting as the replacement character. -/
def chars (s : Bytes) : List Char := (decode s).map Piece.toChar

/-- Is the text properly encoded throughout? -/
def valid (s : Bytes) : Bool :=
  (decode s).all fun
    | .char _ => true
    | .stray _ => false

end Utf8

end Marginalia
