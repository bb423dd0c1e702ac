import Marginalia.Text.Utf8

/-!
# Reading by first bytes

A second way to read a text that need not be valid UTF-8.  The first byte of a
character announces how many bytes it takes.  A chunk is a character that is
properly encoded, or the first byte and those of the bytes announced that continue
it.  Where the text ends before all announced bytes have come, everything from that
first byte on is left over, whatever it is.
-/

namespace Marginalia

set_option autoImplicit false

/-- One step of reading by first bytes. -/
inductive Chunk where
  /-- a properly encoded scalar value -/
  | char (c : Char)
  /-- bytes that belong together but encode nothing -/
  | broken (bytes : Bytes)
  deriving DecidableEq, Repr, Inhabited

namespace Chunk

/-- The bytes of a chunk. -/
def bytes : Chunk → Bytes
  | .char c => Utf8.encodeChar c
  | .broken bs => bs

/-- The pieces of a chunk. -/
def pieces : Chunk → List Piece
  | .char c => [.char c]
  | .broken bs => bs.map .stray

/-- The number of bytes that a first byte announces. -/
def announced (b : UInt8) : Nat :=
  if b < 0xC2 then 1 else if b < 0xE0 then 2 else if b < 0xF0 then 3 else if b < 0xF8 then 4 else 1

/-- Does a byte continue a character? -/
def continues (b : UInt8) : Bool := 0x80 ≤ b && b < 0xC0

/-- The first chunk of a non-empty text, with what remains; `none` if the text ends too early. -/
def next? (b : UInt8) (rest : Bytes) : Option (Chunk × Bytes) :=
  let more := rest.take (announced b - 1)
  if more.length + 1 < announced b then none
  else
    match Utf8.step b rest with
    | (.char c, rest') => some (.char c, rest')
    | (.stray _, _) =>
      let k := (more.takeWhile continues).length
      some (.broken (b :: rest.take k), rest.drop k)

theorem next?_length_le {b : UInt8} {rest rest' : Bytes} {c : Chunk}
    (h : next? b rest = some (c, rest')) : rest'.length ≤ rest.length := by
  unfold next? at h
  simp only at h
  split at h
  · simp at h
  · split at h
    · rename_i c' r' hs
      simp only [Option.some.injEq, Prod.mk.injEq] at h
      obtain ⟨_, rfl⟩ := h
      have := Utf8.step_length_le b rest
      rw [hs] at this
      exact this
    · simp only [Option.some.injEq, Prod.mk.injEq] at h
      obtain ⟨_, rfl⟩ := h
      simp only [List.length_drop]
      omega

/-- The chunks of a text, and what is left over at its end. -/
def read : (s : Bytes) → List Chunk × Bytes
  | [] => ([], [])
  | b :: rest =>
    match _h : next? b rest with
    | none => ([], b :: rest)
    | some (c, rest') =>
      let (cs, left) := read rest'
      (c :: cs, left)
termination_by s => s.length
decreasing_by
  have := next?_length_le _h
  simp only [List.length_cons]
  omega

end Chunk

end Marginalia
