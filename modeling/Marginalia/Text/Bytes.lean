/-!
# Text as bytes

Everything this library reads and prints is a finite sequence of bytes.  Source
files need not be valid UTF-8, so no step may go through a validated string type:
a literal of the library is turned into its UTF-8 bytes once, by `utf8`, and from
there on only bytes are compared, cut and joined.

The operations here are the few that every other module needs: cutting at the
first occurrence of a separator, splitting at a byte, and replacing a byte
sequence.
-/

namespace Marginalia

set_option autoImplicit false

/-- A text: a finite sequence of bytes, not necessarily valid UTF-8. -/
abbrev Bytes := List UInt8

/-- The UTF-8 bytes of a literal. -/
def utf8 (s : String) : Bytes := s.toList.flatMap String.utf8EncodeChar

namespace Bytes

/-! ## Bytes with a name of their own -/

/-- The newline `\n`. -/
abbrev newline : UInt8 := 10

/-- The carriage return `\r`. -/
abbrev carriageReturn : UInt8 := 13

/-- The horizontal tab. -/
abbrev tab : UInt8 := 9

/-- The space. -/
abbrev space : UInt8 := 32

/-- The slash, which separates path elements and opens comments. -/
abbrev slash : UInt8 := 47

/-- The full stop. -/
abbrev dot : UInt8 := 46

/-! ## Cutting and splitting -/

/-- Does `s` start with `p`? -/
def startsWith (p s : Bytes) : Bool := p.isPrefixOf s

/-- Does `s` end with `p`? -/
def endsWith (p s : Bytes) : Bool := p.isSuffixOf s

/-- What follows the leading `p`, if `s` starts with it. -/
def after? : (p s : Bytes) → Option Bytes
  | [], s => some s
  | _ :: _, [] => none
  | a :: p, b :: s => if a = b then after? p s else none

/-- `s` without one trailing `p`, if it ends with it, and `s` otherwise. -/
def dropSuffix (p s : Bytes) : Bytes :=
  if endsWith p s then s.take (s.length - p.length) else s

/-- The parts before and after the first occurrence of `sep` in `s`. -/
def cut (sep : Bytes) : (s : Bytes) → Option (Bytes × Bytes)
  | [] => if sep.isEmpty then some ([], []) else none
  | b :: s =>
    match after? sep (b :: s) with
    | some rest => some ([], rest)
    | none => (cut sep s).map fun (before, rest) => (b :: before, rest)

/-- The pieces of `s` between the bytes equal to `sep`; there is always at least one. -/
def splitAtByte (sep : UInt8) : (s : Bytes) → List Bytes
  | [] => [[]]
  | b :: s =>
    if b = sep then [] :: splitAtByte sep s
    else
      match splitAtByte sep s with
      | [] => [[b]]
      | piece :: pieces => (b :: piece) :: pieces

/-- The lines of `s`, which are separated, not ended, by newlines. -/
def lines (s : Bytes) : List Bytes := splitAtByte newline s

/-- Joins `parts` with `sep` between each two. -/
def join (sep : Bytes) (parts : List Bytes) : Bytes := (parts.intersperse sep).flatten

/-- The number of bytes of `s` equal to `b`. -/
def countByte (b : UInt8) (s : Bytes) : Nat := s.count b

/-- `n` copies of `s`. -/
def times (n : Nat) (s : Bytes) : Bytes := (List.replicate n s).flatten

/-- Is `s` before `t` in the order of their bytes, a proper beginning coming first? -/
def before : (s t : Bytes) → Bool
  | [], [] => false
  | [], _ :: _ => true
  | _ :: _, [] => false
  | a :: s, b :: t => a < b || (a == b && before s t)

/-! ## ASCII classes -/

/-- The digits `0` to `9`. -/
def isDigit (b : UInt8) : Bool := 48 ≤ b && b ≤ 57

/-- The letters `A` to `Z`. -/
def isUpper (b : UInt8) : Bool := 65 ≤ b && b ≤ 90

/-- The letters `a` to `z`. -/
def isLower (b : UInt8) : Bool := 97 ≤ b && b ≤ 122

/-- The ASCII letters. -/
def isLetter (b : UInt8) : Bool := isUpper b || isLower b

/-- The value of a hexadecimal digit. -/
def hexValue? (b : UInt8) : Option Nat :=
  if isDigit b then some (b.toNat - 48)
  else if 97 ≤ b && b ≤ 102 then some (b.toNat - 87)
  else if 65 ≤ b && b ≤ 70 then some (b.toNat - 55)
  else none

/-- The lower-case letter of an upper-case one; every other byte stays. -/
def lowerAscii (b : UInt8) : UInt8 := if isUpper b then b + 32 else b

/-- The upper-case letter of a lower-case one; every other byte stays. -/
def upperAscii (b : UInt8) : UInt8 := if isLower b then b - 32 else b

/-! ## Small laws -/

@[simp] theorem after?_nil (s : Bytes) : after? [] s = some s := by cases s <;> rfl

theorem after?_eq_some_iff {p s rest : Bytes} : after? p s = some rest ↔ s = p ++ rest := by
  induction p generalizing s with
  | nil => simp [eq_comm]
  | cons a p ih =>
    cases s with
    | nil => simp [after?]
    | cons b s =>
      by_cases h : a = b
      · subst h
        simp [after?, ih]
      · have h' : ¬ b = a := fun e => h e.symm
        simp [after?, h, h']

/-- What was cut apart joins to the text again. -/
theorem eq_of_cut {sep s before rest : Bytes} (h : cut sep s = some (before, rest)) :
    s = before ++ sep ++ rest := by
  induction s generalizing before rest with
  | nil =>
    cases sep with
    | nil => simp_all [cut]
    | cons _ _ => simp [cut] at h
  | cons b s ih =>
    rw [cut] at h
    split at h
    · rename_i found hfound
      obtain ⟨rfl, rfl⟩ := by simpa using h
      simpa using after?_eq_some_iff.1 hfound
    · simp only [Option.map_eq_some_iff, Prod.exists, Prod.mk.injEq] at h
      obtain ⟨x, y, hxy, rfl, rfl⟩ := h
      simp [ih hxy]

theorem splitAtByte_ne_nil (sep : UInt8) (s : Bytes) : splitAtByte sep s ≠ [] := by
  induction s with
  | nil => simp [splitAtByte]
  | cons b s ih =>
    rw [splitAtByte]
    split
    · simp
    · split <;> simp

end Bytes

end Marginalia
