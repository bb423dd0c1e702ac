import Marginalia.Text.Quoted

/-!
# Numbers and truth values on a command line

A number may have a sign and be written in base 2, 8, 10 or 16, with underscores
between digits; it has 64 bits.
-/

namespace Marginalia.CommandLine

set_option autoImplicit false

/-- Why a text is not a number or a truth value. -/
inductive LiteralError where
  | syntaxError
  | outOfRange
  deriving DecidableEq, Repr, Inhabited

/-- The words for it. -/
def LiteralError.message : LiteralError → Bytes
  | .syntaxError => utf8 "invalid syntax"
  | .outOfRange => utf8 "value out of range"

/-- The value of a digit or letter. -/
def digitValue? (b : UInt8) : Option Nat :=
  if Bytes.isDigit b then some (b.toNat - 48)
  else if Bytes.isLetter b then some ((Bytes.lowerAscii b).toNat - 97 + 10)
  else none

/-- The digits of a number and its base. -/
def splitBase : Bytes → Nat × Bytes
  | 48 :: b :: c :: rest =>
    let mark := Bytes.lowerAscii b
    if mark = 98 then (2, c :: rest)
    else if mark = 111 then (8, c :: rest)
    else if mark = 120 then (16, c :: rest)
    else (8, b :: c :: rest)
  | 48 :: rest => (8, rest)
  | s => (10, s)

/-- The value of digits, where underscores are skipped. -/
def digitsValue (base : Nat) : (value : Nat) → Bytes → Except LiteralError Nat
  | value, [] => .ok value
  | value, b :: rest =>
    if b = 95 then digitsValue base value rest
    else
      match digitValue? b with
      | none => .error .syntaxError
      | some d =>
        if base ≤ d then .error .syntaxError
        else if UInt64.size ≤ value * base + d then .error .outOfRange
        else digitsValue base (value * base + d) rest

/-- Does every underscore stand between digits? -/
def underscoresOk : (afterDigit : Bool) → Bytes → Bool
  | _, [] => true
  | afterDigit, 95 :: rest => afterDigit && rest.head?.any (· ≠ 95) && underscoresOk false rest
  | _, _ :: rest => underscoresOk true rest

/-- A text without its sign, and whether that is a minus. -/
def splitSign : Bytes → Bool × Bytes
  | 45 :: rest => (true, rest)
  | 43 :: rest => (false, rest)
  | s => (false, s)

/-- The number that a text stands for. -/
def int (text : Bytes) : Except LiteralError Int := do
  let (negative, unsigned) := splitSign text
  if unsigned.isEmpty then throw .syntaxError
  let (base, digits) := splitBase unsigned
  let size ← digitsValue base 0 digits
  if !underscoresOk (digits.length < unsigned.length) digits then throw .syntaxError
  if negative then
    if 0x8000000000000000 < size then throw .outOfRange else return -size
  else if 0x8000000000000000 ≤ size then throw .outOfRange
  else return size

/-- The truth value that a text stands for. -/
def bool (text : Bytes) : Except LiteralError Bool :=
  if (["1", "t", "T", "TRUE", "true", "True"].map utf8).contains text then .ok true
  else if (["0", "f", "F", "FALSE", "false", "False"].map utf8).contains text then .ok false
  else .error .syntaxError

end Marginalia.CommandLine
