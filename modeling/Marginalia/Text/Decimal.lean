import Marginalia.Text.Bytes

/-!
# Numbers in decimal

Whole numbers are written without leading zeros and with a sign only when
negative.  A number may be set in a field of a fixed width, to the left or to the
right; a number that is wider than its field is written in full.

Measured durations are binary fractions.  They are written with a fixed number of
decimals, rounded from their exact value, and a tie goes to the even neighbour.
-/

namespace Marginalia

set_option autoImplicit false

namespace Decimal

/-- The decimal digits of a natural number. -/
def nat (n : Nat) : Bytes := (Nat.toDigits 10 n).map fun c => c.toNat.toUInt8

/-- An integer in decimal. -/
def int : Int → Bytes
  | .ofNat n => nat n
  | .negSucc n => 45 :: nat (n + 1)

/-- `s` with blanks before it up to `width` bytes. -/
def padLeft (width : Nat) (s : Bytes) : Bytes := List.replicate (width - s.length) 32 ++ s

/-- `s` with blanks after it up to `width` bytes. -/
def padRight (width : Nat) (s : Bytes) : Bytes := s ++ List.replicate (width - s.length) 32

/-- Digits in front of which zeros are put up to `width` bytes. -/
def zeroPad (width : Nat) (s : Bytes) : Bytes := List.replicate (width - s.length) 48 ++ s

/-- The value of decimal digits; `none` for anything else and for no digit at all. -/
def nat? (s : Bytes) : Option Nat :=
  if s.isEmpty then none
  else s.foldlM (fun n b => if Bytes.isDigit b then some (n * 10 + (b.toNat - 48)) else none) 0

/-- The quotient rounded to the nearest whole number, a tie going to the even one. -/
def roundHalfEven (num den : Nat) : Nat :=
  let q := num / den
  let r := num % den
  if 2 * r < den then q
  else if den < 2 * r then q + 1
  else if q % 2 == 0 then q else q + 1

/-- The exact value of a finite binary fraction as sign, numerator and denominator; `none` for an
infinity and for what is not a number. -/
def exactValue? (x : Float) : Option (Bool × Nat × Nat) :=
  let bits : Nat := x.toBits.toNat
  let negative := bits / 0x8000000000000000 == 1
  let exponent : Nat := bits / 0x10000000000000 % 0x800
  let mantissa : Nat := bits % 0x10000000000000
  if exponent == 2047 then none
  else
    let (m, e) : Nat × Int :=
      if exponent == 0 then (mantissa, -1074)
      else (mantissa + 0x10000000000000, (exponent : Int) - 1075)
    match e with
    | .ofNat k => some (negative, m * Nat.pow 2 k, 1)
    | .negSucc k => some (negative, m, Nat.pow 2 (k + 1))

/-- A binary fraction with `places` decimals. -/
def fixed (places : Nat) (x : Float) : Bytes :=
  match exactValue? x with
  | none =>
    if x.isNaN then utf8 "NaN"
    else if x.toBits.toNat / 0x8000000000000000 == 1 then utf8 "-Inf"
    else utf8 "+Inf"
  | some (negative, num, den) =>
    let scaled := roundHalfEven (num * Nat.pow 10 places) den
    let whole := nat (scaled / Nat.pow 10 places)
    let part := zeroPad places (nat (scaled % Nat.pow 10 places))
    (if negative then [45] else []) ++ whole ++ (if places == 0 then [] else 46 :: part)

end Decimal

end Marginalia
