import Marginalia.Text.Decimal
import Marginalia.Text.Utf8
import Marginalia.Unicode.Category

/-!
# Quoted text in messages

A message quotes a text between double quotes so that it stays on one line and
can be read back: control characters get short or numbered escapes, characters
that do not print get the number of their code point, stray bytes their value.
-/

namespace Marginalia

set_option autoImplicit false

namespace Quoted

/-- The lower-case hexadecimal digit of a number below sixteen. -/
def hexDigit (n : Nat) : UInt8 := if n < 10 then (48 + n).toUInt8 else (87 + n).toUInt8

/-- The last `width` hexadecimal digits of `n`. -/
def hex : (width n : Nat) → Bytes
  | 0, _ => []
  | w + 1, n => hex w (n / 16) ++ [hexDigit (n % 16)]

/-- Every byte as two hexadecimal digits. -/
def hexBytes (s : Bytes) : Bytes := s.flatMap fun b => hex 2 b.toNat

/-- A character as it stands between the quotes. -/
def escapeChar (c : Char) : Bytes :=
  let n := c.toNat
  if c == '"' then utf8 "\\\""
  else if c == '\\' then utf8 "\\\\"
  else if Unicode.isPrintable c then Utf8.encodeChar c
  else if n == 7 then utf8 "\\a"
  else if n == 8 then utf8 "\\b"
  else if n == 12 then utf8 "\\f"
  else if n == 10 then utf8 "\\n"
  else if n == 13 then utf8 "\\r"
  else if n == 9 then utf8 "\\t"
  else if n == 11 then utf8 "\\v"
  else if n < 0x20 || n == 0x7F then utf8 "\\x" ++ hex 2 n
  else if n < 0x10000 then utf8 "\\u" ++ hex 4 n
  else utf8 "\\U" ++ hex 8 n

/-- A piece as it stands between the quotes. -/
def escapePiece : Piece → Bytes
  | .char c => escapeChar c
  | .stray b => utf8 "\\x" ++ hex 2 b.toNat

end Quoted

/-- The text between double quotes, with escapes. -/
def quoted (s : Bytes) : Bytes :=
  [34] ++ (Utf8.decode s).flatMap Quoted.escapePiece ++ [34]

end Marginalia
