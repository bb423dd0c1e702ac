import Marginalia.Text.Utf8

/-!
# White space and trimming

White space is the Unicode property: the ASCII blanks and line ends, the next
line control, and the spaces and separators above ASCII.  The zero-width space
and the byte order mark are not white space, and neither is a stray byte.

Trimming removes white space from both ends of a text.  It works on pieces, so a
trimmed text never starts or ends in the middle of an encoded character.
-/

namespace Marginalia

set_option autoImplicit false

/-- The white space characters. -/
def isSpace (c : Char) : Bool :=
  let n := c.toNat
  (9 ≤ n && n ≤ 13) || n == 0x20 || n == 0x85 || n == 0xA0 || n == 0x1680
    || (0x2000 ≤ n && n ≤ 0x200A) || n == 0x2028 || n == 0x2029 || n == 0x202F
    || n == 0x205F || n == 0x3000

/-- Is this piece white space?  A stray byte is not. -/
def Piece.isSpace : Piece → Bool
  | .char c => Marginalia.isSpace c
  | .stray _ => false

/-- `ps` without the pieces of white space at its beginning and at its end. -/
def trimPieces (ps : List Piece) : List Piece :=
  ((ps.dropWhile Piece.isSpace).reverse.dropWhile Piece.isSpace).reverse

namespace Bytes

/-- The text without white space at its beginning and at its end. -/
def trim (s : Bytes) : Bytes := Utf8.encode (trimPieces (Utf8.decode s))

end Bytes

end Marginalia
