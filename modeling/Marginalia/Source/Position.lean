import Marginalia.Text.Decimal

/-!
# Offsets, lines and spans

A line index lists the offsets of the newlines of a text.  From it the line and
the column of an offset are read off: the line is one more than the number of
newlines before the offset, the column one more than the distance to the start
of that line.  A newline belongs to the line it ends.

Positions and spans that are handed to the outside count in 32 bits and wrap.
-/

namespace Marginalia

set_option autoImplicit false

/-! ## Line indices -/

/-- The offsets of the newlines of a text, the first byte of which has offset `start`. -/
def newlinesFrom (start : Nat) : Bytes → List Nat
  | [] => []
  | b :: rest =>
    if b = Bytes.newline then start :: newlinesFrom (start + 1) rest else newlinesFrom (start + 1) rest

/-- The offsets of the newlines of a text. -/
def lineIndex (content : Bytes) : List Nat := newlinesFrom 0 content

/-- The line and the column of an offset, both counted from one. -/
def lineColumn (index : List Nat) (offset : Nat) : Nat × Nat :=
  let before := index.takeWhile fun n => n < offset
  (before.length + 1, offset - (before.getLast?.elim 0 (· + 1)) + 1)

/-- A line and a column, both counted from one in 32 bits. -/
structure Position where
  line : UInt32
  column : UInt32
  deriving DecidableEq, Repr, Inhabited

namespace Position

/-- The position of an offset. -/
def ofOffset (index : List Nat) (offset : UInt32) : Position :=
  let (line, column) := lineColumn index offset.toNat
  ⟨line.toUInt32, column.toUInt32⟩

end Position

/-! ## Lines -/

/-- The text of a line, counted from one, without its newline: what stands between the newline before
the line and the newline that ends it, both taken from the line index.  A line that does not exist is
empty. -/
def lineText (index : List Nat) (content : Bytes) : (number : Nat) → Bytes
  | 0 => []
  | 1 => content.take (index.getD 0 content.length)
  | n + 2 =>
    match index[n]? with
    | none => []
    | some before => (content.take (index.getD (n + 1) content.length)).drop (before + 1)

/-! ## Spans -/

/-- The bytes of a file from `start` up to, not including, `stop`. -/
structure Span where
  file : UInt32
  start : UInt32
  stop : UInt32
  deriving DecidableEq, Repr, Inhabited

namespace Span

/-- The number of bytes, which wraps if the span ends before it starts. -/
def size (s : Span) : UInt32 := s.stop - s.start

def isEmpty (s : Span) : Bool := s.start = s.stop

/-- Does the span hold an offset? -/
def contains (s : Span) (offset : UInt32) : Bool := s.start ≤ offset && offset < s.stop

/-- A span as it is written. -/
def render (s : Span) : Bytes :=
  Decimal.nat s.file.toNat ++ utf8 ":" ++ Decimal.nat s.start.toNat ++ utf8 "-"
    ++ Decimal.nat s.stop.toNat

end Span

end Marginalia
