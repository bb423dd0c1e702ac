import Marginalia.Source.Position

/-!
# Cursors

A cursor is an offset in a text that can look at the next one or two bytes, step
over them, and go back to an offset it was at before.  At the end of the text
there is nothing to look at and stepping does nothing.
-/

namespace Marginalia

set_option autoImplicit false

/-- An offset in a text. -/
structure Cursor where
  content : Array UInt8
  offset : Nat := 0
  deriving Repr, Inhabited

namespace Cursor

/-- A cursor at the beginning of a text. -/
def ofBytes (content : Bytes) : Cursor := { content := content.toArray }

def atEnd (c : Cursor) : Bool := c.content.size ≤ c.offset

/-- The byte at the cursor, zero at the end. -/
def peek (c : Cursor) : UInt8 := c.content.getD c.offset 0

/-- The next two bytes, if there are two. -/
def peek2 (c : Cursor) : Option (UInt8 × UInt8) :=
  if c.offset + 1 < c.content.size then
    some (c.content.getD c.offset 0, c.content.getD (c.offset + 1) 0)
  else none

/-- Steps over one byte and gives it; zero at the end. -/
def bump (c : Cursor) : UInt8 × Cursor :=
  if c.atEnd then (0, c) else (c.peek, { c with offset := c.offset + 1 })

/-- Steps over the next byte if it is `b`. -/
def eat (b : UInt8) (c : Cursor) : Bool × Cursor :=
  if !c.atEnd && c.peek == b then (true, { c with offset := c.offset + 1 }) else (false, c)

def reset (c : Cursor) (offset : Nat) : Cursor := { c with offset := offset }

/-- The span from an offset to the cursor. -/
def spanFrom (c : Cursor) (offset : Nat) : Span := ⟨0, offset.toUInt32, c.offset.toUInt32⟩

end Cursor

/-! ## Sequences of steps -/

/-- One step with a cursor and the offsets it has marked. -/
inductive CursorStep where
  | peek
  | peek2
  | bump
  | mark
  | reset (mark : Nat)
  | span (mark : Nat)
  /-- fails if no byte is given -/
  | eat (b : Option UInt8)
  deriving Repr, Inhabited

/-- What a step gives back. -/
inductive CursorAnswer where
  | byte (b : UInt8)
  | pair (bytes : Option (UInt8 × UInt8))
  | marked (index : Nat)
  | nothing
  | span (s : Span)
  | eaten (yes : Bool)
  deriving Repr, Inhabited

/-- A cursor with the offsets it has marked. -/
structure MarkedCursor where
  cursor : Cursor
  marks : List Nat := []
  deriving Repr, Inhabited

namespace MarkedCursor

/-- Carries out a step; fails if it names a mark that does not exist, or no byte to eat. -/
def step (m : MarkedCursor) : CursorStep → Option (CursorAnswer × MarkedCursor)
  | .peek => some (.byte m.cursor.peek, m)
  | .peek2 => some (.pair m.cursor.peek2, m)
  | .bump => some (.byte m.cursor.bump.1, { m with cursor := m.cursor.bump.2 })
  | .mark => some (.marked m.marks.length, { m with marks := m.marks ++ [m.cursor.offset] })
  | .reset i => do
    let offset ← m.marks[i]?
    some (.nothing, { m with cursor := m.cursor.reset offset })
  | .span i => do
    let offset ← m.marks[i]?
    some (.span (m.cursor.spanFrom offset), m)
  | .eat b => do
    let b ← b
    some (.eaten (m.cursor.eat b).1, { m with cursor := (m.cursor.eat b).2 })

end MarkedCursor

end Marginalia
