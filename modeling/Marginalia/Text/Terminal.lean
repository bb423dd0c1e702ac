import Marginalia.Text.Cluster
import Marginalia.Unicode.Presentation

/-!
# Width on a terminal

How many cells a text takes on a terminal that understands control sequences.  The
terminal reads byte after byte: printable characters of ASCII take one cell, control
characters none, and neither do the sequences that are introduced by an escape, such
as the one for a colour or for the title of the window.  Where any other character
starts, the whole cluster that begins there is shown at once.

The width of a cluster is that of its characters together, with three exceptions: a
pictograph takes the cells of its presentation, whatever is joined to it, a flag
takes those of its first half, and a Hangul syllable those of its first letter.
-/

namespace Marginalia

set_option autoImplicit false

open Unicode (GraphemeClass)

/-! ## Clusters -/

namespace Terminal

/-- The class of a piece, a stray byte counting as the replacement character. -/
def classOf (p : Piece) : GraphemeClass := Unicode.graphemeClass p.toChar.toNat

/-- The cells of a character by itself. -/
def charWidth (c : Char) : Nat :=
  let n := c.toNat
  match Unicode.graphemeClass n with
  | .control | .cr | .lf | .extend | .zwj => 0
  | .regional => 2
  | .pictographic => if Unicode.pictureRanges.contains n then 2 else 1
  | _ =>
    if n == 0x2E3A then 3
    else if n == 0x2E3B then 4
    else if Unicode.fullWidthRanges.contains n then 2
    else 1

/-- The cells of a pictograph after a character that may choose its presentation: as text or as a
picture. -/
def presented (width : Nat) (c : Char) : Nat :=
  if c.toNat == 0xFE0E then 1 else if c.toNat == 0xFE0F then 2 else width

/-- The cells of a cluster, given by its first piece and the others. -/
def clusterWidth (first : Piece) (others : List Piece) : Nat :=
  let width := charWidth first.toChar
  match classOf first with
  | .pictographic => others.foldl (fun w p => presented w p.toChar) width
  | .regional | .hangulL => width
  | _ => others.foldl (fun w p => w + charWidth p.toChar) width

/-! ## Control sequences -/

/-- What the terminal is reading. -/
inductive State where
  | ground
  /-- after an escape -/
  | escape
  | escapeIntermediate
  /-- a control sequence: at its beginning, in its parameters, after them -/
  | sequence
  | sequenceParam
  | sequenceIntermediate
  /-- a device control string: its introduction, as for a control sequence, and the string -/
  | device
  | deviceParam
  | deviceIntermediate
  | deviceString
  /-- a command of the operating system, such as a title -/
  | command
  /-- any other string -/
  | string
  deriving DecidableEq, Repr, Inhabited

/-- Is the byte between two others? -/
def between (lo hi b : UInt8) : Bool := lo ≤ b && b ≤ hi

/-- The control characters that do not end a sequence. -/
def isQuiet (b : UInt8) : Bool := b ≤ 0x17 || b == 0x19 || between 0x1C 0x1F b

/-- What a byte introduces in all states where nothing else is said. -/
def State.anywhere (b : UInt8) : State :=
  if b == 0x1B then .escape
  else if b == 0x90 then .device
  else if b == 0x98 || b == 0x9E || b == 0x9F then .string
  else if b == 0x9B then .sequence
  else if b == 0x9D then .command
  else .ground

/-- The state after a byte. -/
def State.next (s : State) (b : UInt8) : State :=
  match s with
  | .ground => .anywhere b
  | .escape =>
    if isQuiet b || b == 0x7F then .escape
    else if between 0x20 0x2F b then .escapeIntermediate
    else if b == 0x58 || b == 0x5E || b == 0x5F then .string
    else if b == 0x50 then .device
    else if b == 0x5B then .sequence
    else if b == 0x5D then .command
    else .anywhere b
  | .escapeIntermediate =>
    if isQuiet b || b == 0x7F || between 0x20 0x2F b then .escapeIntermediate else .anywhere b
  | .sequence =>
    if isQuiet b || b == 0x7F then .sequence
    else if between 0x20 0x2F b then .sequenceIntermediate
    else if between 0x30 0x3F b then .sequenceParam
    else .anywhere b
  | .sequenceParam =>
    if isQuiet b || b == 0x7F || between 0x30 0x3F b then .sequenceParam
    else if between 0x20 0x2F b then .sequenceIntermediate
    else .anywhere b
  | .sequenceIntermediate =>
    if isQuiet b || b == 0x7F || between 0x20 0x2F b then .sequenceIntermediate else .anywhere b
  | .device =>
    -- Layout characters and even an escape are taken for the string itself.
    if between 0x08 0x0D b || b == 0x1B then .deviceString
    else if isQuiet b || b == 0x7F then .device
    else if between 0x20 0x2F b then .deviceIntermediate
    else if between 0x30 0x3F b then .deviceParam
    else if between 0x40 0x7E b then .deviceString
    else .anywhere b
  | .deviceParam =>
    if isQuiet b || b == 0x7F || between 0x30 0x3F b then .deviceParam
    else if between 0x20 0x2F b then .deviceIntermediate
    else if between 0x40 0x7E b then .deviceString
    else .anywhere b
  | .deviceIntermediate =>
    if isQuiet b || b == 0x7F || between 0x20 0x2F b then .deviceIntermediate
    else if between 0x30 0x7E b then .deviceString
    else .anywhere b
  | .deviceString =>
    if b == 0x1B then .escape
    else if b == 0x9C || b == 0x18 || b == 0x1A then .ground
    else .deviceString
  | .command =>
    if b == 0x1B then .escape
    else if b == 0x9C || b == 0x18 || b == 0x1A || b == 0x07 then .ground
    else .command
  | .string =>
    if b < 0x80 && b != 0x1B && b != 0x18 && b != 0x1A then .string else .anywhere b

/-- The cells that a byte takes. -/
def State.prints (s : State) (b : UInt8) : Nat :=
  if s == .ground && between 0x20 0x7F b then 1 else 0

/-- Does a byte start a character that is shown with its cluster?  In some strings it does not. -/
def State.startsCluster (s : State) (b : UInt8) : Bool :=
  between 0xC2 0xF4 b && s != .deviceString && s != .command

/-- The state and the cells after several bytes. -/
def State.run (s : State) : Bytes → State × Nat
  | [] => (s, 0)
  | b :: rest =>
    let (t, n) := (s.next b).run rest
    (t, s.prints b + n)

/-- The cells of a text, from a state on. -/
def widthFrom (s : State) : (ps : List Piece) → Nat
  | [] => 0
  | p :: rest =>
    if s.startsCluster (p.bytes.headD 0) then
      -- A cluster ends whatever sequence was being read.
      clusterWidth p (growCluster classOf (.start (classOf p)) rest).1
        + widthFrom .ground (growCluster classOf (.start (classOf p)) rest).2
    else (s.run p.bytes).2 + widthFrom (s.run p.bytes).1 rest
termination_by ps => ps.length
decreasing_by
  · have := growCluster_length_le classOf (.start (classOf p)) rest
    simp only [List.length_cons]
    omega
  · simp

end Terminal

/-- The cells that a text takes on a terminal. -/
def Bytes.terminalWidth (s : Bytes) : Nat := Terminal.widthFrom .ground (Utf8.decode s)

end Marginalia
