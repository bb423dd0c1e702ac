import Marginalia.Scan.Basic

/-!
# Scanning with a cursor

A scan can be carried out by a cursor that walks through the text and looks at single
bytes.  Its offset has 32 bits.  It steps forward byte by byte, and goes back only to an
apostrophe that is not answered on its line.

A walk keeps a record of what it does with the text: the bytes it looks at, the parts it
cuts out, the offsets it goes to, and where the head of its loop is reached.  It has no
result if it looks at a byte or cuts out a part that the text does not have, and none if
it never ends.
-/

namespace Marginalia

set_option autoImplicit false

/-- What a walk does with its text. -/
inductive Act where
  /-- looks at the byte at an offset -/
  | look (offset : UInt32)
  /-- cuts out what stands from one offset up to another -/
  | cut (start stop : UInt32)
  /-- puts the cursor at an offset -/
  | go (offset : UInt32)
  deriving DecidableEq, Repr

/-- Where a walk is, what it has found, and what it has done. -/
structure Walker where
  offset : UInt32 := 0
  found : Scan := ⟨[], [], []⟩
  /-- where the cursor was whenever the head of the loop was reached -/
  heads : List UInt32 := []
  acts : List Act := []

/-- A part of a walk. -/
abbrev Walk (α : Type) := StateT Walker Option α

namespace Walk

/-- Keeps a record of an act. -/
def record (act : Act) : Walk Unit := modify fun w => { w with acts := w.acts ++ [act] }

/-- Changes what has been found. -/
def note (change : Scan → Scan) : Walk Unit := modify fun w => { w with found := change w.found }

def reachHead : Walk Unit := modify fun w => { w with heads := w.heads ++ [w.offset] }

/-- Takes a step again and again until it gives something; there is no result if it never does. -/
def untilSome {α : Type} (step : Walk (Option α)) : Walk α := do
  match ← step with
  | some a => return a
  | none => step |>.untilSome
partial_fixpoint

/-! ## The cursor -/

/-- The offset of the cursor. -/
def here : Walk UInt32 := do return (← get).offset

def go (offset : UInt32) : Walk Unit := do
  record (.go offset)
  modify fun w => { w with offset }

section Text

variable (content : Bytes)

/-- The end of the text. -/
def limit : UInt32 := content.length.toUInt32

/-- The byte at an offset; fails outside the text. -/
def look (offset : UInt32) : Walk UInt8 := do
  record (.look offset)
  content[offset.toNat]?

/-- The bytes from one offset up to another; fails if they are not in the text in this order. -/
def cut (start stop : UInt32) : Walk Bytes := do
  record (.cut start stop)
  if start ≤ stop ∧ stop.toNat ≤ content.length then
    return (content.take stop.toNat).drop start.toNat
  else failure

/-- Is the cursor at the end of the text? -/
def atEnd : Walk Bool := do return limit content ≤ (← here)

/-- The byte at the cursor, zero at the end. -/
def peek : Walk UInt8 := do
  if ← atEnd content then return 0 else look content (← here)

/-- The next two bytes, unless the end comes before the second. -/
def peek2 : Walk (Option (UInt8 × UInt8)) := do
  let offset ← here
  if limit content ≤ offset + 1 then return none
  else
    let first ← look content offset
    let second ← look content (offset + 1)
    return some (first, second)

/-- Steps over a byte and gives it; zero at the end. -/
def bump : Walk UInt8 := do
  if ← atEnd content then return 0
  else
    let offset ← here
    let b ← look content offset
    go (offset + 1)
    return b

/-! ## Comments -/

/-- Steps over the rest of a line. -/
def skipLine : Walk Unit := untilSome do
  if ← atEnd content then return some ()
  else if (← peek content) = Bytes.newline then return some ()
  else
    let _ ← bump content
    return none

/-- Steps over the rest of a block comment.  Is it closed? -/
def skipBlock : Walk Bool := untilSome do
  if ← atEnd content then return some false
  else if (← peek2 content) = some (Lexeme.star, Bytes.slash) then
    let _ ← bump content
    let _ ← bump content
    return some true
  else
    let _ ← bump content
    return none

/-- A comment between two offsets. -/
def commentOf (normalize : Bool) (kind : CommentKind) (start stop : UInt32) (full body : Bytes) :
    Comment :=
  let shape := if normalize then Bytes.compose else id
  let position := Position.ofOffset (lineIndex content) start
  { kind := kind
    text := shape body
    fullText := shape full
    start := start.toNat
    stop := stop.toNat
    line := position.line.toNat
    column := position.column.toNat }

/-- Notes a comment between two offsets with a body between two others. -/
def emit (normalize : Bool) (kind : CommentKind) (start stop bodyStart bodyStop : UInt32) :
    Walk Comment := do
  let full ← cut content start stop
  let body ← cut content bodyStart bodyStop
  let c := commentOf content normalize kind start stop full body
  note fun s => { s with comments := s.comments ++ [c] }
  return c

/-- Notes that a block comment is not closed. -/
def report (c : Comment) : Walk Unit :=
  note fun s => { s with diagnostics := s.diagnostics ++ [Scan.unterminated c.line c.column] }

/-- Reads a comment, if one starts at the cursor. -/
def comment (normalize : Bool) : Walk Bool := do
  let start ← here
  match ← peek2 content with
  | some (47, 47) =>
    let _ ← bump content
    let _ ← bump content
    skipLine content
    let stop ← here
    let _ ← emit content normalize .line start stop (start + 2) stop
    return true
  | some (47, 42) =>
    let _ ← bump content
    let _ ← bump content
    let closed ← skipBlock content
    let stop ← here
    let c ← emit content normalize .block start stop (start + 2) (if closed then stop - 2 else stop)
    if closed then return true
    else
      report c
      return true
  | _ => return false

/-! ## Literals -/

/-- Steps over the rest of a literal in quotes that has been opened at an offset.  Where an apostrophe
is not answered on its line, goes back and steps over the apostrophe alone. -/
def skipLiteral (quote : UInt8) (opened : UInt32) : Walk Unit := untilSome do
  if ← atEnd content then return some ()
  else
    let b ← peek content
    if b = quote then
      let _ ← bump content
      return some ()
    else if b = Lexeme.backslash then
      let _ ← bump content
      -- A newline is never escaped: the next round meets it.
      if (← peek content) = Bytes.newline then return none
      else
        let _ ← bump content
        return none
    else if b = Bytes.newline then
      if quote = Lexeme.apostrophe then
        go opened
        let _ ← bump content
        return some ()
      else return some ()
    else
      let _ ← bump content
      return none

/-- Steps over a literal in quotes. -/
def skipQuoted (quote : UInt8) : Walk Unit := do
  let opened ← here
  let _ ← bump content
  skipLiteral content quote opened

/-- Steps over the rest of a backtick literal. -/
def skipRaw : Walk Unit := untilSome do
  if ← atEnd content then return some ()
  else if (← bump content) = Lexeme.backtick then return some ()
  else return none

/-! ## The loop -/

/-- Notes a brace at the cursor and steps over it. -/
def brace (kind : BraceKind) : Walk Unit := do
  let offset ← here
  note fun s => { s with braces := s.braces ++ [⟨kind, offset.toNat⟩] }
  let _ ← bump content

/-- One turn of the loop. -/
def turn (normalize : Bool) : Walk Unit := do
  let b ← peek content
  if b = Bytes.slash then
    if ← comment content normalize then return ()
    else
      let _ ← bump content
  else if b = Lexeme.doubleQuote ∨ b = Lexeme.apostrophe then skipQuoted content b
  else if b = Lexeme.backtick then
    let _ ← bump content
    skipRaw content
  else if b = Lexeme.leftBrace then brace content .opening
  else if b = Lexeme.rightBrace then brace content .closing
  else
    let _ ← bump content

/-- Takes turns up to the end of the text. -/
def loop (normalize : Bool) : Walk Unit := untilSome do
  reachHead
  if ← atEnd content then return some ()
  else
    turn content normalize
    return none

/-- Walks through a whole text; fails if the end of the text has no offset. -/
def run (normalize : Bool) : Option Walker :=
  if content.length < UInt32.size then (loop content normalize {}).map Prod.snd else none

end Text

end Walk

end Marginalia
