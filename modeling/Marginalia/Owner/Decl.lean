import Marginalia.Owner.Region

/-!
# Declarations found line by line

A declaration is a line that a matcher recognises, unless the line starts inside
a comment.  It owns the comments directly above it and everything up to the brace
that closes its body; a declaration without a body owns its line.  The body opens
at the first brace from the beginning of the line up to the end of the line after
it, but not beyond the next declaration.

Offsets are whole numbers here.  The program keeps them in 32 bits, which makes a
difference in texts of almost 2^32 bytes only (`WordDecl.Unwrapped`).
-/

namespace Marginalia

set_option autoImplicit false

/-- Recognises a line that declares something: the number of bytes before the name, and the name.  A
name that is empty does not count. -/
abbrev LineMatcher := Bytes → Option (Nat × Bytes)

/-- A line that declares something. -/
structure Decl where
  name : Bytes
  /-- the offset of the name -/
  nameStart : Nat
  /-- the number of the line, counted from one -/
  line : Nat
  /-- the offset of the line -/
  lineStart : Nat
  /-- the offset of the line after it -/
  lineEnd : Nat
  /-- the offset up to which the body may open -/
  headEnd : Nat
  deriving DecidableEq, Repr, Inhabited

namespace Decl

/-! ## Finding declarations -/

/-- Does the byte at an offset stand in one of the comments?  The comments are in order of their
starts, so those that start later are not looked at. -/
def insideComment (comments : List Comment) (offset : Nat) : Bool :=
  (comments.takeWhile fun c => c.offset ≤ offset).any fun c => offset < c.ending

/-- The number of blanks and tabs a line starts with. -/
def indent (text : Bytes) : Nat := (text.takeWhile fun b => b == 32 || b == 9).length

/-- The name on a line, from the first matcher that finds one. -/
def nameOn (matchers : List LineMatcher) (text : Bytes) : Option (Nat × Bytes) :=
  matchers.findSome? fun m => (m text).filter fun found => !found.2.isEmpty

/-- The declaration on a line, if there is one; `next` is the line after it. -/
def onLine (matchers : List LineMatcher) (comments : List Comment) (line start : Nat) (text : Bytes)
    (next : Option Bytes) : Option Decl :=
  if insideComment comments (start + indent text) then none
  else
    (nameOn matchers text).map fun (before, name) =>
      { name
        nameStart := start + before
        line
        lineStart := start
        lineEnd := start + text.length + 1
        headEnd := start + text.length + 1 + (next.elim 0 List.length) + 1 }

/-- The declarations on the given lines, the first of which has number `line` and offset `start`. -/
def onLines (matchers : List LineMatcher) (comments : List Comment) :
    (line start : Nat) → List Bytes → List Decl
  | _, _, [] => []
  | line, start, text :: rest =>
    (onLine matchers comments line start text rest.head?).toList
      ++ onLines matchers comments (line + 1) (start + text.length + 1) rest

/-- The declarations of a text with the given comments. -/
def find (matchers : List LineMatcher) (content : Bytes) (comments : List Comment) : List Decl :=
  onLines matchers comments 1 0 (Bytes.splitAtByte 10 content)

/-! ## What a declaration owns -/

/-- The line a comment ends on. -/
def lastLine (c : Comment) : Int := c.line + c.fullText.count 10

/-- Walks up over comments, last first, each of which ends on the line before what follows it.
`start` is the offset reached so far and `expect` the line on which the next comment has to end. -/
def docStartFrom (before : Nat) : (start : Nat) → (expect : Int) → List Comment → Nat
  | start, _, [] => start
  | start, expect, c :: above =>
    if before ≤ c.offset then docStartFrom before start expect above
    else if lastLine c = expect then docStartFrom before c.offset (c.line - 1) above
    else if lastLine c < expect then start
    else docStartFrom before start expect above

/-- Where the documentation of a declaration starts: at the first of the comments above it that follow
each other without a line between, else at its line. -/
def docStart (comments : List Comment) (line lineStart : Nat) : Nat :=
  docStartFrom lineStart lineStart (line - 1) comments.reverse

/-- The offset after the brace that closes the one at depth `depth`. -/
def closingFrom : (depth : Nat) → List Brace → Option Nat
  | _, [] => none
  | depth, ⟨.opening, _⟩ :: rest => closingFrom (depth + 1) rest
  | 0, ⟨.closing, _⟩ :: _ => none
  | 1, ⟨.closing, offset⟩ :: _ => some (offset + 1)
  | depth + 2, ⟨.closing, _⟩ :: rest => closingFrom (depth + 1) rest

/-- The end of the body that opens at the first brace in the bytes from `first` up to `limit`. -/
def bodyEnd (braces : List Brace) (first limit : Nat) : Option Nat :=
  match (braces.filter fun b => first ≤ b.offset).dropWhile fun b =>
      b.kind == .closing && b.offset < limit with
  | ⟨.opening, offset⟩ :: rest => if offset < limit then closingFrom 1 rest else none
  | _ => none

/-- The region of a declaration; `next` is the declaration after it. -/
def region (scan : Scan) (d : Decl) (next : Option Decl) : Region :=
  let limit := next.elim d.headEnd fun n => min d.headEnd n.lineStart
  { name := d.name
    start := docStart scan.comments d.line d.lineStart
    stop := (bodyEnd scan.braces d.lineStart limit).getD d.lineEnd }

/-- The regions of successive declarations. -/
def regions (scan : Scan) : List Decl → List Region
  | [] => []
  | d :: rest => d.region scan rest.head? :: regions scan rest

end Decl

end Marginalia
