import Marginalia.Comment
import Marginalia.Diagnostic.Basic
import Marginalia.Scan.Lexeme
import Marginalia.Source.Position
import Marginalia.Text.Normal

/-!
# Scanning a source text

A scan lists the comments of a text and its curly braces, each with its offset,
and reports a block comment that is open at the end of the text.  Everything is
read off the lexemes; what stands inside a literal or a comment is not looked at.

On request the texts of comments are put into composed normal form.  Offsets,
lines and columns always refer to the text as it is.
-/

namespace Marginalia

set_option autoImplicit false

/-- An opening or closing curly brace. -/
inductive BraceKind where
  | opening
  | closing
  deriving DecidableEq, Repr, Inhabited

/-- A curly brace outside comments and literals. -/
structure Brace where
  kind : BraceKind
  offset : Nat
  deriving DecidableEq, Repr, Inhabited

/-- What a scan finds. -/
structure Scan where
  comments : List Comment
  braces : List Brace
  diagnostics : List Diagnostic
  deriving DecidableEq, Repr, Inhabited

namespace Scan

/-- The brace that a lexeme is. -/
def brace? : Nat × Lexeme → Option Brace
  | (offset, .openBrace) => some ⟨.opening, offset⟩
  | (offset, .closeBrace) => some ⟨.closing, offset⟩
  | _ => none

/-- The kind and the body of the comment that a lexeme is. -/
def commentBody? : Lexeme → Option (CommentKind × Bytes)
  | .lineComment body => some (.line, body)
  | .blockComment body _ => some (.block, body)
  | _ => none

/-- The comment that a lexeme is; `shape` is applied to its texts. -/
def comment? (shape : Bytes → Bytes) (index : List Nat) : Nat × Lexeme → Option Comment
  | (offset, lexeme) =>
    (commentBody? lexeme).map fun (kind, body) =>
      { kind := kind
        text := shape body
        fullText := shape lexeme.bytes
        start := offset
        stop := offset + lexeme.bytes.length
        line := (lineColumn index offset).1
        column := (lineColumn index offset).2 }

/-- What is reported about a block comment that is not closed. -/
def unterminated (line column : Int) : Diagnostic :=
  { Diagnostic.ofCode .unterminated line (utf8 "block comment is not closed before end of file") with
    column := some column
    suggestion := some (utf8 "add `*/` where the comment should end") }

/-- The diagnostic about a lexeme, if it is a block comment that is not closed. -/
def diagnostic? (index : List Nat) : Nat × Lexeme → Option Diagnostic
  | (offset, .blockComment _ false) =>
    some (unterminated (lineColumn index offset).1 (lineColumn index offset).2)
  | _ => none

/-- Scans a text; the texts of comments are normalised if `normalize`. -/
def ofText (normalize : Bool) (content : Bytes) : Scan :=
  let index := lineIndex content
  let lexemes := Lexeme.located 0 (Lexeme.ofText content)
  { comments := lexemes.filterMap (comment? (if normalize then Bytes.compose else id) index)
    braces := lexemes.filterMap brace?
    diagnostics := lexemes.filterMap (diagnostic? index) }

end Scan

/-- The span of a comment in a file. -/
def Comment.span (file : Nat) (c : Comment) : Span :=
  ⟨file.toUInt32, c.start.toNat.toUInt32, c.stop.toNat.toUInt32⟩

end Marginalia
